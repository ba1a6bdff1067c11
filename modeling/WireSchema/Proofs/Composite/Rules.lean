import WireSchema.Proofs.Composite.Lengths
import WireSchema.Proofs.Composite.Longest
import WireSchema.Proofs.Error.Checks
import WireSchema.Proofs.Name.Valid

/-!
# Proofs/Composite/Rules — the rules for definitions, and that they are checked in order

What makes a definition acceptable is said by eight rules (`Rule.Holds`), none of which looks at a
set: the lengths of fields come in through the longest aggregate alone, in unbounded arithmetic.

Making a composite checks these rules in this order, and nothing else (`Composite.build_checks`).
The aggregate, its longest member and the extent are three steps for one rule.  What comes behind
the size of a type, its tag and the last look at the footprint, never stops the run.
-/

namespace WireSchema

/-! ## The rules -/

/-- **A rule for definitions.** -/
inductive Rule where
  /-- The name may be used. -/
  | name
  /-- The version is in range. -/
  | version
  /-- No name is given to two attributes. -/
  | distinct
  /-- The port number is in range. -/
  | portId
  /-- Only what is deprecated depends on what is deprecated. -/
  | dependencies
  /-- The extent fits, is aligned, and is enough; that of a final type is not more than enough. -/
  | extent
  /-- A union has variants to choose from, and nothing in it is a filler or of the type of fillers:
  neither a field nor a constant. -/
  | variants
  /-- A type that may still change has not too many lengths. -/
  | size
  deriving DecidableEq, Repr

/-- **The order of the rules.** -/
def Rule.inOrder : List Rule :=
  [.name, .version, .distinct, .portId, .dependencies, .extent, .variants, .size]

/-- **The kind of error** that a broken rule makes. -/
def Rule.errorKind : Rule → ErrorKind
  | .name => .invalidName
  | .version => .invalidVersion
  | .distinct => .attributeNameCollision
  | .portId => .invalidFixedPortId
  | .dependencies => .deprecatedDependency
  | .extent => .invalidExtent
  | .variants => .malformedUnion
  | .size => .invalidExtent

/-- The rule is to blame for the cause. -/
def Rule.Blames (r : Rule) (cause : Cause) : Prop := cause.kind = r.errorKind

namespace Declaration

variable (d : Declaration) (kind : Kind)

/-- The alignment of the fields together. -/
def alignment : Nat := Composite.alignmentOf (fieldTypes d.attributes)

/-- The longest aggregate of the fields, in unbounded arithmetic. -/
def longest : Nat := Composite.longestOf kind (fieldTypes d.attributes)

/-- The least extent that holds every value. -/
def minimalExtent : Nat := roundUp (d.longest kind) d.alignment

/-- **The extent**: the one asked for; otherwise the minimal one of a final type, and for any other
twice the longest aggregate, rounded up. -/
def extentBits : Nat :=
  d.extent?.getD
    (if d.isFinal then d.minimalExtent kind else roundUp (2 * d.longest kind) d.alignment)

/-- **An extent that a definition may have.** -/
structure HasExtent : Prop where
  fits : d.minimalExtent kind < lengthLimit
  /-- An extent that was not asked for has to fit too. -/
  derived : d.extent? = none → d.extentBits kind < lengthLimit
  aligned : d.alignment ∣ d.extentBits kind
  enough : d.minimalExtent kind ≤ d.extentBits kind
  final : d.isFinal = true → d.extentBits kind = d.minimalExtent kind

end Declaration

/-- **Whether a definition of the kind keeps the rule.**  The name has a bounded length if `bounded`
says so.

The rule about variants is the one that is checked.  It looks at all attributes, and so is wider
than the ban of the specification, which is on fields alone: a constant of the type of fillers
breaks it too.  What such a constant comes to is said by `Composite.made_with_constant`. -/
def Rule.Holds (d : Declaration) (kind : Kind) (bounded : Bool) : Rule → Prop
  | .name => Name.IsFull bounded (Text.trim d.name)
  | .version =>
    d.version.major ≤ Version.maxNumber ∧ d.version.minor ≤ Version.maxNumber ∧
      (d.version.major ≠ 0 ∨ d.version.minor ≠ 0)
  | .distinct => (attributeNames d.attributes).Nodup
  | .portId => ∀ id, d.portId? = some id → id ≤ kind.portScope.maxId
  | .dependencies =>
    d.isDeprecated = true ∨
      ∀ a ∈ d.attributes, ∀ c, a.type.innermost? = some c → c.isDeprecated = false
  | .extent => d.HasExtent kind
  | .variants =>
    kind = .union → minVariants ≤ (fieldTypes d.attributes).length ∧
      ∀ a ∈ d.attributes, a.isPadding = false ∧ a.type.isVoid = false
  | .size => d.isFinal = false → d.extentBits kind / d.alignment < LengthSet.maxSize

variable {d : Declaration} {kind : Kind} {bounded : Bool}

/-! ## Headings -/

theorem mem_insert_seen {seen : Std.TreeSet String} {name word : String} :
    word ∈ seen.insert name ↔ word = name ∨ word ∈ seen := by
  rw [Std.TreeSet.mem_insert, Std.LawfulEqCmp.compare_eq_iff_eq, eq_comm]

theorem firstRepeatAfter_eq_none_iff : ∀ {names : List String} {seen : Std.TreeSet String},
    firstRepeatAfter seen names = none ↔ names.Nodup ∧ ∀ name ∈ names, name ∉ seen
  | [], _ => by simp [firstRepeatAfter]
  | name :: names, seen => by
      have hinsert : ∀ word, word ∉ seen.insert name ↔ word ≠ name ∧ word ∉ seen :=
        fun word => by rw [mem_insert_seen, not_or]
      rw [firstRepeatAfter, List.nodup_cons, List.forall_mem_cons]
      split_ifs with hseen
      · exact iff_of_false nofun fun h => h.2.1 hseen
      · rw [firstRepeatAfter_eq_none_iff]
        simp only [hinsert]
        constructor
        · rintro ⟨hnodup, hnew⟩
          exact ⟨⟨fun hname => (hnew name hname).1 rfl, hnodup⟩, hseen,
            fun word hword => (hnew word hword).2⟩
        · rintro ⟨⟨hname, hnodup⟩, -, hnew⟩
          exact ⟨hnodup, fun word hword => ⟨fun h => hname (h ▸ hword), hnew word hword⟩⟩

/-- No name is repeated exactly if the names differ. -/
theorem firstRepeat?_eq_none_iff {names : List String} :
    firstRepeat? names = none ↔ names.Nodup := by
  rw [firstRepeat?, firstRepeatAfter_eq_none_iff]
  exact and_iff_left fun _ _ => Std.TreeSet.not_mem_emptyc

theorem deprecatedUse?_eq_none_iff {attributes : List Attribute} :
    deprecatedUse? attributes = none ↔
      ∀ a ∈ attributes, ∀ c, a.type.innermost? = some c → c.isDeprecated = false := by
  simp only [deprecatedUse?, Attribute.deprecatedDependency?, List.findSome?_eq_none_iff,
    Option.map_eq_none_iff, Option.filter_eq_none_iff, Bool.not_eq_true]

theorem name_checks (d : Declaration) (kind : Kind) (bounded : Bool) :
    Checks (Rule.Holds d kind bounded) Rule.Blames [.name]
      (refuse ((Name.defect? bounded (Text.trim d.name)).map .name)) := by
  refine checks_refuse ?_ fun cause h => ?_
  · rw [Option.map_eq_none_iff]
    exact Name.defect?_eq_none_iff
  · obtain ⟨defect, -, rfl⟩ := Option.map_eq_some_iff.1 h
    rfl

theorem version_checks (d : Declaration) (kind : Kind) (bounded : Bool) :
    Checks (Rule.Holds d kind bounded) Rule.Blames [.version]
      (refuse (if d.version.isValid then none else some (.version d.version))) := by
  refine checks_refuse ?_ fun cause h => ?_
  · simp only [ite_eq_left_iff, reduceCtorEq, imp_false, not_not]
    exact Version.isValid_iff
  · split_ifs at h
    obtain rfl := Option.some.inj h
    rfl

theorem distinct_checks (d : Declaration) (kind : Kind) (bounded : Bool) :
    Checks (Rule.Holds d kind bounded) Rule.Blames [.distinct]
      (refuse ((firstRepeat? (attributeNames d.attributes)).map .repeatedAttribute)) := by
  refine checks_refuse ?_ fun cause h => ?_
  · rw [Option.map_eq_none_iff]
    exact firstRepeat?_eq_none_iff
  · obtain ⟨word, -, rfl⟩ := Option.map_eq_some_iff.1 h
    rfl

theorem portId_checks (d : Declaration) (kind : Kind) (bounded : Bool) :
    Checks (Rule.Holds d kind bounded) Rule.Blames [.portId]
      (refuse (d.portId?.bind fun id =>
        if kind.portScope.admits id then none else some (.portId kind.portScope id))) := by
  refine checks_refuse ?_ fun cause h => ?_
  · simp only [Option.bind_eq_none_iff, ite_eq_left_iff, reduceCtorEq, imp_false, not_not,
      PortScope.admits_iff]
    rfl
  · obtain ⟨id, -, h⟩ := Option.bind_eq_some_iff.1 h
    split_ifs at h
    obtain rfl := Option.some.inj h
    rfl

theorem dependencies_checks (d : Declaration) (kind : Kind) (bounded : Bool) :
    Checks (Rule.Holds d kind bounded) Rule.Blames [.dependencies]
      (refuse (if d.isDeprecated then none else deprecatedUse? d.attributes)) := by
  refine checks_refuse ?_ fun cause h => ?_
  · rw [ite_eq_left_iff, deprecatedUse?_eq_none_iff, Rule.Holds, or_iff_not_imp_left]
  · split_ifs at h
    obtain ⟨a, -, ha⟩ := List.exists_of_findSome?_eq_some h
    obtain ⟨dependency, -, rfl⟩ := Option.map_eq_some_iff.1 ha
    rfl

/-- **The heading is checked in order**, each rule by one defect. -/
theorem Declaration.heading_checks (d : Declaration) (kind : Kind) (bounded : Bool) :
    Checks (Rule.Holds d kind bounded) Rule.Blames
      [.name, .version, .distinct, .portId, .dependencies]
      (refuse (d.headingDefect? (Text.trim d.name) kind bounded)) := by
  rw [headingDefect?, refuse_or, refuse_or, refuse_or, refuse_or]
  refine (name_checks d kind bounded).bind fun _ _ => ?_
  refine (version_checks d kind bounded).bind fun _ _ => ?_
  refine (distinct_checks d kind bounded).bind fun _ _ => ?_
  refine (portId_checks d kind bounded).bind fun _ _ => ?_
  exact dependencies_checks d kind bounded

/-! ## Extents -/

theorem Declaration.choose_eq_ok_iff {bits : Nat} (hfits : d.minimalExtent kind < lengthLimit) :
    Extent.choose d.alignment (d.longest kind) (d.minimalExtent kind) d.extent? d.isFinal =
        .ok bits ↔
      (d.extent? = none → d.extentBits kind < lengthLimit) ∧ d.extentBits kind = bits := by
  unfold extentBits Extent.choose
  cases d.extent? with
  | some asked => simp
  | none =>
    cases d.isFinal with
    | true => simpa using fun _ => hfits
    | false => simp [Extent.roundUp?_eq_some_iff]

/-- **The extent is resolved exactly if the definition may have it.** -/
theorem Declaration.resolve_eq_ok_iff {e : Extent} :
    Extent.resolve d.alignment (d.longest kind) d.extent? d.isFinal = .ok e ↔
      d.HasExtent kind ∧ e = ⟨d.minimalExtent kind, d.extentBits kind⟩ := by
  obtain ⟨minimal, bits⟩ := e
  rw [Extent.resolve_eq_ok_iff, Extent.roundUp?_eq_some_iff, Extent.defect?_eq_none_iff]
  constructor
  · rintro ⟨⟨hfits, rfl⟩, hbits, haligned, henough, hfinal⟩
    obtain ⟨hderived, rfl⟩ := (choose_eq_ok_iff hfits).1 hbits
    exact ⟨⟨hfits, hderived, haligned, henough, fun h => Nat.le_antisymm (hfinal h) henough⟩, rfl⟩
  · rintro ⟨h, he⟩
    obtain ⟨rfl, rfl⟩ := Extent.mk.inj he
    exact ⟨⟨h.fits, rfl⟩, (choose_eq_ok_iff h.fits).2 ⟨h.derived, rfl⟩, h.aligned, h.enough,
      fun hf => (h.final hf).le⟩

/-- An extent is resolved or invalid. -/
theorem Extent.resolve_onlyFails (alignment longest : Nat) (asked? : Option Nat) (isFinal : Bool) :
    OnlyFails (fun cause => cause.kind = .invalidExtent)
      (resolve alignment longest asked? isFinal) := by
  refine OnlyFails.bind (onlyFails_require fun _ => rfl) fun minimal _ => ?_
  refine OnlyFails.bind ?_ fun bits _ => ?_
  · unfold choose
    split
    · exact onlyFails_ok _ _
    · exact onlyFails_ok _ _
    · exact onlyFails_require fun _ => rfl
  · refine (onlyFails_refuse fun cause h => ?_).bind fun _ _ => onlyFails_ok _ _
    unfold defect? at h
    split_ifs at h <;> obtain rfl := Option.some.inj h <;> rfl

/-! ## Variants -/

theorem kind_of_variantDefect? {attributes : List Attribute} {cause : Cause}
    (h : variantDefect? attributes = some cause) : cause.kind = .malformedUnion := by
  unfold variantDefect? at h
  split_ifs at h <;> obtain rfl := Option.some.inj h <;> rfl

theorem variants_checks (d : Declaration) (kind : Kind) (bounded : Bool) :
    Checks (Rule.Holds d kind bounded) Rule.Blames [.variants]
      (refuse (if kind = .union then variantDefect? d.attributes else none)) := by
  refine checks_refuse ?_ fun cause h => ?_
  · rw [ite_eq_right_iff, Rule.Holds]
    refine forall_congr' fun _ => ?_
    rw [variantDefect?]
    split_ifs with hfew hfiller
    · exact iff_of_false not_false fun h => Nat.not_le.2 hfew h.1
    · refine iff_of_false not_false fun h => ?_
      obtain ⟨a, ha, hbad⟩ := List.any_eq_true.1 hfiller
      simp [h.2 a ha] at hbad
    · refine iff_of_true rfl ⟨Nat.not_lt.1 hfew, ?_⟩
      simpa using hfiller
  · exact kind_of_variantDefect? (Option.ite_none_right_eq_some.1 h).2

/-! ## Footprints -/

/-- The header of a type that is aligned to a byte always fits an integer. -/
theorem Framing.exists_header? (isFinal : Bool) :
    ∃ header?, Framing.header? bitsPerByte isFinal = .ok header? := by
  cases isFinal
  · exact ⟨some ⟨32, .saturated, by decide⟩, rfl⟩
  · exact ⟨none, rfl⟩

/-- **Behind the bound on their number** the lengths of a delimited type always fit. -/
theorem Framing.exists_delimited {extent headerBits : Nat}
    (hheader : headerBits = max defaultHeaderBits bitsPerByte)
    (hsize : extent / bitsPerByte < LengthSet.maxSize) :
    ∃ r, delimited bitsPerByte extent headerBits = .ok r := by
  have hfits : extent + headerBits < lengthLimit := by
    subst hheader
    change extent / 8 < 0x100000 at hsize
    change extent + max 32 8 < 0x10000000000000000
    omega
  obtain ⟨body, hbody⟩ : ∃ body,
      LengthSet.progression? 0 bitsPerByte (extent / bitsPerByte + 1) = some body := by
    have hlast : extent / bitsPerByte * bitsPerByte ≤ extent := Nat.div_mul_le_self extent _
    exact ⟨_, dif_pos ⟨bitsPerByte_pos, by rw [Nat.add_sub_cancel]; omega⟩⟩
  obtain ⟨r, hr⟩ := LengthSet.exists_shift? (s := body) (n := headerBits) fun x hx => by
    obtain ⟨i, hi, rfl⟩ := (mem_of_progression? hbody).1 hx
    have hle : bitsPerByte * i ≤ extent :=
      (Nat.mul_le_mul_left bitsPerByte (Nat.lt_succ_iff.1 hi)).trans (Nat.mul_div_le extent _)
    omega
  have hstride : bitsPerByte < lengthLimit := by decide
  refine ⟨r, ?_⟩
  rw [delimited, if_neg (Nat.not_le.2 hsize), if_pos hstride, hbody]
  exact require_eq_ok_iff.2 hr

/-- **Too many lengths** are refused before any of them is computed. -/
theorem Framing.delimited_eq_error {alignment extent headerBits : Nat}
    (hsize : LengthSet.maxSize ≤ extent / alignment) :
    delimited alignment extent headerBits =
      .error (.extentTooLarge extent (largestExtent alignment)) := by
  rw [delimited, if_pos hsize]
  rfl

/-- **The lengths of a type are computed exactly if there are not too many.** -/
theorem Framing.lengths_checks {aggregate : LengthSet} {header? : Option UnsignedType}
    (halign : d.alignment = bitsPerByte) (hextent : d.HasExtent kind) (bounded : Bool)
    (haggregate : aggregate.max? = some (d.longest kind))
    (hheader : Framing.header? d.alignment d.isFinal = .ok header?) :
    Checks (Rule.Holds d kind bounded) Rule.Blames [.size]
      (Framing.lengths d.alignment (d.extentBits kind) aggregate header?) := by
  have hform := Framing.header?_eq_ok hheader
  rcases Bool.eq_false_or_eq_true d.isFinal with hfinal | hfinal
  · rw [hfinal, if_pos rfl] at hform
    obtain rfl := hform
    obtain ⟨r, hr, -⟩ := (LengthSet.reaches_padTo? haggregate d.alignment).exists_of_lt hextent.fits
    have hlengths : Framing.lengths d.alignment (d.extentBits kind) aggregate none = .ok r :=
      require_eq_ok_iff.2 hr
    rw [hlengths]
    exact (checks_ok r).cons fun h => absurd (hfinal.symm.trans h) (by decide)
  · rw [hfinal, if_neg Bool.false_ne_true] at hform
    obtain ⟨header, rfl, hbits⟩ := hform
    rw [Framing.lengths]
    rcases Nat.lt_or_ge (d.extentBits kind / d.alignment) LengthSet.maxSize with hsize | hsize
    · obtain ⟨r, hr⟩ := exists_delimited (halign ▸ hbits) (halign ▸ hsize)
      rw [halign, hr]
      exact (checks_ok r).cons fun _ => hsize
    · rw [delimited_eq_error hsize]
      refine ⟨nofun, ?_⟩
      rintro _ ⟨⟩
      exact ⟨.size, .here fun h => Nat.not_lt.2 hsize (h hfinal), rfl⟩

/-- **A footprint is checked in order**: the extent in three steps, then the variants, and last the
number of lengths. -/
theorem Footprint.ofAttributes_checks (name : String) (kind : Kind) (bounded : Bool)
    (hwf : ∀ t ∈ fieldTypes d.attributes, t.WellFormed)
    (hlen : (fieldTypes d.attributes).length ≤ lengthLimit) :
    Checks (Rule.Holds d kind bounded) Rule.Blames [.extent, .variants, .size]
      (ofAttributes name kind d.attributes d.extent? d.isFinal) := by
  have halign : d.alignment = bitsPerByte := Composite.alignmentOf_eq hwf
  obtain ⟨r?, haggregate, hreach⟩ := Composite.aggregateOf_reaches kind hwf hlen
  obtain ⟨header?, hheader⟩ := Framing.exists_header? d.isFinal
  rw [← halign] at hheader
  unfold ofAttributes
  dsimp only
  rw [haggregate]
  refine Checks.step (onlyFails_require fun hnone => ⟨fun hextent => ?_, rfl⟩) fun r hr => ?_
  · have hlong : d.longest kind ≤ d.minimalExtent kind := le_roundUp _ _
    exact Nat.not_lt.2 ((hreach.le_of_eq_none hnone).trans hlong) hextent.fits
  have hmax := hreach.max?_eq (require_eq_ok_iff.1 hr)
  rw [hmax]
  refine Checks.step (onlyFails_ok _ (d.longest kind)) fun longest hlongest => ?_
  obtain rfl := Except.ok.inj hlongest
  refine Checks.step (fun cause h => ⟨fun hextent => ?_, ?_⟩) fun e he => ?_
  · exact absurd (h.symm.trans (Declaration.resolve_eq_ok_iff.2 ⟨hextent, rfl⟩)) nofun
  · exact Extent.resolve_onlyFails _ _ _ _ cause h
  obtain ⟨hextent, rfl⟩ := Declaration.resolve_eq_ok_iff.1 he
  refine Checks.cons hextent ?_
  refine (variants_checks d kind bounded).bind fun _ _ => ?_
  change Checks _ _ _ (Framing.header? d.alignment d.isFinal >>= _)
  rw [hheader]
  exact (Framing.lengths_checks halign hextent bounded hmax hheader).bind fun _ _ => checks_ok _

/-! ## Layouts and composites -/

/-- The layout of variants to choose from, or of any other fields, always goes well. -/
theorem Shape.exists_layout (shape : Shape) {types : List DataType}
    (hwf : ∀ t ∈ types, t.WellFormed) (hlen : types.length ≤ lengthLimit)
    (htwo : shape.kind = .union → minVariants ≤ types.length) :
    ∃ layout, shape.layout types = .ok layout := by
  cases shape with
  | struct => exact ⟨_, rfl⟩
  | service request response => exact ⟨_, rfl⟩
  | union =>
    have hlast : types.length - 1 < lengthLimit := by
      unfold lengthLimit at hlen ⊢
      omega
    obtain ⟨tag, htag⟩ := UnsignedType.exists_ofBits (admits_wordBits hlast) .truncated
    have hbits := Composite.tagBits_eq hwf (htwo rfl) hlen
    refine ⟨.union tag, bind_eq_ok_iff.2 ⟨_, hbits, ?_⟩⟩
    rw [htag]

/-- A footprint with a sound extent and aligned lengths is consistent. -/
theorem Footprint.inconsistency?_eq_none {f : Footprint} {isFinal : Bool}
    (halign : f.alignment = bitsPerByte) (hextent : f.extent.defect? f.alignment isFinal = none)
    (hlength : ∃ x, x ∈ f.lengths) (hdvd : ∀ x ∈ f.lengths, f.alignment ∣ x) :
    f.inconsistency? isFinal = none := by
  obtain ⟨hmod, hmin, hfinal⟩ := Extent.defect?_eq_none_iff.1 hextent
  rw [halign] at hmod
  have hnonempty := LengthSet.isEmpty_eq_false_iff.2 hlength
  have haligned := LengthSet.isAligned_iff.2 (Or.inr hdvd)
  rw [inconsistency?, if_neg, if_neg, if_neg]
  · simp [hnonempty, haligned]
  · rintro (hbits | hbits | ⟨hlast, hbits⟩)
    · exact hbits (Nat.mod_eq_zero_of_dvd hmod)
    · exact Nat.not_lt.2 hmin hbits
    · exact hbits (Nat.le_antisymm (hfinal hlast) hmin)
  · rw [halign]
    decide

/-- **Making a composite of well-formed fields checks the rules in order**, and nothing else. -/
theorem Composite.build_checks (identity : Identity) (shape : Shape) (bounded : Bool)
    (hwf : ∀ t ∈ fieldTypes d.attributes, t.WellFormed)
    (hlen : (fieldTypes d.attributes).length ≤ lengthLimit) :
    Checks (Rule.Holds d shape.kind bounded) Rule.Blames Rule.inOrder
      (build identity shape bounded d) := by
  refine (d.heading_checks shape.kind bounded).bind fun _ hheading => ?_
  have hfootprint := Footprint.ofAttributes_checks (Text.trim d.name) shape.kind bounded hwf hlen
  refine hfootprint.bind fun f hf => ?_
  have hvariants := hfootprint.holds f hf .variants (by simp)
  obtain ⟨layout, hlayout⟩ := shape.exists_layout hwf hlen fun h => (hvariants h).1
  rw [hlayout]
  -- what would be assembled next is well-formed, so that the last look finds nothing
  have hmade : MadeFrom shape bounded d (assemble identity (Text.trim d.name) d f layout) :=
    madeFrom_assemble (refuse_eq_ok_iff.1 hheading) hf hlayout
  have hcomposite := hmade.wellFormed hwf
  obtain ⟨-, -, ⟨longest, -, hextent⟩, -⟩ := ofAttributes_eq_ok_iff.1 hf
  have hconsistent := Footprint.inconsistency?_eq_none hcomposite.alignment_eq
    (Extent.resolve_eq_ok hextent).2.2 hcomposite.inhabited hcomposite.dvd
  change Checks _ _ _ (refuse ((f.inconsistency? d.isFinal).map Cause.inconsistent) >>= _)
  rw [hconsistent]
  exact checks_ok _

end WireSchema
