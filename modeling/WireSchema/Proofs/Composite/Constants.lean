import WireSchema.Proofs.Composite.Kinds
import WireSchema.Proofs.DataType.Buildable

/-!
# Proofs/Composite/Constants — what one more constant changes

A constant is not laid out.  A definition with one more of them, whose name is new and whose type
depends on nothing deprecated, is made like the definition without it, or refused for the same cause
(`Composite.build_insert`): each stage reads the attributes through a filter of its own, and none of
the filters lets the constant decide.

There is one exception.  The look at the variants of a union is the only stage that reads the types
of all attributes, and it takes a constant of the type of padding for padding.  So a union with such
a constant is never made, though no variant of it is a filler (`Composite.build_insert_filler`).
-/

namespace WireSchema

/-! ## One more attribute -/

/-- **The declaration with one more attribute**, in the given place. -/
def Declaration.insert (d : Declaration) (place : Nat) (a : Attribute) : Declaration :=
  { d with attributes := d.attributes.insertIdx place a }

@[simp] theorem Declaration.name_insert (d : Declaration) (place : Nat) (a : Attribute) :
    (d.insert place a).name = d.name := rfl

@[simp] theorem Declaration.attributes_insert (d : Declaration) (place : Nat) (a : Attribute) :
    (d.insert place a).attributes = d.attributes.insertIdx place a := rfl

@[simp] theorem Declaration.extent?_insert (d : Declaration) (place : Nat) (a : Attribute) :
    (d.insert place a).extent? = d.extent? := rfl

@[simp] theorem Declaration.isFinal_insert (d : Declaration) (place : Nat) (a : Attribute) :
    (d.insert place a).isFinal = d.isFinal := rfl

/-- The composite with one more attribute, in the given place. -/
def Composite.insert (c : Composite) (place : Nat) (a : Attribute) : Composite :=
  { c with attributes := c.attributes.insertIdx place a }

/-- A list with one more member falls into what is before it and what is behind it. -/
theorem exists_insertIdx_eq {α : Type} {l : List α} {place : Nat} (h : place ≤ l.length) (a : α) :
    ∃ before after, l = before ++ after ∧ l.insertIdx place a = before ++ a :: after := by
  obtain ⟨before, after, hl, -, hinsert⟩ := List.exists_of_modifyTailIdx (List.cons a) h
  exact ⟨before, after, hl, hinsert⟩

/-! ## Names -/

/-- What was seen matters only for the names to come. -/
theorem firstRepeatAfter_congr : ∀ {names : List String} {seen seen' : Std.TreeSet String},
    (∀ name ∈ names, name ∈ seen ↔ name ∈ seen') →
      firstRepeatAfter seen names = firstRepeatAfter seen' names
  | [], _, _, _ => rfl
  | name :: names, seen, seen', h => by
      obtain ⟨hname, hnames⟩ := List.forall_mem_cons.1 h
      have hcontains : seen.contains name = seen'.contains name := Bool.eq_iff_iff.2 hname
      have hrest : firstRepeatAfter (seen.insert name) names =
          firstRepeatAfter (seen'.insert name) names :=
        firstRepeatAfter_congr fun word hword => by
          rw [mem_insert_seen, mem_insert_seen, hnames word hword]
      rw [firstRepeatAfter, firstRepeatAfter, hcontains, hrest]

/-- A name that was not seen and does not come again changes nothing. -/
theorem firstRepeatAfter_append_cons {name : String} {after : List String}
    (hafter : name ∉ after) : ∀ (before : List String) {seen : Std.TreeSet String},
    name ∉ seen → name ∉ before →
      firstRepeatAfter seen (before ++ name :: after) = firstRepeatAfter seen (before ++ after)
  | [], seen, hseen, _ => by
      rw [List.nil_append, List.nil_append, firstRepeatAfter,
        if_neg (c := seen.contains name = true) hseen]
      refine firstRepeatAfter_congr fun word hword => ?_
      rw [mem_insert_seen]
      exact or_iff_right fun heq => hafter (heq ▸ hword)
  | word :: before, seen, hseen, hbefore => by
      obtain ⟨hne, hbefore⟩ := not_or.1 (mt List.mem_cons.2 hbefore)
      have hnew : name ∉ seen.insert word := mt mem_insert_seen.1 (not_or.2 ⟨hne, hseen⟩)
      rw [List.cons_append, List.cons_append, firstRepeatAfter, firstRepeatAfter,
        firstRepeatAfter_append_cons hafter before hnew hbefore]

/-! ## Attributes -/

variable {place : Nat} {k : Attribute} {attributes : List Attribute}

theorem fieldTypes_insertIdx (h : place ≤ attributes.length) (hk : k.isSerialized = false) :
    fieldTypes (attributes.insertIdx place k) = fieldTypes attributes := by
  obtain ⟨before, after, rfl, hinsert⟩ := exists_insertIdx_eq h k
  rw [hinsert, fieldTypes, fieldTypes, List.filter_append, List.filter_append,
    List.filter_cons_of_neg (ne_true_of_eq_false hk)]

/-- A new name is no repetition. -/
theorem firstRepeat?_insertIdx (h : place ≤ attributes.length) (hk : k.isSerialized = false)
    (hname : k.name ∉ attributeNames attributes) :
    firstRepeat? (attributeNames (attributes.insertIdx place k)) =
      firstRepeat? (attributeNames attributes) := by
  obtain ⟨before, after, rfl, hinsert⟩ := exists_insertIdx_eq h k
  have happend : ∀ l l', attributeNames (l ++ l') = attributeNames l ++ attributeNames l' :=
    fun l l' => by rw [attributeNames, List.filter_append, List.map_append]; rfl
  have hcons : attributeNames (k :: after) = k.name :: attributeNames after := by
    rw [attributeNames, List.filter_cons_of_pos, List.map_cons]
    · rfl
    · rw [Attribute.isPadding_of_constant hk, Bool.not_false]
  rw [happend, List.mem_append, not_or] at hname
  rw [hinsert, happend, happend, hcons]
  exact firstRepeatAfter_append_cons hname.2 _ Std.TreeSet.not_mem_emptyc hname.1

theorem deprecatedUse?_insertIdx (h : place ≤ attributes.length)
    (htype : ∀ c, k.type.innermost? = some c → c.isDeprecated = false) :
    deprecatedUse? (attributes.insertIdx place k) = deprecatedUse? attributes := by
  obtain ⟨before, after, rfl, hinsert⟩ := exists_insertIdx_eq h k
  have hnone : k.deprecatedDependency? = none :=
    Option.filter_eq_none_iff.2 fun c hc => Bool.not_eq_true _ ▸ htype c hc
  rw [hinsert, deprecatedUse?, deprecatedUse?, List.findSome?_append, List.findSome?_append,
    List.findSome?_cons, hnone, Option.map_none]

/-- A constant is looked at for its type like any other attribute. -/
theorem any_isFiller_insertIdx (h : place ≤ attributes.length) (hk : k.isSerialized = false) :
    ((attributes.insertIdx place k).any fun a => a.isPadding || a.type.isVoid) =
      (k.type.isVoid || attributes.any fun a => a.isPadding || a.type.isVoid) := by
  obtain ⟨before, after, rfl, hinsert⟩ := exists_insertIdx_eq h k
  rw [hinsert, List.any_append, List.any_append, List.any_cons, Attribute.isPadding_of_constant hk,
    Bool.false_or, Bool.or_left_comm]

/-- **Variants do not mind a constant**, unless it is of the type of padding. -/
theorem variantDefect?_insertIdx (h : place ≤ attributes.length) (hk : k.isSerialized = false)
    (hvoid : k.type.isVoid = false) :
    variantDefect? (attributes.insertIdx place k) = variantDefect? attributes := by
  rw [variantDefect?, variantDefect?, fieldTypes_insertIdx h hk, any_isFiller_insertIdx h hk,
    hvoid, Bool.false_or]

/-- **A constant of the type of padding** counts as a filler. -/
theorem variantDefect?_insertIdx_filler (h : place ≤ attributes.length)
    (hk : k.isSerialized = false) (hvoid : k.type.isVoid = true) :
    variantDefect? (attributes.insertIdx place k) =
      some ((variantDefect? attributes).getD .fillerInUnion) := by
  rw [variantDefect?, variantDefect?, fieldTypes_insertIdx h hk, any_isFiller_insertIdx h hk,
    hvoid, Bool.true_or, if_pos rfl]
  split_ifs <;> rfl

/-! ## Runs -/

namespace Composite

variable {identity : Identity} {shape : Shape} {bounded : Bool} {d : Declaration}

theorem headingDefect?_insert (hplace : place ≤ d.attributes.length) (hk : k.isSerialized = false)
    (hname : k.name ∉ attributeNames d.attributes)
    (htype : ∀ c, k.type.innermost? = some c → c.isDeprecated = false) (name : String)
    (kind : Kind) (bounded : Bool) :
    (d.insert place k).headingDefect? name kind bounded = d.headingDefect? name kind bounded := by
  rw [Declaration.headingDefect?, Declaration.headingDefect?, Declaration.attributes_insert,
    firstRepeat?_insertIdx hplace hk hname, deprecatedUse?_insertIdx hplace htype]
  rfl

/-- **One more constant leaves a run as it is**, but for a union with one of the type of padding:
the composite has one more attribute, or the cause is the same. -/
theorem build_insert (hplace : place ≤ d.attributes.length) (hk : k.isSerialized = false)
    (hname : k.name ∉ attributeNames d.attributes)
    (htype : ∀ c, k.type.innermost? = some c → c.isDeprecated = false)
    (hvoid : shape.kind = .union → k.type.isVoid = false) :
    build identity shape bounded (d.insert place k) =
      (build identity shape bounded d).map (·.insert place k) := by
  have hvariants : (if shape.kind = .union then
        variantDefect? (d.attributes.insertIdx place k) else none) =
      if shape.kind = .union then variantDefect? d.attributes else none :=
    ite_congr rfl (fun hunion => variantDefect?_insertIdx hplace hk (hvoid hunion)) fun _ => rfl
  have hfootprint : ∀ name, Footprint.ofAttributes name shape.kind
        (d.attributes.insertIdx place k) d.extent? d.isFinal =
      Footprint.ofAttributes name shape.kind d.attributes d.extent? d.isFinal := fun name => by
    rw [Footprint.ofAttributes, Footprint.ofAttributes, fieldTypes_insertIdx hplace hk, hvariants]
  change _ = (·.insert place k) <$> build identity shape bounded d
  simp only [build, Declaration.name_insert, Declaration.attributes_insert,
    Declaration.extent?_insert, Declaration.isFinal_insert,
    headingDefect?_insert hplace hk hname htype, hfootprint, fieldTypes_insertIdx hplace hk,
    map_bind, map_pure]
  rfl

/-- The fields of a union are measured as before; then the filler is found, unless the variants
have another defect. -/
theorem ofAttributes_insertIdx_filler (name : String) (asked? : Option Nat) (isFinal : Bool)
    (h : place ≤ attributes.length) (hk : k.isSerialized = false) (hvoid : k.type.isVoid = true) :
    (∃ cause, Footprint.ofAttributes name .union attributes asked? isFinal = .error cause ∧
        Footprint.ofAttributes name .union (attributes.insertIdx place k) asked? isFinal =
          .error cause) ∨
      Footprint.ofAttributes name .union (attributes.insertIdx place k) asked? isFinal =
          .error .fillerInUnion ∧ variantDefect? attributes = none := by
  have hfields := fieldTypes_insertIdx h hk
  have hfiller := variantDefect?_insertIdx_filler h hk hvoid
  simp only [Footprint.ofAttributes_eq_error_iff]
  cases haggregate : aggregateOf .union (fieldTypes attributes) with
  | error cause => exact Or.inl ⟨cause, .aggregate haggregate, .aggregate (hfields ▸ haggregate)⟩
  | ok aggregate =>
    have haggregate' := hfields.symm ▸ haggregate
    cases hmax : aggregate.max? with
    | none => exact Or.inl ⟨_, .longest haggregate hmax rfl, .longest haggregate' hmax rfl⟩
    | some longest =>
      cases hextent : Extent.resolve (alignmentOf (fieldTypes attributes)) longest asked?
          isFinal with
      | error cause =>
        exact Or.inl ⟨cause, .extent haggregate hmax hextent,
          .extent haggregate' hmax (hfields.symm ▸ hextent)⟩
      | ok extent =>
        have hmeasures' : Footprint.Measures .union (attributes.insertIdx place k) asked? isFinal
            aggregate extent := ⟨haggregate', longest, hmax, hfields.symm ▸ hextent⟩
        cases hvariants : variantDefect? attributes with
        | some cause =>
          rw [hvariants] at hfiller
          exact Or.inl ⟨cause, .variants ⟨haggregate, longest, hmax, hextent⟩ rfl hvariants,
            .variants hmeasures' rfl hfiller⟩
        | none =>
          rw [hvariants] at hfiller
          exact Or.inr ⟨.variants hmeasures' rfl hfiller, rfl⟩

/-- **A union with a constant of the type of padding is refused**: for the cause for which the
definition without it is, or for the filler, where that one is made or fails for a size. -/
theorem build_insert_filler (identity : Identity) (bounded : Bool)
    (hplace : place ≤ d.attributes.length) (hk : k.isSerialized = false)
    (hname : k.name ∉ attributeNames d.attributes)
    (htype : ∀ c, k.type.innermost? = some c → c.isDeprecated = false)
    (hvoid : k.type.isVoid = true) :
    (∃ cause, build identity .union bounded d = .error cause ∧
        build identity .union bounded (d.insert place k) = .error cause) ∨
      build identity .union bounded (d.insert place k) = .error .fillerInUnion ∧
        OnlyFails Cause.IsOfSize (build identity .union bounded d) := by
  have hsame := headingDefect?_insert hplace hk hname htype (Text.trim d.name) .union bounded
  simp only [build_eq_error_iff]
  cases hheading : d.headingDefect? (Text.trim d.name) .union bounded with
  | some cause => exact Or.inl ⟨cause, .heading hheading, .heading (hsame.trans hheading)⟩
  | none =>
    rcases ofAttributes_insertIdx_filler (Text.trim d.name) d.extent? d.isFinal hplace hk hvoid with
      ⟨cause, h, h'⟩ | ⟨h', hvariants⟩
    · rw [Footprint.ofAttributes_eq_error_iff] at h h'
      exact Or.inl ⟨cause, .footprint hheading h, .footprint (hsame.trans hheading) h'⟩
    · rw [Footprint.ofAttributes_eq_error_iff] at h'
      refine Or.inr ⟨.footprint (hsame.trans hheading) h', fun cause h => ?_⟩
      refine ((build_eq_error_iff.1 h).isOfSize_or hheading).resolve_right ?_
      exact fun hbad => absurd (hvariants.symm.trans hbad.2) (Option.some_ne_none cause).symm

/-! ## Definitions -/

/-- **A constant does not decide** whether a definition is accepted, or for what it is refused,
wherever it stands, if its name is new and its type depends on nothing deprecated: a structure has
one more attribute, or the error is the same, and likewise a union, unless the constant is of the
type of padding.  A union with a constant of that type is always refused: with the error of the
definition without it, or else for a filler, where that definition is accepted or is refused for its
size. -/
theorem made_with_constant (serial : Nat) (hplace : place ≤ d.attributes.length)
    (hk : k.isSerialized = false) (hname : k.name ∉ attributeNames d.attributes)
    (htype : ∀ c, k.type.innermost? = some c → c.isDeprecated = false) :
    ofStructure serial (d.insert place k) = (ofStructure serial d).map (·.insert place k) ∧
      (k.type.isVoid = false →
        ofUnion serial (d.insert place k) = (ofUnion serial d).map (·.insert place k)) ∧
      (k.type.isVoid = true →
        (∃ e, ofUnion serial d = .error e ∧ ofUnion serial (d.insert place k) = .error e) ∨
        ofUnion serial (d.insert place k) = .error (located d.sourcePath .fillerInUnion) ∧
          ∀ e, ofUnion serial d = .error e → e.kind = .invalidExtent ∨ e.kind = .internal) := by
  have hrun : ∀ shape : Shape, (shape.kind = .union → k.type.isVoid = false) →
      (build ⟨serial, .whole⟩ shape true (d.insert place k)).mapError (located d.sourcePath) =
        ((build ⟨serial, .whole⟩ shape true d).mapError (located d.sourcePath)).map
          (·.insert place k) :=
    fun shape hshape => by rw [build_insert hplace hk hname htype hshape, mapError_map]
  refine ⟨hrun .struct nofun, fun hvoid => hrun .union fun _ => hvoid, fun hvoid => ?_⟩
  rcases build_insert_filler ⟨serial, .whole⟩ true hplace hk hname htype hvoid with
    ⟨cause, h, h'⟩ | ⟨h', hsize⟩
  · refine Or.inl ⟨located d.sourcePath cause, ?_, ?_⟩
    · exact mapError_eq_error_iff.2 ⟨cause, h, rfl⟩
    · exact mapError_eq_error_iff.2 ⟨cause, h', rfl⟩
  · refine Or.inr ⟨mapError_eq_error_iff.2 ⟨_, h', rfl⟩, hsize.mapError fun _ h => h⟩

end Composite

/-! ## Samples -/

/-- A final union of an octet and a flag, with a constant between them. -/
def Declaration.choosing : Declaration where
  name := "sample.Choosing"
  version := ⟨1, 0⟩
  attributes := [.field "number" .octet, .constant "LIMIT" .octet (.ofNat 7),
    .field "flag" .boolean]
  extent? := none
  isFinal := true
  isDeprecated := false
  portId? := none
  sourcePath := "sample/Choosing.1.0"

/-- A constant that is an octet. -/
def Attribute.bound : Attribute := .constant "BOUND" .octet (.ofNat 9)

/-- A constant of the type of three bits of padding. -/
def Attribute.gap : Attribute := .constant "GAP" (.void ⟨3, by decide⟩) (.ofNat 1)

namespace Composite

theorem made_with_constant_choosing : ∃ c, ofUnion 0 .choosing = .ok c ∧
    ofUnion 0 (Declaration.choosing.insert 1 .bound) = .ok (c.insert 1 .bound) ∧
    ofUnion 0 (Declaration.choosing.insert 1 .gap) =
      .error (located "sample/Choosing.1.0" .fillerInUnion) := by
  have hrun : ((ofUnion 0 .choosing).toOption.map (·.isFinal)) = some true := by decide +kernel
  obtain ⟨c, hc, -⟩ := toOption_map_eq_some_iff.1 hrun
  obtain ⟨-, hbound, -⟩ := made_with_constant (d := .choosing) (k := .bound) 0
    (by decide : 1 ≤ 3) rfl (by decide) nofun
  obtain ⟨-, -, hgap⟩ := made_with_constant (d := .choosing) (k := .gap) 0
    (by decide : 1 ≤ 3) rfl (by decide) nofun
  refine ⟨c, hc, ?_, ?_⟩
  · rw [hbound rfl, hc]
    rfl
  · rcases hgap rfl with ⟨e, he, -⟩ | ⟨hfiller, -⟩
    · cases hc.symm.trans he
    · exact hfiller

/-- **A constant may decide**: with one of the type of padding a union is not accepted any more. -/
theorem refused_with_gap :
    Attribute.gap.name ∉ attributeNames Declaration.choosing.attributes ∧
      (∀ c, Attribute.gap.type.innermost? = some c → c.isDeprecated = false) ∧
      ¬ ((∃ c, ofUnion 0 (Declaration.choosing.insert 1 .gap) = .ok c) ↔
        ∃ c, ofUnion 0 .choosing = .ok c) := by
  have hrun : (ofUnion 0 .choosing).toOption.map (·.isFinal) = some true := by decide +kernel
  have hgap : (ofUnion 0 (Declaration.choosing.insert 1 .gap)).toOption.isNone = true := by
    decide +kernel
  obtain ⟨c, hc, -⟩ := toOption_map_eq_some_iff.1 hrun
  obtain ⟨e, he⟩ := exists_error_of_isNone hgap
  refine ⟨by decide, nofun, fun hiff => ?_⟩
  obtain ⟨c', hc'⟩ := hiff.2 ⟨c, hc⟩
  cases he.symm.trans hc'

end Composite
end WireSchema
