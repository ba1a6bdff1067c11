import WireSchema.Proofs.Composite.Starts

/-!
# Proofs/Composite/Nested — iterating into a nested composite agrees with the outer one

A field whose type is a composite has fields of its own, and their offsets are found by asking the
composite about the offsets of the field, behind the header if it has one.  That never fails where
the outer composite was asked with success (`Buildable.nested_placements`), because its one check
left room for the longest value of the field, and that is no shorter than what the inner check needs.

The inner fields end at the inner start plus the inner aggregate, in a structure and in a union
(`MadeFrom.fieldEnds_eq`).  Rounded up, that is behind the header a length of the inner composite
(`MadeFrom.header_add_subset`): any of them in a final type, and possibly one of many in a type that
may still change.
-/

open scoped Pointwise

namespace WireSchema
namespace Composite

variable {c : Composite} {base? : Option LengthSet} {start offsets body : LengthSet}
  {placed : List Placement} {p : Placement} {shape : Shape} {bounded : Bool} {d : Declaration}

/-! ## Where the fields end -/

/-- **Where a value may end** before it is padded: where the last field of a structure does, or any
one of the variants of a union; a structure without fields ends where it starts. -/
def fieldEnds (c : Composite) (start : LengthSet) (placed : List Placement) : Set Nat :=
  match c.layout, placed.getLast? with
  | .union _, _ => {stop | ∃ p ∈ placed, stop ∈ p.ends}
  | _, some p => p.ends
  | _, none => start.toSet

/-- The placements of a union, all at the same offsets behind the tag. -/
theorem exists_of_placements_union {tag : UnsignedType} (hlayout : c.layout = .union tag)
    (hstart : c.startPositions base? = .ok start) (h : c.placements base? = .ok placed) :
    ∃ offsets : LengthSet, offsets.toSet = start.toSet + {tag.bits} ∧
      placed = c.fields.map fun a => ⟨a, offsets⟩ := by
  rw [placements_of_startPositions hstart, mapError_eq_ok_iff, placeFields, tag?, hlayout] at h
  obtain ⟨offsets, hshift, h⟩ := bind_eq_ok_iff.1 h
  exact ⟨offsets, LengthSet.shift_eq_ok_iff.1 hshift, (Except.ok.inj h).symm⟩

/-- **The aggregate of a union** is the tag and the lengths of any one field behind it. -/
theorem MadeFrom.mem_aggregate_of_union (h : MadeFrom .union bounded d c)
    (hwf : ∀ t ∈ fieldTypes c.attributes, t.WellFormed) :
    ∃ tag, c.layout = .union tag ∧
      ∀ z, z ∈ c.aggregate ↔ ∃ a ∈ c.fields, ∃ x ∈ a.type.lengths, tag.bits + x = z := by
  obtain ⟨tag, hlayout, hbits, haggregate⟩ := h.aggregate_of_union hwf
  refine ⟨tag, hlayout, fun z => ?_⟩
  have hpad : ∀ a ∈ c.fields, roundUp tag.bits a.type.alignment = tag.bits := fun a ha =>
    roundUp_eq_self ((hwf _ (List.mem_map_of_mem ha)).alignment_dvd.trans
      (hbits ▸ bitsPerByte_dvd_wordBits _))
  rw [← LengthSet.mem_toSet, haggregate, Slot.mem_endsOfOne]
  constructor
  · rintro ⟨_, hs, x, hx, rfl⟩
    obtain ⟨_, ht, rfl⟩ := List.mem_map.1 hs
    obtain ⟨a, ha, rfl⟩ := List.mem_map.1 ht
    exact ⟨a, ha, x, hx, congrArg (· + x) (hpad a ha).symm⟩
  · rintro ⟨a, ha, x, hx, rfl⟩
    exact ⟨_, List.mem_map_of_mem (List.mem_map_of_mem ha), x, hx, congrArg (· + x) (hpad a ha)⟩

/-- **The fields end at the start plus the aggregate**, in a structure and in a union. -/
theorem MadeFrom.fieldEnds_eq (h : MadeFrom shape bounded d c) (hkind : c.kind ≠ .service)
    (hwf : ∀ t ∈ fieldTypes c.attributes, t.WellFormed)
    (hstart : c.startPositions base? = .ok start) (hplaced : c.placements base? = .ok placed) :
    c.fieldEnds start placed = start.toSet + c.aggregate.toSet := by
  cases shape with
  | service request response => exact absurd h.kind_eq hkind
  | struct =>
    have hlayout : c.layout = .struct := (Except.ok.inj h.layout_eq).symm
    have hfields : ∀ a ∈ c.fields, a.type.WellFormed := fun a ha => hwf _ (List.mem_map_of_mem ha)
    have hrow := inRow_of_placements hlayout hstart hplaced
    rw [fieldEnds, hlayout]
    cases hlast : placed.getLast? with
    | some p =>
      exact h.ends_getLast hrow hfields (h.aligned_of_startPositions hkind hwf hstart) hlast
    | none =>
      obtain rfl := List.getLast?_eq_none_iff.1 hlast
      have hnil : fieldTypes c.attributes = [] := by
        cases hf : c.fields with
        | nil => exact congrArg (List.map (·.type)) hf
        | cons a rest =>
          rw [hf] at hrow
          cases hrow
      rw [h.aggregate_of_row nofun, hnil]
      exact (add_zero start.toSet).symm
  | union =>
    obtain ⟨tag, hlayout, hmem⟩ := h.mem_aggregate_of_union hwf
    obtain ⟨offsets, hoffsets, rfl⟩ := exists_of_placements_union hlayout hstart hplaced
    rw [fieldEnds, hlayout]
    ext stop
    constructor
    · rintro ⟨_, hp, hstop⟩
      obtain ⟨a, ha, rfl⟩ := List.mem_map.1 hp
      obtain ⟨o, ho, x, hx, rfl⟩ := hstop
      obtain ⟨s, hs, _, rfl, rfl⟩ := hoffsets.subset ho
      exact ⟨s, hs, tag.bits + x, (hmem _).2 ⟨a, ha, x, hx, rfl⟩, (Nat.add_assoc _ _ _).symm⟩
    · rintro ⟨s, hs, y, hy, rfl⟩
      obtain ⟨a, ha, x, hx, rfl⟩ := (hmem y).1 hy
      refine ⟨⟨a, offsets⟩, List.mem_map_of_mem ha, s + tag.bits, ?_, x, hx, Nat.add_assoc _ _ _⟩
      exact hoffsets.superset ⟨s, hs, tag.bits, rfl, rfl⟩

/-! ## Every placed field ends at a length -/

/-- What a row has placed ends at lengths, where the next field was put. -/
theorem InRow.lt_of_mem_ends {position : LengthSet} {fields : List Attribute}
    (h : InRow position fields placed) : ∀ p ∈ placed, ∀ z ∈ p.ends, z < lengthLimit := by
  induction h with
  | nil => exact nofun
  | cons hpad hadd hrest ih =>
    refine List.forall_mem_cons.2 ⟨fun z hz => ?_, ih⟩
    exact LengthSet.lt_of_mem ((LengthSet.add_eq_ok_iff.1 hadd).superset hz)

/-- **The check leaves room for every field** that is placed behind it. -/
theorem MadeFrom.lt_of_mem_ends (h : MadeFrom shape bounded d c) (hkind : c.kind ≠ .service)
    (hwf : ∀ t ∈ fieldTypes c.attributes, t.WellFormed)
    (hstart : c.startPositions base? = .ok start) (hplaced : c.placements base? = .ok placed) :
    ∀ p ∈ placed, ∀ z ∈ p.ends, z < lengthLimit := by
  cases shape with
  | service request response => exact absurd h.kind_eq hkind
  | struct =>
    have hlayout : c.layout = .struct := (Except.ok.inj h.layout_eq).symm
    exact (inRow_of_placements hlayout hstart hplaced).lt_of_mem_ends
  | union =>
    intro p hp z hz
    obtain ⟨tag, hlayout, -⟩ := h.mem_aggregate_of_union hwf
    have hends : z ∈ c.fieldEnds start placed := by
      rw [fieldEnds, hlayout]
      exact ⟨p, hp, hz⟩
    rw [h.fieldEnds_eq hkind hwf hstart hplaced] at hends
    obtain ⟨x, hx, y, hy, rfl⟩ := hends
    exact lt_of_maximaFit ((startPositions_eq_ok_iff hkind).1 hstart).2 hx hy

/-! ## Behind the header -/

/-- The width of the header; nothing for a final type, which has none. -/
def headerBits (c : Composite) : Nat :=
  match c.header? with
  | none => 0
  | some header => header.bits

/-- **Where the body of a value starts** that starts at the given offsets: there, or behind the
header. -/
def bodyPositions (c : Composite) (offsets : LengthSet) : Except Fault LengthSet :=
  match c.header? with
  | none => .ok offsets
  | some header => offsets.shift header.bits

theorem bodyPositions_eq_ok_iff :
    c.bodyPositions offsets = .ok body ↔ body.toSet = offsets.toSet + {c.headerBits} := by
  rw [bodyPositions, headerBits]
  cases c.header? with
  | some header => exact LengthSet.shift_eq_ok_iff
  | none =>
    have hzero : offsets.toSet + {0} = offsets.toSet := add_zero offsets.toSet
    rw [hzero, LengthSet.toSet_inj, Except.ok.injEq, eq_comm]

/-- A type has a header unless it is final. -/
theorem MadeFrom.header?_eq_none_iff (h : MadeFrom shape bounded d c)
    (hwf : ∀ t ∈ fieldTypes c.attributes, t.WellFormed) :
    c.header? = none ↔ c.isFinal = true := by
  rcases Bool.eq_false_or_eq_true c.isFinal with hfinal | hfinal
  · exact iff_of_true (by simpa [hfinal] using Framing.header?_eq_ok h.header_eq) hfinal
  · obtain ⟨header, hheader, -⟩ := h.mem_lengths_of_delimited hwf hfinal
    simp [hheader, hfinal]

/-- The extent covers every aggregate, rounded up. -/
theorem MadeFrom.roundUp_le_extent (h : MadeFrom shape bounded d c) {y : Nat}
    (hy : y ∈ c.aggregate) : roundUp y c.alignment ≤ c.extent := by
  obtain ⟨longest, minimal, hlongest, hresolve⟩ := h.extent_eq
  calc roundUp y c.alignment
      ≤ roundUp longest c.alignment := roundUp_le_roundUp _ (LengthSet.le_of_max? hlongest hy)
    _ = minimal := (Extent.resolve_eq_ok hresolve).1.symm
    _ ≤ c.extent := Extent.minimal_le_of_resolve hresolve

/-- **The aggregate, rounded up, is a length behind the header**, and in a final type any length
is. -/
theorem MadeFrom.header_add_subset (h : MadeFrom shape bounded d c)
    (hwf : ∀ t ∈ fieldTypes c.attributes, t.WellFormed) :
    {c.headerBits} + endsRoundedUp c.aggregate.toSet c.alignment ⊆ c.lengths.toSet ∧
      (c.isFinal = true →
        {c.headerBits} + endsRoundedUp c.aggregate.toSet c.alignment = c.lengths.toSet) := by
  rcases Bool.eq_false_or_eq_true c.isFinal with hfinal | hfinal
  · have hheader := (h.header?_eq_none_iff hwf).2 hfinal
    have hlengths : endsRoundedUp c.aggregate.toSet c.alignment = c.lengths.toSet :=
      Set.ext fun z => (h.mem_lengths_of_final hfinal).symm
    have hzero : {c.headerBits} + endsRoundedUp c.aggregate.toSet c.alignment =
        endsRoundedUp c.aggregate.toSet c.alignment := by
      rw [headerBits, hheader]
      exact zero_add _
    rw [hzero, hlengths]
    exact ⟨subset_rfl, fun _ => rfl⟩
  · obtain ⟨header, hheader, -, hmem⟩ := h.mem_lengths_of_delimited hwf hfinal
    refine ⟨?_, fun h => absurd (h.symm.trans hfinal) (by decide)⟩
    rintro _ ⟨_, rfl, _, ⟨y, hy, rfl⟩, rfl⟩
    have hpos : 0 < c.alignment := h.alignment_eq_byte hwf ▸ bitsPerByte_pos
    refine (hmem _).2 ⟨_, h.roundUp_le_extent hy, dvd_roundUp_of_pos y hpos, ?_⟩
    rw [headerBits, hheader]

/-! ## The inner iteration -/

/-- **A whole number of alignments with room for the aggregate** is where a value starts. -/
theorem startPositions_of_aligned (hkind : c.kind ≠ .service) (hinhabited : ∃ x, x ∈ body)
    (haligned : ∀ x ∈ body, c.alignment ∣ x) (haggregate : ∃ y, y ∈ c.aggregate)
    (hfits : ∀ x ∈ body, ∀ y ∈ c.aggregate, x + y < lengthLimit) :
    c.startPositions (some body) = .ok body := by
  obtain ⟨x, hx⟩ := hinhabited
  obtain ⟨y, hy⟩ := haggregate
  obtain ⟨b, hb⟩ := LengthSet.exists_max? hx
  obtain ⟨m, hm⟩ := LengthSet.exists_max? hy
  have hbase : basePositions (some body) = body :=
    if_neg (Bool.eq_false_iff.1 (LengthSet.isEmpty_eq_false_iff.2 ⟨x, hx⟩))
  rw [startPositions_eq_ok_iff hkind, hbase, maximaFit_iff (LengthSet.max?_eq_some_iff.1 hb)
    (LengthSet.max?_eq_some_iff.1 hm)]
  exact ⟨if_pos (LengthSet.isAligned_iff.2 (Or.inr haligned)),
    hfits b (LengthSet.mem_of_max? hb) m (LengthSet.mem_of_max? hm)⟩

/-- **Iterating into a value at aligned offsets** with room for its lengths goes well: the body
starts somewhere, the fields are placed, and they end where the value does. -/
theorem MadeFrom.exists_placements_inside (h : MadeFrom shape bounded d c)
    (hkind : c.kind ≠ .service) (hwf : ∀ t ∈ fieldTypes c.attributes, t.WellFormed)
    (hinhabited : ∃ o, o ∈ offsets) (haligned : ∀ o ∈ offsets, c.alignment ∣ o)
    (hfits : ∀ o ∈ offsets, ∀ x ∈ c.lengths, o + x < lengthLimit) :
    ∃ body placed, c.bodyPositions offsets = .ok body ∧ c.startPositions (some body) = .ok body ∧
      c.placements (some body) = .ok placed ∧
      endsRoundedUp (c.fieldEnds body placed) c.alignment =
        offsets.toSet + ({c.headerBits} + endsRoundedUp c.aggregate.toSet c.alignment) := by
  obtain ⟨hsubset, -⟩ := h.header_add_subset hwf
  have hlength : ∀ y ∈ c.aggregate, c.headerBits + roundUp y c.alignment ∈ c.lengths :=
    fun y hy => hsubset ⟨_, rfl, _, ⟨y, hy, rfl⟩, rfl⟩
  have hroom : ∀ o ∈ offsets, ∀ y ∈ c.aggregate, o + c.headerBits + y < lengthLimit := by
    intro o ho y hy
    have hlong := hfits o ho _ (hlength y hy)
    have hpad : y ≤ roundUp y c.alignment := le_roundUp y c.alignment
    omega
  obtain ⟨o, ho⟩ := hinhabited
  obtain ⟨y, hy⟩ := h.exists_mem_aggregate
  have hpos : 0 < c.alignment := h.alignment_eq_byte hwf ▸ bitsPerByte_pos
  have hheader : c.alignment ∣ c.headerBits :=
    (Nat.dvd_add_left (dvd_roundUp_of_pos y hpos)).1 ((h.wellFormed hwf).dvd _ (hlength y hy))
  obtain ⟨body, hshift, hbody⟩ := LengthSet.exists_shift (s := offsets) (n := c.headerBits)
    fun o ho => (Nat.le_add_right _ y).trans_lt (hroom o ho y hy)
  have hset := LengthSet.shift_eq_ok_iff.1 hshift
  have haligned' : ∀ x ∈ body, c.alignment ∣ x := by
    intro x hx
    obtain ⟨o, ho, rfl⟩ := (hbody x).1 hx
    exact Nat.dvd_add (haligned o ho) hheader
  have hfits' : ∀ x ∈ body, ∀ y ∈ c.aggregate, x + y < lengthLimit := by
    intro x hx y hy
    obtain ⟨o, ho, rfl⟩ := (hbody x).1 hx
    exact hroom o ho y hy
  have hstart := startPositions_of_aligned hkind ⟨_, (hbody _).2 ⟨o, ho, rfl⟩⟩ haligned' ⟨y, hy⟩
    hfits'
  obtain ⟨placed, hplaced, -⟩ := h.exists_placements hkind hwf hstart
  refine ⟨body, placed, bodyPositions_eq_ok_iff.2 hset, hstart, hplaced, ?_⟩
  calc endsRoundedUp (c.fieldEnds body placed) c.alignment
      = endsRoundedUp (body.toSet + c.aggregate.toSet) c.alignment := by
          rw [h.fieldEnds_eq hkind hwf hstart hplaced]
    _ = body.toSet + endsRoundedUp c.aggregate.toSet c.alignment := endsRoundedUp_add haligned'
    _ = offsets.toSet + ({c.headerBits} + endsRoundedUp c.aggregate.toSet c.alignment) := by
          rw [hset, add_assoc]

end Composite

/-- **Iterating into a nested composite agrees with the outer one.**  From every base from which the
outer composite has offsets, let a field be placed whose type is a structure or a union.  The body
of the field starts at its offsets, or behind the header if it is not final.  From there the inner
composite has offsets too, and its fields end, rounded up to its alignment, at an offset of the
field plus a length of it: at any such place if it is final. -/
theorem DataType.Buildable.nested_placements {c : Composite} (h : (DataType.composite c).Buildable)
    (hkind : c.kind ≠ .service) {base? : Option LengthSet} {start : LengthSet}
    (hstart : c.startPositions base? = .ok start) :
    ∃ placed, c.placements base? = .ok placed ∧ placed.map (·.field) = c.fields ∧
      ∀ p ∈ placed, ∀ inner, p.field.type = .composite inner → inner.kind ≠ .service →
        (inner.header? = none ↔ inner.isFinal = true) ∧
        ∃ body first innerPlaced, inner.bodyPositions p.offsets = .ok body ∧
          inner.startPositions (some body) = .ok first ∧
          inner.placements (some body) = .ok innerPlaced ∧
          endsRoundedUp (inner.fieldEnds first innerPlaced) inner.alignment ⊆
            p.offsets.toSet + inner.lengths.toSet ∧
          (inner.isFinal = true →
            endsRoundedUp (inner.fieldEnds first innerPlaced) inner.alignment =
              p.offsets.toSet + inner.lengths.toSet) := by
  obtain ⟨shape, bounded, d, hmade, hwf⟩ := h.exists_madeFrom
  obtain ⟨placed, hplaced, hfields, hsound⟩ := hmade.exists_placements hkind hwf hstart
  refine ⟨placed, hplaced, hfields, fun p hp inner htype hinner => ?_⟩
  have hfield : p.field ∈ c.fields := hfields ▸ List.mem_map_of_mem hp
  have hbuildable : (DataType.composite inner).Buildable :=
    htype ▸ h.of_mem_attributes (List.mem_filter.1 hfield).1
  obtain ⟨innerShape, innerBounded, innerDeclaration, himade, hiwf⟩ := hbuildable.exists_madeFrom
  have hends := hmade.lt_of_mem_ends hkind hwf hstart hplaced p hp
  rw [Placement.ends, htype] at hends
  have haligned : ∀ o ∈ p.offsets, inner.alignment ∣ o := by
    have hbyte : (DataType.composite inner).alignment = bitsPerByte :=
      himade.alignment_eq_byte hiwf
    have hword := LengthSet.isAligned_iff.1 (hsound p hp).aligned
    rw [htype] at hword
    refine hword.resolve_left ?_
    rw [hbyte]
    decide
  obtain ⟨body, innerPlaced, hbody, hfirst, hinnerPlaced, hset⟩ :=
    himade.exists_placements_inside hinner hiwf (hsound p hp).inhabited haligned
      fun o ho x hx => hends _ ⟨o, ho, x, hx, rfl⟩
  obtain ⟨hsubset, heq⟩ := himade.header_add_subset hiwf
  refine ⟨himade.header?_eq_none_iff hiwf, body, body, innerPlaced, hbody, hfirst, hinnerPlaced,
    ?_, fun hfinal => ?_⟩
  · rw [hset]
    exact Set.add_subset_add_left hsubset
  · rw [hset, heq hfinal]

/-! ## A sample -/

/-- A structure of a flag and up to two octets that may still change. -/
def Declaration.growing : Declaration := { flagged with name := "sample.Growing", isFinal := false }

theorem Declaration.buildable_growing : ∀ a ∈ growing.attributes, a.type.Buildable :=
  buildable_flagged

/-- A structure of a flag and a composite. -/
def Declaration.wrapping (c : Composite) : Declaration :=
  { flagged with name := "sample.Wrapping", attributes :=
      [.field "flag" .boolean, .field "inner" (.composite c)] }

theorem Declaration.buildable_wrapping {c : Composite} (h : (DataType.composite c).Buildable) :
    ∀ a ∈ (wrapping c).attributes, a.type.Buildable :=
  List.forall_mem_cons.2 ⟨.primitive rfl, List.forall_mem_singleton.2 h⟩

theorem DataType.Buildable.nested_placements_wrapping : ∃ inner outer placed p,
    Composite.ofStructure 0 .growing = .ok inner ∧ inner.isFinal = false ∧
    Composite.ofStructure 1 (.wrapping inner) = .ok outer ∧
    outer.placements none = .ok placed ∧ p ∈ placed ∧ p.field.type = .composite inner ∧
    ∃ body first innerPlaced, inner.bodyPositions p.offsets = .ok body ∧
      inner.startPositions (some body) = .ok first ∧
      inner.placements (some body) = .ok innerPlaced ∧
      endsRoundedUp (inner.fieldEnds first innerPlaced) inner.alignment ⊆
        p.offsets.toSet + inner.lengths.toSet := by
  have hrun : ((Composite.ofStructure 0 .growing).toOption.map fun inner =>
      (Composite.ofStructure 1 (.wrapping inner)).toOption.map fun outer =>
        (outer.startPositions none).toOption.map (·.toList)) = some (some (some [0])) := by
    decide +kernel
  obtain ⟨inner, hinner, hrun⟩ := toOption_map_eq_some_iff.1 hrun
  obtain ⟨outer, houter, hrun⟩ := toOption_map_eq_some_iff.1 hrun
  obtain ⟨start, hstart, -⟩ := toOption_map_eq_some_iff.1 hrun
  have himade := Composite.madeFrom_of_build (Composite.ofStructure_eq_ok_iff.1 hinner)
  have homade := Composite.madeFrom_of_build (Composite.ofStructure_eq_ok_iff.1 houter)
  have hikind : inner.kind ≠ .service := by rw [himade.kind_eq]; nofun
  have hokind : outer.kind ≠ .service := by rw [homade.kind_eq]; nofun
  obtain ⟨placed, hplaced, hfields, hinside⟩ := Buildable.nested_placements
    (.struct (Declaration.buildable_wrapping (.struct Declaration.buildable_growing hinner)) houter)
    hokind hstart
  have hmem : Attribute.field "inner" (.composite inner) ∈ placed.map (·.field) := by
    rw [hfields, Composite.fields, homade.attributes_eq]
    exact List.mem_cons_of_mem _ List.mem_cons_self
  obtain ⟨p, hp, hfield⟩ := List.mem_map.1 hmem
  have htype : p.field.type = .composite inner := by rw [hfield]; rfl
  obtain ⟨-, body, first, innerPlaced, hbody, hfirst, hinnerPlaced, hsubset, -⟩ :=
    hinside p hp inner htype hikind
  exact ⟨inner, outer, placed, p, hinner, himade.isFinal_eq, houter, hplaced, hp, htype, body,
    first, innerPlaced, hbody, hfirst, hinnerPlaced, hsubset⟩

end WireSchema
