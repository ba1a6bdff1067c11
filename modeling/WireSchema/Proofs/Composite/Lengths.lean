import WireSchema.Proofs.Composite.Aggregates
import WireSchema.Proofs.Composite.Framings
import WireSchema.Proofs.Composite.MadeFrom

/-!
# Proofs/Composite/Lengths — the lengths of a composite with well-formed fields

For a composite that was made from a declaration with well-formed fields, the kept properties are
read member by member: the aggregate is where its fields may end, the lengths of a final type are
the aggregate rounded up (`MadeFrom.mem_lengths_of_final`), and those of any other are the header
and the multiples of a byte up to the extent (`MadeFrom.mem_lengths_of_delimited`).  From this the
composite is well-formed itself (`MadeFrom.wellFormed`), which is the step of the invariant.
-/

namespace WireSchema

/-- Well-formed attributes have well-formed fields among them. -/
theorem wellFormed_of_mem_fieldTypes {attributes : List Attribute}
    (h : ∀ a ∈ attributes, a.type.WellFormed) : ∀ t ∈ fieldTypes attributes, t.WellFormed := by
  intro t ht
  obtain ⟨a, ha, rfl⟩ := List.mem_map.1 ht
  exact h a (List.mem_filter.1 ha).1

namespace Composite

variable {shape : Shape} {bounded : Bool} {d : Declaration} {c : Composite} {z : Nat}

/-- A union has a tag, of the width that tells its variants apart. -/
theorem MadeFrom.exists_tag (h : MadeFrom .union bounded d c) :
    ∃ tag, c.layout = .union tag ∧ tagBits (fieldTypes c.attributes) = .ok tag.bits := by
  obtain ⟨bits, hbits, hlayout⟩ := bind_eq_ok_iff.1 h.layout_eq
  split at hlayout
  · next tag htag =>
    obtain ⟨rfl, -⟩ := UnsignedType.ofBits_eq_ok_iff.1 htag
    exact ⟨tag, (Except.ok.inj hlayout).symm, hbits⟩
  · exact absurd hlayout (by simp)

theorem MadeFrom.kind_eq (h : MadeFrom shape bounded d c) : c.kind = shape.kind := by
  rw [Composite.kind]
  cases shape with
  | struct => rw [← Except.ok.inj h.layout_eq]; rfl
  | union =>
    obtain ⟨tag, hlayout, -⟩ := h.exists_tag
    rw [hlayout]
    rfl
  | service request response => rw [← Except.ok.inj h.layout_eq]; rfl

/-- Variants without a defect are enough to choose from. -/
theorem le_length_of_variantDefect? {attributes : List Attribute}
    (h : variantDefect? attributes = none) : minVariants ≤ (fieldTypes attributes).length := by
  by_contra hfew
  rw [variantDefect?, if_pos (Nat.lt_of_not_le hfew)] at h
  exact absurd h (Option.some_ne_none _)

/-- A union has variants to tell apart. -/
theorem MadeFrom.two_le_variants (h : MadeFrom .union bounded d c) :
    minVariants ≤ (fieldTypes c.attributes).length :=
  le_length_of_variantDefect? (h.variants rfl)

/-- **The alignment of a composite** is a byte. -/
theorem MadeFrom.alignment_eq_byte (h : MadeFrom shape bounded d c)
    (hwf : ∀ t ∈ fieldTypes c.attributes, t.WellFormed) : c.alignment = bitsPerByte :=
  h.alignment_eq.trans (alignmentOf_eq hwf)

/-- The extent is a whole number of alignments. -/
theorem MadeFrom.alignment_dvd_extent (h : MadeFrom shape bounded d c) :
    c.alignment ∣ c.extent := by
  obtain ⟨longest, minimal, -, hresolve⟩ := h.extent_eq
  exact Extent.dvd_of_resolve hresolve

/-- The aggregate has a member, as it has a longest one. -/
theorem MadeFrom.exists_mem_aggregate (h : MadeFrom shape bounded d c) : ∃ x, x ∈ c.aggregate := by
  obtain ⟨longest, minimal, hlongest, -⟩ := h.extent_eq
  exact ⟨longest, LengthSet.mem_of_max? hlongest⟩

/-- **The aggregate of a structure** is where the row of its fields may end, and a service is the
structure of its halves. -/
theorem MadeFrom.aggregate_of_row (h : MadeFrom shape bounded d c) (hkind : shape.kind ≠ .union) :
    c.aggregate.toSet = Slot.endsInRow ((fieldTypes c.attributes).map DataType.slot) 0 := by
  ext z
  refine mem_of_structAggregate ?_
  rw [← h.aggregate_eq]
  cases shape with
  | struct | service => rfl
  | union => exact absurd rfl hkind

/-- **The aggregate of a union** is where one of its variants may end behind the tag, a word. -/
theorem MadeFrom.aggregate_of_union (h : MadeFrom .union bounded d c)
    (hwf : ∀ t ∈ fieldTypes c.attributes, t.WellFormed) :
    ∃ tag, c.layout = .union tag ∧ tag.bits = wordBits ((fieldTypes c.attributes).length - 1) ∧
      c.aggregate.toSet =
        Slot.endsOfOne ((fieldTypes c.attributes).map DataType.slot) tag.bits := by
  obtain ⟨tag, hlayout, htag⟩ := h.exists_tag
  have hbits := eq_of_tagBits hwf htag
  refine ⟨tag, hlayout, hbits, ?_⟩
  ext z
  rw [hbits]
  exact mem_of_unionAggregate hwf h.two_le_variants h.aggregate_eq

/-- **The lengths of a final type** are its aggregate rounded up to its alignment. -/
theorem MadeFrom.mem_lengths_of_final (h : MadeFrom shape bounded d c) (hfinal : c.isFinal = true) :
    z ∈ c.lengths ↔ ∃ x ∈ c.aggregate, roundUp x c.alignment = z := by
  have hnone : c.header? = none := by simpa [hfinal] using Framing.header?_eq_ok h.header_eq
  have hlengths := h.lengths_eq
  rw [hnone] at hlengths
  exact LengthSet.mem_of_padTo? (require_eq_ok_iff.1 hlengths)

/-- **The header of a delimited type**, and the lengths behind it: every multiple of the alignment
up to the extent. -/
theorem MadeFrom.mem_lengths_of_delimited (h : MadeFrom shape bounded d c)
    (hwf : ∀ t ∈ fieldTypes c.attributes, t.WellFormed) (hfinal : c.isFinal = false) :
    ∃ header, c.header? = some header ∧ header.bits = Framing.defaultHeaderBits ∧
      ∀ z, z ∈ c.lengths ↔ ∃ n ≤ c.extent, c.alignment ∣ n ∧ header.bits + n = z := by
  have halign := h.alignment_eq_byte hwf
  have hheader := Framing.header?_eq_ok h.header_eq
  rw [hfinal, if_neg Bool.false_ne_true] at hheader
  obtain ⟨header, hsome, hbits⟩ := hheader
  refine ⟨header, hsome, by rw [hbits, halign]; rfl, fun z => ?_⟩
  have hlengths := h.lengths_eq
  rw [hsome] at hlengths
  exact Framing.mem_of_delimited (by rw [halign]; exact bitsPerByte_pos) hlengths

/-- **The step of the invariant**: a composite with well-formed fields is well-formed. -/
theorem MadeFrom.wellFormed (h : MadeFrom shape bounded d c)
    (hwf : ∀ t ∈ fieldTypes c.attributes, t.WellFormed) : (DataType.composite c).WellFormed := by
  have halign := h.alignment_eq_byte hwf
  have hpos : 0 < c.alignment := by
    rw [halign]
    exact bitsPerByte_pos
  rcases Bool.eq_false_or_eq_true c.isFinal with hfinal | hfinal
  · obtain ⟨x, hx⟩ := h.exists_mem_aggregate
    refine ⟨⟨_, (h.mem_lengths_of_final hfinal).2 ⟨x, hx, rfl⟩⟩, fun z hz => ?_, halign⟩
    obtain ⟨y, -, rfl⟩ := (h.mem_lengths_of_final hfinal).1 hz
    exact dvd_roundUp_of_pos y hpos
  · obtain ⟨header, -, hbits, hmem⟩ := h.mem_lengths_of_delimited hwf hfinal
    refine ⟨⟨header.bits + 0, (hmem _).2 ⟨0, Nat.zero_le _, Nat.dvd_zero _, rfl⟩⟩, fun z hz => ?_,
      halign⟩
    obtain ⟨n, -, hn, rfl⟩ := (hmem z).1 hz
    refine Nat.dvd_add ?_ hn
    change c.alignment ∣ header.bits
    rw [hbits, halign]
    decide

end Composite
end WireSchema
