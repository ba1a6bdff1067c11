import WireSchema.DataType.Array
import WireSchema.Proofs.Bits.Word
import WireSchema.Proofs.LengthSet.Rows

/-!
# Proofs/DataType/WellFormed — the invariant of data types, and how arrays keep it

A type is **well-formed** if it has a length at all, its alignment divides all of them, and the
alignment is a byte where there is a composite at the bottom and a bit everywhere else.  The three
need one another: a row of values is aligned because each value is, and there is a row because there
is a value; and the field in front of a row is aligned because no alignment is more than a byte.

Primitives are well-formed.  `WellFormed.fixedArray` and `WellFormed.variableArray` are the steps
for arrays.
-/

namespace WireSchema

/-- There is an integer type as wide as a word. -/
theorem admits_wordBits {n : Nat} (h : n < lengthLimit) :
    WidthFamily.unsigned.Admits (wordBits n) := by
  have hword : ∀ bits ∈ [8, 16, 32, 64], WidthFamily.unsigned.Admits bits := by decide
  exact hword _ (wordBits_mem h)

namespace DataType

/-- **The invariant of data types.** -/
structure WellFormed (t : DataType) : Prop where
  inhabited : ∃ x, x ∈ t.lengths
  dvd : ∀ x ∈ t.lengths, t.alignment ∣ x
  alignment_eq : t.alignment = if t.innermost?.isSome then bitsPerByte else 1

variable {t element : DataType} {capacity : Nat}

/-- No alignment is more than a byte. -/
theorem WellFormed.alignment_dvd (h : t.WellFormed) : t.alignment ∣ bitsPerByte := by
  rw [h.alignment_eq]
  split_ifs
  · exact Nat.dvd_refl bitsPerByte
  · exact Nat.one_dvd bitsPerByte

theorem WellFormed.alignment_le (h : t.WellFormed) : t.alignment ≤ bitsPerByte :=
  Nat.le_of_dvd bitsPerByte_pos h.alignment_dvd

theorem WellFormed.alignment_pos (h : t.WellFormed) : 0 < t.alignment :=
  Nat.pos_of_dvd_of_pos h.alignment_dvd bitsPerByte_pos

/-- A primitive has a single length and no alignment to speak of. -/
theorem wellFormed_of_singleton {n : Nat} (hn : n < lengthLimit) (ha : t.alignment = 1)
    (hbottom : t.innermost? = none) (h : t.lengths = LengthSet.singleton n hn) : t.WellFormed := by
  refine ⟨⟨n, ?_⟩, fun x _ => ?_, ?_⟩
  · rw [h, LengthSet.mem_singleton]
  · rw [ha]
    exact Nat.one_dvd x
  · rw [ha, hbottom]
    rfl

/-! ## Arrays of fixed length -/

/-- **What a fixed array is made of.** -/
theorem ofFixedArray_eq_ok_iff :
    ofFixedArray element capacity = .ok t ↔ capacity ≠ 0 ∧
      ∃ lengths, element.lengths.replicate? capacity = some lengths ∧
        t = .fixedArray element capacity lengths := by
  simp only [ofFixedArray, bind_eq_ok_iff, refuse_eq_ok_iff, require_eq_ok_iff,
    ite_eq_right_iff, reduceCtorEq, imp_false, pure, Except.pure, Except.ok.injEq, exists_const,
    @eq_comm _ t]

theorem WellFormed.fixedArray (he : element.WellFormed)
    (h : ofFixedArray element capacity = .ok t) : t.WellFormed := by
  obtain ⟨-, lengths, hlengths, rfl⟩ := ofFixedArray_eq_ok_iff.1 h
  obtain ⟨x, hx⟩ := he.inhabited
  refine ⟨⟨x * capacity, ?_⟩, fun z hz => ?_, he.alignment_eq⟩
  · exact (LengthSet.mem_of_replicate? hlengths).2 (mul_mem_rowSums hx capacity)
  · exact dvd_of_mem_rowSums he.dvd ((LengthSet.mem_of_replicate? hlengths).1 hz)

/-! ## Arrays of variable length -/

theorem lengthFieldBits_eq (capacity alignment : Nat) :
    lengthFieldBits capacity alignment = max (wordBits capacity) alignment := by
  rw [lengthFieldBits, wordBits, ceilPowerOfTwo_max_byte]

/-- Elements ask for no more than the word that counts them. -/
theorem WellFormed.lengthFieldBits_eq_wordBits (he : element.WellFormed) (capacity : Nat) :
    lengthFieldBits capacity element.alignment = wordBits capacity := by
  rw [lengthFieldBits_eq]
  exact max_eq_left (he.alignment_le.trans (bitsPerByte_le_wordBits capacity))

/-- **What a variable array is made of.** -/
theorem ofVariableArray_eq_ok_iff :
    ofVariableArray element capacity = .ok t ↔ capacity ≠ 0 ∧ ∃ field run lengths,
      UnsignedType.ofBits (lengthFieldBits capacity element.alignment) .saturated = .ok field ∧
      element.lengths.replicateUpTo? capacity = some run ∧ run.shift? field.bits = some lengths ∧
      t = .variableArray element capacity field lengths := by
  simp only [ofVariableArray, bind_eq_ok_iff, refuse_eq_ok_iff, require_eq_ok_iff,
    Option.bind_eq_some_iff, ite_eq_right_iff, reduceCtorEq, imp_false, pure, Except.pure,
    Except.ok.injEq, exists_const, @eq_comm _ t]
  constructor
  · rintro ⟨hn, field, hfield, lengths, ⟨run, hrun, hshift⟩, rfl⟩
    exact ⟨hn, field, run, lengths, hfield, hrun, hshift, rfl⟩
  · rintro ⟨hn, field, run, lengths, hfield, hrun, hshift, rfl⟩
    exact ⟨hn, field, hfield, lengths, ⟨run, hrun, hshift⟩, rfl⟩

/-- The field in front of well-formed elements is the word that counts them. -/
theorem WellFormed.bits_of_ofBits (he : element.WellFormed) {field : UnsignedType}
    (h : UnsignedType.ofBits (lengthFieldBits capacity element.alignment) .saturated = .ok field) :
    field.bits = wordBits capacity := by
  rw [(UnsignedType.ofBits_eq_ok_iff.1 h).1, he.lengthFieldBits_eq_wordBits]

theorem WellFormed.variableArray (he : element.WellFormed)
    (h : ofVariableArray element capacity = .ok t) : t.WellFormed := by
  obtain ⟨-, field, run, lengths, hfield, hrun, hshift, rfl⟩ := ofVariableArray_eq_ok_iff.1 h
  have hmem : ∀ z, z ∈ lengths ↔
      ∃ y, (∃ k ≤ capacity, y ∈ rowSums element.lengths.toSet k) ∧ y + field.bits = z := by
    intro z
    simp only [LengthSet.mem_of_shift? hshift, LengthSet.mem_of_replicateUpTo? hrun]
  have hfieldBits : element.alignment ∣ field.bits := by
    rw [he.bits_of_ofBits hfield]
    exact he.alignment_dvd.trans (bitsPerByte_dvd_wordBits capacity)
  refine ⟨⟨0 + field.bits, (hmem _).2 ⟨0, ⟨0, Nat.zero_le capacity, rfl⟩, rfl⟩⟩, fun z hz => ?_,
    he.alignment_eq⟩
  obtain ⟨y, ⟨k, -, hy⟩, rfl⟩ := (hmem z).1 hz
  exact Nat.dvd_add (dvd_of_mem_rowSums he.dvd hy) hfieldBits

end DataType
end WireSchema
