import Mathlib.Order.Bounds.Basic
import Mathlib.Order.MinMax
import WireSchema.Bits.Width

/-!
# Proofs/Bits/Word — the narrowest machine word that holds a number

Tags and length fields are as wide as a machine word: a power of two of at least a byte.
`wordBits n` is the narrowest such width that holds `n` (`lt_two_pow_wordBits`).  It is a whole
number of bytes, and one of the four common widths as long as `n` itself fits a word of 64 bits:
the least of them that holds `n` (`isLeast_wordBits`).
-/

namespace WireSchema

theorem ceilPowerOfTwo_mono {n m : Nat} (h : n ≤ m) : ceilPowerOfTwo n ≤ ceilPowerOfTwo m :=
  ceilPowerOfTwo_le (h.trans (le_ceilPowerOfTwo m))

/-- Rounding up and taking the larger of a number and a byte may change places. -/
theorem ceilPowerOfTwo_max_byte (n : Nat) :
    ceilPowerOfTwo (max n bitsPerByte) = max (ceilPowerOfTwo n) bitsPerByte :=
  Monotone.map_max (fun _ _ => ceilPowerOfTwo_mono)

/-- **The narrowest word that holds `n`**, a power of two of at least a byte. -/
def wordBits (n : Nat) : Nat := ceilPowerOfTwo (max (bitWidth n) bitsPerByte)

theorem bitsPerByte_le_wordBits (n : Nat) : bitsPerByte ≤ wordBits n :=
  (le_max_right _ _).trans (le_ceilPowerOfTwo _)

theorem lt_two_pow_wordBits (n : Nat) : n < Nat.pow 2 (wordBits n) :=
  bitWidth_le_iff.1 ((le_max_left _ _).trans (le_ceilPowerOfTwo _))

/-- A word is a power of two of at least eight bits. -/
theorem exists_wordBits_eq (n : Nat) : ∃ k, 3 ≤ k ∧ wordBits n = Nat.pow 2 k := by
  refine ⟨bitWidth (max (bitWidth n) bitsPerByte - 1), ?_, rfl⟩
  by_contra hlt
  have hpow : wordBits n ≤ Nat.pow 2 2 := Nat.pow_le_pow_right (by omega) (by omega)
  have hbyte := bitsPerByte_le_wordBits n
  exact absurd (hbyte.trans hpow) (by decide)

/-- **A word is a whole number of bytes.** -/
theorem bitsPerByte_dvd_wordBits (n : Nat) : bitsPerByte ∣ wordBits n := by
  obtain ⟨k, hk, heq⟩ := exists_wordBits_eq n
  rw [heq]
  exact Nat.pow_dvd_pow 2 hk

/-- **A number below the limit of lengths fits one of the common words.** -/
theorem wordBits_mem {n : Nat} (h : n < lengthLimit) : wordBits n ∈ [8, 16, 32, 64] := by
  obtain ⟨k, hk, heq⟩ := exists_wordBits_eq n
  have hwidth : bitWidth n ≤ 64 := bitWidth_le_iff.2 h
  have hle : wordBits n ≤ Nat.pow 2 6 := ceilPowerOfTwo_le (max_le hwidth (by decide))
  rw [heq] at hle
  have hk6 : k ≤ 6 := (Nat.pow_le_pow_iff_right (by omega)).1 hle
  have hcases : k = 3 ∨ k = 4 ∨ k = 5 ∨ k = 6 := by omega
  rcases hcases with rfl | rfl | rfl | rfl <;> rw [heq] <;> decide

/-- More numbers take no narrower a word. -/
theorem wordBits_mono {n m : Nat} (h : n ≤ m) : wordBits n ≤ wordBits m := by
  have hwidth : bitWidth n ≤ bitWidth m := bitWidth_le_iff.2 (h.trans_lt (lt_two_pow_bitWidth m))
  exact ceilPowerOfTwo_mono (max_le_max_right bitsPerByte hwidth)

/-- **A word is the narrowest of the common words** that hold the number. -/
theorem isLeast_wordBits {n : Nat} (h : n < lengthLimit) :
    IsLeast {w | w ∈ [8, 16, 32, 64] ∧ n < Nat.pow 2 w} (wordBits n) := by
  refine ⟨⟨wordBits_mem h, lt_two_pow_wordBits n⟩, ?_⟩
  rintro w ⟨hw, hn⟩
  have hpow : ∀ w ∈ [8, 16, 32, 64], bitsPerByte ≤ w ∧ Nat.pow 2 w.log2 = w := by decide
  obtain ⟨hbyte, heq⟩ := hpow w hw
  have hle : wordBits n ≤ Nat.pow 2 w.log2 :=
    ceilPowerOfTwo_le (heq.symm ▸ max_le (bitWidth_le_iff.2 hn) hbyte)
  exact hle.trans_eq heq

example : [255, 256, 65535, 65536].map wordBits = [8, 16, 16, 32] := by decide

/-- What holds of all widths of at least a byte asks for no wider a word. -/
theorem isLeast_wordBits_and {n : Nat} {p : Nat → Prop} (h : n < lengthLimit)
    (hp : ∀ w, bitsPerByte ≤ w → p w) :
    IsLeast {w | w ∈ [8, 16, 32, 64] ∧ n < Nat.pow 2 w ∧ p w} (wordBits n) := by
  obtain ⟨⟨hmem, hlt⟩, hle⟩ := isLeast_wordBits h
  exact ⟨⟨hmem, hlt, hp _ (bitsPerByte_le_wordBits n)⟩, fun _ hw => hle ⟨hw.1, hw.2.1⟩⟩

end WireSchema
