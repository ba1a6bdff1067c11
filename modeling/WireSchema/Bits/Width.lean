/-!
# Bits/Width — how many bits a number takes, and the limit of a 64-bit word

Lengths, extents and capacities are counts of bits that have to fit an unsigned word of 64 bits, so
every count is a natural number below `lengthLimit`.  `bitWidth n` is the number of binary digits of
`n`: `lt_two_pow_bitWidth` and `bitWidth_le_iff` say that it is the least number of bits that can
hold `n`.  `ceilPowerOfTwo n` is the least power of two that is not below `n`.
-/

namespace WireSchema

/-- **The limit of lengths**: a length in bits has to be below it. -/
def lengthLimit : Nat := 0x10000000000000000

-- a length is what a word of 64 bits can hold
example : lengthLimit = Nat.pow 2 64 := rfl

/-- The number of bits in a byte. -/
def bitsPerByte : Nat := 8

theorem bitsPerByte_pos : 0 < bitsPerByte := by decide

/-- **The width of a number**: how many binary digits it has, none for zero. -/
def bitWidth (n : Nat) : Nat := if n = 0 then 0 else n.log2 + 1

/-- **The least power of two that is not below `n`**, which is `1` for `0` and `1`. -/
def ceilPowerOfTwo (n : Nat) : Nat := Nat.pow 2 (bitWidth (n - 1))

theorem bitWidth_le_iff {n k : Nat} : bitWidth n ≤ k ↔ n < Nat.pow 2 k := by
  unfold bitWidth
  split
  · subst n
    exact iff_of_true (Nat.zero_le k) (Nat.two_pow_pos k)
  · next h => exact Nat.succ_le_iff.trans (Nat.log2_lt h)

theorem lt_two_pow_bitWidth (n : Nat) : n < Nat.pow 2 (bitWidth n) :=
  bitWidth_le_iff.1 (Nat.le_refl _)

theorem le_ceilPowerOfTwo (n : Nat) : n ≤ ceilPowerOfTwo n := by
  have := lt_two_pow_bitWidth (n - 1)
  unfold ceilPowerOfTwo
  omega

theorem ceilPowerOfTwo_le {n k : Nat} (h : n ≤ Nat.pow 2 k) : ceilPowerOfTwo n ≤ Nat.pow 2 k := by
  have hk : 0 < Nat.pow 2 k := Nat.two_pow_pos k
  have hn : n - 1 < Nat.pow 2 k := by omega
  exact Nat.pow_le_pow_right (by decide) (bitWidth_le_iff.2 hn)

end WireSchema
