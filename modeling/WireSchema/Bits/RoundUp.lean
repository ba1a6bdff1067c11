/-!
# Bits/RoundUp — rounding a length up to an alignment

A value that has to start at a multiple of `a` bits starts at `roundUp n a`, the least multiple of
`a` that is not below `n`; alignments `0` and `1` ask for nothing.  The laws are those of a closure:
the result is a multiple (`dvd_roundUp`), is not below (`le_roundUp`), and is the least such
(`roundUp_le`).  Monotony, the fixed points, the shift by a multiple and what comes of rounding up
twice follow from these three.
-/

namespace WireSchema

/-- **The least multiple of `a` that is not below `n`**, and `n` itself where `a` is `0` or `1`. -/
def roundUp (n a : Nat) : Nat := n + (a - n % a) % a

@[simp] theorem roundUp_zero_right (n : Nat) : roundUp n 0 = n := by
  simp [roundUp]

@[simp] theorem roundUp_one_right (n : Nat) : roundUp n 1 = n := by
  simp [roundUp, Nat.mod_one]

theorem le_roundUp (n a : Nat) : n ≤ roundUp n a := Nat.le_add_right _ _

theorem roundUp_lt {a : Nat} (n : Nat) (h : 0 < a) : roundUp n a < n + a :=
  Nat.add_lt_add_left (Nat.mod_lt _ h) n

theorem dvd_roundUp (n a : Nat) : a ∣ roundUp n a ∨ a = 0 := by
  rcases Nat.eq_zero_or_pos a with h | h
  · exact Or.inr h
  · left
    have hlt := Nat.mod_lt n h
    rw [Nat.dvd_iff_mod_eq_zero, roundUp, Nat.add_mod_mod]
    have : n + (a - n % a) = a * (n / a + 1) := by
      have := Nat.div_add_mod n a
      rw [Nat.mul_add]
      omega
    rw [this, Nat.mul_mod_right]

theorem dvd_roundUp_of_pos {a : Nat} (n : Nat) (h : 0 < a) : a ∣ roundUp n a :=
  (dvd_roundUp n a).resolve_right (Nat.ne_of_gt h)

/-- **No multiple lies between** `n` and `roundUp n a`. -/
theorem roundUp_le {n a m : Nat} (hm : a ∣ m) (h : n ≤ m) : roundUp n a ≤ m := by
  rcases Nat.eq_zero_or_pos a with ha | ha
  · subst ha
    simpa using h
  · obtain ⟨j, hj⟩ := dvd_roundUp_of_pos n ha
    obtain ⟨k, rfl⟩ := hm
    have hlt := roundUp_lt n ha
    rw [hj] at hlt ⊢
    refine Nat.mul_le_mul_left a (Nat.lt_succ_iff.1 (Nat.lt_of_mul_lt_mul_left (a := a) ?_))
    rw [Nat.mul_succ]
    omega

theorem roundUp_eq_self {n a : Nat} (h : a ∣ n) : roundUp n a = n :=
  Nat.le_antisymm (roundUp_le h (Nat.le_refl n)) (le_roundUp n a)

theorem roundUp_le_roundUp {n m : Nat} (a : Nat) (h : n ≤ m) : roundUp n a ≤ roundUp m a := by
  rcases Nat.eq_zero_or_pos a with ha | ha
  · simpa [ha] using h
  · exact roundUp_le (dvd_roundUp_of_pos m ha) (Nat.le_trans h (le_roundUp m a))

/-- **The coarser of two alignments counts**, where the finer one came first. -/
theorem roundUp_roundUp {a b : Nat} (n : Nat) (h : a ∣ b) (hb : 0 < b) :
    roundUp (roundUp n a) b = roundUp n b := by
  have hdvd : b ∣ roundUp n b := dvd_roundUp_of_pos n hb
  have hle : roundUp n a ≤ roundUp n b := roundUp_le (Nat.dvd_trans h hdvd) (le_roundUp n b)
  exact Nat.le_antisymm (roundUp_le hdvd hle) (roundUp_le_roundUp b (le_roundUp n a))

/-- Rounding commutes with a shift by a multiple of the alignment. -/
theorem roundUp_add_left {a k : Nat} (n : Nat) (h : a ∣ k) :
    roundUp (k + n) a = k + roundUp n a := by
  obtain ⟨j, rfl⟩ := h
  simp [roundUp, Nat.add_assoc]

end WireSchema
