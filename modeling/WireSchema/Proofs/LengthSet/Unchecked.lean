import Mathlib.Algebra.Group.Pointwise.Set.Basic
import Mathlib.Order.Bounds.Basic
import WireSchema.Proofs.LengthSet.Rows

/-!
# Proofs/LengthSet/Unchecked — when arithmetic on lengths goes well

The forms that are asked for without a check have a result where every member of it fits
(`exists_padTo`, `exists_add`, `exists_shift`).  Whether it does is up to the largest members alone:
they are the greatest elements (`max?_eq_some_iff`), and rounding up keeps the greatest
(`isGreatest_roundUp`).  The result is the set that its members make up (`padTo_eq_ok_iff`,
`add_eq_ok_iff`, `shift_eq_ok_iff`), the pointwise sum of sets for the last two.
-/

open scoped Pointwise

namespace WireSchema
namespace LengthSet

variable {s t : LengthSet} {a n : Nat}

/-! ## Without a check -/

/-- **Padding goes well** where every padded member fits. -/
theorem exists_padTo (h : ∀ x ∈ s, roundUp x a < lengthLimit) :
    ∃ r, s.padTo a = .ok r ∧ ∀ z, z ∈ r ↔ ∃ x ∈ s, roundUp x a = z := by
  by_cases haligned : s.isAligned a = true
  · have hsame : s.padTo? a = some s := if_pos haligned
    exact ⟨s, if_pos haligned, fun z => mem_of_padTo? hsame⟩
  · refine ⟨padOf s a h, ?_, fun z => mem_padOf⟩
    rw [padTo, if_neg haligned, dif_pos (padsFit_iff.2 h)]

/-- **A pointwise sum goes well** where every sum fits. -/
theorem exists_add (h : ∀ x ∈ s, ∀ y ∈ t, x + y < lengthLimit) :
    ∃ r, s.add t = .ok r ∧ ∀ z, z ∈ r ↔ ∃ x ∈ s, ∃ y ∈ t, x + y = z :=
  ⟨sumOf s t h, dif_pos (sumsFit_iff.2 h), fun _ => mem_sumOf⟩

/-- **A shift goes well** where every shifted member fits. -/
theorem exists_shift (h : ∀ x ∈ s, x + n < lengthLimit) :
    ∃ r, s.shift n = .ok r ∧ ∀ z, z ∈ r ↔ ∃ x ∈ s, x + n = z :=
  ⟨shiftOf s n h, dif_pos (shiftsFit_iff.2 h), fun _ => mem_shiftOf⟩

/-! ## Results -/

theorem toSet_inj : s.toSet = t.toSet ↔ s = t :=
  ⟨fun h => ext fun x => Set.ext_iff.1 h x, congrArg toSet⟩

/-- **Padding without a check** comes to the set of the padded members, if to anything. -/
theorem padTo_eq_ok_iff {r : LengthSet} :
    s.padTo a = .ok r ↔ r.toSet = {z | ∃ x ∈ s, roundUp x a = z} := by
  constructor
  · intro h
    unfold padTo at h
    split_ifs at h with haligned
    · obtain rfl := Except.ok.inj h
      exact Set.ext fun z => mem_of_padTo? (if_pos haligned)
    · obtain rfl := Except.ok.inj h
      exact Set.ext fun z => mem_padOf
  · intro h
    obtain ⟨r', hr', hmem⟩ := exists_padTo (s := s) (a := a) fun x hx =>
      lt_of_mem (h.superset ⟨x, hx, rfl⟩)
    rw [hr', toSet_inj.1 ((Set.ext hmem).trans h.symm)]

/-- **A sum without a check** comes to the pointwise sum of the sets, if to anything. -/
theorem add_eq_ok_iff {r : LengthSet} : s.add t = .ok r ↔ r.toSet = s.toSet + t.toSet := by
  constructor
  · intro h
    unfold add at h
    split_ifs at h
    obtain rfl := Except.ok.inj h
    exact Set.ext fun z => mem_sumOf
  · intro h
    obtain ⟨r', hr', hmem⟩ := exists_add (s := s) (t := t) fun x hx y hy =>
      lt_of_mem (h.superset ⟨x, hx, y, hy, rfl⟩)
    rw [hr', toSet_inj.1 ((Set.ext hmem).trans h.symm)]

/-- **A shift without a check** comes to the set of the shifted members, if to anything. -/
theorem shift_eq_ok_iff {r : LengthSet} : s.shift n = .ok r ↔ r.toSet = s.toSet + {n} := by
  constructor
  · intro h
    unfold shift at h
    split_ifs at h
    obtain rfl := Except.ok.inj h
    ext z
    simp [Set.add_singleton]
  · intro h
    obtain ⟨r', hr', hmem⟩ := exists_shift (s := s) (n := n) fun x hx =>
      lt_of_mem (h.superset ⟨x, hx, n, rfl, rfl⟩)
    rw [Set.add_singleton] at h
    rw [hr', toSet_inj.1 ((Set.ext hmem).trans h.symm)]

/-! ## Largest and smallest members -/

/-- **The largest member is the greatest element.** -/
theorem max?_eq_some_iff {top : Nat} : s.max? = some top ↔ IsGreatest s.toSet top := by
  constructor
  · exact fun h => ⟨mem_of_max? h, fun _ hx => le_of_max? h hx⟩
  · intro h
    obtain ⟨m, hm⟩ := exists_max? h.1
    rw [hm, Nat.le_antisymm (h.2 (mem_of_max? hm)) (le_of_max? hm h.1)]

/-- **The smallest member is the least element.** -/
theorem min?_eq_some_iff {low : Nat} : s.min? = some low ↔ IsLeast s.toSet low := by
  constructor
  · exact fun h => ⟨mem_of_min? h, fun _ hx => le_of_min? h hx⟩
  · intro h
    obtain ⟨m, hm⟩ := exists_min? h.1
    rw [hm, Nat.le_antisymm (le_of_min? hm h.1) (h.2 (mem_of_min? hm))]

/-- A shift takes the smallest member with it. -/
theorem min?_of_shift? {r : LengthSet} {low : Nat} (hlow : s.min? = some low)
    (h : s.shift? n = some r) : r.min? = some (low + n) := by
  refine min?_eq_some_iff.2 ⟨(mem_of_shift? h).2 ⟨low, mem_of_min? hlow, rfl⟩, ?_⟩
  rintro z hz
  obtain ⟨x, hx, rfl⟩ := (mem_of_shift? h).1 hz
  exact Nat.add_le_add_right (le_of_min? hlow hx) n

/-- Rounding up keeps the greatest element. -/
theorem isGreatest_roundUp {top : Nat} (h : s.max? = some top) (a : Nat) :
    IsGreatest {z | ∃ x ∈ s, roundUp x a = z} (roundUp top a) := by
  refine ⟨⟨top, mem_of_max? h, rfl⟩, ?_⟩
  rintro _ ⟨x, hx, rfl⟩
  exact roundUp_le_roundUp a (le_of_max? h hx)

/-- Rounding up commutes with a shift by multiples of the alignment. -/
theorem image_roundUp_add {S T : Set Nat} (h : ∀ x ∈ S, a ∣ x) :
    (roundUp · a) '' (S + T) = S + (roundUp · a) '' T := by
  ext z
  constructor
  · rintro ⟨_, ⟨x, hx, y, hy, rfl⟩, rfl⟩
    exact ⟨x, hx, roundUp y a, ⟨y, hy, rfl⟩, (roundUp_add_left y (h x hx)).symm⟩
  · rintro ⟨x, hx, _, ⟨y, hy, rfl⟩, rfl⟩
    exact ⟨x + y, ⟨x, hx, y, hy, rfl⟩, roundUp_add_left y (h x hx)⟩

/-- **Checked padding goes well** where every padded member fits. -/
theorem exists_padTo? (h : ∀ x ∈ s, roundUp x a < lengthLimit) : ∃ r, s.padTo? a = some r := by
  rw [padTo?]
  split
  · exact ⟨s, rfl⟩
  · split
    · next top htop => exact ⟨_, dif_pos (h top (mem_of_max? htop))⟩
    · exact ⟨∅, rfl⟩

/-- **Padding is refused** exactly where the greatest member padded does not fit. -/
theorem exists_padTo?_iff {b : Nat} (hb : IsGreatest {z | ∃ x ∈ s, roundUp x a = z} b) :
    (∃ r, s.padTo? a = some r) ↔ b < lengthLimit := by
  constructor
  · rintro ⟨r, hr⟩
    exact lt_of_mem ((mem_of_padTo? hr).2 hb.1)
  · exact fun hlt => exists_padTo? fun x hx => (hb.2 ⟨x, hx, rfl⟩).trans_lt hlt

end LengthSet
end WireSchema
