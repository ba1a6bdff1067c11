import WireSchema.Proofs.LengthSet.Unchecked

/-!
# Proofs/LengthSet/Checked — checked arithmetic is up to the greatest members

The checked forms work on whole sets, but whether they have a result is up to a single number, the
greatest member that the result would have in unbounded arithmetic: a result **reaches** `n` if it
is there exactly if `n` is a length, and `n` is its greatest member then (`Reaches`).  One checked
step behind the other reaches what their numbers do one behind the other (`Reaches.bind`), as long
as the numbers do not go down.
-/

namespace WireSchema
namespace LengthSet

variable {s t : LengthSet} {r? : Option LengthSet} {b n m : Nat}

/-- **The checked result has the greatest member `n`**, and is missing exactly if that is not a
length. -/
structure Reaches (r? : Option LengthSet) (n : Nat) : Prop where
  exists_of_lt : n < lengthLimit → ∃ r, r? = some r ∧ r.max? = some n
  eq_none_of_le : lengthLimit ≤ n → r? = none

/-- A set that is there reaches its greatest member. -/
theorem reaches_some (h : s.max? = some n) : Reaches (some s) n where
  exists_of_lt _ := ⟨s, rfl, h⟩
  eq_none_of_le hle := absurd (lt_of_mem (mem_of_max? h)) (Nat.not_lt.2 hle)

/-- A result whose members make up a set reaches the greatest element of the set, if it is there
whenever that is a length. -/
theorem Reaches.of_mem {S : Set Nat} (hgreatest : IsGreatest S n)
    (hmem : ∀ r, r? = some r → ∀ z, z ∈ r ↔ z ∈ S) (hlt : n < lengthLimit → ∃ r, r? = some r) :
    Reaches r? n where
  exists_of_lt hn := by
    obtain ⟨r, hr⟩ := hlt hn
    have hset : r.toSet = S := Set.ext (hmem r hr)
    exact ⟨r, hr, max?_eq_some_iff.2 (hset ▸ hgreatest)⟩
  eq_none_of_le hle := Option.eq_none_iff_forall_ne_some.2 fun r hr =>
    Nat.not_lt.2 hle (lt_of_mem ((hmem r hr n).2 hgreatest.1))

theorem Reaches.max?_eq {r : LengthSet} (h : Reaches r? n) (hr : r? = some r) :
    r.max? = some n := by
  rcases Nat.lt_or_ge n lengthLimit with hlt | hge
  · obtain ⟨r', hr', hmax⟩ := h.exists_of_lt hlt
    rwa [Option.some.inj (hr.symm.trans hr')]
  · exact absurd (hr.symm.trans (h.eq_none_of_le hge)) nofun

theorem Reaches.exists_iff (h : Reaches r? n) : (∃ r, r? = some r) ↔ n < lengthLimit := by
  constructor
  · rintro ⟨r, hr⟩
    exact lt_of_mem (mem_of_max? (h.max?_eq hr))
  · intro hlt
    obtain ⟨r, hr, -⟩ := h.exists_of_lt hlt
    exact ⟨r, hr⟩

theorem Reaches.le_of_eq_none (h : Reaches r? n) (hr : r? = none) : lengthLimit ≤ n := by
  by_contra hlt
  obtain ⟨r, hsome, -⟩ := h.exists_of_lt (Nat.not_le.1 hlt)
  exact absurd (hr.symm.trans hsome) nofun

/-- **One checked step behind the other.** -/
theorem Reaches.bind {f : LengthSet → Option LengthSet} (h : Reaches r? n) (hle : n ≤ m)
    (hf : ∀ r, r.max? = some n → Reaches (f r) m) : Reaches (r?.bind f) m := by
  rcases Nat.lt_or_ge n lengthLimit with hlt | hge
  · obtain ⟨r, rfl, hr⟩ := h.exists_of_lt hlt
    exact hf r hr
  · rw [h.eq_none_of_le hge]
    exact ⟨fun hlt => absurd (hge.trans hle) (Nat.not_le.2 hlt), fun _ => rfl⟩

/-! ## The three operations -/

theorem reaches_padTo? (hs : s.max? = some b) (a : Nat) : Reaches (s.padTo? a) (roundUp b a) :=
  .of_mem (isGreatest_roundUp hs a) (fun _ hr _ => mem_of_padTo? hr)
    (exists_padTo?_iff (isGreatest_roundUp hs a)).2

/-- **A checked sum goes well** where every sum fits. -/
theorem exists_add? (h : ∀ x ∈ s, ∀ y ∈ t, x + y < lengthLimit) : ∃ r, s.add? t = some r := by
  rw [add?]
  split
  · next x y hx hy => exact ⟨_, dif_pos (h x (mem_of_max? hx) y (mem_of_max? hy))⟩
  · exact ⟨∅, rfl⟩

theorem reaches_add? (hs : s.max? = some n) (ht : t.max? = some m) :
    Reaches (s.add? t) (n + m) := by
  have hgreatest : IsGreatest {z | ∃ x ∈ s, ∃ y ∈ t, x + y = z} (n + m) := by
    refine ⟨⟨n, mem_of_max? hs, m, mem_of_max? ht, rfl⟩, ?_⟩
    rintro _ ⟨x, hx, y, hy, rfl⟩
    exact Nat.add_le_add (le_of_max? hs hx) (le_of_max? ht hy)
  refine .of_mem hgreatest (fun _ hr _ => mem_of_add? hr) fun hlt => exists_add? fun x hx y hy => ?_
  exact (Nat.add_le_add (le_of_max? hs hx) (le_of_max? ht hy)).trans_lt hlt

/-- **A checked shift goes well** where every shifted member fits. -/
theorem exists_shift? (h : ∀ x ∈ s, x + n < lengthLimit) : ∃ r, s.shift? n = some r := by
  rw [shift?]
  split
  · next top htop => exact ⟨_, dif_pos (h top (mem_of_max? htop))⟩
  · exact ⟨∅, rfl⟩

theorem reaches_shift? (hs : s.max? = some b) (n : Nat) : Reaches (s.shift? n) (b + n) := by
  have hgreatest : IsGreatest {z | ∃ x ∈ s, x + n = z} (b + n) := by
    refine ⟨⟨b, mem_of_max? hs, rfl⟩, ?_⟩
    rintro _ ⟨x, hx, rfl⟩
    exact Nat.add_le_add_right (le_of_max? hs hx) n
  refine .of_mem hgreatest (fun _ hr _ => mem_of_shift? hr) fun hlt => exists_shift? fun x hx => ?_
  exact (Nat.add_le_add_right (le_of_max? hs hx) n).trans_lt hlt

end LengthSet
end WireSchema
