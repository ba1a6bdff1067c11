import WireSchema.Proofs.LengthSet.Checked

/-!
# Proofs/LengthSet/Outcomes — what arithmetic on lengths comes to

Sums, shifts and padding have a result in unbounded arithmetic, a set of naturals, which is a
`LengthSet` exactly if all its elements are lengths (`exists_toSet_eq_iff`).  A checked form **comes
to** this set (`ComesTo`): it is the set where there is one, and missing otherwise.  A form without
a check has the same results, and faults where the checked one has none.

All forms of an operation do the same, then, whichever short cuts they take and in whatever order
they go from member to member (`checked_and_unchecked`).
-/

open scoped Pointwise

namespace WireSchema
namespace LengthSet

variable {s t : LengthSet} {q? r? : Option LengthSet} {x : Except Fault LengthSet} {S T : Set Nat}
  {a n : Nat}

/-! ## Sets of lengths -/

/-- The elements of a set of naturals below a bound, in ascending order. -/
theorem exists_ascending_of_lt {bound : Nat} (h : ∀ z ∈ S, z < bound) :
    ∃ xs : List Nat, xs.Pairwise (· < ·) ∧ ∀ z, z ∈ xs ↔ z ∈ S := by
  classical
  refine ⟨(List.range bound).filter (· ∈ S), List.pairwise_lt_range.filter _, fun z => ?_⟩
  rw [List.mem_filter, List.mem_range, decide_eq_true_iff]
  exact and_iff_right_of_imp (h z)

/-- **A set of naturals is a set of lengths** exactly if all its elements are. -/
theorem exists_toSet_eq_iff : (∃ r : LengthSet, r.toSet = S) ↔ ∀ z ∈ S, z < lengthLimit := by
  constructor
  · rintro ⟨r, rfl⟩ z hz
    exact lt_of_mem hz
  · intro h
    obtain ⟨xs, hxs, hmem⟩ := exists_ascending_of_lt h
    exact ⟨⟨xs, hxs, fun z hz => h z ((hmem z).1 hz)⟩, Set.ext hmem⟩

/-- **A checked result comes to a set of naturals**: it is that set where there is one of lengths,
and missing otherwise. -/
def ComesTo (r? : Option LengthSet) (S : Set Nat) : Prop := ∀ r, r? = some r ↔ r.toSet = S

theorem ComesTo.eq_none_iff (h : ComesTo r? S) : r? = none ↔ ∃ z ∈ S, lengthLimit ≤ z := by
  have hexists : (∃ r, r? = some r) ↔ ∀ z ∈ S, z < lengthLimit :=
    (exists_congr h).trans exists_toSet_eq_iff
  rw [← not_iff_not, ← ne_eq, Option.ne_none_iff_exists', hexists]
  simp only [not_exists, not_and, Nat.not_le]

/-- What comes to the same set is the same. -/
theorem ComesTo.eq (h : ComesTo q? S) (h' : ComesTo r? S) : q? = r? :=
  Option.ext fun r => (h r).trans (h' r).symm

/-- What comes to the set wherever it is one of lengths. -/
theorem comesTo_of_mem (hmem : ∀ r, r? = some r → r.toSet = S)
    (hlt : (∀ z ∈ S, z < lengthLimit) → ∃ r, r? = some r) : ComesTo r? S := by
  refine fun r => ⟨hmem r, fun hr => ?_⟩
  obtain ⟨r', hr'⟩ := hlt (exists_toSet_eq_iff.1 ⟨r, hr⟩)
  rw [hr', toSet_inj.1 ((hmem r' hr').trans hr.symm)]

/-! ## The sets of the three operations -/

/-- **The least multiples of `a` that are not below** the elements of `S`; the alignments `0` and
`1` ask for nothing. -/
def alignedUp (S : Set Nat) (a : Nat) : Set Nat :=
  if a ≤ 1 then S else {z | ∃ x ∈ S, IsLeast {m | a ∣ m ∧ x ≤ m} z}

/-- Rounding up leads to the least multiple that is not below. -/
theorem isLeast_roundUp (n : Nat) (h : 0 < a) : IsLeast {m | a ∣ m ∧ n ≤ m} (roundUp n a) :=
  ⟨⟨dvd_roundUp_of_pos n h, le_roundUp n a⟩, fun _ hm => roundUp_le hm.1 hm.2⟩

theorem alignedUp_eq_image (S : Set Nat) (a : Nat) : alignedUp S a = (roundUp · a) '' S := by
  rw [alignedUp]
  split_ifs with ha
  · have hfix : ∀ x ∈ S, roundUp x a = x := fun x _ => by
      have : a = 0 ∨ a = 1 := by omega
      rcases this with rfl | rfl
      · exact roundUp_zero_right x
      · exact roundUp_one_right x
    rw [Set.image_congr hfix, Set.image_id']
  · ext z
    refine exists_congr fun x => and_congr_right fun _ => ?_
    have hleast := isLeast_roundUp x (Nat.lt_of_succ_lt (Nat.not_le.1 ha))
    exact ⟨hleast.unique, fun hz => hz ▸ hleast⟩

theorem comesTo_add? (s t : LengthSet) : ComesTo (s.add? t) (s.toSet + t.toSet) :=
  comesTo_of_mem (fun _ hr => Set.ext fun _ => mem_of_add? hr) fun hlt =>
    exists_add? fun x hx y hy => hlt (x + y) ⟨x, hx, y, hy, rfl⟩

theorem comesTo_shift? (s : LengthSet) (n : Nat) : ComesTo (s.shift? n) (s.toSet + {n}) := by
  rw [Set.add_singleton]
  exact comesTo_of_mem (fun _ hr => Set.ext fun _ => mem_of_shift? hr) fun hlt =>
    exists_shift? fun x hx => hlt (x + n) ⟨x, hx, rfl⟩

theorem comesTo_padTo? (s : LengthSet) (a : Nat) : ComesTo (s.padTo? a) (alignedUp s.toSet a) := by
  rw [alignedUp_eq_image]
  exact comesTo_of_mem (fun _ hr => Set.ext fun _ => mem_of_padTo? hr) fun hlt =>
    exists_padTo? fun x hx => hlt (roundUp x a) ⟨x, hx, rfl⟩

/-! ## From member to member -/

/-- A set that is made of a list comes to the members of the list. -/
theorem comesTo_ofList? (xs : List Nat) : ComesTo (ofList? xs) {z | z ∈ xs} := by
  have hall : xs.all (· < lengthLimit) = true ↔ ∀ z ∈ xs, z < lengthLimit := by
    simp only [List.all_eq_true, decide_eq_true_eq]
  refine comesTo_of_mem (fun r hr => ?_) fun hlt => ⟨_, dif_pos (hall.2 hlt)⟩
  rw [ofList?] at hr
  split at hr
  · obtain rfl := Option.some.inj hr
    ext z
    refine (Ascending.mem_unionMap fun _ _ => List.pairwise_singleton _ _).trans ?_
    simp
  · exact absurd hr.symm (Option.some_ne_none r)

theorem comesTo_addEach? (s t : LengthSet) : ComesTo (s.addEach? t) (s.toSet + t.toSet) := by
  have hset : {z | z ∈ s.toList.flatMap fun x => t.toList.map (x + ·)} = s.toSet + t.toSet := by
    ext z
    simp only [Set.mem_ofPred_eq, List.mem_flatMap, List.mem_map, mem_toList, Set.mem_add,
      mem_toSet]
  exact hset ▸ comesTo_ofList? _

theorem comesTo_shiftEach? (s : LengthSet) (n : Nat) :
    ComesTo (s.shiftEach? n) (s.toSet + {n}) := by
  have hset : {z | z ∈ s.toList.map (· + n)} = s.toSet + {n} := by
    ext z
    simp only [Set.mem_ofPred_eq, List.mem_map, mem_toList, Set.add_singleton, Set.mem_image,
      mem_toSet]
  exact hset ▸ comesTo_ofList? _

theorem comesTo_padEach? (s : LengthSet) (a : Nat) :
    ComesTo (s.padEach? a) (alignedUp s.toSet a) := by
  have hset : {z | z ∈ s.toList.map (roundUp · a)} = alignedUp s.toSet a := by
    ext z
    simp only [Set.mem_ofPred_eq, List.mem_map, mem_toList, alignedUp_eq_image, Set.mem_image,
      mem_toSet]
  exact hset ▸ comesTo_ofList? _

/-- Nothing changes in a shift by nothing. -/
theorem shiftInPlace_eq (s : LengthSet) (n : Nat) : s.shiftInPlace n = s.shift n := by
  rw [shiftInPlace]
  split
  · next hn =>
    subst hn
    refine (shift_eq_ok_iff.2 ?_).symm
    rw [Set.singleton_zero, add_zero]
  · rfl

/-! ## Without a check -/

/-- **Without a check** there are the same results, and a fault where the checked one is missing. -/
theorem eq_error_iff_of_ok (hok : ∀ r, x = .ok r ↔ r.toSet = S)
    (hsum : ∀ f, x = .error f → f = .sum) (f : Fault) :
    x = .error f ↔ f = .sum ∧ ∃ z ∈ S, lengthLimit ≤ z := by
  cases x with
  | error f' =>
    have hnone : ∃ z ∈ S, lengthLimit ≤ z := by
      by_contra hlt
      simp only [not_exists, not_and, Nat.not_le] at hlt
      obtain ⟨r, hr⟩ := exists_toSet_eq_iff.2 hlt
      exact absurd ((hok r).2 hr) nofun
    rw [hsum f' rfl, Except.error.injEq, eq_comm, and_iff_left hnone]
  | ok r =>
    refine iff_of_false nofun fun ⟨_, z, hz, hle⟩ => ?_
    exact absurd (exists_toSet_eq_iff.1 ⟨r, (hok r).1 rfl⟩ z hz) (Nat.not_lt.2 hle)

theorem eq_sum_of_add {f : Fault} (h : s.add t = .error f) : f = .sum := by
  rw [add] at h
  split_ifs at h
  exact (Except.error.inj h).symm

theorem eq_sum_of_shift {f : Fault} (h : s.shift n = .error f) : f = .sum := by
  rw [shift] at h
  split_ifs at h
  exact (Except.error.inj h).symm

theorem eq_sum_of_padTo {f : Fault} (h : s.padTo a = .error f) : f = .sum := by
  rw [padTo] at h
  split_ifs at h
  exact (Except.error.inj h).symm

/-! ## All forms together -/

/-- **Checked and unchecked forms compute one set** of naturals, in unbounded arithmetic.  The
result of each of them is that set; where an element of it is no length, the checked forms have no
result and the others fault. -/
structure Computes (S : Set Nat) (checked : List (Option LengthSet))
    (unchecked : List (Except Fault LengthSet)) : Prop where
  eq_some_iff : ∀ x ∈ checked, ∀ r, x = some r ↔ r.toSet = S
  eq_none_iff : ∀ x ∈ checked, x = none ↔ ∃ z ∈ S, lengthLimit ≤ z
  eq_ok_iff : ∀ x ∈ unchecked, ∀ r, x = .ok r ↔ r.toSet = S
  eq_error_iff : ∀ x ∈ unchecked, ∀ f, x = .error f ↔ f = .sum ∧ ∃ z ∈ S, lengthLimit ≤ z

theorem computes_of_comesTo {checked : List (Option LengthSet)}
    {unchecked : List (Except Fault LengthSet)} (hchecked : ∀ x ∈ checked, ComesTo x S)
    (hok : ∀ x ∈ unchecked, ∀ r, x = .ok r ↔ r.toSet = S)
    (hsum : ∀ x ∈ unchecked, ∀ f, x = .error f → f = .sum) : Computes S checked unchecked where
  eq_some_iff := hchecked
  eq_none_iff x hx := (hchecked x hx).eq_none_iff
  eq_ok_iff := hok
  eq_error_iff x hx := eq_error_iff_of_ok (hok x hx) (hsum x hx)

theorem computes_sums (s t : LengthSet) :
    Computes (s.toSet + t.toSet) [s.add? t, s.addEach? t] [s.add t] := by
  refine computes_of_comesTo ?_ ?_ ?_
  · exact List.forall_mem_cons.2
      ⟨comesTo_add? s t, List.forall_mem_singleton.2 (comesTo_addEach? s t)⟩
  · exact List.forall_mem_singleton.2 fun _ => add_eq_ok_iff
  · exact List.forall_mem_singleton.2 fun _ => eq_sum_of_add

theorem computes_shifts (s : LengthSet) (n : Nat) :
    Computes (s.toSet + {n}) [s.shift? n, s.shiftEach? n] [s.shift n, s.shiftInPlace n] := by
  rw [shiftInPlace_eq]
  refine computes_of_comesTo ?_ ?_ ?_
  · exact List.forall_mem_cons.2
      ⟨comesTo_shift? s n, List.forall_mem_singleton.2 (comesTo_shiftEach? s n)⟩
  · exact List.forall_mem_cons.2
      ⟨fun _ => shift_eq_ok_iff, List.forall_mem_singleton.2 fun _ => shift_eq_ok_iff⟩
  · exact List.forall_mem_cons.2
      ⟨fun _ => eq_sum_of_shift, List.forall_mem_singleton.2 fun _ => eq_sum_of_shift⟩

theorem computes_paddings (s : LengthSet) (a : Nat) :
    Computes (alignedUp s.toSet a) [s.padTo? a, s.padEach? a] [s.padTo a] := by
  refine computes_of_comesTo ?_ ?_ ?_
  · exact List.forall_mem_cons.2
      ⟨comesTo_padTo? s a, List.forall_mem_singleton.2 (comesTo_padEach? s a)⟩
  · rw [alignedUp_eq_image]
    exact List.forall_mem_singleton.2 fun _ => padTo_eq_ok_iff
  · exact List.forall_mem_singleton.2 fun _ => eq_sum_of_padTo

/-- **Every form of an operation computes the same.**  Sums, with a check on the greatest members,
with one on each of them, and without a check, compute the pointwise sum of the sets; shifts, in
place or not, compute the sum with a single number; paddings compute the least multiples of the
alignment that are not below, and the set itself for the alignments `0` and `1`.  No short cut
changes the result: not for a set that is aligned already, nor for an empty one, nor for a shift by
`0`. -/
theorem checked_and_unchecked (s t : LengthSet) (n : Nat) :
    Computes (s.toSet + t.toSet) [s.add? t, s.addEach? t] [s.add t] ∧
      Computes (s.toSet + {n}) [s.shift? n, s.shiftEach? n] [s.shift n, s.shiftInPlace n] ∧
      Computes (alignedUp s.toSet n) [s.padTo? n, s.padEach? n] [s.padTo n] :=
  ⟨computes_sums s t, computes_shifts s n, computes_paddings s n⟩

end LengthSet
end WireSchema
