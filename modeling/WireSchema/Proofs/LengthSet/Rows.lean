import WireSchema.LengthSet.Replicate
import WireSchema.Proofs.LengthSet.ShortestWays

/-!
# Proofs/LengthSet/Rows — the lengths of a row of values are the sums of their lengths

The lengths of a row are searched for on a grid, from the smallest member up.  Where the search is
not refused it finds exactly the sums:

* `mem_of_sumsOfAtMost?` — the sums of at most so many steps;
* `mem_of_replicate?` — the `count`-fold sums, for a row of exactly `count` values;
* `sums_of_replicate?` — the same, with each sum written out as a list;
* `mem_of_replicateUpTo?` — the `k`-fold sums for `k ≤ count`, for a row of at most `count`.
-/

namespace WireSchema
namespace LengthSet

/-- The members as a set of naturals. -/
def toSet (s : LengthSet) : Set Nat := {x | x ∈ s}

@[simp] theorem mem_toSet {s : LengthSet} {x : Nat} : x ∈ s.toSet ↔ x ∈ s := Iff.rfl

/-! ## Sums of at most so many steps -/

theorem gcdOf_pos {steps : List Nat} (hne : steps ≠ []) (hpos : ∀ s ∈ steps, 0 < s) :
    0 < gcdOf steps := by
  obtain ⟨s, hs⟩ := List.exists_mem_of_ne_nil steps hne
  exact Nat.pos_of_dvd_of_pos (gcdOf_dvd hs) (hpos s hs)

/-- The strides are the quotients of the steps by their greatest common divisor. -/
theorem mem_strides_iff {steps : List Nat} (hgrid : 0 < gcdOf steps) {q : Nat} :
    q ∈ steps.map (· / gcdOf steps) ↔ q * gcdOf steps ∈ steps := by
  rw [List.mem_map]
  constructor
  · rintro ⟨s, hs, rfl⟩
    rwa [Nat.div_mul_cancel (gcdOf_dvd hs)]
  · exact fun h => ⟨_, h, Nat.mul_div_cancel q hgrid⟩

theorem ascending_strides {steps : List Nat} (hasc : steps.Pairwise (· < ·)) :
    (steps.map (· / gcdOf steps)).Pairwise (· < ·) := by
  refine List.pairwise_map.2 (hasc.imp_of_mem fun hs ht hlt => ?_)
  exact Nat.div_lt_div_of_lt_of_dvd (gcdOf_dvd ht) hlt

theorem pos_of_mem_strides {steps : List Nat} (hpos : ∀ s ∈ steps, 0 < s)
    (hgrid : 0 < gcdOf steps) : ∀ q ∈ steps.map (· / gcdOf steps), 0 < q := by
  intro q hq
  exact Nat.pos_of_mul_pos_right (hpos _ ((mem_strides_iff hgrid).1 hq))

/-- **Sums of strides** are sums of steps, read on the grid. -/
theorem mem_rowSums_strides_iff {steps : List Nat} (hgrid : 0 < gcdOf steps) {i k : Nat} :
    i ∈ rowSums {q | q ∈ steps.map (· / gcdOf steps)} k ↔
      i * gcdOf steps ∈ rowSums {s | s ∈ steps} k := by
  have hset : {q | q ∈ steps.map (· / gcdOf steps)} = {q | q * gcdOf steps ∈ {s | s ∈ steps}} :=
    Set.ext fun q => mem_strides_iff hgrid
  rw [hset]
  exact mem_rowSums_scale hgrid fun s hs => gcdOf_dvd hs

/-- **The cells in reach are the sums** of at most `count` steps, as far as there are cells. -/
theorem reaches_strides_iff {steps : List Nat} (hasc : steps.Pairwise (· < ·))
    (hpos : ∀ s ∈ steps, 0 < s) (hgrid : 0 < gcdOf steps) {cells count i : Nat} (hi : i < cells) :
    reaches (fewestSteps (steps.map (· / gcdOf steps)) cells) count i = true ↔
      ∃ k ≤ count, i * gcdOf steps ∈ rowSums {s | s ∈ steps} k := by
  rw [reaches_fewestSteps_iff (ascending_strides hasc) (pos_of_mem_strides hpos hgrid) hi]
  exact exists_congr fun k => and_congr_right fun _ => mem_rowSums_strides_iff hgrid

/-- The only sum of no steps, or of none at all, is zero. -/
theorem exists_mem_rowSums_empty {L : Set Nat} {count z : Nat} (h : count = 0 ∨ L = ∅) :
    (∃ k ≤ count, z ∈ rowSums L k) ↔ z = 0 := by
  constructor
  · rintro ⟨k, hk, hz⟩
    rcases k with - | k
    · exact hz
    · obtain ⟨x, hx, -⟩ := mem_rowSums_succ.1 hz
      rcases h with rfl | rfl
      · omega
      · exact absurd hx (Set.notMem_empty x)
  · rintro rfl
    exact ⟨0, Nat.zero_le count, rfl⟩

/-- **The sums of at most `count` steps**, where they are not refused. -/
theorem mem_of_sumsOfAtMost? {steps : List Nat} {positive : ∀ s ∈ steps, 0 < s} {count : Nat}
    {r : LengthSet} (hasc : steps.Pairwise (· < ·))
    (h : sumsOfAtMost? steps positive count = some r) {z : Nat} :
    z ∈ r ↔ ∃ k ≤ count, z ∈ rowSums {s | s ∈ steps} k := by
  unfold sumsOfAtMost? at h
  split at h
  · next hnone =>
    obtain rfl := Option.some.inj h
    obtain rfl := List.getLast?_eq_none_iff.1 hnone
    rw [mem_zero, exists_mem_rowSums_empty (Or.inr (by simp))]
  · next largest hlast =>
    dsimp only at h
    split_ifs at h with hcount
    · obtain rfl := Option.some.inj h
      rw [mem_zero, exists_mem_rowSums_empty (Or.inl hcount)]
    · obtain rfl := Option.some.inj h
      have hgrid : 0 < gcdOf steps :=
        gcdOf_pos (List.ne_nil_of_mem (List.mem_of_getLast? hlast)) positive
      refine mem_gridPoints.trans ⟨?_, ?_⟩
      · rintro ⟨i, hi, hreach, rfl⟩
        exact (reaches_strides_iff hasc positive hgrid hi).1 hreach
      · rintro ⟨k, hk, hz⟩
        -- the sum is on the grid, and no further than `count` times the largest step
        obtain ⟨i, rfl⟩ := dvd_of_mem_rowSums (fun s hs => gcdOf_dvd hs) hz
        have htop := le_of_mem_rowSums (Ascending.le_getLast? hasc hlast) hz
        have hi : i < largest * count / gcdOf steps + 1 := by
          refine Nat.lt_succ_of_le ((Nat.le_div_iff_mul_le hgrid).2 ?_)
          rw [Nat.mul_comm]
          exact htop.trans (Nat.mul_le_mul_left largest hk)
        rw [Nat.mul_comm] at hz
        exact ⟨i, hi, (reaches_strides_iff hasc positive hgrid hi).2 ⟨k, hk, hz⟩, Nat.mul_comm i _⟩

/-! ## Rows of values -/

theorem ascending_stepsAbove {low : Nat} {s : LengthSet} :
    (stepsAbove low s).Pairwise (· < ·) := by
  refine List.pairwise_map.2 ((s.ascending.filter _).imp_of_mem fun ha _ hlt => ?_)
  have := (List.mem_filter.1 ha).2
  simp only [decide_eq_true_eq] at this
  omega

theorem setOf_stepsAbove {low : Nat} {s : LengthSet} :
    {x | x ∈ stepsAbove low s} = above low s.toSet := by
  ext x
  constructor
  · intro hx
    obtain ⟨y, hy, rfl⟩ := List.mem_map.1 hx
    obtain ⟨hys, hlt⟩ := List.mem_filter.1 hy
    have hlt : low < y := by simpa using hlt
    refine ⟨Nat.sub_pos_of_lt hlt, ?_⟩
    rwa [Nat.add_sub_cancel' hlt.le]
  · rintro ⟨hx, hmem⟩
    refine List.mem_map.2 ⟨low + x, List.mem_filter.2 ⟨hmem, ?_⟩, Nat.add_sub_cancel_left low x⟩
    simpa using hx

/-- **The lengths of `count` values in a row** are the `count`-fold sums of their lengths. -/
theorem mem_of_replicate? {s r : LengthSet} {count z : Nat} (h : s.replicate? count = some r) :
    z ∈ r ↔ z ∈ rowSums s.toSet count := by
  unfold replicate? at h
  split_ifs at h with hcount
  · obtain rfl := Option.some.inj h
    rw [hcount, mem_zero, mem_rowSums_zero]
  · split at h
    · next hmin =>
      obtain rfl := Option.some.inj h
      have hempty : s.toSet = ∅ := by
        have := List.head?_eq_none_iff.1 hmin
        ext x
        simp [← mem_toList, this]
      obtain ⟨k, rfl⟩ := Nat.exists_eq_succ_of_ne_zero hcount
      rw [mem_rowSums_succ, hempty]
      simp
    · next low hmin =>
      obtain ⟨steps, hsteps, hr⟩ := Option.bind_eq_some_iff.1 h
      have hlow : low ∈ s.toSet := mem_of_min? hmin
      have hleast : ∀ x ∈ s.toSet, low ≤ x := fun x hx => le_of_min? hmin hx
      rw [mem_of_shift? hr, mem_rowSums_iff_above hlow hleast]
      simp only [mem_of_sumsOfAtMost? ascending_stepsAbove hsteps, setOf_stepsAbove]
      constructor
      · rintro ⟨y, ⟨k, hk, hy⟩, rfl⟩
        exact ⟨k, hk, y, hy, rfl⟩
      · rintro ⟨k, hk, y, hy, rfl⟩
        exact ⟨y, ⟨k, hk, hy⟩, rfl⟩

/-- **Every sum of lengths, and nothing else**: where they are not refused, the lengths of a row are
what `count` lengths of single values add up to.  No values in a row take no room, and there is no
row of values that have no length. -/
theorem sums_of_replicate? {s r : LengthSet} {count : Nat} (h : s.replicate? count = some r) :
    r.toSet = {z | ∃ xs : List Nat, xs.length = count ∧ (∀ x ∈ xs, x ∈ s) ∧ xs.sum = z} ∧
      (count = 0 → r = zero) ∧ (s = ∅ → 0 < count → r = ∅) := by
  have hsums : r.toSet =
      {z | ∃ xs : List Nat, xs.length = count ∧ (∀ x ∈ xs, x ∈ s) ∧ xs.sum = z} :=
    Set.ext fun z => (mem_of_replicate? h).trans mem_rowSums_iff_exists_list
  refine ⟨hsums, ?_, ?_⟩
  · rintro rfl
    refine ext fun z => (mem_of_replicate? h).trans ?_
    rw [mem_rowSums_zero, mem_zero]
  · rintro rfl hcount
    obtain ⟨k, rfl⟩ := Nat.exists_eq_succ_of_ne_zero hcount.ne'
    refine ext fun z => (mem_of_replicate? h).trans (iff_of_false ?_ (not_mem_empty z))
    rintro ⟨x, hx, -⟩
    exact not_mem_empty x hx

/-- Three lengths at uneven distances. -/
def uneven : LengthSet := ⟨[8, 24, 64], by decide, by decide⟩

theorem sums_of_replicate?_uneven : ∃ r, uneven.replicate? 3 = some r ∧
    r.toList = [24, 40, 56, 72, 80, 96, 112, 136, 152, 192] ∧
    r.toSet = {z | ∃ xs : List Nat, xs.length = 3 ∧ (∀ x ∈ xs, x ∈ uneven) ∧ xs.sum = z} := by
  have hrun : (uneven.replicate? 3).map (·.toList) =
      some [24, 40, 56, 72, 80, 96, 112, 136, 152, 192] := by
    decide +kernel
  obtain ⟨r, hr, hlist⟩ := Option.map_eq_some_iff.1 hrun
  exact ⟨r, hr, hlist, (sums_of_replicate? hr).1⟩

/-- **The lengths of at most `count` values in a row** are the `k`-fold sums of their lengths for
`k ≤ count`. -/
theorem mem_of_replicateUpTo? {s r : LengthSet} {count z : Nat}
    (h : s.replicateUpTo? count = some r) :
    z ∈ r ↔ ∃ k ≤ count, z ∈ rowSums s.toSet k := by
  have hsteps : {x | x ∈ s.toList.filter (0 < ·)} = above 0 s.toSet := by
    ext x
    simp [above, mem_toList, and_comm]
  rw [mem_of_sumsOfAtMost? (s.ascending.filter _) h, hsteps, exists_mem_rowSums_iff_above_zero]

end LengthSet
end WireSchema
