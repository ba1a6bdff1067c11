import Mathlib.Data.List.Perm.Subperm
import Mathlib.Data.Set.Card
import WireSchema.Proofs.LengthSet.Checked

/-!
# Proofs/LengthSet/Grids — which rows are refused

The lengths of a row are searched for on the grid of the steps' greatest common divisor, up to the
longest row.  So three numbers decide whether there is a result: the longest row, which has to be a
length; the cells of the grid (`gridCells`), which may not be too many; and the looks that filling
them takes, one for each cell and step (`Fillable`).  How many lengths the row really has is never
counted, and there may be far fewer of them than cells (`ncard_rowSums_le`).

* `exists_replicate?_iff`, `exists_replicateUpTo?_iff` — the rows that are not refused, of a set
  with a smallest and a largest member.
* `Fillable.of_coarser` — larger steps on a coarser grid, and fewer of them, are no harder to fill.
* `size_le_of_replicate?` — a row that is not refused has no more lengths than cells.
* `exists_replicate?_of_le`, `exists_replicate?_of_replicateUpTo?` — so a row of `count` values that
  is not refused, or a row of at most so many, leaves no row of `k ≤ count` values refused.  For the
  latter the members as they are lie on a grid no coarser than that of their distances.
-/

namespace WireSchema
namespace LengthSet

variable {s t r : LengthSet} {steps steps' : List Nat} {base low top count k x : Nat}

/-! ## Grids -/

/-- The largest of the steps, which ascend; zero where there is none. -/
def largestStep (steps : List Nat) : Nat := steps.getLast?.getD 0

/-- **The cells of the grid** of the steps, from none to `count` of the largest. -/
def gridCells (steps : List Nat) (count : Nat) : Nat := largestStep steps * count / gcdOf steps + 1

/-- A grid of no steps has a single cell. -/
theorem gridCells_nil (count : Nat) : gridCells [] count = 1 := by
  simp [gridCells, largestStep]

/-- **The grid may be filled**: it does not have too many cells, and does not take too many looks. -/
structure Fillable (steps : List Nat) (count : Nat) : Prop where
  size : gridCells steps count ≤ maxSize
  work : gridCells steps count * steps.length ≤ maxWork

theorem dvd_gcdOf {g : Nat} (h : ∀ x ∈ steps, g ∣ x) : g ∣ gcdOf steps := by
  suffices hfold : ∀ start, g ∣ start → g ∣ steps.foldl Nat.gcd start from hfold 0 (dvd_zero g)
  induction steps with
  | nil => exact fun _ hstart => hstart
  | cons x steps ih =>
    intro start hstart
    obtain ⟨hx, hsteps⟩ := List.forall_mem_cons.1 h
    exact ih hsteps _ (Nat.dvd_gcd hstart hx)

/-- **Larger steps on a coarser grid** are no harder to fill, if there are no more of them and they
reach no further. -/
theorem Fillable.of_coarser (h : Fillable steps count) (hgrid : gcdOf steps ∣ gcdOf steps')
    (hreach : largestStep steps' * k ≤ largestStep steps * count)
    (hlength : steps'.length ≤ steps.length) : Fillable steps' k := by
  have hcells : gridCells steps' k ≤ gridCells steps count := by
    refine Nat.succ_le_succ ?_
    rcases Nat.eq_zero_or_pos (gcdOf steps') with hzero | hpos
    · rw [hzero, Nat.div_zero]
      exact Nat.zero_le _
    · calc largestStep steps' * k / gcdOf steps'
          ≤ largestStep steps * count / gcdOf steps' := Nat.div_le_div_right hreach
        _ ≤ largestStep steps * count / gcdOf steps :=
            Nat.div_le_div_left (Nat.le_of_dvd hpos hgrid) (Nat.pos_of_dvd_of_pos hgrid hpos)
  exact ⟨hcells.trans h.size, (Nat.mul_le_mul hcells hlength).trans h.work⟩

/-- **The sums that are not refused**: the largest has to be a length, and the grid to be
fillable. -/
theorem exists_sumsOfAtMost?_iff {positive : ∀ s ∈ steps, 0 < s} (hcount : count ≠ 0) :
    (∃ r, sumsOfAtMost? steps positive count = some r) ↔
      largestStep steps * count < lengthLimit ∧ Fillable steps count := by
  unfold sumsOfAtMost?
  split
  · next hnone =>
    -- without a step there is one cell, and nothing to look at
    obtain rfl := List.getLast?_eq_none_iff.1 hnone
    refine iff_of_true ⟨_, rfl⟩ ⟨?_, ?_, ?_⟩
    · rw [largestStep, List.getLast?_nil, Option.getD_none, Nat.zero_mul]
      decide
    · rw [gridCells_nil]
      decide
    · exact Nat.zero_le maxWork
  · next largest hlast =>
    have hlargest : largestStep steps = largest := by rw [largestStep, hlast, Option.getD_some]
    dsimp only
    rw [if_neg hcount, hlargest]
    constructor
    · rintro ⟨r, hr⟩
      split_ifs at hr with h
      exact ⟨h.1, by rw [gridCells, hlargest]; exact h.2.1, by
        rw [gridCells, hlargest]; exact h.2.2⟩
    · rintro ⟨htop, hsize, hwork⟩
      rw [gridCells, hlargest] at hsize hwork
      exact ⟨_, dif_pos ⟨htop, hsize, hwork⟩⟩

/-- **Every sum has a cell**: it is a multiple of the grid, and not above the largest sum. -/
theorem exists_cell_of_mem_rowSums (hasc : steps.Pairwise (· < ·)) (hk : k ≤ count)
    (hx : x ∈ rowSums {s | s ∈ steps} k) : ∃ i < gridCells steps count, gcdOf steps * i = x := by
  have hlargest : ∀ s ∈ {s | s ∈ steps}, s ≤ largestStep steps := by
    intro s hs
    rw [largestStep]
    cases hlast : steps.getLast? with
    | none => exact absurd (List.getLast?_eq_none_iff.1 hlast) (List.ne_nil_of_mem hs)
    | some largest => exact Ascending.le_getLast? hasc hlast s hs
  obtain ⟨i, rfl⟩ := dvd_of_mem_rowSums (fun _ hs => gcdOf_dvd hs) hx
  have hle : gcdOf steps * i ≤ largestStep steps * count :=
    (le_of_mem_rowSums hlargest hx).trans (Nat.mul_le_mul_left _ hk)
  rcases Nat.eq_zero_or_pos (gcdOf steps) with hzero | hpos
  · exact ⟨0, Nat.succ_pos _, by rw [hzero, Nat.zero_mul, Nat.zero_mul]⟩
  · refine ⟨i, Nat.lt_succ_of_le ?_, rfl⟩
    rwa [Nat.le_div_iff_mul_le hpos, Nat.mul_comm]

/-- A set whose members are numbered below `n` has at most `n` of them. -/
theorem ncard_le_of_numbered {S : Set Nat} {f : Nat → Nat} {n : Nat}
    (h : ∀ x ∈ S, ∃ i < n, f i = x) : S.ncard ≤ n := by
  have hsub : S ⊆ ((Finset.range n).image f : Finset Nat) := by
    intro x hx
    obtain ⟨i, hi, rfl⟩ := h x hx
    exact Finset.mem_coe.2 (Finset.mem_image_of_mem f (Finset.mem_range.2 hi))
  calc S.ncard ≤ (((Finset.range n).image f : Finset Nat) : Set Nat).ncard :=
        Set.ncard_le_ncard hsub (Finset.finite_toSet _)
    _ = ((Finset.range n).image f).card := Set.ncard_coe_finset _
    _ ≤ (Finset.range n).card := Finset.card_image_le
    _ = n := Finset.card_range n

/-! ## Steps above a member -/

theorem mem_stepsAbove : x ∈ stepsAbove low s ↔ 0 < x ∧ low + x ∈ s :=
  Set.ext_iff.1 (@setOf_stepsAbove low s) x

/-- The largest step leads from the smallest member to the largest. -/
theorem largestStep_stepsAbove (htop : s.max? = some top) :
    largestStep (stepsAbove low s) = top - low := by
  rw [largestStep]
  cases hlast : (stepsAbove low s).getLast? with
  | none =>
    have hempty : stepsAbove low s = [] := List.getLast?_eq_none_iff.1 hlast
    have hnot : top - low ∉ stepsAbove low s := by
      rw [hempty]
      exact List.not_mem_nil
    by_contra hne
    refine hnot (mem_stepsAbove.2 ⟨Nat.pos_of_ne_zero (Ne.symm hne), ?_⟩)
    have hlt : low < top := by
      change 0 ≠ top - low at hne
      omega
    rw [Nat.add_sub_cancel' hlt.le]
    exact mem_of_max? htop
  | some largest =>
    obtain ⟨hpos, hmem⟩ := mem_stepsAbove.1 (List.mem_of_getLast? hlast)
    have hle : low + largest ≤ top := le_of_max? htop hmem
    have hstep : top - low ∈ stepsAbove low s := by
      refine mem_stepsAbove.2 ⟨by omega, ?_⟩
      rw [Nat.add_sub_cancel' (by omega)]
      exact mem_of_max? htop
    have hge := Ascending.le_getLast? ascending_stepsAbove hlast _ hstep
    change largest = top - low
    omega

/-- The grid of the steps above a start has every member that lies above it. -/
theorem gcdOf_stepsAbove_dvd_sub (base : Nat) (hx : x ∈ s) :
    gcdOf (stepsAbove base s) ∣ x - base := by
  rcases Nat.lt_or_ge base x with hlt | hge
  · refine gcdOf_dvd (mem_stepsAbove.2 ⟨Nat.sub_pos_of_lt hlt, ?_⟩)
    rwa [Nat.add_sub_cancel' hlt.le]
  · rw [Nat.sub_eq_zero_of_le hge]
    exact dvd_zero _

/-- **Fewer members above a higher start** lie on a grid no finer, if the new start is on the grid
of the old one. -/
theorem gcdOf_stepsAbove_dvd (h : s.toSet ⊆ t.toSet) (hle : base ≤ low)
    (hlow : gcdOf (stepsAbove base t) ∣ low - base) :
    gcdOf (stepsAbove base t) ∣ gcdOf (stepsAbove low s) := by
  refine dvd_gcdOf fun x hx => (Nat.dvd_add_right hlow).1 ?_
  have hmem : low + x ∈ t := h (mem_stepsAbove.1 hx).2
  rw [← Nat.sub_add_comm hle]
  exact gcdOf_stepsAbove_dvd_sub base hmem

/-- **Fewer members above a higher start** are no more steps. -/
theorem length_stepsAbove_le (h : s.toSet ⊆ t.toSet) (hle : base ≤ low) :
    (stepsAbove low s).length ≤ (stepsAbove base t).length := by
  have hnodup : (s.toList.filter (low < ·)).Nodup := (s.ascending.filter _).imp Nat.ne_of_lt
  have hsub : s.toList.filter (low < ·) ⊆ t.toList.filter (base < ·) := by
    intro x hx
    obtain ⟨hmem, hlt⟩ := List.mem_filter.1 hx
    exact List.mem_filter.2 ⟨h hmem, decide_eq_true (hle.trans_lt (of_decide_eq_true hlt))⟩
  rw [stepsAbove, stepsAbove, List.length_map, List.length_map]
  exact (hnodup.subperm hsub).length_le

/-! ## Rows -/

/-- The steps of a row of at most so many values are the positive members. -/
theorem replicateUpTo?_eq (s : LengthSet) (count : Nat) :
    s.replicateUpTo? count = sumsOfAtMost? (stepsAbove 0 s) pos_of_mem_stepsAbove count := by
  have hsteps : s.toList.filter (0 < ·) = stepsAbove 0 s := by simp [stepsAbove]
  unfold replicateUpTo?
  congr 1

/-- **The rows of at most so many values that are not refused.** -/
theorem exists_replicateUpTo?_iff (htop : s.max? = some top) (hcount : count ≠ 0) :
    (∃ r, s.replicateUpTo? count = some r) ↔
      top * count < lengthLimit ∧ Fillable (stepsAbove 0 s) count := by
  rw [replicateUpTo?_eq, exists_sumsOfAtMost?_iff hcount, largestStep_stepsAbove htop, Nat.sub_zero]

/-- **The rows of exactly so many values that are not refused.** -/
theorem exists_replicate?_iff (hlow : s.min? = some low) (htop : s.max? = some top)
    (hcount : count ≠ 0) :
    (∃ r, s.replicate? count = some r) ↔
      top * count < lengthLimit ∧ Fillable (stepsAbove low s) count := by
  have hlargest : largestStep (stepsAbove low s) = top - low := largestStep_stepsAbove htop
  have hle : low ≤ top := le_of_max? htop (mem_of_min? hlow)
  -- the longest row is so many steps from the shortest
  have hlongest : (top - low) * count + low * count = top * count := by
    rw [← Nat.add_mul, Nat.sub_add_cancel hle]
  have hbind : s.replicate? count =
      (sumsOfAtMost? (stepsAbove low s) pos_of_mem_stepsAbove count).bind
        (·.shift? (low * count)) := by
    rw [replicate?, if_neg hcount, hlow]
  constructor
  · rintro ⟨r, hr⟩
    have hmem : top * count ∈ r :=
      (mem_of_replicate? hr).2 (mul_mem_rowSums (mem_of_max? htop) count)
    obtain ⟨sums, hsums, -⟩ := Option.bind_eq_some_iff.1 (hbind.symm.trans hr)
    exact ⟨lt_of_mem hmem, ((exists_sumsOfAtMost?_iff hcount).1 ⟨sums, hsums⟩).2⟩
  · rintro ⟨hlt, hfillable⟩
    obtain ⟨sums, hsums⟩ :
        ∃ sums, sumsOfAtMost? (stepsAbove low s) pos_of_mem_stepsAbove count = some sums :=
      (exists_sumsOfAtMost?_iff hcount).2 ⟨by rw [hlargest]; omega, hfillable⟩
    rw [hbind, hsums]
    refine exists_shift? fun y hy => ?_
    obtain ⟨m, hm, hy⟩ := (mem_of_sumsOfAtMost? ascending_stepsAbove hsums).1 hy
    have hstep : ∀ x ∈ {x | x ∈ stepsAbove low s}, x ≤ top - low := by
      intro x hx
      have := le_of_max? htop (mem_stepsAbove.1 hx).2
      omega
    have hbound : y ≤ (top - low) * count :=
      (le_of_mem_rowSums hstep hy).trans (Nat.mul_le_mul_left _ hm)
    omega

/-- **A row has no more lengths than its grid has cells.** -/
theorem ncard_rowSums_le (hlow : s.min? = some low) (count : Nat) :
    (rowSums s.toSet count).ncard ≤ gridCells (stepsAbove low s) count := by
  refine ncard_le_of_numbered (f := (gcdOf (stepsAbove low s) * · + low * count)) fun z hz => ?_
  obtain ⟨k, hk, y, hy, rfl⟩ := (mem_rowSums_iff_above (L := s.toSet) (mem_of_min? hlow)
    fun x hx => le_of_min? hlow hx).1 hz
  rw [← setOf_stepsAbove] at hy
  obtain ⟨i, hi, rfl⟩ := exists_cell_of_mem_rowSums ascending_stepsAbove hk hy
  exact ⟨i, hi, rfl⟩

/-- **The rows of at most so many values** have no more lengths together than their grid has
cells. -/
theorem ncard_rowSums_upTo_le (s : LengthSet) (count : Nat) :
    {z | ∃ k ≤ count, z ∈ rowSums s.toSet k}.ncard ≤ gridCells (stepsAbove 0 s) count := by
  refine ncard_le_of_numbered (f := (gcdOf (stepsAbove 0 s) * ·)) fun z hz => ?_
  obtain ⟨k, hk, hz⟩ := exists_mem_rowSums_iff_above_zero.2 hz
  rw [← setOf_stepsAbove] at hz
  exact exists_cell_of_mem_rowSums ascending_stepsAbove hk hz

/-! ## The lengths of a row, counted -/

/-- There is at most one sum for each cell, and there are not too many cells. -/
theorem size_le_of_sumsOfAtMost? {positive : ∀ s ∈ steps, 0 < s}
    (h : sumsOfAtMost? steps positive count = some r) : r.size ≤ maxSize := by
  have hzero : zero.size ≤ maxSize := by decide
  unfold sumsOfAtMost? at h
  split at h
  · exact Option.some.inj h ▸ hzero
  · dsimp only at h
    split_ifs at h with hcount hlimits
    · exact Option.some.inj h ▸ hzero
    · obtain rfl := Option.some.inj h
      refine le_trans ?_ hlimits.2.1
      rw [size]
      dsimp only
      rw [gridPoints, List.length_map]
      exact (List.length_filter_le _ _).trans_eq List.length_range

theorem size_of_shift? {n : Nat} (h : s.shift? n = some r) : r.size = s.size := by
  unfold shift? at h
  split at h
  · split at h
    · obtain rfl := Option.some.inj h
      exact List.length_map _
    · simp at h
  · next hs =>
    obtain rfl := Option.some.inj h
    rw [max?_eq_none_iff.1 hs]

/-- **A row that is not refused** has no more lengths than a set may have. -/
theorem size_le_of_replicate? (h : s.replicate? count = some r) : r.size ≤ maxSize := by
  unfold replicate? at h
  split_ifs at h with hcount
  · obtain rfl := Option.some.inj h
    decide
  · split at h
    · obtain rfl := Option.some.inj h
      exact Nat.zero_le _
    · obtain ⟨sums, hsums, hr⟩ := Option.bind_eq_some_iff.1 h
      exact (size_of_shift? hr).trans_le (size_le_of_sumsOfAtMost? hsums)

/-! ## Rows that are not refused -/

/-- **A row is not refused** if its longest is a length and its grid may be filled; there is nothing
to ask for where it has no values, or values that have no length. -/
theorem exists_replicate?_of_ends
    (h : ∀ low top, s.min? = some low → s.max? = some top → k ≠ 0 →
      top * k < lengthLimit ∧ Fillable (stepsAbove low s) k) : ∃ q, s.replicate? k = some q := by
  by_cases hk : k = 0
  · exact ⟨zero, by rw [replicate?, if_pos hk]⟩
  cases hlow : s.min? with
  | none => exact ⟨∅, by rw [replicate?, if_neg hk, hlow]⟩
  | some low =>
    obtain ⟨top, htop⟩ := exists_max? (mem_of_min? hlow)
    exact (exists_replicate?_iff hlow htop hk).2 (h low top hlow htop hk)

/-- **Where a row of at most `count` values is not refused**, no row of `k ≤ count` values is. -/
theorem exists_replicate?_of_replicateUpTo? (h : s.replicateUpTo? count = some r) (hk : k ≤ count) :
    ∃ q, s.replicate? k = some q := by
  refine exists_replicate?_of_ends fun low top hlow htop hk0 => ?_
  obtain ⟨hlt, hfillable⟩ := (exists_replicateUpTo?_iff htop (by omega)).1 ⟨r, h⟩
  refine ⟨(Nat.mul_le_mul_left top hk).trans_lt hlt, ?_⟩
  refine hfillable.of_coarser ?_ ?_ (length_stepsAbove_le subset_rfl (Nat.zero_le low))
  · exact gcdOf_stepsAbove_dvd subset_rfl (Nat.zero_le low)
      (gcdOf_stepsAbove_dvd_sub 0 (mem_of_min? hlow))
  · rw [largestStep_stepsAbove htop, largestStep_stepsAbove htop]
    exact Nat.mul_le_mul (Nat.sub_le_sub_left (Nat.zero_le low) top) hk

/-- **Where a row of `count` values is not refused**, no row of `k ≤ count` values is. -/
theorem exists_replicate?_of_le (h : s.replicate? count = some r) (hk : k ≤ count) :
    ∃ q, s.replicate? k = some q := by
  refine exists_replicate?_of_ends fun low top hlow htop hk0 => ?_
  obtain ⟨hlt, hfillable⟩ := (exists_replicate?_iff hlow htop (by omega)).1 ⟨r, h⟩
  refine ⟨(Nat.mul_le_mul_left top hk).trans_lt hlt, ?_⟩
  exact hfillable.of_coarser dvd_rfl (Nat.mul_le_mul_left _ hk) le_rfl

end LengthSet
end WireSchema
