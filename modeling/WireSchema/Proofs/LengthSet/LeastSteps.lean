import WireSchema.Proofs.LengthSet.Words

/-!
# Proofs/LengthSet/LeastSteps — the cells hold the least numbers of steps

The search for the sums of steps has a row of words, one for each multiple of the grid.  In the end
a cell holds the least number of steps that add up to its position, or the largest word where no
number of steps does (`IsWordOf`).

The row is filled in two loops, over the cells and for each cell over the strides.  `Filled` is what
the outer one keeps: the cells up to the last one filled are right, and those behind it hold the
largest word.  The table of shortest ways has it for every number of cells (`exists_filled`), so
that a sum is found in its cell however far the row goes on.

The main theorem `LengthSet.sums_by_least_steps` reads the sums off the row that is filled.
-/

namespace WireSchema

open LengthSet (gcdOf maxSize)

variable {steps : List Nat} {entry : Option Nat} {cells count i k n z : Nat}

/-! ## The grid -/

/-- Every turn keeps the greatest common divisor. -/
theorem euclid_eq_gcd (a b : Nat) : euclid a b = Nat.gcd a b := by
  fun_induction euclid a b with
  | case1 a => exact (Nat.gcd_zero_right a).symm
  | case2 a b _ ih => rw [ih, Nat.gcd_comm, ← Nat.gcd_rec, Nat.gcd_comm]

/-- **The grid of the steps** is found by the loop, from one step to the next. -/
theorem foldl_euclid (steps : List Nat) : steps.foldl euclid 0 = gcdOf steps :=
  congrArg (steps.foldl · 0) (funext fun a => funext fun b => euclid_eq_gcd a b)

/-! ## The word of a cell -/

/-- **The numbers of steps** that add up to `z`, with each step as often as wanted. -/
def ways (steps : List Nat) (z : Nat) : Set Nat := {k | z ∈ rowSums {s | s ∈ steps} k}

/-- **The word of a position**: the least number of steps that add up to it, or the largest word
where there is none. -/
def IsWordOf (steps : List Nat) (z w : Nat) : Prop :=
  IsLeast (ways steps z) w ∨ ways steps z = ∅ ∧ w = unreached

/-- An entry is right if it tells within how many steps a position is reached. -/
theorem isWordOf_getD (h : ∀ n, EntryLE entry n ↔ ∃ k ≤ n, k ∈ ways steps z) :
    IsWordOf steps z (entry.getD unreached) := by
  have hle : ∀ k ∈ ways steps z, EntryLE entry k := fun k hk => (h k).2 ⟨k, le_rfl, hk⟩
  cases entry with
  | none =>
    refine Or.inr ⟨Set.eq_empty_iff_forall_notMem.2 fun k hk => ?_, rfl⟩
    exact not_entryLE_none k (hle k hk)
  | some m =>
    obtain ⟨k, hkm, hk⟩ := (h m).1 (entryLE_some.2 le_rfl)
    obtain rfl : k = m := le_antisymm hkm (entryLE_some.1 (hle k hk))
    exact Or.inl ⟨hk, fun j hj => entryLE_some.1 (hle j hj)⟩

/-- **The table of shortest ways** has the words of all its cells. -/
theorem isWordOf_fewestSteps (hasc : steps.Pairwise (· < ·)) (positive : ∀ s ∈ steps, 0 < s)
    (hgrid : 0 < gcdOf steps) (hi : i < cells) : IsWordOf steps (i * gcdOf steps)
      (((fewestSteps (steps.map (· / gcdOf steps)) cells).getD i none).getD unreached) := by
  obtain ⟨hsize, hcorrect⟩ := size_and_correct_fewestSteps (LengthSet.ascending_strides hasc)
    (LengthSet.pos_of_mem_strides positive hgrid) cells
  refine isWordOf_getD fun n => (hcorrect i (hsize.symm ▸ hi) n).trans ?_
  exact exists_congr fun k => and_congr_right fun _ => LengthSet.mem_rowSums_strides_iff hgrid

/-- Every step leads on by at least a cell. -/
theorem le_of_mem_ways (positive : ∀ s ∈ steps, 0 < s) (hgrid : 0 < gcdOf steps)
    (hk : k ∈ ways steps (i * gcdOf steps)) : k ≤ i :=
  le_of_mem_rowSums_of_pos (LengthSet.pos_of_mem_strides positive hgrid)
    ((LengthSet.mem_rowSums_strides_iff hgrid).2 hk)

/-! ## The loops -/

/-- **The invariant of the loop over the cells**: those up to `n` hold their words, and those behind
them the largest one. -/
structure Filled (steps : List Nat) (cells n : Nat) (table : Array Nat) : Prop where
  size : table.size = cells
  known : ∀ i ≤ n, ∃ w, table[i]? = some w ∧ IsWordOf steps (i * gcdOf steps) w
  rest : ∀ i, n < i → i < cells → table[i]? = some unreached

/-- **However far the loop has come**, it has not failed, and the invariant holds. -/
theorem exists_filled (hasc : steps.Pairwise (· < ·)) (positive : ∀ s ∈ steps, 0 < s)
    (hgrid : 0 < gcdOf steps) (hcells : cells ≤ maxSize) (hn : n < cells) :
    ∃ table, fillWords (steps.map (· / gcdOf steps)) cells n = some table ∧
      Filled steps cells n table := by
  have hstrides := LengthSet.ascending_strides hasc
  have hpos := LengthSet.pos_of_mem_strides positive hgrid
  obtain ⟨table, htable, h⟩ := exists_fillWords hstrides hpos hcells hn
  obtain ⟨hsize, -⟩ := size_and_correct_fewestSteps hstrides hpos (n + 1)
  refine ⟨table, htable, h.size, fun i hi => ⟨_, h.found i ?_, ?_⟩, fun i hi => h.rest i ?_⟩
  · rw [hsize]
    exact Nat.lt_succ_of_le hi
  · exact isWordOf_fewestSteps hasc positive hgrid (Nat.lt_succ_of_le hi)
  · rw [hsize]
    exact hi

namespace LengthSet

/-! ## The sums -/

theorem dvd_gcdOf_iff {d : Nat} : d ∣ gcdOf steps ↔ ∀ s ∈ steps, d ∣ s :=
  ⟨fun hd _ hs => hd.trans (gcdOf_dvd hs), dvd_gcdOf⟩

/-- **Every sum has a cell**, as it is a multiple of the grid and not above the largest one. -/
theorem dvd_and_le_of_mem_rowSums (hasc : steps.Pairwise (· < ·)) (hk : k ≤ count)
    (hz : z ∈ rowSums {s | s ∈ steps} k) : gcdOf steps ∣ z ∧ z ≤ largestStep steps * count := by
  obtain ⟨i, hi, rfl⟩ := exists_cell_of_mem_rowSums hasc hk hz
  refine ⟨dvd_mul_right _ i, ?_⟩
  exact (Nat.mul_le_mul_left _ (Nat.le_of_lt_succ hi)).trans (Nat.mul_div_le _ _)

/-- **The search reads its sums off the row** that the loops have filled. -/
theorem wordSums?_eq_bind (hne : steps ≠ []) (hcount : count ≠ 0) (hgrid : 0 < gcdOf steps)
    (hfits : largestStep steps * count < lengthLimit) (hfillable : Fillable steps count) :
    wordSums? steps count = (fillWords (steps.map (· / gcdOf steps)) (gridCells steps count)
      (gridCells steps count - 1)).bind fun table =>
        (wordPoints (gcdOf steps) (gridCells steps count) table count).map some := by
  obtain ⟨largest, hlast⟩ := Option.isSome_iff_exists.1 (List.getLast?_isSome.2 hne)
  have hlargest : largestStep steps = largest := by rw [largestStep, hlast, Option.getD_some]
  have hcells : wordCells? largest (gcdOf steps) count steps.length =
      some (gridCells steps count) := by
    rw [← hlargest]
    exact wordCells?_eq_some_iff.2 ⟨⟨hfits, hfillable.size, hfillable.work⟩, rfl⟩
  simp only [wordSums?, hlast, if_neg hcount, if_neg hgrid.ne', hcells, Option.map_eq_bind]
  rfl

/-- **The sums of at most so many steps, by the least numbers of steps.**  For ascending, positive
steps whose largest sum is a length and whose grid may be filled, the search has a result, in words
as in unbounded arithmetic.  The grid is the greatest common divisor, and found by Euclid's loop.
If there are steps at all, the loops fill a row of words, one for each multiple of the grid up to
the largest sum; in each cell is the least number of steps that add up to its position, which is
small, or the largest word if there is none; and the result is read off this row.  So it is all sums
of at most so many steps, of which each is a multiple of the grid and not above the largest. -/
theorem sums_by_least_steps (hasc : steps.Pairwise (· < ·)) (positive : ∀ s ∈ steps, 0 < s)
    (hcount : 1 ≤ count) (hfits : largestStep steps * count < lengthLimit)
    (hfillable : Fillable steps count) :
    (∀ d, d ∣ gcdOf steps ↔ ∀ s ∈ steps, d ∣ s) ∧ steps.foldl euclid 0 = gcdOf steps ∧
    ∃ r, sumsOfAtMost? steps positive count = some r ∧
      wordSums? steps count = some (some r.toList) ∧
      (steps ≠ [] → ∃ table, fillWords (steps.map (· / gcdOf steps)) (gridCells steps count)
          (gridCells steps count - 1) = some table ∧
        table.size = gridCells steps count ∧
        (∀ i < gridCells steps count,
          (∃ w, table[i]? = some w ∧ IsWordOf steps (i * gcdOf steps) w) ∧
          ∀ n, IsLeast (ways steps (i * gcdOf steps)) n → n < 2 ^ 20 + 1) ∧
        wordPoints (gcdOf steps) (gridCells steps count) table count = some r.toList) ∧
      (∀ z, z ∈ r ↔ ∃ k ≤ count, z ∈ rowSums {s | s ∈ steps} k) ∧
      ∀ k ≤ count, ∀ z ∈ rowSums {s | s ∈ steps} k,
        gcdOf steps ∣ z ∧ z ≤ largestStep steps * count := by
  have hcount0 : count ≠ 0 := Nat.one_le_iff_ne_zero.1 hcount
  obtain ⟨r, hr⟩ : ∃ r, sumsOfAtMost? steps positive count = some r :=
    (exists_sumsOfAtMost?_iff hcount0).2 ⟨hfits, hfillable⟩
  have hwords : wordSums? steps count = some (some r.toList) := by
    rw [wordSums?_eq hasc positive count, hr, Option.map_some]
  refine ⟨fun d => dvd_gcdOf_iff, foldl_euclid steps, r, hr, hwords, fun hne => ?_,
    fun z => mem_of_sumsOfAtMost? hasc hr,
    fun k hk z hz => dvd_and_le_of_mem_rowSums hasc hk hz⟩
  have hgrid : 0 < gcdOf steps := gcdOf_pos hne positive
  have hcells : 0 < gridCells steps count := Nat.succ_pos _
  obtain ⟨table, htable, hfilled⟩ := exists_filled hasc positive hgrid hfillable.size
    (Nat.sub_lt hcells Nat.one_pos)
  refine ⟨table, htable, hfilled.size, fun i hi => ⟨hfilled.known i (by omega), fun n hn => ?_⟩, ?_⟩
  · have hle : n ≤ i := le_of_mem_ways positive hgrid hn.1
    have hsize : gridCells steps count ≤ 2 ^ 20 := hfillable.size
    omega
  · rw [wordSums?_eq_bind hne hcount0 hgrid hfits hfillable, htable, Option.bind_some] at hwords
    obtain ⟨sums, hsums, hsome⟩ := Option.map_eq_some_iff.1 hwords
    rw [hsums, hsome]

/-- Steps of two and of seven cells: none lead on by a single cell, and it takes three of the
shorter ones to lead on by six, which are too many for the sums of two. -/
theorem sums_by_least_steps_uneven : ∃ positive r, sumsOfAtMost? [16, 56] positive 2 = some r ∧
    r.toList = [0, 16, 32, 56, 72, 112] ∧ ways [16, 56] 8 = ∅ ∧ IsLeast (ways [16, 56] 48) 3 ∧
    48 ∉ r := by
  have positive : ∀ s ∈ [16, 56], 0 < s := by decide
  have hfill : fillWords [2, 7] 15 14 = some #[0, unreached, 1, unreached, 2, unreached, 3, 1, 4, 2,
      5, 3, 6, 4, 2] := by decide +kernel
  obtain ⟨-, -, r, hr, hwords, htable, -, -⟩ :=
    sums_by_least_steps (by decide) positive (by decide : 1 ≤ 2) (by decide) ⟨by decide, by decide⟩
  obtain ⟨table, htable, -, hcells, -⟩ := htable (List.cons_ne_nil _ _)
  obtain rfl := Option.some.inj (hfill.symm.trans htable)
  have hlist : wordSums? [16, 56] 2 = some (some [0, 16, 32, 56, 72, 112]) := by decide +kernel
  have hsums : r.toList = [0, 16, 32, 56, 72, 112] :=
    Option.some.inj (Option.some.inj (hwords.symm.trans hlist))
  refine ⟨positive, r, hr, hsums, ?_, ?_, ?_⟩
  · obtain ⟨⟨w, hw, hword⟩, hsmall⟩ := hcells 1 (by decide)
    obtain rfl := Option.some.inj hw
    exact (hword.resolve_left fun hleast => absurd (hsmall _ hleast) (by decide)).1
  · obtain ⟨⟨w, hw, hword⟩, -⟩ := hcells 6 (by decide)
    obtain rfl := Option.some.inj hw
    exact hword.resolve_right fun hnone => absurd hnone.2 (by decide)
  · rw [← mem_toList, hsums]
    decide

end LengthSet
end WireSchema
