import WireSchema.Proofs.LengthSet.Grids

/-!
# Proofs/LengthSet/Words — the search in machine words

The search in machine words (`wordSums?`) does what the search in naturals does: nothing overflows,
and the largest word is never taken for a number of steps.

* `betterWord?_eq`, `relax_eq`, `exists_fillWords` — one look, one cell, all cells: no look is an
  overflow, and the cells hold the entries of `fewestSteps`.  They hold no more than their own
  number, as every move is one of at least a cell, and so stay far from the largest word.
* `wordSums?_eq` — the search in words has an outcome, and it is that of `sumsOfAtMost?`.  No cell
  out of reach is reported, however many steps are allowed: a grid that is not refused has more
  cells than that.
* `replicate?_eq_none_iff` — the rows that are refused, by three numbers.
-/

namespace WireSchema

open LengthSet (gcdOf maxSize maxWork)

variable {strides steps : List Nat} {fewest : Array (Option Nat)} {table : Array Nat}
  {cells count i n : Nat}

/-! ## One look -/

theorem word?_eq_some (h : n < lengthLimit) : word? n = some n := if_pos h

theorem lt_of_word?_eq_some {m : Nat} (h : word? n = some m) : n < lengthLimit ∧ m = n := by
  unfold word? at h
  split_ifs at h with hlt
  exact ⟨hlt, (Option.some.inj h).symm⟩

/-- **An entry that fits**: a move more is still a word other than the largest. -/
def FitsWord (entry : Option Nat) : Prop := ∀ n ∈ entry, n + 1 < unreached

/-- **A look in words** is a look, and keeps the entries far from the largest word. -/
theorem betterWord?_eq {previous best : Option Nat} (hprevious : FitsWord previous)
    (hbest : ∀ m ∈ best, m < unreached) :
    betterWord? (previous.getD unreached) (best.getD unreached) =
      some ((better previous best).getD unreached) ∧ ∀ m ∈ better previous best, m < unreached := by
  have hword : unreached < lengthLimit := by decide
  rcases previous with - | p
  · -- the largest word is below none, so that nothing is better for it
    have hle : best.getD unreached ≤ unreached := by
      rcases best with - | b
      · exact le_rfl
      · exact (hbest b rfl).le
    have hnot : ¬ unreached < best.getD unreached - 1 := by omega
    exact ⟨if_neg hnot, hbest⟩
  · have hp : p + 1 < unreached := hprevious p rfl
    have hnext : word? (p + 1) = some (p + 1) := word?_eq_some (hp.trans hword)
    rcases best with - | b
    · have hlt : p < unreached - 1 := by omega
      refine ⟨?_, ?_⟩
      · simp only [Option.getD_some, Option.getD_none, better, betterWord?, if_pos hlt, hnext]
      · rintro m ⟨⟩
        exact hp
    · have hb : b < unreached := hbest b rfl
      simp only [better, betterWord?, Option.getD_some, hnext]
      by_cases hlt : p + 1 < b
      · rw [if_pos (by omega), if_pos hlt]
        refine ⟨rfl, ?_⟩
        rintro m ⟨⟩
        exact hp
      · rw [if_neg (by omega), if_neg hlt]
        refine ⟨rfl, ?_⟩
        rintro m ⟨⟩
        exact hb

/-! ## One cell -/

/-- **The invariant**: the cells that `fewest` knows hold its entries, and those behind them
nothing yet. -/
structure Records (fewest : Array (Option Nat)) (cells : Nat) (table : Array Nat) : Prop where
  size : table.size = cells
  found : ∀ j < fewest.size, table[j]? = some ((fewest.getD j none).getD unreached)
  rest : ∀ j, fewest.size ≤ j → j < cells → table[j]? = some unreached

/-- **A cell in words** is filled with its entry. -/
theorem relax_eq (hfits : ∀ j < fewest.size, FitsWord (fewest.getD j none)) :
    ∀ {strides : List Nat} (table : Array Nat) {best : Option Nat}, (∀ s ∈ strides, 0 < s) →
    (∀ j < fewest.size, table[j]? = some ((fewest.getD j none).getD unreached)) →
    table[fewest.size]? = some (best.getD unreached) → (∀ m ∈ best, m < unreached) →
    relax table fewest.size strides =
      some (table.setIfInBounds fewest.size ((fewestAt fewest strides best).getD unreached))
  | [], table, best, _, _, hcell, _ => by
      obtain ⟨hlt, hget⟩ := Array.getElem?_eq_some_iff.1 hcell
      rw [relax, fewestAt, ← hget, Array.setIfInBounds, dif_pos hlt, Array.set_getElem_self]
  | s :: strides, table, best, hpos, hfound, hcell, hbest => by
      obtain ⟨hs, hpos⟩ := List.forall_mem_cons.1 hpos
      rw [relax, fewestAt_cons]
      by_cases hle : s ≤ fewest.size
      · rw [if_neg (Nat.not_lt.2 hle), if_pos hle]
        have hback : fewest.size - s < fewest.size := Nat.sub_lt (hs.trans_le hle) hs
        obtain ⟨hlook, hbetter⟩ := betterWord?_eq (hfits _ hback) hbest
        have hlt : fewest.size < table.size := (Array.getElem?_eq_some_iff.1 hcell).1
        have hnext := relax_eq hfits (table.setIfInBounds fewest.size _) hpos
          (fun j hj => (Array.getElem?_setIfInBounds_ne hj.ne').trans (hfound j hj))
          (Array.getElem?_setIfInBounds_self_of_lt hlt) hbetter
        rw [hfound _ hback, hcell]
        simp only [Option.bind_eq_bind, Option.bind_some, hlook]
        rw [hnext, Array.setIfInBounds_setIfInBounds]
      · obtain ⟨hlt, hget⟩ := Array.getElem?_eq_some_iff.1 hcell
        rw [if_pos (Nat.not_le.1 hle), if_neg hle, ← hget, Array.setIfInBounds, dif_pos hlt,
          Array.set_getElem_self]

/-- **One more cell keeps the invariant.** -/
theorem exists_relax (hpos : ∀ s ∈ strides, 0 < s)
    (hfits : ∀ j < fewest.size, FitsWord (fewest.getD j none)) (hlt : fewest.size < cells)
    (h : Records fewest cells table) : ∃ table', relax table fewest.size strides = some table' ∧
      Records (fewest.push (fewestAt fewest strides none)) cells table' := by
  have hcell : table[fewest.size]? = some ((none : Option Nat).getD unreached) :=
    h.rest _ le_rfl hlt
  refine ⟨_, relax_eq hfits table hpos h.found hcell nofun, ?_, ?_, ?_⟩
  · rw [Array.size_setIfInBounds, h.size]
  · intro j hj
    rw [Array.size_push] at hj
    rw [Array.getD_eq_getD_getElem?]
    rcases Nat.lt_succ_iff_lt_or_eq.1 hj with hj | rfl
    · rw [Array.getElem?_setIfInBounds_ne hj.ne', h.found j hj, Array.getElem?_push_lt hj,
        Array.getD_eq_getD_getElem?, Array.getElem?_eq_getElem hj]
    · rw [Array.getElem?_setIfInBounds_self_of_lt (h.size.symm ▸ hlt), Array.getElem?_push_size,
        Option.getD_some]
  · intro j hj hcells
    rw [Array.size_push] at hj
    rw [Array.getElem?_setIfInBounds_ne (by omega)]
    exact h.rest j (by omega) hcells

/-! ## All cells -/

theorem fits_fewestSteps (hasc : strides.Pairwise (· < ·)) (hpos : ∀ s ∈ strides, 0 < s)
    (hcells : cells ≤ maxSize) (hi : i < cells) :
    FitsWord ((fewestSteps strides cells).getD i none) := by
  intro n hn
  have hle : n ≤ i := le_of_mem_fewestSteps hasc hpos hi hn
  have hsmall : maxSize + 1 < unreached := by decide
  omega

/-- **The table in words** is filled, and holds the table of shortest ways. -/
theorem exists_fillWords (hasc : strides.Pairwise (· < ·)) (hpos : ∀ s ∈ strides, 0 < s)
    (hcells : cells ≤ maxSize) : ∀ {n : Nat}, n < cells →
    ∃ table, fillWords strides cells n = some table ∧
      Records (fewestSteps strides (n + 1)) cells table
  | 0, hlt => by
      have hone : fewestSteps strides 1 = #[some 0] := rfl
      rw [hone]
      refine ⟨_, if_pos hlt, ?_, ?_, ?_⟩
      · rw [Array.size_setIfInBounds, Array.size_replicate]
      · intro j hj
        obtain rfl := Nat.lt_one_iff.1 hj
        rw [Array.getElem?_setIfInBounds_self_of_lt (by rwa [Array.size_replicate])]
        rfl
      · intro j hj hcells
        have hj : 1 ≤ j := hj
        rw [Array.getElem?_setIfInBounds_ne (by omega), Array.getElem?_replicate, if_pos hcells]
  | n + 1, hlt => by
      obtain ⟨table, htable, h⟩ := exists_fillWords hasc hpos hcells (Nat.lt_of_succ_lt hlt)
      obtain ⟨hsize, -⟩ := size_and_correct_fewestSteps hasc hpos (n + 1)
      have hnext : fewestSteps strides (n + 1 + 1) = (fewestSteps strides (n + 1)).push
          (fewestAt (fewestSteps strides (n + 1)) strides none) := by
        rw [fewestSteps, Nat.fold_succ, ← fewestSteps, if_neg (by rw [hsize]; exact n.succ_ne_zero)]
      obtain ⟨table', htable', h'⟩ := exists_relax hpos
        (fun j hj => fits_fewestSteps hasc hpos (hlt.le.trans hcells) (hsize ▸ hj))
        (hsize.symm ▸ hlt) h
      rw [hsize] at htable'
      refine ⟨table', ?_, hnext.symm ▸ h'⟩
      rw [fillWords, htable]
      exact htable'

/-! ## The outcome -/

/-- **A checked row of words** goes well where every number is a word. -/
theorem mapM_word? {f : Nat → Nat} : ∀ {xs : List Nat}, (∀ x ∈ xs, f x < lengthLimit) →
    xs.mapM (fun x => word? (f x)) = some (xs.map f)
  | [], _ => rfl
  | x :: xs, h => by
      obtain ⟨hx, hxs⟩ := List.forall_mem_cons.1 h
      rw [List.mapM_cons, word?_eq_some hx, mapM_word? hxs]
      rfl

/-- The cells whose words are few enough are those in reach, if fewer moves are allowed than the
largest word says. -/
theorem Records.le_count_iff (h : Records fewest cells table) (hcount : count < unreached)
    (hi : i < fewest.size) : table.getD i unreached ≤ count ↔ reaches fewest count i = true := by
  rw [reaches_iff, Array.getD_eq_getD_getElem?, h.found i hi, Option.getD_some]
  cases fewest.getD i none with
  | none => exact iff_of_false (Nat.not_le.2 hcount) (not_entryLE_none count)
  | some m => exact entryLE_some.symm

/-- **The positions in words** are the grid points in reach. -/
theorem Records.wordPoints_eq {grid : Nat} (h : Records fewest cells table)
    (hsize : fewest.size = cells) (hcount : count < unreached)
    (hfits : ∀ i < cells, i * grid < lengthLimit) :
    wordPoints grid cells table count = some (LengthSet.gridPoints grid cells fewest count) := by
  have hreach : (List.range cells).filter (fun i => table.getD i unreached ≤ count) =
      (List.range cells).filter (reaches fewest count) := by
    refine List.filter_congr fun i hi => ?_
    have hi : i < fewest.size := hsize.symm ▸ List.mem_range.1 hi
    exact Bool.eq_iff_iff.2 (decide_eq_true_iff.trans (h.le_count_iff hcount hi))
  rw [wordPoints, hreach]
  exact mapM_word? fun i hi => hfits i (List.mem_range.1 (List.mem_filter.1 hi).1)

/-- **The limits in words** are those in unbounded arithmetic. -/
theorem wordCells?_eq_some_iff {largest grid length : Nat} :
    wordCells? largest grid count length = some cells ↔
      (largest * count < lengthLimit ∧ largest * count / grid + 1 ≤ maxSize ∧
        (largest * count / grid + 1) * length ≤ maxWork) ∧
      cells = largest * count / grid + 1 := by
  constructor
  · intro h
    obtain ⟨top, htop, h⟩ := Option.bind_eq_some_iff.1 h
    obtain ⟨hlt, rfl⟩ := lt_of_word?_eq_some htop
    obtain ⟨all, hall, h⟩ := Option.bind_eq_some_iff.1 h
    obtain ⟨-, rfl⟩ := lt_of_word?_eq_some hall
    split_ifs at h with hsize
    obtain ⟨work, hwork, h⟩ := Option.bind_eq_some_iff.1 h
    obtain ⟨-, rfl⟩ := lt_of_word?_eq_some hwork
    split_ifs at h with hlimit
    exact ⟨⟨hlt, Nat.not_lt.1 hsize, Nat.not_lt.1 hlimit⟩, (Option.some.inj h).symm⟩
  · rintro ⟨⟨htop, hsize, hwork⟩, rfl⟩
    have hsizeWord : largest * count / grid + 1 < lengthLimit := hsize.trans_lt (by decide)
    have hworkWord : (largest * count / grid + 1) * length < lengthLimit :=
      hwork.trans_lt (by decide)
    simp only [wordCells?, Option.bind_eq_bind, word?_eq_some htop, word?_eq_some hsizeWord,
      word?_eq_some hworkWord, Option.bind_some, if_neg (Nat.not_lt.2 hsize),
      if_neg (Nat.not_lt.2 hwork)]

/-- **A grid that is not refused** is searched without an overflow. -/
theorem exists_wordPoints_eq {largest : Nat} (hasc : steps.Pairwise (· < ·))
    (positive : ∀ s ∈ steps, 0 < s) (hlargest : largest ∈ steps)
    (htop : largest * count < lengthLimit) (hcells : cells = largest * count / gcdOf steps + 1)
    (hsize : cells ≤ maxSize) :
    ∃ table, fillWords (steps.map (· / gcdOf steps)) cells (cells - 1) = some table ∧
      wordPoints (gcdOf steps) cells table count = some (LengthSet.gridPoints (gcdOf steps) cells
        (fewestSteps (steps.map (· / gcdOf steps)) cells) count) := by
  have hgrid : 0 < gcdOf steps := LengthSet.gcdOf_pos (List.ne_nil_of_mem hlargest) positive
  have hsome : 0 < cells := hcells ▸ Nat.succ_pos _
  have hpos := LengthSet.pos_of_mem_strides positive hgrid
  obtain ⟨table, htable, h⟩ := exists_fillWords (LengthSet.ascending_strides hasc) hpos hsize
    (Nat.sub_lt hsome Nat.one_pos)
  rw [Nat.sub_add_cancel hsome] at h
  refine ⟨table, htable, h.wordPoints_eq ?_ ?_ fun i hi => ?_⟩
  · exact (size_and_correct_fewestSteps (LengthSet.ascending_strides hasc) hpos cells).1
  · -- the largest step alone leads to more cells than steps are allowed
    have hmany : count ≤ largest * count / gcdOf steps := by
      rw [Nat.le_div_iff_mul_le hgrid, Nat.mul_comm]
      exact Nat.mul_le_mul_right count
        (Nat.le_of_dvd (positive _ hlargest) (LengthSet.gcdOf_dvd hlargest))
    have hsmall : maxSize < unreached := by decide
    omega
  · have hle : i * gcdOf steps ≤ largest * count :=
      (Nat.mul_le_mul_right _ (by omega)).trans (Nat.div_mul_le_self _ (gcdOf steps))
    exact hle.trans_lt htop

/-- **The search in words is the search**: it has an outcome, and comes to the same sums, or is
refused as well. -/
theorem wordSums?_eq (hasc : steps.Pairwise (· < ·)) (positive : ∀ s ∈ steps, 0 < s) (count : Nat) :
    wordSums? steps count =
      some ((LengthSet.sumsOfAtMost? steps positive count).map (·.toList)) := by
  unfold LengthSet.sumsOfAtMost?
  split
  · next hlast =>
    rw [wordSums?, hlast]
    rfl
  · next largest hlast =>
    have hmem : largest ∈ steps := List.mem_of_getLast? hlast
    have hgrid : 0 < gcdOf steps := LengthSet.gcdOf_pos (List.ne_nil_of_mem hmem) positive
    simp only [wordSums?, hlast]
    by_cases hcount : count = 0
    · rw [if_pos hcount, if_pos hcount]
      rfl
    rw [if_neg hcount, if_neg hcount, if_neg hgrid.ne']
    by_cases hlimits : largest * count < lengthLimit ∧
        largest * count / gcdOf steps + 1 ≤ maxSize ∧
        (largest * count / gcdOf steps + 1) * steps.length ≤ maxWork
    · obtain ⟨table, htable, hpoints⟩ :=
        exists_wordPoints_eq hasc positive hmem hlimits.1 rfl hlimits.2.1
      rw [wordCells?_eq_some_iff.2 ⟨hlimits, rfl⟩, dif_pos hlimits]
      simp only [htable, hpoints, Option.bind_eq_bind, Option.bind_some]
      rfl
    · have hrefused : wordCells? largest (gcdOf steps) count steps.length = none := by
        refine Option.eq_none_iff_forall_ne_some.2 fun cells hcells => hlimits ?_
        exact (wordCells?_eq_some_iff.1 hcells).1
      rw [hrefused, dif_neg hlimits]
      rfl

-- 48 takes three steps, and no way leads to 8 at all
example : wordSums? [16, 56] 2 = some (some [0, 16, 32, 56, 72, 112]) := by decide +kernel

namespace LengthSet

variable {s : LengthSet} {low top : Nat}

/-! ## Three numbers -/

/-- There is a step to every member but the smallest. -/
theorem length_stepsAbove_of_min? (hlow : s.min? = some low) :
    (stepsAbove low s).length = s.size - 1 := by
  obtain ⟨rest, hrest⟩ := List.head?_eq_some_iff.1 hlow
  obtain ⟨habove, -⟩ := List.pairwise_cons.1 (hrest ▸ s.ascending)
  have hfilter : rest.filter (low < ·) = rest :=
    List.filter_eq_self.2 fun x hx => decide_eq_true (habove x hx)
  rw [stepsAbove, size, hrest, List.filter_cons_of_neg (by simp), hfilter, List.length_map,
    List.length_cons, Nat.add_sub_cancel]

/-- **The grid of the steps above a start** is that of the distances from it. -/
theorem dvd_gcdOf_stepsAbove_iff {d : Nat} :
    d ∣ gcdOf (stepsAbove low s) ↔ ∀ x ∈ s, d ∣ x - low := by
  constructor
  · exact fun hd x hx => hd.trans (gcdOf_stepsAbove_dvd_sub low hx)
  · intro h
    refine dvd_gcdOf fun x hx => ?_
    rw [← Nat.add_sub_cancel_left low x]
    exact h _ (mem_stepsAbove.1 hx).2

/-- **A row is refused** for its longest, for too many cells, or for too many looks. -/
theorem replicate?_eq_none_iff_gridCells (hlow : s.min? = some low) (htop : s.max? = some top)
    (hcount : count ≠ 0) :
    s.replicate? count = none ↔ lengthLimit ≤ top * count ∨
      maxSize < gridCells (stepsAbove low s) count ∨
      maxWork < gridCells (stepsAbove low s) count * (s.size - 1) := by
  have hfillable : Fillable (stepsAbove low s) count ↔
      gridCells (stepsAbove low s) count ≤ maxSize ∧
        gridCells (stepsAbove low s) count * (s.size - 1) ≤ maxWork := by
    rw [← length_stepsAbove_of_min? hlow]
    exact ⟨fun h => ⟨h.size, h.work⟩, fun h => ⟨h.1, h.2⟩⟩
  rw [Option.eq_none_iff_forall_ne_some, ← not_exists,
    exists_replicate?_iff hlow htop hcount, hfillable]
  simp only [not_and_or, Nat.not_lt, Nat.not_le]

/-- **A row of a single length** is refused exactly if it is too long. -/
theorem replicate?_eq_none_iff_of_size_eq_one (hone : s.size = 1) (hlow : s.min? = some low)
    (hcount : count ≠ 0) : s.replicate? count = none ↔ lengthLimit ≤ low * count := by
  obtain ⟨x, hx⟩ := List.length_eq_one_iff.1 hone
  have htop : s.max? = some low := by
    rw [max?, hx, List.getLast?_singleton, ← List.head?_singleton (a := x), ← hx]
    exact hlow
  have hsteps : stepsAbove low s = [] := by
    rw [← List.length_eq_zero_iff, length_stepsAbove_of_min? hlow, hone]
  rw [replicate?_eq_none_iff_gridCells hlow htop hcount, hsteps, gridCells_nil, hone]
  refine or_iff_left (not_or.2 ⟨?_, ?_⟩)
  · decide
  · decide

/-- **Which rows are refused**, by three numbers: the longest row, which is a length or not; the
cells of the grid of the distances from the smallest member; and the looks, one for each cell and
each other member.  Of a single member only the longest row counts.  In words the search overflows
nowhere and reports no cell out of reach, for any steps and however many of them are allowed.  And
where a row is not refused, no shorter one is. -/
theorem replicate?_eq_none_iff (hlow : s.min? = some low) (htop : s.max? = some top)
    (hcount : 1 ≤ count) :
    (2 ≤ s.size → ∃ grid, (∀ d, d ∣ grid ↔ ∀ x ∈ s, d ∣ x - low) ∧
      (s.replicate? count = none ↔ lengthLimit ≤ top * count ∨
        maxSize < (top - low) * count / grid + 1 ∨
        maxWork < ((top - low) * count / grid + 1) * (s.size - 1))) ∧
    (s.size = 1 → (s.replicate? count = none ↔ lengthLimit ≤ low * count)) ∧
    (∀ (steps : List Nat) (positive : ∀ x ∈ steps, 0 < x), steps.Pairwise (· < ·) → ∀ n,
      wordSums? steps n = some ((sumsOfAtMost? steps positive n).map (·.toList)) ∧
      ∀ sums, wordSums? steps n = some (some sums) →
        ∀ z ∈ sums, ∃ k ≤ n, z ∈ rowSums {x | x ∈ steps} k) ∧
    ∀ r, s.replicate? count = some r → ∀ k ≤ count, ∃ q, s.replicate? k = some q := by
  have hcount : count ≠ 0 := Nat.one_le_iff_ne_zero.1 hcount
  refine ⟨fun _ => ⟨_, fun d => dvd_gcdOf_stepsAbove_iff, ?_⟩, fun hone => ?_,
    fun steps positive hasc n => ⟨wordSums?_eq hasc positive n, fun sums hsums z hz => ?_⟩,
    fun r hr k hk => exists_replicate?_of_le hr hk⟩
  · rw [replicate?_eq_none_iff_gridCells hlow htop hcount, gridCells, largestStep_stepsAbove htop]
  · exact replicate?_eq_none_iff_of_size_eq_one hone hlow hcount
  · rw [wordSums?_eq hasc positive n] at hsums
    obtain ⟨r, hr, rfl⟩ := Option.map_eq_some_iff.1 (Option.some.inj hsums)
    exact (mem_of_sumsOfAtMost? hasc hr).1 hz

theorem replicate?_eq_none_iff_uneven :
    uneven.min? = some 8 ∧ uneven.max? = some 64 ∧ 2 ≤ uneven.size ∧
    uneven.replicate? 149797 = none ∧ uneven.replicate? 149796 ≠ none ∧
    (singleton 64 (by decide)).replicate? 0x1000000000000000 = none ∧
    (singleton 64 (by decide)).replicate? 0x200000000000000 ≠ none := by
  have hmany := @replicate?_eq_none_iff 149797 uneven 8 64 rfl rfl (by decide)
  have hfew := @replicate?_eq_none_iff 149796 uneven 8 64 rfl rfl (by decide)
  have hlong := @replicate?_eq_none_iff 0x1000000000000000 (singleton 64 (by decide)) 64 64 rfl rfl
    (by decide)
  have hshort := @replicate?_eq_none_iff 0x200000000000000 (singleton 64 (by decide)) 64 64 rfl rfl
    (by decide)
  have hgrid : ∀ {grid : Nat}, (∀ d, d ∣ grid ↔ ∀ x ∈ uneven, d ∣ x - 8) → grid = 8 := by
    intro grid h
    have hmembers := (h grid).1 dvd_rfl
    refine Nat.dvd_antisymm ?_ ((h 8).2 ?_)
    · exact Nat.dvd_gcd (hmembers 24 (by decide)) (hmembers 64 (by decide))
    · decide
  refine ⟨rfl, rfl, by decide, ?_, ?_, (hlong.2.1 rfl).2 (by decide), ?_⟩
  · obtain ⟨grid, hdvd, hiff⟩ := hmany.1 (by decide)
    obtain rfl := hgrid hdvd
    exact hiff.2 (Or.inr (Or.inl (by decide)))
  · obtain ⟨grid, hdvd, hiff⟩ := hfew.1 (by decide)
    obtain rfl := hgrid hdvd
    exact mt hiff.1 (by decide)
  · exact mt (hshort.2.1 rfl).1 (by decide)

end LengthSet
end WireSchema
