import WireSchema.LengthSet.FewestSteps
import WireSchema.Proofs.LengthSet.RowSums

/-!
# Proofs/LengthSet/ShortestWays — the table of fewest steps is right

A way of `k` moves to cell `i` is a way to write `i` as a sum of `k` strides, so the table is right
if the entry of each cell is at most `n` exactly where some `k ≤ n` has `i` in `rowSums strides k`.
The table is filled from the left, and `Correct` is the invariant: it says this of the cells that
are there.  One more cell keeps it (`correct_push`), because the last move of a way to a new cell
starts at a cell that is there already.
-/

namespace WireSchema

/-- **An entry of at most `n` moves.** -/
def EntryLE (entry : Option Nat) (n : Nat) : Prop := ∃ m ∈ entry, m ≤ n

@[simp] theorem not_entryLE_none (n : Nat) : ¬ EntryLE none n := by
  rintro ⟨m, hm, -⟩
  exact Option.not_mem_none m hm

@[simp] theorem entryLE_some {m n : Nat} : EntryLE (some m) n ↔ m ≤ n := by
  simp [EntryLE]

/-- An entry of at most `n` moves, one move further. -/
theorem entryLE_succ {entry : Option Nat} {n : Nat} :
    (∃ m, EntryLE entry m ∧ m + 1 ≤ n) ↔ ∃ m ∈ entry, m + 1 ≤ n := by
  constructor
  · rintro ⟨m, ⟨k, hk, hkm⟩, hmn⟩
    exact ⟨k, hk, by omega⟩
  · rintro ⟨m, hm, hmn⟩
    exact ⟨m, ⟨m, hm, le_rfl⟩, hmn⟩

theorem reaches_iff {table : Array (Option Nat)} {count i : Nat} :
    reaches table count i = true ↔ EntryLE (table.getD i none) count := by
  rw [reaches]
  split
  · next h => simp [h]
  · next m h => simp [h]

/-! ## One cell -/

/-- The better of two ways: one move more than `previous`, or `best`. -/
def better (previous best : Option Nat) : Option Nat :=
  match previous, best with
  | none, best => best
  | some n, none => some (n + 1)
  | some n, some m => if n + 1 < m then some (n + 1) else some m

theorem fewestAt_cons (table : Array (Option Nat)) (s : Nat) (strides : List Nat)
    (best : Option Nat) :
    fewestAt table (s :: strides) best =
      if s ≤ table.size then
        fewestAt table strides (better (table.getD (table.size - s) none) best)
      else best := by
  conv_lhs => unfold fewestAt
  rcases table.getD (table.size - s) none with - | n <;> rcases best with - | m
  · rfl
  · rfl
  · rfl
  · simp only [better]

theorem entryLE_better {previous best : Option Nat} {n : Nat} :
    EntryLE (better previous best) n ↔
      EntryLE best n ∨ ∃ m, EntryLE previous m ∧ m + 1 ≤ n := by
  rw [entryLE_succ]
  rcases previous with - | p <;> rcases best with - | b
  · simp [better]
  · simp [better]
  · simp [better]
  · simp only [better, Option.mem_some_iff, exists_eq_left', entryLE_some]
    split_ifs with h <;> rw [entryLE_some] <;> omega

/-- **The entry of the next cell**: the better of `best` and of one more move than an entry one
stride back.  The strides ascend, so none behind the first that is too long would fit. -/
theorem entryLE_fewestAt {table : Array (Option Nat)} {n : Nat} :
    ∀ {strides : List Nat} {best : Option Nat}, strides.Pairwise (· < ·) →
    (EntryLE (fewestAt table strides best) n ↔ EntryLE best n ∨ ∃ s ∈ strides, s ≤ table.size ∧
      ∃ m, EntryLE (table.getD (table.size - s) none) m ∧ m + 1 ≤ n)
  | [], best, _ => by simp [fewestAt]
  | s :: strides, best, h => by
      obtain ⟨hs, hrest⟩ := List.pairwise_cons.1 h
      rw [fewestAt_cons]
      split_ifs with hle
      · rw [entryLE_fewestAt hrest, entryLE_better, or_assoc]
        simp [hle]
      · have hlong : ∀ r ∈ s :: strides, ¬ r ≤ table.size := by
          intro r hr
          rcases List.mem_cons.1 hr with rfl | hr
          · exact hle
          · have := hs r hr
            omega
        refine (or_iff_left ?_).symm
        rintro ⟨r, hr, hfits, -⟩
        exact hlong r hr hfits

/-! ## The table -/

/-- **The invariant**: the entry of a cell that is there is at most `n` exactly if a way of at most
`n` moves ends at the cell. -/
def Correct (strides : List Nat) (table : Array (Option Nat)) : Prop :=
  ∀ i < table.size, ∀ n,
    EntryLE (table.getD i none) n ↔ ∃ k ≤ n, i ∈ rowSums {s | s ∈ strides} k

/-- Every way to a cell but the first has a last move. -/
theorem exists_way_iff {strides : List Nat} {i n : Nat} (hi : i ≠ 0) :
    (∃ k ≤ n, i ∈ rowSums {s | s ∈ strides} k) ↔ ∃ s ∈ strides, s ≤ i ∧
      ∃ m, (∃ k ≤ m, i - s ∈ rowSums {s | s ∈ strides} k) ∧ m + 1 ≤ n := by
  constructor
  · rintro ⟨k, hk, hik⟩
    rcases k with - | k
    · exact absurd (mem_rowSums_zero.1 hik) hi
    · obtain ⟨s, hs, y, hy, rfl⟩ := mem_rowSums_succ.1 hik
      refine ⟨s, hs, Nat.le_add_right s y, k, ⟨k, le_rfl, ?_⟩, hk⟩
      rwa [Nat.add_sub_cancel_left]
  · rintro ⟨s, hs, hsi, m, ⟨k, hk, hik⟩, hmn⟩
    exact ⟨k + 1, by omega, s, hs, i - s, hik, Nat.add_sub_cancel' hsi⟩

/-- **One more cell keeps the invariant.** -/
theorem correct_push {strides : List Nat} {table : Array (Option Nat)}
    (hasc : strides.Pairwise (· < ·)) (hpos : ∀ s ∈ strides, 0 < s) (h : Correct strides table) :
    Correct strides
      (table.push (if table.size = 0 then some 0 else fewestAt table strides none)) := by
  intro i hi n
  rw [Array.size_push] at hi
  rcases Nat.lt_succ_iff_lt_or_eq.1 hi with hlt | rfl
  · have hold : ∀ entry, (table.push entry).getD i none = table.getD i none := fun entry => by
      rw [Array.getD_eq_getD_getElem?, Array.getElem?_push_lt hlt, Array.getD_eq_getD_getElem?,
        Array.getElem?_eq_getElem hlt]
    rw [hold]
    exact h i hlt n
  · rw [Array.getD_eq_getD_getElem?, Array.getElem?_push_size, Option.getD_some]
    split_ifs with h0
    · rw [h0, entryLE_some]
      exact ⟨fun _ => ⟨0, Nat.zero_le n, rfl⟩, fun _ => Nat.zero_le n⟩
    · rw [entryLE_fewestAt hasc, exists_way_iff h0, or_iff_right (not_entryLE_none n)]
      -- the cell one stride back is there already, as strides are positive
      refine exists_congr fun s => and_congr_right fun hs => and_congr_right fun hle => ?_
      have hback : table.size - s < table.size := Nat.sub_lt (Nat.pos_of_ne_zero h0) (hpos s hs)
      exact exists_congr fun m => and_congr_left fun _ => h _ hback m

theorem size_and_correct_fewestSteps {strides : List Nat} (hasc : strides.Pairwise (· < ·))
    (hpos : ∀ s ∈ strides, 0 < s) (cells : Nat) :
    (fewestSteps strides cells).size = cells ∧ Correct strides (fewestSteps strides cells) := by
  rw [fewestSteps]
  induction cells with
  | zero => exact ⟨rfl, fun i hi => absurd hi (Nat.not_lt_zero i)⟩
  | succ cells ih =>
    rw [Nat.fold_succ]
    exact ⟨by rw [Array.size_push, ih.1], correct_push hasc hpos ih.2⟩

/-- **The table of shortest ways is right**: it reaches a cell within `count` moves exactly if a way
of at most `count` moves ends there. -/
theorem reaches_fewestSteps_iff {strides : List Nat} (hasc : strides.Pairwise (· < ·))
    (hpos : ∀ s ∈ strides, 0 < s) {cells count i : Nat} (hi : i < cells) :
    reaches (fewestSteps strides cells) count i = true ↔
      ∃ k ≤ count, i ∈ rowSums {s | s ∈ strides} k := by
  obtain ⟨hsize, hcorrect⟩ := size_and_correct_fewestSteps hasc hpos cells
  rw [reaches_iff]
  exact hcorrect i (hsize.symm ▸ hi) count

/-- **No cell has an entry above its number**, as every move takes at least a cell. -/
theorem le_of_mem_fewestSteps {strides : List Nat} (hasc : strides.Pairwise (· < ·))
    (hpos : ∀ s ∈ strides, 0 < s) {cells i n : Nat} (hi : i < cells)
    (hn : n ∈ (fewestSteps strides cells).getD i none) : n ≤ i := by
  obtain ⟨hsize, hcorrect⟩ := size_and_correct_fewestSteps hasc hpos cells
  have hentry := hcorrect i (hsize.symm ▸ hi)
  obtain ⟨k, -, hk⟩ := (hentry n).1 ⟨n, hn, le_rfl⟩
  -- the way found takes as few moves as any
  obtain ⟨m, hm, hmk⟩ := (hentry k).2 ⟨k, le_rfl, hk⟩
  obtain rfl := Option.mem_unique hn hm
  exact hmk.trans (le_of_mem_rowSums_of_pos hpos hk)

end WireSchema
