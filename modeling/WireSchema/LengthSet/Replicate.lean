import WireSchema.LengthSet.Arithmetic
import WireSchema.LengthSet.FewestSteps

/-!
# LengthSet/Replicate — the lengths of a row of values

`s.replicate? n` holds the lengths of `n` values in a row whose own lengths are in `s`, and
`s.replicateUpTo? n` those of a row of at most `n`.  Both come down to `sumsOfAtMost?`: a row of `n`
members of `s` is `n` times the smallest member, and at most `n` steps above it.

All sums of steps lie on the grid of the steps' greatest common divisor, so a row of grid cells is
enough to find them, and a cell belongs to the result if few enough steps reach it.  A row of more
than `maxSize` cells, or one that takes more than `maxWork` looks to fill, is refused.

This search counts in naturals, and a cell that no way leads to has no entry.  A machine has words
of 64 bits for both, and an entry in every cell: `wordSums?` is the search as it is run there, in
two loops over one table that is filled in place.  The largest word stands in the cells that no way
is known to (`unreached`).  A number that is no word is a refusal where it is asked for with a
check, and anywhere else it is an overflow, which leaves the search without an outcome.
-/

namespace WireSchema
namespace LengthSet

/-- **The most distinct lengths** that a row of values, or a delimited type, may have. -/
def maxSize : Nat := 0x100000

/-- The most looks that filling a row of grid cells may take. -/
def maxWork : Nat := 0x10000000

/-- The greatest common divisor of the members of a list. -/
def gcdOf (xs : List Nat) : Nat := xs.foldl Nat.gcd 0

private theorem foldl_gcd_dvd (xs : List Nat) : ∀ g : Nat,
    xs.foldl Nat.gcd g ∣ g ∧ ∀ x ∈ xs, xs.foldl Nat.gcd g ∣ x := by
  induction xs with
  | nil => simp
  | cons x xs ih =>
    intro g
    have h := ih (Nat.gcd g x)
    refine ⟨Nat.dvd_trans h.1 (Nat.gcd_dvd_left g x), ?_⟩
    intro y hy
    rcases List.mem_cons.1 hy with rfl | hy
    · exact Nat.dvd_trans h.1 (Nat.gcd_dvd_right g y)
    · exact h.2 y hy

theorem gcdOf_dvd {xs : List Nat} {x : Nat} (h : x ∈ xs) : gcdOf xs ∣ x :=
  (foldl_gcd_dvd xs 0).2 x h

/-- The grid positions of the cells that at most `count` moves reach. -/
def gridPoints (grid cells : Nat) (table : Array (Option Nat)) (count : Nat) : List Nat :=
  ((List.range cells).filter (reaches table count)).map (· * grid)

theorem ascending_gridPoints {grid : Nat} (hgrid : 0 < grid) (cells : Nat)
    (table : Array (Option Nat)) (count : Nat) :
    (gridPoints grid cells table count).Pairwise (· < ·) :=
  List.pairwise_map.2
    ((List.pairwise_lt_range.filter _).imp fun h => Nat.mul_lt_mul_of_pos_right h hgrid)

theorem mem_gridPoints {grid cells : Nat} {table : Array (Option Nat)} {count z : Nat} :
    z ∈ gridPoints grid cells table count ↔
      ∃ i, i < cells ∧ reaches table count i = true ∧ i * grid = z := by
  simp [gridPoints, and_assoc]

/-- **Every sum of at most `count` of the `steps`**, each as often as wanted.  The steps ascend and
are positive.  `none` if the largest sum does not fit, or the row of cells is refused. -/
def sumsOfAtMost? (steps : List Nat) (positive : ∀ s ∈ steps, 0 < s) (count : Nat) :
    Option LengthSet :=
  match hlast : steps.getLast? with
  | none => some zero
  | some largest =>
    if count = 0 then some zero
    else
      let grid := gcdOf steps
      let top := largest * count
      let cells := top / grid + 1
      if h : top < lengthLimit ∧ cells ≤ maxSize ∧ cells * steps.length ≤ maxWork then
        some
          { toList := gridPoints grid cells (fewestSteps (steps.map (· / grid)) cells) count
            ascending := by
              have hmem := List.mem_of_getLast? hlast
              exact ascending_gridPoints
                (Nat.pos_of_dvd_of_pos (gcdOf_dvd hmem) (positive largest hmem)) _ _ _
            fits := by
              intro z hz
              obtain ⟨i, hi, _, rfl⟩ := mem_gridPoints.1 hz
              have hle : i * grid ≤ top / grid * grid :=
                Nat.mul_le_mul_right grid (Nat.lt_succ_iff.1 hi)
              exact Nat.lt_of_le_of_lt (Nat.le_trans hle (Nat.div_mul_le_self top grid)) h.1 }
      else none

/-- How far the members above `low` lie above it. -/
def stepsAbove (low : Nat) (s : LengthSet) : List Nat := (s.toList.filter (low < ·)).map (· - low)

theorem pos_of_mem_stepsAbove {low : Nat} {s : LengthSet} : ∀ x ∈ stepsAbove low s, 0 < x := by
  intro x hx
  obtain ⟨y, hy, rfl⟩ := List.mem_map.1 hx
  have : low < y := by simpa using (List.mem_filter.1 hy).2
  omega

theorem pos_of_mem_filter {s : LengthSet} : ∀ x ∈ s.toList.filter (0 < ·), 0 < x := by
  intro x hx
  simpa using (List.mem_filter.1 hx).2

/-- **The lengths of `count` values in a row**, the `count`-fold pointwise sum. -/
def replicate? (s : LengthSet) (count : Nat) : Option LengthSet :=
  if count = 0 then some zero
  else
    match s.min? with
    | none => some ∅
    | some low =>
      (sumsOfAtMost? (stepsAbove low s) pos_of_mem_stepsAbove count).bind (·.shift? (low * count))

/-- **The lengths of at most `count` values in a row**, the union of the `k`-fold pointwise sums for
`k ≤ count`. -/
def replicateUpTo? (s : LengthSet) (count : Nat) : Option LengthSet :=
  sumsOfAtMost? (s.toList.filter (0 < ·)) pos_of_mem_filter count

end LengthSet

/-! ## In machine words -/

open LengthSet (gcdOf maxSize maxWork)

/-- **Euclid's loop**: the pair goes on to the second number and the remainder, until there is
none. -/
def euclid (a b : Nat) : Nat := if b = 0 then a else euclid b (a % b)
termination_by b
decreasing_by exact Nat.mod_lt a (Nat.pos_of_ne_zero ‹_›)

/-- **A word** of 64 bits, if the number is one. -/
def word? (n : Nat) : Option Nat := if n < lengthLimit then some n else none

/-- The largest word, in the cells that no way is known to. -/
def unreached : Nat := lengthLimit - 1

/-- One move more than `previous`, where that is better than `best`. -/
def betterWord? (previous best : Nat) : Option Nat :=
  if previous < best - 1 then word? (previous + 1) else some best

/-- Fills the cell `i` from the cells before it.  The strides ascend, so that the first one that is
too long is the end. -/
def relax (table : Array Nat) (i : Nat) : List Nat → Option (Array Nat)
  | [] => some table
  | stride :: strides =>
    if i < stride then some table
    else do
      let previous ← table[i - stride]?
      let best ← table[i]?
      let next ← betterWord? previous best
      relax (table.setIfInBounds i next) i strides

/-- **The table in words**, with the cells after the first filled up to `n`. -/
def fillWords (strides : List Nat) (cells : Nat) : Nat → Option (Array Nat)
  | 0 => if 0 < cells then some ((Array.replicate cells unreached).setIfInBounds 0 0) else none
  | n + 1 => do
    let table ← fillWords strides cells n
    relax table (n + 1) strides

/-- The grid positions of the cells that at most `count` moves reach. -/
def wordPoints (grid cells : Nat) (table : Array Nat) (count : Nat) : Option (List Nat) :=
  ((List.range cells).filter fun i => table.getD i unreached ≤ count).mapM fun i => word? (i * grid)

/-- **The cells of the grid**, unless they are too many, or take too many looks; the products and
the sum are asked for with a check. -/
def wordCells? (largest grid count length : Nat) : Option Nat := do
  let top ← word? (largest * count)
  let cells ← word? (top / grid + 1)
  if maxSize < cells then none
  else
    let work ← word? (cells * length)
    if maxWork < work then none else some cells

/-- **The search in words**: its outcome, which may be a refusal; none if it overflows, or divides
by zero, or looks at a cell that is not there. -/
def wordSums? (steps : List Nat) (count : Nat) : Option (Option (List Nat)) :=
  match steps.getLast? with
  | none => some (some [0])
  | some largest =>
    if count = 0 then some (some [0])
    else if gcdOf steps = 0 then none
    else
      match wordCells? largest (gcdOf steps) count steps.length with
      | none => some none
      | some cells => do
        let table ← fillWords (steps.map (· / gcdOf steps)) cells (cells - 1)
        let sums ← wordPoints (gcdOf steps) cells table count
        return some sums

end WireSchema
