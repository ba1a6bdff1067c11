/-!
# LengthSet/FewestSteps — how few steps reach a cell

From cell `0` of a row one may move on by any of the given strides, again and again.  The table
`fewestSteps strides cells` holds for each cell the least number of moves that end there, or nothing
for a cell where none ends.  A cell is filled from the cells before it: the last move of a shortest
way starts one stride earlier, where the way to it was shortest too.
-/

namespace WireSchema

/-- The least number of moves that end at the next cell after `table`, the better of `best` and of
one move more than the entry one stride back.  The strides ascend, so that the first one that is
longer than the row is the end. -/
def fewestAt (table : Array (Option Nat)) : List Nat → Option Nat → Option Nat
  | [], best => best
  | stride :: strides, best =>
    if stride ≤ table.size then
      match table.getD (table.size - stride) none, best with
      | none, _ => fewestAt table strides best
      | some n, none => fewestAt table strides (some (n + 1))
      | some n, some m => fewestAt table strides (if n + 1 < m then some (n + 1) else best)
    else best

/-- **The table of shortest ways** to the first `cells` cells. -/
def fewestSteps (strides : List Nat) (cells : Nat) : Array (Option Nat) :=
  Nat.fold cells
    (fun _ _ table =>
      table.push (if table.size = 0 then some 0 else fewestAt table strides none)) #[]

/-- Whether the table knows a way to cell `i` of at most `count` moves. -/
def reaches (table : Array (Option Nat)) (count i : Nat) : Bool :=
  match table.getD i none with
  | none => false
  | some n => n ≤ count

end WireSchema
