import WireSchema.Composite.Lookup
import WireSchema.Error.Check

/-!
# Composite/Offsets — where the fields of a value start

Given the positions at which a value may start, the fields of the value start at positions that
follow from the layout: in a structure each behind the one before it, at the next multiple of its
alignment, and in a union all right behind the tag.

One check is made before the first field: the last position together with the longest aggregate has
to be a length.  Everything behind the check is asked for without one.
-/

namespace WireSchema

/-- **Why there are no offsets**: an error, or arithmetic that failed behind the check. -/
inductive Failure where
  | error (e : Error)
  | fault (f : Fault)
  deriving DecidableEq

/-- **A field with the positions** where it may start. -/
structure Placement where
  field : Attribute
  offsets : LengthSet

namespace Composite

/-- A service has no serialized form of its own. -/
def ensureSerializable (c : Composite) : Except Error Unit :=
  refuse (if c.kind = .service then some (.ofCause .serviceNotSerializable) else none)

/-- **The aggregate**, of every composite that has a serialized form. -/
def serializedAggregate (c : Composite) : Except Error LengthSet := do
  c.ensureSerializable
  return c.aggregate

/-- The positions asked for, or the start where none are. -/
def basePositions : Option LengthSet → LengthSet
  | none => LengthSet.zero
  | some base => if base.isEmpty then LengthSet.zero else base

/-- Whether the largest members of two sets have a sum that is a length. -/
def maximaFit (s t : LengthSet) : Bool :=
  match s.max?, t.max? with
  | some x, some y => x + y < lengthLimit
  | _, _ => false

/-- **The aligned positions at which a value starts**, after the one check. -/
def startPositions (c : Composite) (base? : Option LengthSet) : Except Error LengthSet := do
  c.ensureSerializable
  let start ← require (.ofCause .lengthOverflow) ((basePositions base?).padTo? c.alignment)
  refuse (if maximaFit start c.aggregate then none else some (.ofCause .lengthOverflow))
  return start

/-- The fields of a structure from the given positions on, behind those that `placed` holds
backwards. -/
def placeInRow (placed : List Placement) (position : LengthSet) :
    List Attribute → Except Fault (List Placement)
  | [] => .ok placed.reverse
  | a :: rest =>
    match position.padTo a.type.alignment with
    | .error f => .error f
    | .ok offsets =>
      match offsets.add a.type.lengths with
      | .error f => .error f
      | .ok next => placeInRow (⟨a, offsets⟩ :: placed) next rest

/-- **The fields of a value that starts at the given positions.** -/
def placeFields (c : Composite) (start : LengthSet) : Except Fault (List Placement) :=
  match c.tag? with
  | none => placeInRow [] start c.fields
  | some tag => do
    let offsets ← start.shift tag.bits
    return c.fields.map fun a => ⟨a, offsets⟩

/-- **The fields with their offsets**, for a value that starts at a position in `base?`. -/
def placements (c : Composite) (base? : Option LengthSet) : Except Failure (List Placement) := do
  let start ← (c.startPositions base?).mapError .error
  (c.placeFields start).mapError .fault

end Composite
end WireSchema
