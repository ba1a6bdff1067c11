import WireSchema.DataType.Basic
import WireSchema.Error.Check

/-!
# Composite/Aggregate — the lengths of fields laid out together

The **aggregate** of a structure is found by laying its fields out one behind the other, each at the
next multiple of its alignment.  That of a union is its tag with any one of its variants behind it,
which needs no padding because the tag is as wide as every alignment asks for.  What comes behind
the last field, up to the alignment of the whole, is not part of an aggregate.
-/

namespace WireSchema
namespace Composite

/-- The largest of `bits` and the alignments of the types. -/
def widenTo (bits : Nat) (types : List DataType) : Nat :=
  types.foldl (fun bits t => max bits t.alignment) bits

/-- **The alignment of fields together**: the largest of theirs, and at least a byte. -/
def alignmentOf (types : List DataType) : Nat := widenTo bitsPerByte types

/-! ## Structures -/

/-- The lengths behind one more field: padding up to its alignment, and then the field. -/
def append? (before : LengthSet) (t : DataType) : Option LengthSet :=
  (before.padTo? t.alignment).bind (·.add? t.lengths)

/-- **The aggregate of a structure**: nothing for no fields, and one field behind the other. -/
def structAggregate (types : List DataType) : Except Cause LengthSet :=
  require .lengthOverflow (types.foldlM append? LengthSet.zero)

/-! ## Unions -/

/-- The widths that a tag may have. -/
def tagWidths : List Nat := [8, 16, 32, 64]

/-- **The width of a tag** that tells the variants apart: wide enough for the last of their numbers,
a power of two of at least a byte, and no narrower than any of their alignments. -/
def tagBits (types : List DataType) : Except Cause Nat :=
  let count := types.length
  if count < minVariants then .error (.variantCount count)
  else
    let bits := widenTo (ceilPowerOfTwo (max (bitWidth (count - 1)) bitsPerByte)) types
    if bits ∈ tagWidths then .ok bits else .error (.inconsistent (.tagWidth bits))

/-- **The aggregate of a union**: a tag, and any of the variants behind it.  A union of a single
variant, which no definition may have, has no tag either. -/
def unionAggregate (types : List DataType) : Except Cause LengthSet :=
  match types with
  | [] => .ok LengthSet.zero
  | [t] => .ok t.lengths
  | types => do
    let bits ← tagBits types
    require .lengthOverflow ((LengthSet.unionAll (types.map (·.lengths))).shift? bits)

/-- The aggregate of the fields of a definition.  A service is laid out as the structure of its two
halves. -/
def aggregateOf (kind : Kind) (types : List DataType) : Except Cause LengthSet :=
  match kind with
  | .union => unionAggregate types
  | .struct | .service => structAggregate types

end Composite
end WireSchema
