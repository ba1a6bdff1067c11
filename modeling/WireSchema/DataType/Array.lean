import WireSchema.DataType.Basic
import WireSchema.Error.Check

/-!
# DataType/Array — making array types

An array of `n` elements is as long as `n` values in a row.  An array of up to `n` elements has a
field in front that holds their number; it is wide enough for `n`, a power of two of at least a
byte, and not narrower than the alignment of the elements, which start right behind it.

An array needs a capacity, lengths that fit, and not too many of them; `ofFixedArray` and
`ofVariableArray` refuse all others.
-/

namespace WireSchema
namespace DataType

/-- The lengths that make an array too large. -/
def tooLarge (element : DataType) (capacity : Nat) : Cause :=
  .arrayTooLarge capacity element.text

/-- **The array of exactly `capacity` elements.** -/
def ofFixedArray (element : DataType) (capacity : Nat) : Except Cause DataType := do
  refuse (if capacity = 0 then some .zeroCapacity else none)
  let lengths ← require (element.tooLarge capacity) (element.lengths.replicate? capacity)
  return .fixedArray element capacity lengths

/-- **The width of the field that counts** up to `capacity` elements of the given alignment. -/
def lengthFieldBits (capacity alignment : Nat) : Nat :=
  max (max (ceilPowerOfTwo (bitWidth capacity)) bitsPerByte) alignment

/-- **The array of at most `capacity` elements.** -/
def ofVariableArray (element : DataType) (capacity : Nat) : Except Cause DataType := do
  refuse (if capacity = 0 then some .zeroCapacity else none)
  let field ← UnsignedType.ofBits (lengthFieldBits capacity element.alignment) .saturated
  let lengths ← require (element.tooLarge capacity)
    ((element.lengths.replicateUpTo? capacity).bind (·.shift? field.bits))
  return .variableArray element capacity field lengths

end DataType
end WireSchema
