import WireSchema.Error.Check
import WireSchema.Primitive

/-!
# Composite/Framing — the lengths of a type as others see it

A **final** type is seen as it is: its lengths are those of its aggregate, padded to its alignment.
A type that may still change is **delimited**: a header says how long the value is, and the value
may have any aligned length up to the extent, so that nobody relies on more.
-/

namespace WireSchema
namespace Framing

/-- The width of a delimiter header, unless an alignment asks for more. -/
def defaultHeaderBits : Nat := 32

/-- **The header of a type** of the given alignment; a final type has none. -/
def header? (alignment : Nat) (isFinal : Bool) : Except Cause (Option UnsignedType) :=
  if isFinal then .ok none
  else
    let bits := max defaultHeaderBits alignment
    match UnsignedType.ofBits bits .saturated with
    | .ok header => .ok (some header)
    | .error cause => .error (.inconsistent (.headerWidth bits cause.message))

/-- The largest extent of a delimited type that a message speaks of. -/
def largestExtent (alignment : Nat) : Nat :=
  min ((LengthSet.maxSize - 1) * alignment) (lengthLimit - 1)

/-- **The lengths of a delimited type**: the header, and any multiple of the alignment up to the
extent behind it. -/
def delimited (alignment extent headerBits : Nat) : Except Cause LengthSet := do
  refuse
    (if LengthSet.maxSize ≤ extent / alignment then
      some (.extentTooLarge extent (largestExtent alignment))
    else none)
  refuse (if alignment < lengthLimit then none else some (.inconsistent .stride))
  require .lengthOverflow
    ((LengthSet.progression? 0 alignment (extent / alignment + 1)).bind (·.shift? headerBits))

/-- **The lengths of a type** behind its header, or without one. -/
def lengths (alignment extent : Nat) (aggregate : LengthSet) :
    Option UnsignedType → Except Cause LengthSet
  | none => require .lengthOverflow (aggregate.padTo? alignment)
  | some header => delimited alignment extent header.bits

end Framing
end WireSchema
