import WireSchema.Bits.RoundUp
import WireSchema.Error.Cause
import WireSchema.Error.Check

/-!
# Composite/Extent — how much room a type needs

The **extent** of a type is the number of bits that a receiver makes room for.  It is a multiple of
the alignment and not below the **minimal extent**, the longest aggregate rounded up.  A final type
has the minimal one.  Any other type may ask for more, to grow into later; if it does not say how
much, it gets twice the longest aggregate, rounded up.
-/

namespace WireSchema

/-- **The extent of a type**, beside the least that it could be. -/
structure Extent where
  minimal : Nat
  bits : Nat
  deriving DecidableEq, Repr

namespace Extent

/-- The least multiple of `a` that is not below `n`, if it is a length. -/
def roundUp? (n a : Nat) : Option Nat :=
  if roundUp n a < lengthLimit then some (roundUp n a) else none

/-- **What is wrong with an extent**, if anything is. -/
def defect? (e : Extent) (alignment : Nat) (isFinal : Bool) : Option Cause :=
  if e.bits % alignment ≠ 0 then some (.extentMisaligned e.bits alignment)
  else if e.bits < e.minimal then some (.extentTooSmall e.bits e.minimal)
  else if isFinal && e.minimal < e.bits then some (.extentOfFinal e.bits e.minimal)
  else none

/-- **The bits of an extent**: those asked for, and otherwise the minimal extent of a final type, or
twice the longest aggregate, rounded up. -/
def choose (alignment longest minimal : Nat) (asked? : Option Nat) (isFinal : Bool) :
    Except Cause Nat :=
  match asked?, isFinal with
  | some bits, _ => .ok bits
  | none, true => .ok minimal
  | none, false => require .lengthOverflow (roundUp? (2 * longest) alignment)

/-- **The extent of a type** whose longest aggregate is `longest`: the one asked for, if it will do,
and otherwise the derived one. -/
def resolve (alignment longest : Nat) (asked? : Option Nat) (isFinal : Bool) :
    Except Cause Extent := do
  let minimal ← require .lengthOverflow (roundUp? longest alignment)
  let bits ← choose alignment longest minimal asked? isFinal
  refuse (defect? ⟨minimal, bits⟩ alignment isFinal)
  return ⟨minimal, bits⟩

end Extent
end WireSchema
