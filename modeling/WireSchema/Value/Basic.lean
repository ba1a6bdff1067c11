import WireSchema.Bits.Width
import WireSchema.Fault
import WireSchema.Text.Quoted
import WireSchema.Value.Int128

/-!
# Value/Basic — the values of constants

A constant has a truth value, an integer, a rational number or a string.  A rational number is kept
as it was given, numerator over denominator, and counts as an integer where the division leaves no
remainder.
-/

namespace WireSchema

/-- **The value of a constant.** -/
inductive Value where
  | boolean (b : Bool)
  | integer (n : Int128)
  | rational (numerator denominator : Int128)
  | string (s : String)
  deriving DecidableEq

namespace Value

/-- The integer value of a natural number. -/
def ofNat (n : Nat) : Value := .integer (Int128.ofInt n)

/-- The truth value, if it is one. -/
def asBool : Value → Option Bool
  | .boolean b => some b
  | _ => none

/-- The string, if it is one. -/
def asString : Value → Option String
  | .string s => some s
  | _ => none

/-- **The value as an integer**, if it is one.  The division of a rational number faults where the
quotient does not fit. -/
def asInteger : Value → Except Fault (Option Int128)
  | .integer n => .ok (some n)
  | .rational n d =>
    if d.toInt = 0 then .ok none
    else
      match Int128.ofInt? (n.toInt.tdiv d.toInt) with
      | none => .error .remainder
      | some q => .ok (if n.toInt.tmod d.toInt = 0 then some q else none)
  | _ => .ok none

/-- **The value as a word**, a natural number below `lengthLimit`, if it is one. -/
def asWord (v : Value) : Except Fault (Option Nat) :=
  v.asInteger.map fun n? =>
    n?.bind fun n => if 0 ≤ n.toInt ∧ n.toInt < lengthLimit then some n.toInt.toNat else none

/-- The value as it is written: a string between quotes, a rational number with a stroke. -/
def text : Value → String
  | .boolean b => if b then "true" else "false"
  | .integer n => toString n.toInt
  | .rational n d => toString n.toInt ++ "/" ++ toString d.toInt
  | .string s => Text.quoted s

end Value
end WireSchema
