/-!
# Fault — arithmetic that leaves its machine word

Some operations are asked for without a check: their caller promises that every number involved fits
its word.  Where the promise is broken the operation has no value but a **fault**.
-/

namespace WireSchema

/-- **What went wrong** in arithmetic that was asked for without a check. -/
inductive Fault where
  /-- A sum of lengths is not below `lengthLimit`. -/
  | sum
  /-- A remainder whose quotient does not fit a 128-bit integer. -/
  | remainder
  deriving DecidableEq, Repr

/-- The report of a fault. -/
def Fault.text : Fault → String
  | .sum => "attempt to add with overflow"
  | .remainder => "attempt to calculate the remainder with overflow"

end WireSchema
