/-!
# PortId — the numbers that a definition may be bound to

A message may be bound to a subject and a service to a service port.  The two kinds of number have
ranges of their own, both from zero.
-/

namespace WireSchema

/-- **What a port number stands for.** -/
inductive PortScope where
  | subject
  | service
  deriving DecidableEq, Repr

namespace PortScope

/-- The largest number of a subject. -/
def maxSubject : Nat := 8191

/-- The largest number of a service port. -/
def maxService : Nat := 511

/-- The largest number of the scope. -/
def maxId : PortScope → Nat
  | .subject => maxSubject
  | .service => maxService

/-- **Whether a number is in the range** of the scope. -/
def admits (scope : PortScope) (id : Nat) : Bool := id ≤ scope.maxId

/-- The word for the scope in messages. -/
def text : PortScope → String
  | .subject => "subject"
  | .service => "service"

theorem admits_iff {scope : PortScope} {id : Nat} : scope.admits id = true ↔ id ≤ scope.maxId := by
  simp [admits]

end PortScope
end WireSchema
