import WireSchema.Composite.Build

/-!
# Catalog — the definitions that were made

A catalog holds the composites that were made, in order, and numbers them.  The number of a
composite is its identity: two definitions make two types, however alike they look.  A half of a
service has the number of the service, and through it the service is found.
-/

namespace WireSchema

/-- **The definitions that were made**, each at the place of its number. -/
structure Catalog where
  definitions : Array Composite

namespace Catalog

/-- The catalog without definitions. -/
def empty : Catalog := ⟨#[]⟩

/-- The number of the next definition. -/
def nextSerial (catalog : Catalog) : Nat := catalog.definitions.size

/-- The catalog with one more definition. -/
def push (catalog : Catalog) (c : Composite) : Catalog := ⟨catalog.definitions.push c⟩

/-- **Makes a structure.** -/
def addStructure (catalog : Catalog) (d : Declaration) : Except Error (Composite × Catalog) := do
  let c ← Composite.ofStructure catalog.nextSerial d
  return (c, catalog.push c)

/-- **Makes a tagged union.** -/
def addUnion (catalog : Catalog) (d : Declaration) : Except Error (Composite × Catalog) := do
  let c ← Composite.ofUnion catalog.nextSerial d
  return (c, catalog.push c)

/-- **The service that a composite is a half of**, if it is one. -/
def parentService? (catalog : Catalog) (c : Composite) : Option Composite :=
  match c.identity.role with
  | .whole => none
  | .request | .response => catalog.definitions[c.identity.serial]?

/-- The first half of a new service that is a half of another one already. -/
def takenHalf? (catalog : Catalog) (c : Composite) : Option Composite :=
  (c.request?.toList ++ c.response?.toList).find? fun half => (catalog.parentService? half).isSome

/-- **Makes a service.**  A half belongs to one service only. -/
def addService (catalog : Catalog) (d : ServiceDeclaration) :
    Except Error (Composite × Catalog) := do
  let c ← Composite.ofService catalog.nextSerial d
  refuse ((catalog.takenHalf? c).map fun half => .ofCause (.inconsistent (.takenHalf half.text)))
  return (c, catalog.push c)

end Catalog
end WireSchema
