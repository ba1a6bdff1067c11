import WireSchema.DataType.Basic

/-!
# Composite/Declaration — what a definition says

A `Declaration` is a definition of a structure or a union as it was written, before anything of it
has been checked.  A `ServiceDeclaration` has two schemas, one for each half, and the rest of a
declaration once.
-/

namespace WireSchema

/-- **A definition of a structure or a union**, as it was written. -/
structure Declaration where
  name : String
  version : Version
  attributes : List Attribute
  /-- The extent in bits, if it is not left to be derived. -/
  extent? : Option Nat
  isFinal : Bool
  isDeprecated : Bool
  portId? : Option Nat
  /-- The file of the definition, empty if it has none. -/
  sourcePath : String

/-- **One half of a service**, as it was written. -/
structure Schema where
  attributes : List Attribute
  extent? : Option Nat
  isUnion : Bool
  isFinal : Bool

/-- **A definition of a service**, as it was written. -/
structure ServiceDeclaration where
  name : String
  version : Version
  request : Schema
  response : Schema
  isDeprecated : Bool
  portId? : Option Nat
  sourcePath : String

/-- **The types of the attributes that are laid out**, in order. -/
def fieldTypes (attributes : List Attribute) : List DataType :=
  (attributes.filter (·.isSerialized)).map (·.type)

end WireSchema
