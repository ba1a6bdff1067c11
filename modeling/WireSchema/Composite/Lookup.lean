import Std.Data.HashMap
import WireSchema.DataType.Basic
import WireSchema.Error.Check
import WireSchema.Error.Located

/-!
# Composite/Lookup — finding attributes by name

Fields and constants are found by their names, which differ; padding has no name and is never found.
They are searched for in the list (`Composite.lookup`), or with an index from names to places, which
is filled when the heading is checked (`indexOf`, `Composite.lookupIn`).

In an expression the name of a constant stands for its value, and one reserved name for the extent,
unless a constant has that name.  What any other name stands for is left to whoever asks.
-/

namespace WireSchema

/-! ## The index -/

/-- The index with the places of more attributes, the first of which is at `place`.  A name that is
there already is a defect. -/
def fillIndex (index : Std.HashMap String Nat) (place : Nat) :
    List Attribute → Except Cause (Std.HashMap String Nat)
  | [] => .ok index
  | a :: rest =>
    if a.isPadding then fillIndex index (place + 1) rest
    else if a.name ∈ index then .error (.repeatedAttribute a.name)
    else fillIndex (index.insert a.name place) (place + 1) rest

/-- **The index of attributes**, from names to places. -/
def indexOf (attributes : List Attribute) : Except Cause (Std.HashMap String Nat) :=
  fillIndex ∅ 0 attributes

/-! ## Lookups -/

namespace Composite

/-- **The attributes that are laid out**, in order. -/
def fields (c : Composite) : List Attribute := c.attributes.filter (·.isSerialized)

/-- The fields that have a name, in order. -/
def namedFields (c : Composite) : List Attribute := c.attributes.filter (·.isField)

/-- The constants, in order. -/
def constants (c : Composite) : List Attribute := c.attributes.filter (!·.isSerialized)

/-- **The field or constant of the name.** -/
def lookup (c : Composite) (name : String) : Except Error Attribute :=
  match c.attributes.find? fun a => !a.isPadding && a.name == name with
  | some a => .ok a
  | none => .error (.ofCause (.unknownAttribute name))

/-- The field or constant of the name, found with an index. -/
def lookupIn (c : Composite) (index : Std.HashMap String Nat) (name : String) :
    Except Error Attribute :=
  require (.ofCause (.unknownAttribute name)) (index[name]?.bind (c.attributes[·]?))

/-- The value of the constant of the name. -/
def constantValue? (c : Composite) (name : String) : Option Value :=
  (c.constants.find? (·.name == name)).bind (·.value?)

/-- The name that stands for the extent in an expression. -/
def extentName : String := "_extent_"

/-- **What a name stands for in an expression**: a constant, then the extent, then what `fallback`
makes of it. -/
def expressionValue {m : Type → Type} [Monad m] (c : Composite) (name : String)
    (fallback : String → m Value) : m Value :=
  match c.constantValue? name with
  | some value => pure value
  | none => if name = extentName then pure (.ofNat c.extent) else fallback name

end Composite
end WireSchema
