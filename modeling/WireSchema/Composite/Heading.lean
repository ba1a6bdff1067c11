import Std.Data.TreeSet
import WireSchema.Composite.Declaration

/-!
# Composite/Heading — what is checked before anything is laid out

Before a definition is laid out its heading has to be in order: the name, the version, the names of
the attributes, the port number, and the types it depends on.  `Declaration.headingDefect?` is the
first defect in this order.
-/

namespace WireSchema

/-! ## Names of attributes -/

/-- The first name that is in `seen` or stood before it in the list. -/
def firstRepeatAfter (seen : Std.TreeSet String) : List String → Option String
  | [] => none
  | name :: names =>
    if seen.contains name then some name else firstRepeatAfter (seen.insert name) names

/-- **The first name that stood before it in the list**, if there is one. -/
def firstRepeat? (names : List String) : Option String := firstRepeatAfter ∅ names

/-- The names of all attributes but padding, which has none. -/
def attributeNames (attributes : List Attribute) : List String :=
  (attributes.filter (!·.isPadding)).map (·.name)

/-! ## Dependencies -/

/-- **The deprecated composite that an attribute depends on**, through arrays of any depth. -/
def Attribute.deprecatedDependency? (a : Attribute) : Option Composite :=
  a.type.innermost?.filter (·.isDeprecated)

/-- The first attribute that depends on a deprecated composite, as a cause. -/
def deprecatedUse? (attributes : List Attribute) : Option Cause :=
  attributes.findSome? fun a =>
    a.deprecatedDependency?.map fun dependency => .deprecated a.name dependency.text

/-! ## The heading -/

/-- The range of port numbers for what is defined. -/
def Kind.portScope : Kind → PortScope
  | .service => .service
  | _ => .subject

/-- **The first defect in the heading** of a definition, whose name has no white space around it.
The name has a bounded length if `bounded` says so. -/
def Declaration.headingDefect? (d : Declaration) (name : String) (kind : Kind) (bounded : Bool) :
    Option Cause :=
  (Name.defect? bounded name).map .name
  <|> (if d.version.isValid then none else some (.version d.version))
  <|> (firstRepeat? (attributeNames d.attributes)).map .repeatedAttribute
  <|> d.portId?.bind (fun id =>
    if kind.portScope.admits id then none else some (.portId kind.portScope id))
  <|> (if d.isDeprecated then none else deprecatedUse? d.attributes)

end WireSchema
