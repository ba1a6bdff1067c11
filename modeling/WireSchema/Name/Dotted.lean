import WireSchema.Name.Component
import WireSchema.Text.Blank

/-!
# Name/Dotted — the full name of a definition and its parts

The full name of a definition is a row of components with dots between them: namespaces from the
root on, and last the short name.  `Name.components` takes a name apart at every dot; `shortName`,
`fullNamespace` and `rootNamespace` cut it at the last or the first one.

`Name.defect?` is the first defect of a full name.  It needs at least two components, and no more
than `Name.maxLength` characters unless the name was made up for a half of a service.
-/

namespace WireSchema
namespace Name

/-- The character between two components. -/
def separator : Char := '.'

/-- **The pieces of a list between separators**, one more than it has separators. -/
def splitList (cs : List Char) : List (List Char) :=
  cs.foldr
    (fun c pieces =>
      if c = separator then [] :: pieces
      else
        match pieces with
        | [] => [[c]]
        | piece :: rest => (c :: piece) :: rest)
    [[]]

/-- **The components** of a name. -/
def components (name : String) : List String := (splitList name.toList).map String.ofList

/-- Whether the character is not the separator. -/
def isInside (c : Char) : Bool := c != separator

/-- What follows the last separator, or all of a name without one. -/
def shortName (name : String) : String :=
  String.ofList (name.toList.reverse.takeWhile isInside).reverse

/-- What precedes the last separator, or nothing in a name without one. -/
def fullNamespace (name : String) : String :=
  String.ofList ((name.toList.reverse.dropWhile isInside).drop 1).reverse

/-- What precedes the first separator, or all of a name without one. -/
def rootNamespace (name : String) : String := String.ofList (name.toList.takeWhile isInside)

/-- One more component at the end of a name. -/
def child (name component : String) : String := name ++ separator.toString ++ component

/-- **The first defect of a full name**, if it has one.  The bound on its length holds if `bounded`
says so. -/
def defect? (bounded : Bool) (name : String) : Option Defect :=
  if name.toList = [] then some .nothing
  else if !name.toList.contains separator then some .noNamespace
  else if bounded && name.length > maxLength then some (.tooLong name)
  else (components name).findSome? componentDefect?

end Name
end WireSchema
