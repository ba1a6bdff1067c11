import WireSchema.Text.Quoted

/-!
# Error/Kind — the kinds of error

Errors are sorted by what they are about.  All but two kinds are mistakes in a definition or in its
use, and their detail is the whole message; an unknown attribute is reported by its name, and an
internal error says that the fault is not the user's.
-/

namespace WireSchema

/-- **The kind of an error.** -/
inductive ErrorKind where
  | invalidName
  | invalidVersion
  | attributeNameCollision
  | invalidFixedPortId
  | malformedUnion
  | deprecatedDependency
  | invalidExtent
  | notSerializable
  | unknownAttribute
  | invalidType
  | internal
  deriving DecidableEq, Repr

/-- **The message of an error** of the kind with the given detail. -/
def ErrorKind.message (kind : ErrorKind) (detail : String) : String :=
  match kind with
  | .unknownAttribute => "No such attribute: " ++ Text.quoted detail
  | .internal =>
    "Internal error: " ++ detail ++
      " This is a bug in the DSDL compiler core, please report it."
  | _ => detail

end WireSchema
