import WireSchema.Error.Kind
import WireSchema.LengthSet.Replicate
import WireSchema.Name.Dotted
import WireSchema.PortId
import WireSchema.Version

/-!
# Error/Cause — what an error is about

A `Cause` says what was wrong, with the numbers and names that were involved.  Its kind and its
detail follow from it, and so does its message.  The broken invariants of `Inconsistency` stand for
computations that came out as they never should; they are the only causes of the kind `internal`
that the library itself finds.
-/

namespace WireSchema

/-! ## Broken invariants -/

/-- **A computed property that is not as it should be.** -/
inductive Inconsistency where
  /-- A definition without a single length. -/
  | noLength (name : String)
  /-- A delimiter header that no integer type fits. -/
  | headerWidth (bits : Nat) (reason : String)
  /-- A tag whose width is not that of a machine word. -/
  | tagWidth (bits : Nat)
  /-- A tag that no integer type fits. -/
  | tagType (bits : Nat) (reason : String)
  /-- An alignment that is not a number of bytes. -/
  | alignment (bits : Nat)
  /-- An extent that is not a number of bytes, or not above the minimal one. -/
  | extent (bits minimal : Nat)
  /-- Lengths of a definition that its alignment does not divide. -/
  | lengths (found : LengthSet)
  /-- An alignment too large to step through lengths by. -/
  | stride
  /-- A half that has a service already. -/
  | takenHalf (half : String)
  deriving DecidableEq

/-- The broken invariant as a detail. -/
def Inconsistency.text : Inconsistency → String
  | .noLength name => "empty aggregate bit length set of " ++ name
  | .headerWidth bits reason => "delimiter header of " ++ toString bits ++ " bits: " ++ reason
  | .tagWidth bits => "union tag width " ++ toString bits ++ " is not a standard width"
  | .tagType bits reason => "union tag of " ++ toString bits ++ " bits: " ++ reason
  | .alignment bits => "alignment requirement of " ++ toString bits ++ " bits"
  | .extent bits minimal =>
    "extent of " ++ toString bits ++ " bits against minimal extent of " ++ toString minimal ++
      " bits"
  | .lengths found => "bit length set " ++ found.text ++ " is not aligned"
  | .stride => "alignment requirement does not fit in usize"
  | .takenHalf half => half ++ " already belongs to a service"

/-! ## Causes -/

/-- A family of primitive types that has a range of widths. -/
inductive WidthFamily where
  | unsigned
  | signed
  | void
  deriving DecidableEq, Repr

/-- The name of the family in messages. -/
def WidthFamily.text : WidthFamily → String
  | .unsigned => "unsigned integer"
  | .signed => "signed integer"
  | .void => "void"

/-- The narrowest type of the family; two bits for an integer with a sign. -/
def WidthFamily.narrowest : WidthFamily → Nat
  | .signed => 2
  | _ => 1

/-- The widest type of every family. -/
def widestPrimitive : Nat := 64

/-- The least number of variants of a union. -/
def minVariants : Nat := 2

/-- **What an error is about.** -/
inductive Cause where
  /-- A name that does not follow the rules. -/
  | name (defect : Name.Defect)
  /-- A version out of range. -/
  | version (given : Version)
  /-- A second attribute of the same name. -/
  | repeatedAttribute (word : String)
  /-- A port number out of the range of its scope. -/
  | portId (scope : PortScope) (id : Nat)
  /-- An attribute whose type is deprecated, in a definition that is not. -/
  | deprecated (user dependency : String)
  /-- A length that is not below `lengthLimit`. -/
  | lengthOverflow
  /-- An explicit extent that the alignment does not divide. -/
  | extentMisaligned (extent alignment : Nat)
  /-- An explicit extent below the longest value. -/
  | extentTooSmall (extent minimal : Nat)
  /-- An explicit extent above the longest value of a final type. -/
  | extentOfFinal (extent minimal : Nat)
  /-- An extent below which there are too many lengths. -/
  | extentTooLarge (extent largest : Nat)
  /-- A union with fewer than two variants. -/
  | tooFewVariants
  /-- A union with a filler among its attributes. -/
  | fillerInUnion
  /-- A number of variants that no tag tells apart. -/
  | variantCount (count : Nat)
  /-- A service taken for a type with a serialized form. -/
  | serviceNotSerializable
  /-- A name that no field and no constant has. -/
  | unknownAttribute (word : String)
  /-- A width out of the range of its family. -/
  | width (family : WidthFamily) (bits : Nat)
  /-- A width that no floating-point format has. -/
  | floatWidth (bits : Nat)
  /-- An array of no elements. -/
  | zeroCapacity
  /-- An array with a length too long, or with too many lengths. -/
  | arrayTooLarge (capacity : Nat) (element : String)
  /-- A computed property that is not as it should be. -/
  | inconsistent (what : Inconsistency)
  /-- A cause that is known only by its kind and its detail. -/
  | reported (kind : ErrorKind) (detail : String)
  deriving DecidableEq

namespace Cause

/-- **The kind of error** that the cause makes. -/
def kind : Cause → ErrorKind
  | .name _ => .invalidName
  | .version _ => .invalidVersion
  | .repeatedAttribute _ => .attributeNameCollision
  | .portId _ _ => .invalidFixedPortId
  | .deprecated _ _ => .deprecatedDependency
  | .lengthOverflow | .extentMisaligned _ _ | .extentTooSmall _ _ | .extentOfFinal _ _
  | .extentTooLarge _ _ => .invalidExtent
  | .tooFewVariants | .fillerInUnion | .variantCount _ => .malformedUnion
  | .serviceNotSerializable => .notSerializable
  | .unknownAttribute _ => .unknownAttribute
  | .width _ _ | .floatWidth _ | .zeroCapacity | .arrayTooLarge _ _ => .invalidType
  | .inconsistent _ => .internal
  | .reported kind _ => kind

/-- **The detail** that the kind of error puts into its message. -/
def detail : Cause → String
  | .name defect => defect.text
  | .version given => "Invalid version numbers: " ++ given.text
  | .repeatedAttribute word => "Multiple attributes under the same name: " ++ Text.quoted word
  | .portId scope id => "Fixed " ++ scope.text ++ " ID " ++ toString id ++ " is not valid"
  | .deprecated user dependency =>
    "A type cannot depend on deprecated types unless it is also deprecated: " ++
      Text.quoted user ++ " is of " ++ dependency
  | .lengthOverflow => "The serialized length of this data type does not fit in 64 bits"
  | .extentMisaligned extent alignment =>
    "The specified extent of " ++ toString extent ++ " bits is not a multiple of " ++
      toString alignment ++ " bits"
  | .extentTooSmall extent minimal =>
    "The specified extent of " ++ toString extent ++ " bits is too small for this data type. " ++
      "Either compactify the data type or increase the extent at least to " ++ toString minimal ++
      " bits. Beware that the latter option may break wire compatibility."
  | .extentOfFinal extent minimal =>
    "Cannot override the extent because the type is final. Either remove the explicit extent " ++
      "specification or change it from " ++ toString extent ++ " bits to " ++ toString minimal ++
      " bits."
  | .extentTooLarge extent largest =>
    "The extent of " ++ toString extent ++
      " bits is too large; a delimited type supports at most " ++ toString largest ++ " bits"
  | .tooFewVariants =>
    "A tagged union cannot contain fewer than " ++ toString minVariants ++ " variants"
  | .fillerInUnion => "Padding fields not allowed in unions"
  | .variantCount count => "Invalid number of variants: " ++ toString count
  | .serviceNotSerializable =>
    "Service types are not directly serializable. Use either request or response."
  | .unknownAttribute word => word
  | .width family bits =>
    "Invalid bit length for " ++ family.text ++ " type: " ++ toString bits ++ " (expected " ++
      toString family.narrowest ++ "..=" ++ toString widestPrimitive ++ ")"
  | .floatWidth bits => "Invalid bit length for float type: " ++ toString bits
  | .zeroCapacity => "Array capacity cannot be zero"
  | .arrayTooLarge capacity element =>
    "Array of capacity " ++ toString capacity ++ " of " ++ element ++
      " is too large: its lengths do not fit in 64 bits or exceed " ++ toString LengthSet.maxSize ++
      " distinct values"
  | .inconsistent what => what.text
  | .reported _ detail => detail

/-- **The message** of the cause. -/
def message (cause : Cause) : String := cause.kind.message cause.detail

end Cause
end WireSchema
