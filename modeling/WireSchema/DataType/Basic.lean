import WireSchema.Primitive
import WireSchema.Value.Basic

/-!
# DataType/Basic — data types, attributes and definitions

A data type is a primitive, an array of elements of one type, or a **composite**: a structure, a
tagged union or a service, which was made from a definition.  A composite has **attributes**: fields
and padding, which are laid out on the wire in order, and constants, which are not.  The three
notions need one another and are defined together.

Arrays and composites keep what was computed when they were made: the lengths of their values, and
for a composite its alignment, its extent, its header and its tag.  So the functions of this file
only read.  What the kept properties have to be is said where arrays and composites are made.
-/

namespace WireSchema

/-! ## The types -/

/-- **Which part of a definition** a composite is. -/
inductive Role where
  /-- The definition itself. -/
  | whole
  /-- The request of a service. -/
  | request
  /-- The response of a service. -/
  | response
  deriving DecidableEq, Repr

/-- **What tells composites apart**: the place of the definition among all that were made, and which
part of it the composite is. -/
structure Identity where
  serial : Nat
  role : Role
  deriving DecidableEq, Repr

/-- **What a definition defines.** -/
inductive Kind where
  | struct
  | union
  | service
  deriving DecidableEq, Repr

mutual

/-- **The type of a field or a constant.** -/
inductive DataType where
  | boolean
  | unsigned (t : UnsignedType)
  | signed (t : SignedType)
  | float (t : FloatType)
  | void (t : VoidType)
  /-- Exactly `capacity` elements. -/
  | fixedArray (element : DataType) (capacity : Nat) (lengths : LengthSet)
  /-- At most `capacity` elements behind a field that counts them. -/
  | variableArray (element : DataType) (capacity : Nat) (lengthField : UnsignedType)
    (lengths : LengthSet)
  | composite (c : Composite)

/-- **One line of a definition.** -/
inductive Attribute where
  | field (name : String) (type : DataType)
  | padding (filler : VoidType)
  | constant (name : String) (type : DataType) (value : Value)

/-- **How the fields of a composite lie on the wire.** -/
inductive Layout where
  /-- One field behind the other. -/
  | struct
  /-- A tag, and one of the fields behind it. -/
  | union (tag : UnsignedType)
  /-- Not at all; only its two halves do. -/
  | service (request response : Composite)

/-- **A composite type** with all that follows from its definition. -/
structure Composite where
  identity : Identity
  name : String
  version : Version
  attributes : List Attribute
  isFinal : Bool
  isDeprecated : Bool
  portId? : Option Nat
  sourcePath : String
  layout : Layout
  /-- Every value starts at a multiple of so many bits. -/
  alignment : Nat
  /-- The bits that a receiver has to make room for. -/
  extent : Nat
  /-- The lengths of the fields together, before the padding at the end. -/
  aggregate : LengthSet
  /-- The lengths of the values. -/
  lengths : LengthSet
  /-- The field that holds the length of a value that is not final. -/
  header? : Option UnsignedType

end

/-! ## Composites -/

namespace Composite

/-- What the composite is. -/
def kind (c : Composite) : Kind :=
  match c.layout with
  | .struct => .struct
  | .union _ => .union
  | .service _ _ => .service

/-- The tag of a union. -/
def tag? (c : Composite) : Option UnsignedType :=
  match c.layout with
  | .union tag => some tag
  | _ => none

/-- The request of a service. -/
def request? (c : Composite) : Option Composite :=
  match c.layout with
  | .service request _ => some request
  | _ => none

/-- The response of a service. -/
def response? (c : Composite) : Option Composite :=
  match c.layout with
  | .service _ response => some response
  | _ => none

/-- The name and the version, with a dot between them. -/
def text (c : Composite) : String := c.name ++ "." ++ c.version.text

end Composite

/-! ## Data types -/

namespace DataType

/-- **The lengths of the values**, in bits. -/
def lengths : DataType → LengthSet
  | .boolean => .singleton 1 (by decide)
  | .unsigned t => t.lengths
  | .signed t => t.lengths
  | .float t => t.lengths
  | .void t => t.lengths
  | .fixedArray _ _ lengths => lengths
  | .variableArray _ _ _ lengths => lengths
  | .composite c => c.lengths

/-- **The alignment**: every value starts at a multiple of so many bits.  An array starts where its
elements may. -/
def alignment : DataType → Nat
  | .fixedArray element _ _ => element.alignment
  | .variableArray element _ _ _ => element.alignment
  | .composite c => c.alignment
  | _ => 1

/-- Whether the type is a filler. -/
def isVoid : DataType → Bool
  | .void _ => true
  | _ => false

/-- The composite, if the type is one. -/
def asComposite? : DataType → Option Composite
  | .composite c => some c
  | _ => none

/-- The composite at the bottom of an array of any depth, if there is one. -/
def innermost? : DataType → Option Composite
  | .fixedArray element _ _ => element.innermost?
  | .variableArray element _ _ _ => element.innermost?
  | .composite c => some c
  | _ => none

/-- **The type as it is written.** -/
def text : DataType → String
  | .boolean => "bool"
  | .unsigned t => t.text
  | .signed t => t.text
  | .float t => t.text
  | .void t => t.text
  | .fixedArray element capacity _ => element.text ++ "[" ++ toString capacity ++ "]"
  | .variableArray element capacity _ _ => element.text ++ "[<=" ++ toString capacity ++ "]"
  | .composite c => c.text

end DataType

/-! ## Attributes -/

namespace Attribute

/-- The name, which is empty for padding. -/
def name : Attribute → String
  | .field name _ => name
  | .padding _ => ""
  | .constant name _ _ => name

/-- The type. -/
def type : Attribute → DataType
  | .field _ type => type
  | .padding filler => .void filler
  | .constant _ type _ => type

/-- **Whether the attribute is laid out on the wire**: all but constants are. -/
def isSerialized : Attribute → Bool
  | .constant _ _ _ => false
  | _ => true

/-- Whether the attribute is padding. -/
def isPadding : Attribute → Bool
  | .padding _ => true
  | _ => false

/-- The value of a constant. -/
def value? : Attribute → Option Value
  | .constant _ _ value => some value
  | _ => none

/-- Whether the attribute is a field with a name. -/
def isField : Attribute → Bool
  | .field _ _ => true
  | _ => false

/-- **The attribute as it is written.** -/
def text : Attribute → String
  | .field name type => type.text ++ " " ++ name
  | .padding filler => filler.text
  | .constant name type value => type.text ++ " " ++ name ++ " = " ++ value.text

/-- A constant is no padding. -/
theorem isPadding_of_constant {a : Attribute} (h : a.isSerialized = false) :
    a.isPadding = false := by
  cases a with
  | field | padding => exact absurd h.symm Bool.false_ne_true
  | constant => rfl

/-- What has a value is a constant. -/
theorem isSerialized_of_value? {a : Attribute} {v : Value} (h : a.value? = some v) :
    a.isSerialized = false := by
  cases a with
  | field | padding => exact absurd h.symm (Option.some_ne_none v)
  | constant => rfl

end Attribute
end WireSchema
