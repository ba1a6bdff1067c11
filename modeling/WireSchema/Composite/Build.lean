import WireSchema.Composite.Aggregate
import WireSchema.Composite.Extent
import WireSchema.Composite.Framing
import WireSchema.Composite.Heading
import WireSchema.Error.Located
import WireSchema.Text.Blank

/-!
# Composite/Build — making composites from definitions

A composite is made in three steps.  The heading is checked; the fields are laid out, which gives
the **footprint** of the composite; and the footprint is put together with what the definition says.
The first rule that is broken is the error, and it names the file of the definition.

The footprint depends on the attributes and on nothing else that a definition says but its kind, its
extent and whether it is final.  A service is the final structure of its two halves, which are made
first, under the name of the service.  The errors of these three runs are put in the file of the
service at the end (`Composite.ofService`), or by each run for itself (`Composite.ofRuns`).
-/

namespace WireSchema

/-! ## Footprints -/

/-- **What a composite takes on the wire.** -/
structure Footprint where
  alignment : Nat
  extent : Extent
  aggregate : LengthSet
  header? : Option UnsignedType
  lengths : LengthSet

/-- What is wrong with the attributes of a union, if anything is: there are at least two variants,
and no attribute is padding or of the type of padding. -/
def variantDefect? (attributes : List Attribute) : Option Cause :=
  if (fieldTypes attributes).length < minVariants then some .tooFewVariants
  else if attributes.any fun a => a.isPadding || a.type.isVoid then some .fillerInUnion
  else none

namespace Footprint

/-- **The footprint of attributes**, in a composite of the given kind and name. -/
def ofAttributes (name : String) (kind : Kind) (attributes : List Attribute)
    (asked? : Option Nat) (isFinal : Bool) : Except Cause Footprint := do
  let types := fieldTypes attributes
  let alignment := Composite.alignmentOf types
  let aggregate ← Composite.aggregateOf kind types
  let longest ← require (.inconsistent (.noLength name)) aggregate.max?
  let extent ← Extent.resolve alignment longest asked? isFinal
  refuse (if kind = .union then variantDefect? attributes else none)
  let header? ← Framing.header? alignment isFinal
  let lengths ← Framing.lengths alignment extent.bits aggregate header?
  return { alignment, extent, aggregate, header?, lengths }

/-- **What does not fit together in a footprint**, if anything does not. -/
def inconsistency? (f : Footprint) (isFinal : Bool) : Option Inconsistency :=
  if f.alignment < bitsPerByte ∨ f.alignment % bitsPerByte ≠ 0 then some (.alignment f.alignment)
  else if f.extent.bits % bitsPerByte ≠ 0 ∨ f.extent.bits < f.extent.minimal ∨
      (isFinal = true ∧ f.extent.bits ≠ f.extent.minimal) then
    some (.extent f.extent.bits f.extent.minimal)
  else if f.lengths.isEmpty || !f.lengths.isAligned f.alignment then some (.lengths f.lengths)
  else none

end Footprint

/-! ## Layouts -/

/-- **What is being made**: for a service the halves are there already. -/
inductive Shape where
  | struct
  | union
  | service (request response : Composite)

/-- The kind of the composite that is being made. -/
def Shape.kind : Shape → Kind
  | .struct => .struct
  | .union => .union
  | .service _ _ => .service

/-- What a schema defines. -/
def Schema.shape (s : Schema) : Shape := if s.isUnion then .union else .struct

theorem Schema.shape_eq (s : Schema) : s.shape = .struct ∨ s.shape = .union := by
  rw [shape]
  split
  · exact Or.inr rfl
  · exact Or.inl rfl

/-- **The layout of the composite** that is being made, with the tag of a union. -/
def Shape.layout (shape : Shape) (types : List DataType) : Except Cause Layout :=
  match shape with
  | .struct => .ok .struct
  | .union => do
    let bits ← Composite.tagBits types
    match UnsignedType.ofBits bits .truncated with
    | .ok tag => .ok (.union tag)
    | .error cause => .error (.inconsistent (.tagType bits cause.message))
  | .service request response => .ok (.service request response)

/-! ## Composites -/

namespace Composite

/-- The composite that a declaration and what was computed from it make up. -/
def assemble (identity : Identity) (name : String) (d : Declaration) (footprint : Footprint)
    (layout : Layout) : Composite where
  identity := identity
  name := name
  version := d.version
  attributes := d.attributes
  isFinal := d.isFinal
  isDeprecated := d.isDeprecated
  portId? := d.portId?
  sourcePath := d.sourcePath
  layout := layout
  alignment := footprint.alignment
  extent := footprint.extent.bits
  aggregate := footprint.aggregate
  lengths := footprint.lengths
  header? := footprint.header?

/-- **The composite of a declaration.** -/
def build (identity : Identity) (shape : Shape) (bounded : Bool) (d : Declaration) :
    Except Cause Composite := do
  let name := Text.trim d.name
  refuse (d.headingDefect? name shape.kind bounded)
  let footprint ← Footprint.ofAttributes name shape.kind d.attributes d.extent? d.isFinal
  let layout ← shape.layout (fieldTypes d.attributes)
  refuse ((footprint.inconsistency? d.isFinal).map .inconsistent)
  return assemble identity name d footprint layout

/-- A cause found in the file of the given path. -/
def located (path : String) (cause : Cause) : Error :=
  (Error.ofCause cause).locatedAt (some path) none

/-- **The structure of a declaration.** -/
def ofStructure (serial : Nat) (d : Declaration) : Except Error Composite :=
  (build ⟨serial, .whole⟩ .struct true d).mapError (located d.sourcePath)

/-- **The tagged union of a declaration.** -/
def ofUnion (serial : Nat) (d : Declaration) : Except Error Composite :=
  (build ⟨serial, .whole⟩ .union true d).mapError (located d.sourcePath)

/-- The last component of the name of a half. -/
def halfName : Role → String
  | .response => "Response"
  | _ => "Request"

/-- The declaration of one half of a service, under the name of the service and in no file. -/
def halfDeclaration (d : ServiceDeclaration) (name : String) (role : Role) (s : Schema) :
    Declaration where
  name := Name.child name (halfName role)
  version := d.version
  attributes := s.attributes
  extent? := s.extent?
  isFinal := s.isFinal
  isDeprecated := d.isDeprecated
  portId? := none
  sourcePath := ""

/-- One half of a service. -/
def half (serial : Nat) (d : ServiceDeclaration) (name : String) (role : Role) (s : Schema) :
    Except Cause Composite :=
  build ⟨serial, role⟩ s.shape false (halfDeclaration d name role s)

/-- The declaration of a service as the final structure of its two halves. -/
def containerDeclaration (d : ServiceDeclaration) (name : String) (request response : Composite) :
    Declaration where
  name := name
  version := d.version
  attributes :=
    [.field "request" (.composite request), .field "response" (.composite response)]
  extent? := none
  isFinal := true
  isDeprecated := d.isDeprecated
  portId? := d.portId?
  sourcePath := d.sourcePath

/-- The service of a declaration, with causes for errors. -/
def buildService (serial : Nat) (d : ServiceDeclaration) : Except Cause Composite := do
  let name := Text.trim d.name
  let request ← half serial d name .request d.request
  let response ← half serial d name .response d.response
  build ⟨serial, .whole⟩ (.service request response) true
    (containerDeclaration d name request response)

/-- **The service of a declaration**, with its two halves. -/
def ofService (serial : Nat) (d : ServiceDeclaration) : Except Error Composite :=
  (buildService serial d).mapError (located d.sourcePath)

/-! ## Services, run by run -/

/-- **The composite of a declaration**, with errors in its file. -/
def ofDeclaration (identity : Identity) (shape : Shape) (bounded : Bool) (d : Declaration) :
    Except Error Composite :=
  (build identity shape bounded d).mapError (located d.sourcePath)

/-- One half of a service, made in no file and then put in the file of the service. -/
def ofHalf (serial : Nat) (d : ServiceDeclaration) (role : Role) (s : Schema) :
    Except Error Composite :=
  (ofDeclaration ⟨serial, role⟩ s.shape false
    (halfDeclaration d (Text.trim d.name) role s)).mapError (·.locatedAt (some d.sourcePath) none)

/-- **The service of a declaration, run by run**, each with the errors of its own. -/
def ofRuns (serial : Nat) (d : ServiceDeclaration) : Except Error Composite := do
  let request ← ofHalf serial d .request d.request
  let response ← ofHalf serial d .response d.response
  ofDeclaration ⟨serial, .whole⟩ (.service request response) true
    (containerDeclaration d (Text.trim d.name) request response)

end Composite
end WireSchema
