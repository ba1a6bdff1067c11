import WireSchema.Catalog
import WireSchema.Proofs.Composite.Refusals
import WireSchema.Proofs.DataType.Buildable

/-!
# Proofs/Catalog/Refusals — what a construction may stop at

The halves of a service are made first, and so are the types of all attributes; by the invariant of
types that can be made the container of a service and every other definition find well-formed
fields.  A half of a new service carries a number that no service of the catalog has, so that no
half is ever taken.  The main theorem `Catalog.only_refusals` collects this for all constructions:
none of them stops at an internal error.
-/

namespace WireSchema

/-! ## Services -/

/-- **Attributes of types that can be made**, not more of them than a word of 64 bits counts. -/
structure Admissible (attributes : List Attribute) : Prop where
  buildable : ∀ a ∈ attributes, a.type.Buildable
  length_lt : attributes.length < lengthLimit

theorem Admissible.wellFormed {attributes : List Attribute} (h : Admissible attributes) :
    ∀ t ∈ fieldTypes attributes, t.WellFormed :=
  wellFormed_of_mem_fieldTypes fun a ha => (h.buildable a ha).wellFormed

theorem Admissible.length_fieldTypes_le {attributes : List Attribute} (h : Admissible attributes) :
    (fieldTypes attributes).length ≤ lengthLimit := by
  rw [fieldTypes, List.length_map]
  exact (List.length_filter_le _ _).trans h.length_lt.le

namespace Composite

variable {serial : Nat} {d : ServiceDeclaration} {name : String} {role : Role} {s : Schema}
  {c : Composite}

theorem half_onlyFails (serial : Nat) (d : ServiceDeclaration) (name : String) (role : Role)
    (h : Admissible s.attributes) : OnlyFails Cause.IsRefusal (half serial d name role s) :=
  build_onlyFails _ _ _ h.wellFormed h.length_fieldTypes_le

theorem wellFormed_of_half (ha : Admissible s.attributes) (h : half serial d name role s = .ok c) :
    (DataType.composite c).WellFormed := by
  have hmade := madeFrom_of_build h
  refine hmade.wellFormed ?_
  rw [hmade.attributes_eq]
  exact ha.wellFormed

theorem buildService_onlyFails (serial : Nat) (hrequest : Admissible d.request.attributes)
    (hresponse : Admissible d.response.attributes) :
    OnlyFails Cause.IsRefusal (buildService serial d) := by
  refine (half_onlyFails serial d _ .request hrequest).bind fun request hreq => ?_
  refine (half_onlyFails serial d _ .response hresponse).bind fun response hres => ?_
  have htwo : 2 ≤ lengthLimit := by decide
  exact build_onlyFails _ _ _ (List.forall_mem_cons.2
    ⟨wellFormed_of_half hrequest hreq,
      List.forall_mem_singleton.2 (wellFormed_of_half hresponse hres)⟩) htwo

end Composite

namespace Catalog

/-- A half of a new service has no service in the catalog: it has the number that is next. -/
theorem parentService?_eq_none {catalog : Catalog} {c : Composite}
    (h : c.identity.serial = catalog.nextSerial) : catalog.parentService? c = none := by
  have hnone : catalog.definitions[c.identity.serial]? = none := by
    rw [h]
    exact Array.getElem?_size
  rw [parentService?]
  split
  · rfl
  · exact hnone
  · exact hnone

theorem takenHalf?_eq_none {catalog : Catalog} {d : ServiceDeclaration} {c : Composite}
    (h : Composite.ofService catalog.nextSerial d = .ok c) : catalog.takenHalf? c = none := by
  obtain ⟨request, response, hrequest, hresponse, hbuild⟩ := Composite.exists_of_ofService h
  obtain ⟨hreq, hres⟩ := (Composite.madeFrom_of_build hbuild).halves_eq
  have hrequestFree : catalog.parentService? request = none :=
    parentService?_eq_none (by rw [Composite.identity_of_build hrequest])
  have hresponseFree : catalog.parentService? response = none :=
    parentService?_eq_none (by rw [Composite.identity_of_build hresponse])
  rw [takenHalf?, hreq, hres]
  simp [hrequestFree, hresponseFree]

theorem addStructure_onlyFails (catalog : Catalog) {d : Declaration}
    (h : Admissible d.attributes) :
    OnlyFails (fun e => e.cause.IsRefusal) (catalog.addStructure d) := by
  refine OnlyFails.bind ?_ fun _ _ => onlyFails_ok _ _
  exact (Composite.build_onlyFails _ _ _ h.wellFormed h.length_fieldTypes_le).mapError
    fun _ hcause => hcause

theorem addUnion_onlyFails (catalog : Catalog) {d : Declaration} (h : Admissible d.attributes) :
    OnlyFails (fun e => e.cause.IsRefusal) (catalog.addUnion d) := by
  refine OnlyFails.bind ?_ fun _ _ => onlyFails_ok _ _
  exact (Composite.build_onlyFails _ _ _ h.wellFormed h.length_fieldTypes_le).mapError
    fun _ hcause => hcause

theorem addService_onlyFails (catalog : Catalog) {d : ServiceDeclaration}
    (hrequest : Admissible d.request.attributes) (hresponse : Admissible d.response.attributes) :
    OnlyFails (fun e => e.cause.IsRefusal) (catalog.addService d) := by
  refine OnlyFails.bind ?_ fun c hc => ?_
  · exact (Composite.buildService_onlyFails _ hrequest hresponse).mapError fun _ hcause => hcause
  refine OnlyFails.bind (onlyFails_refuse fun e he => ?_) fun _ _ => onlyFails_ok _ _
  rw [takenHalf?_eq_none hc] at he
  exact absurd he (Option.some_ne_none e).symm

end Catalog

/-! ## Arrays -/

namespace DataType

variable {element : DataType} {capacity : Nat}

/-- What an array may be refused for: having no room at all, or too many or too long lengths. -/
def ArrayRefusal (element : DataType) (capacity : Nat) (cause : Cause) : Prop :=
  (capacity = 0 ∧ cause = .zeroCapacity) ∨ (capacity ≠ 0 ∧ cause = element.tooLarge capacity)

theorem onlyFails_capacity (element : DataType) (capacity : Nat) :
    OnlyFails (element.ArrayRefusal capacity)
      (refuse (if capacity = 0 then some .zeroCapacity else none)) := by
  refine onlyFails_refuse fun cause h => ?_
  split_ifs at h with hzero
  exact Or.inl ⟨hzero, (Option.some.inj h).symm⟩

theorem ofFixedArray_onlyFails (element : DataType) (capacity : Nat) :
    OnlyFails (element.ArrayRefusal capacity) (ofFixedArray element capacity) := by
  refine (onlyFails_capacity element capacity).bind fun _ hzero => ?_
  have hne : capacity ≠ 0 := by simpa using hzero
  refine OnlyFails.bind (onlyFails_require fun _ => ?_) fun _ _ => onlyFails_ok _ _
  exact Or.inr ⟨hne, rfl⟩

/-- The field that counts the elements always fits an integer. -/
theorem WellFormed.ofVariableArray_onlyFails (he : element.WellFormed)
    (hlimit : capacity < lengthLimit) :
    OnlyFails (element.ArrayRefusal capacity) (ofVariableArray element capacity) := by
  refine (onlyFails_capacity element capacity).bind fun _ hzero => ?_
  have hne : capacity ≠ 0 := by simpa using hzero
  obtain ⟨field, hfield⟩ := UnsignedType.exists_ofBits (admits_wordBits hlimit) .saturated
  rw [he.lengthFieldBits_eq_wordBits, hfield]
  refine (onlyFails_ok _ field).bind fun field _ => ?_
  refine OnlyFails.bind (onlyFails_require fun _ => ?_) fun _ _ => onlyFails_ok _ _
  exact Or.inr ⟨hne, rfl⟩

end DataType

/-! ## All constructions -/

/-- **No construction runs into a broken invariant.**  For attributes of types that can be made, a
definition is made or refused for a mistake in it, whatever it says and whatever was made before;
and no length is divided by zero on the way, or stepped through by it.  An array is made, or it is
refused for its capacity or its lengths, and never for the field that counts its elements. -/
theorem Catalog.only_refusals (catalog : Catalog) :
    (∀ types, 0 < Composite.alignmentOf types) ∧
    (∀ d : Declaration, Admissible d.attributes →
      OnlyFails (fun e => e.kind ∈ ErrorKind.refusals) (catalog.addStructure d) ∧
      OnlyFails (fun e => e.kind ∈ ErrorKind.refusals) (catalog.addUnion d)) ∧
    (∀ d : ServiceDeclaration, Admissible d.request.attributes → Admissible d.response.attributes →
      OnlyFails (fun e => e.kind ∈ ErrorKind.refusals) (catalog.addService d)) ∧
    ∀ (element : DataType) (capacity : Nat), element.Buildable → capacity < lengthLimit →
      OnlyFails (element.ArrayRefusal capacity) (DataType.ofFixedArray element capacity) ∧
      OnlyFails (element.ArrayRefusal capacity) (DataType.ofVariableArray element capacity) :=
  ⟨Composite.alignmentOf_pos,
    fun _ h => ⟨catalog.addStructure_onlyFails h, catalog.addUnion_onlyFails h⟩,
    fun _ hrequest hresponse => catalog.addService_onlyFails hrequest hresponse,
    fun element capacity he hlimit => ⟨element.ofFixedArray_onlyFails capacity,
      he.wellFormed.ofVariableArray_onlyFails hlimit⟩⟩

/-- A service that takes and gives a flag and up to two octets. -/
def ServiceDeclaration.exchange : ServiceDeclaration where
  name := "sample.Exchange"
  version := ⟨1, 0⟩
  request := ⟨Declaration.flagged.attributes, none, false, true⟩
  response := ⟨Declaration.flagged.attributes, some 64, true, false⟩
  isDeprecated := false
  portId? := none
  sourcePath := ""

theorem Catalog.only_refusals_exchange :
    OnlyFails (fun e => e.kind ∈ ErrorKind.refusals) (Catalog.empty.addStructure .flagged) ∧
    OnlyFails (fun e => e.kind ∈ ErrorKind.refusals) (Catalog.empty.addService .exchange) ∧
    OnlyFails (DataType.octet.ArrayRefusal 2) (DataType.ofVariableArray .octet 2) := by
  have hflagged : Admissible Declaration.flagged.attributes :=
    ⟨Declaration.buildable_flagged, by decide⟩
  obtain ⟨-, hdefinition, hservice, harray⟩ := Catalog.only_refusals Catalog.empty
  exact ⟨(hdefinition _ hflagged).1, hservice .exchange hflagged hflagged,
    (harray .octet 2 (.primitive rfl) (by decide)).2⟩

end WireSchema
