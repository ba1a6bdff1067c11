import Mathlib.Algebra.Order.Group.Pointwise.Bounds
import WireSchema.Proofs.Catalog.Objects
import WireSchema.Proofs.Composite.Remade
import WireSchema.Proofs.Composite.Wire

/-!
# Proofs/Catalog/Halves — a service and its two halves

A service that is added to a catalog is three objects that know one another.  The service has its
halves for its two fields, and is found from each of them, whatever is added later
(`Catalog.parentService?_of_half`).  A half is what its schema makes by itself, under a name behind
that of the service (`ServiceDeclaration.IsHalf`).  Both halves are aligned to a byte, so that
nothing is padded between them: the lengths of the service are the sums of theirs
(`Composite.MadeFrom.lengths_of_service`).

The main theorem `Catalog.halves_of_addService` says all of this of every service that is added, and
that none is ever laid out.
-/

open scoped Pointwise

namespace WireSchema

/-! ## Halves -/

/-- **The definition says what the schema says**, and anything else. -/
structure Schema.IsIn (s : Schema) (d : Declaration) : Prop where
  attributes_eq : d.attributes = s.attributes
  extent_eq : d.extent? = s.extent?
  isFinal_eq : d.isFinal = s.isFinal

/-- **What a half of a service is**: it has the version and the deprecation of the service, a name
behind that of the service, no port number and no file, and for the rest is what its schema makes by
itself. -/
structure ServiceDeclaration.IsHalf (d : ServiceDeclaration) (s : Schema) (suffix : String)
    (half : Composite) : Prop where
  name_eq : half.name = Text.trim d.name ++ suffix
  version_eq : half.version = d.version
  isDeprecated_eq : half.isDeprecated = d.isDeprecated
  portId_eq : half.portId? = none
  sourcePath_eq : half.sourcePath = ""
  /-- The schema is accepted by itself under any name that may be used, and makes the same. -/
  alone : ∀ (serial : Nat) (name path : String), Name.IsFull true (Text.trim name) →
    s.make serial (d.alone s name path) = .ok
      { half with identity := ⟨serial, .whole⟩, name := Text.trim name, sourcePath := path }
  /-- The schema makes the same in any other definition. -/
  like_alone : ∀ (serial : Nat) (d' : Declaration) (c : Composite), s.IsIn d' →
    s.make serial d' = .ok c →
    half.kind = c.kind ∧ half.attributes = c.attributes ∧ half.alignment = c.alignment ∧
      half.extent = c.extent ∧ half.aggregate = c.aggregate ∧ half.lengths = c.lengths ∧
      half.header? = c.header? ∧ half.tag? = c.tag?

namespace Composite

variable {serial : Nat} {d : ServiceDeclaration} {s : Schema} {role : Role}
  {request response c : Composite}

/-- **A half that was made** is what its schema makes by itself. -/
theorem isHalf_of_half (h : half serial d (Text.trim d.name) role s = .ok c) :
    d.IsHalf s ("." ++ halfName role) c := by
  -- the declaration of a half is its schema alone, under the name of the half and in no file
  have hrun : build ⟨serial, role⟩ s.shape false
      (d.alone s (Name.child (Text.trim d.name) (halfName role)) "") = .ok c := h
  have hmade := madeFrom_of_build hrun
  refine ⟨?_, hmade.version_eq, hmade.isDeprecated_eq, hmade.portId_eq, hmade.sourcePath_eq,
    fun serial' name path hname => ?_, fun serial' d' c' hin hc' => ?_⟩
  · rw [hmade.name_eq, ServiceDeclaration.alone, Name.trim_child (isComponent_halfName role),
      Name.child, String.append_assoc]
    rfl
  · have hagain := build_remade hrun hname (Or.inl rfl) ⟨serial', .whole⟩ path
    exact Schema.make_eq_ok_iff.2 hagain
  · have hmade' := madeFrom_of_build (Schema.make_eq_ok_iff.1 hc')
    have hattributes : c.attributes = c'.attributes := by
      rw [hmade.attributes_eq, hmade'.attributes_eq, hin.attributes_eq]
      rfl
    have hwire : c.SameWire c' := by
      refine hmade.sameWire hmade' rfl hin.extent_eq.symm hin.isFinal_eq.symm ?_
      rw [hin.attributes_eq]
      exact List.forall₂_same.2 fun _ _ => rfl
    exact ⟨hwire.kind_eq, hattributes, hwire.alignment_eq, hwire.extent_eq, hwire.aggregate_eq,
      hwire.lengths_eq, hwire.header_eq, hwire.tag_eq⟩

/-! ## Containers -/

/-- **The lengths of a service** are the sums of those of its halves. -/
theorem MadeFrom.lengths_of_service {name : String}
    (h : MadeFrom (.service request response) true (containerDeclaration d name request response) c)
    (hrequest : (DataType.composite request).WellFormed)
    (hresponse : (DataType.composite response).WellFormed) :
    c.lengths.toSet = request.lengths.toSet + response.lengths.toSet := by
  have hwf : ∀ t ∈ fieldTypes c.attributes, t.WellFormed := by
    rw [h.attributes_eq]
    exact List.forall_mem_cons.2 ⟨hrequest, List.forall_mem_singleton.2 hresponse⟩
  have hbyte : response.alignment = bitsPerByte := hresponse.alignment_eq
  have hrow : c.aggregate.toSet = request.lengths.toSet + response.lengths.toSet := by
    ext z
    rw [h.aggregate_of_row nofun, h.attributes_eq, Set.mem_add]
    change (∃ x ∈ request.lengths, ∃ y ∈ response.lengths,
      z = roundUp (roundUp 0 request.alignment + x) response.alignment + y) ↔ _
    refine exists_congr fun x => and_congr_right fun hx => exists_congr fun y => ?_
    rw [roundUp_eq_self (Nat.dvd_zero _), Nat.zero_add, hbyte,
      roundUp_eq_self (bitsPerByte_dvd_of_mem_lengths hrequest hx), eq_comm]
    rfl
  -- a sum of aligned lengths is aligned, so that the end is not padded either
  have hself : ∀ z ∈ c.aggregate, roundUp z c.alignment = z := by
    intro z hz
    obtain ⟨x, hx, y, hy, rfl⟩ := Set.mem_add.1 (hrow ▸ LengthSet.mem_toSet.2 hz)
    rw [h.alignment_eq_byte hwf]
    exact roundUp_eq_self (Nat.dvd_add (bitsPerByte_dvd_of_mem_lengths hrequest hx)
      (bitsPerByte_dvd_of_mem_lengths hresponse hy))
  rw [← hrow]
  ext z
  rw [LengthSet.mem_toSet, LengthSet.mem_toSet, h.mem_lengths_of_final h.isFinal_eq]
  constructor
  · rintro ⟨x, hx, rfl⟩
    rwa [hself x hx]
  · exact fun hz => ⟨z, hz, hself z hz⟩

/-- **The extent of a service** is the sum of the longest lengths of its halves. -/
theorem MadeFrom.extent_of_service {name : String} {x y : Nat}
    (h : MadeFrom (.service request response) true (containerDeclaration d name request response) c)
    (hrequest : (DataType.composite request).WellFormed)
    (hresponse : (DataType.composite response).WellFormed) (hx : request.lengths.max? = some x)
    (hy : response.lengths.max? = some y) : c.extent = x + y := by
  have hlongest : IsGreatest c.lengths.toSet c.extent :=
    LengthSet.max?_eq_some_iff.1 (h.max?_lengths_of_final h.isFinal_eq)
  obtain ⟨hxmem, hxle⟩ := LengthSet.max?_eq_some_iff.1 hx
  obtain ⟨hymem, hyle⟩ := LengthSet.max?_eq_some_iff.1 hy
  have hsum : IsGreatest (request.lengths.toSet + response.lengths.toSet) (x + y) :=
    ⟨Set.add_mem_add hxmem hymem, add_mem_upperBounds_add hxle hyle⟩
  rw [← h.lengths_of_service hrequest hresponse] at hsum
  exact hlongest.unique hsum

/-! ## Services are not laid out -/

theorem serializedAggregate_of_service (h : c.kind = .service) :
    c.serializedAggregate = .error (.ofCause .serviceNotSerializable) := by
  rw [serializedAggregate, ensureSerializable, if_pos h]
  rfl

/-- The kind is looked at before the base. -/
theorem placements_of_service (h : c.kind = .service) (base? : Option LengthSet) :
    c.placements base? = .error (.error (.ofCause .serviceNotSerializable)) := by
  rw [placements, startPositions, ensureSerializable, if_pos h]
  rfl

end Composite

/-! ## Services in a catalog -/

namespace Catalog

variable {catalog later latest : Catalog} {d : ServiceDeclaration} {s half : Composite}

/-- **A half leads back to its service**, whatever is added later. -/
theorem parentService?_of_half (h : Composite.ofService catalog.nextSerial d = .ok s)
    (hhalf : s.request? = some half ∨ s.response? = some half)
    (hlater : (catalog.push s).GrowsTo latest) : latest.parentService? half = some s := by
  rcases hhalf with hreq | hres
  · rw [parentService?, Composite.identity_of_request h hreq]
    exact hlater _ _ (getElem?_push catalog s)
  · rw [parentService?, Composite.identity_of_response h hres]
    exact hlater _ _ (getElem?_push catalog s)

/-- **What a service is that was added to a catalog**, with attributes whose types can be made.  It
is final, has no header, and is no half itself; its attributes are two fields, of the very types
that are its halves; and from the halves it is found in the catalog, now and later.  The halves are
what their schemas make by themselves, under the names behind that of the service.  The lengths of
the service are the sums of those of its halves, with nothing padded between them, and its extent is
the sum of the longest.  The service itself has no aggregate and no fields to iterate: from every
base both are refused. -/
theorem halves_of_addService (hrequest : ∀ a ∈ d.request.attributes, a.type.Buildable)
    (hresponse : ∀ a ∈ d.response.attributes, a.type.Buildable)
    (h : catalog.addService d = .ok (s, later)) :
    ∃ request response, s.request? = some request ∧ s.response? = some response ∧
      s.isFinal = true ∧ s.header? = none ∧
      s.attributes =
        [.field "request" (.composite request), .field "response" (.composite response)] ∧
      (∀ latest, later.GrowsTo latest → latest.parentService? s = none ∧
        latest.parentService? request = some s ∧ latest.parentService? response = some s) ∧
      d.IsHalf d.request ".Request" request ∧ d.IsHalf d.response ".Response" response ∧
      s.lengths.toSet = request.lengths.toSet + response.lengths.toSet ∧
      (∃ x y, request.lengths.max? = some x ∧ response.lengths.max? = some y ∧
        s.extent = x + y) ∧
      ∃ e : Error, e.kind = .notSerializable ∧ s.serializedAggregate = .error e ∧
        ∀ base?, s.placements base? = .error (.error e) := by
  obtain ⟨hs, rfl⟩ := addService_eq_ok_iff.1 h
  obtain ⟨request, response, hreq, hres, hbuild⟩ := Composite.exists_of_ofService hs
  have hmade := Composite.madeFrom_of_build hbuild
  obtain ⟨hreq?, hres?⟩ := hmade.halves_eq
  have hwfreq : (DataType.composite request).WellFormed :=
    (DataType.Buildable.half hrequest hresponse hs (Or.inl hreq?)).wellFormed
  have hwfres : (DataType.composite response).WellFormed :=
    (DataType.Buildable.half hrequest hresponse hs (Or.inr hres?)).wellFormed
  obtain ⟨x, hx⟩ := LengthSet.exists_max? hwfreq.inhabited.choose_spec
  obtain ⟨y, hy⟩ := LengthSet.exists_max? hwfres.inhabited.choose_spec
  have hfinal : s.isFinal = true := hmade.isFinal_eq
  have hheader : s.header? = none := by
    simpa [hfinal] using Framing.header?_eq_ok hmade.header_eq
  refine ⟨request, response, hreq?, hres?, hfinal, hheader, hmade.attributes_eq,
    fun latest hlater => ⟨?_, parentService?_of_half hs (Or.inl hreq?) hlater,
      parentService?_of_half hs (Or.inr hres?) hlater⟩,
    Composite.isHalf_of_half hreq, Composite.isHalf_of_half hres,
    hmade.lengths_of_service hwfreq hwfres,
    ⟨x, y, hx, hy, hmade.extent_of_service hwfreq hwfres hx hy⟩,
    .ofCause .serviceNotSerializable, rfl, Composite.serializedAggregate_of_service hmade.kind_eq,
    Composite.placements_of_service hmade.kind_eq⟩
  rw [parentService?, Composite.identity_of_build hbuild]

theorem halves_of_addService_exchange : ∃ s later request response x y,
    empty.addService .exchange = .ok (s, later) ∧ s.request? = some request ∧
    s.response? = some response ∧ s.isFinal = true ∧ s.attributes.length = 2 ∧
    (later.push s).parentService? request = some s ∧
    (later.push s).parentService? response = some s ∧
    ServiceDeclaration.exchange.IsHalf ServiceDeclaration.exchange.request ".Request" request ∧
    (ServiceDeclaration.exchange.response.make 5
      (ServiceDeclaration.exchange.alone ServiceDeclaration.exchange.response " sample.Alone" "") =
        .ok { response with
          identity := ⟨5, .whole⟩, name := Text.trim " sample.Alone", sourcePath := "" }) ∧
    s.lengths.toSet = request.lengths.toSet + response.lengths.toSet ∧
    request.lengths.max? = some x ∧ response.lengths.max? = some y ∧ s.extent = x + y ∧
    ∃ e : Error, e.kind = .notSerializable ∧ s.placements none = .error (.error e) := by
  have hrun : (empty.addService .exchange).toOption.map (·.1.isFinal) = some true := by
    decide +kernel
  obtain ⟨⟨s, later⟩, hs, -⟩ := toOption_map_eq_some_iff.1 hrun
  obtain ⟨request, response, hreq, hres, hfinal, -, hattributes, hparents, hrequest, hresponse,
    hlengths, ⟨x, y, hx, hy, hextent⟩, e, hkind, -, hplacements⟩ :=
    halves_of_addService Declaration.buildable_flagged Declaration.buildable_flagged hs
  obtain ⟨-, hrequestParent, hresponseParent⟩ := hparents _ (growsTo_push later s)
  have hname : Name.IsFull true (Text.trim " sample.Alone") :=
    Name.defect?_eq_none_iff.1 (by decide +kernel)
  exact ⟨s, later, request, response, x, y, hs, hreq, hres, hfinal, congrArg List.length hattributes,
    hrequestParent, hresponseParent, hrequest, hresponse.alone 5 " sample.Alone" "" hname, hlengths,
    hx, hy, hextent, e, hkind, hplacements none⟩

end Catalog
end WireSchema
