import WireSchema.Proofs.Composite.Lengths

/-!
# Proofs/DataType/Buildable — the types that can be made, and their invariant

`DataType.Buildable` holds of what comes out of a sequence of successful constructions: primitives,
arrays of what is there already, structures, unions and services of attributes whose types are
there already, and the two halves of a service.  A composite is always made by `Composite.build`,
the halves and the container of a service too, so there is a single step for composites in
`Buildable.induct`.

Every type that can be made is well-formed (`Buildable.wellFormed`).  The main theorem
`Buildable.lengths_and_alignment` spells this out.
-/

namespace WireSchema

/-! ## Runs of the constructors -/

namespace Composite

variable {serial : Nat} {c : Composite}

theorem ofStructure_eq_ok_iff {d : Declaration} :
    ofStructure serial d = .ok c ↔ build ⟨serial, .whole⟩ .struct true d = .ok c :=
  mapError_eq_ok_iff

theorem ofUnion_eq_ok_iff {d : Declaration} :
    ofUnion serial d = .ok c ↔ build ⟨serial, .whole⟩ .union true d = .ok c :=
  mapError_eq_ok_iff

/-- **The three runs that make a service**: its halves, and the container around them. -/
theorem exists_of_ofService {d : ServiceDeclaration} (h : ofService serial d = .ok c) :
    ∃ request response,
      half serial d (Text.trim d.name) .request d.request = .ok request ∧
      half serial d (Text.trim d.name) .response d.response = .ok response ∧
      build ⟨serial, .whole⟩ (.service request response) true
        (containerDeclaration d (Text.trim d.name) request response) = .ok c := by
  obtain ⟨request, hrequest, h⟩ := bind_eq_ok_iff.1 (mapError_eq_ok_iff.1 h)
  obtain ⟨response, hresponse, h⟩ := bind_eq_ok_iff.1 h
  exact ⟨request, response, hrequest, hresponse, h⟩

/-- Only a service has halves. -/
theorem kind_of_half {half : Composite} (h : c.request? = some half ∨ c.response? = some half) :
    c.kind = .service := by
  rw [request?, response?] at h
  rw [kind]
  generalize c.layout = layout at h ⊢
  cases layout with
  | struct | union => exact absurd h (by simp)
  | service => rfl

/-- A service has the halves that it was made of. -/
theorem MadeFrom.halves_eq {bounded : Bool} {d : Declaration} {request response : Composite}
    (h : MadeFrom (.service request response) bounded d c) :
    c.request? = some request ∧ c.response? = some response := by
  have hlayout : Layout.service request response = c.layout := Except.ok.inj h.layout_eq
  rw [request?, response?, ← hlayout]
  exact ⟨rfl, rfl⟩

/-- **The run that made the request** of a service. -/
theorem half_of_request {d : ServiceDeclaration} {half : Composite} (h : ofService serial d = .ok c)
    (hreq : c.request? = some half) :
    Composite.half serial d (Text.trim d.name) .request d.request = .ok half := by
  obtain ⟨request, response, hrequest, -, hbuild⟩ := exists_of_ofService h
  obtain rfl := Option.some.inj ((madeFrom_of_build hbuild).halves_eq.1.symm.trans hreq)
  exact hrequest

/-- **The run that made the response** of a service. -/
theorem half_of_response {d : ServiceDeclaration} {half : Composite}
    (h : ofService serial d = .ok c) (hres : c.response? = some half) :
    Composite.half serial d (Text.trim d.name) .response d.response = .ok half := by
  obtain ⟨request, response, -, hresponse, hbuild⟩ := exists_of_ofService h
  obtain rfl := Option.some.inj ((madeFrom_of_build hbuild).halves_eq.2.symm.trans hres)
  exact hresponse

end Composite

/-! ## Types that can be made -/

namespace DataType

/-- Whether the type is neither an array nor a composite. -/
def isPrimitive : DataType → Bool
  | .fixedArray _ _ _ | .variableArray _ _ _ _ | .composite _ => false
  | _ => true

/-- **The types that can be made** by successful constructions. -/
inductive Buildable : DataType → Prop
  | primitive {t : DataType} (h : t.isPrimitive = true) : Buildable t
  | fixedArray {element t : DataType} {capacity : Nat} (he : Buildable element)
      (h : ofFixedArray element capacity = .ok t) : Buildable t
  | variableArray {element t : DataType} {capacity : Nat} (he : Buildable element)
      (h : ofVariableArray element capacity = .ok t) : Buildable t
  | struct {serial : Nat} {d : Declaration} {c : Composite}
      (ha : ∀ a ∈ d.attributes, Buildable a.type) (h : Composite.ofStructure serial d = .ok c) :
      Buildable (.composite c)
  | union {serial : Nat} {d : Declaration} {c : Composite}
      (ha : ∀ a ∈ d.attributes, Buildable a.type) (h : Composite.ofUnion serial d = .ok c) :
      Buildable (.composite c)
  | service {serial : Nat} {d : ServiceDeclaration} {c : Composite}
      (hrequest : ∀ a ∈ d.request.attributes, Buildable a.type)
      (hresponse : ∀ a ∈ d.response.attributes, Buildable a.type)
      (h : Composite.ofService serial d = .ok c) : Buildable (.composite c)
  | half {serial : Nat} {d : ServiceDeclaration} {c half : Composite}
      (hrequest : ∀ a ∈ d.request.attributes, Buildable a.type)
      (hresponse : ∀ a ∈ d.response.attributes, Buildable a.type)
      (h : Composite.ofService serial d = .ok c)
      (hhalf : c.request? = some half ∨ c.response? = some half) : Buildable (.composite half)

/-- The container of a service is final, and its attributes are the two halves. -/
def ContainsHalves : Shape → Declaration → Prop
  | .service request response, d => d.isFinal = true ∧ d.attributes =
      [.field "request" (.composite request), .field "response" (.composite response)]
  | _, _ => True

/-- **Induction on how a type was made**, with one step for all composites. -/
theorem Buildable.induct {P : DataType → Prop}
    (primitive : ∀ {t : DataType}, t.isPrimitive = true → P t)
    (fixedArray : ∀ {element t : DataType} {capacity : Nat}, element.Buildable → P element →
      ofFixedArray element capacity = .ok t → P t)
    (variableArray : ∀ {element t : DataType} {capacity : Nat}, element.Buildable → P element →
      ofVariableArray element capacity = .ok t → P t)
    (composite : ∀ {identity : Identity} {shape : Shape} {bounded : Bool} {d : Declaration}
      {c : Composite}, (∀ a ∈ d.attributes, a.type.Buildable ∧ P a.type) →
      ContainsHalves shape d → Composite.build identity shape bounded d = .ok c →
      P (.composite c))
    {t : DataType} (h : t.Buildable) : P t := by
  have hhalf : ∀ {serial : Nat} {d : ServiceDeclaration} {name : String} {role : Role} {s : Schema}
      {c : Composite}, (∀ a ∈ s.attributes, a.type.Buildable ∧ P a.type) →
      Composite.half serial d name role s = .ok c → P (.composite c) := fun {_ _ _ _ s _} ha h => by
    refine composite ha ?_ h
    rcases s.shape_eq with hs | hs <;> rw [hs] <;> trivial
  -- a service comes with its halves, of which `P` holds, in both cases below
  have hservice : ∀ {serial : Nat} {d : ServiceDeclaration} {c : Composite},
      (∀ a ∈ d.request.attributes, a.type.Buildable ∧ P a.type) →
      (∀ a ∈ d.response.attributes, a.type.Buildable ∧ P a.type) →
      Composite.ofService serial d = .ok c → ∃ request response : Composite,
        c.request? = some request ∧ c.response? = some response ∧
        P (.composite request) ∧ P (.composite response) ∧
        Composite.build ⟨serial, .whole⟩ (.service request response) true
          (Composite.containerDeclaration d (Text.trim d.name) request response) = .ok c := by
    intro serial d c hreq hres h
    obtain ⟨request, response, hrequest, hresponse, hbuild⟩ := Composite.exists_of_ofService h
    obtain ⟨hreqEq, hresEq⟩ := (Composite.madeFrom_of_build hbuild).halves_eq
    exact ⟨request, response, hreqEq, hresEq, hhalf hreq hrequest, hhalf hres hresponse, hbuild⟩
  induction h with
  | primitive h => exact primitive h
  | fixedArray he h ih => exact fixedArray he ih h
  | variableArray he h ih => exact variableArray he ih h
  | struct ha h ih =>
    refine composite (fun a hmem => ⟨ha a hmem, ih a hmem⟩) ?_ (Composite.ofStructure_eq_ok_iff.1 h)
    trivial
  | union ha h ih =>
    refine composite (fun a hmem => ⟨ha a hmem, ih a hmem⟩) ?_ (Composite.ofUnion_eq_ok_iff.1 h)
    trivial
  | service hreq hres h ihreq ihres =>
    obtain ⟨request, response, hreqEq, hresEq, hPreq, hPres, hbuild⟩ :=
      hservice (fun a m => ⟨hreq a m, ihreq a m⟩) (fun a m => ⟨hres a m, ihres a m⟩) h
    have hrequest : (DataType.composite request).Buildable := .half hreq hres h (Or.inl hreqEq)
    have hresponse : (DataType.composite response).Buildable := .half hreq hres h (Or.inr hresEq)
    refine composite (List.forall_mem_cons.2
      ⟨⟨hrequest, hPreq⟩, List.forall_mem_singleton.2 ⟨hresponse, hPres⟩⟩) ?_ hbuild
    exact ⟨rfl, rfl⟩
  | half hreq hres h hr ihreq ihres =>
    obtain ⟨request, response, hreqEq, hresEq, hPreq, hPres, -⟩ :=
      hservice (fun a m => ⟨hreq a m, ihreq a m⟩) (fun a m => ⟨hres a m, ihres a m⟩) h
    rw [hreqEq, hresEq, Option.some.injEq, Option.some.injEq] at hr
    rcases hr with rfl | rfl
    · exact hPreq
    · exact hPres

/-! ## A sample -/

/-- An integer of eight bits. -/
def octet : DataType := .unsigned ⟨8, .saturated, by decide⟩

/-- Up to two of them, behind the octet that counts them. -/
def octets : DataType :=
  .variableArray octet 2 ⟨8, .saturated, by decide⟩ ⟨[8, 16, 24], by decide, by decide⟩

theorem buildable_octets : octets.Buildable := by
  have h : ofVariableArray octet 2 = .ok octets := rfl
  exact .variableArray (.primitive rfl) h

end DataType

/-- A final structure of a flag and up to two octets. -/
def Declaration.flagged : Declaration where
  name := "sample.Flagged"
  version := ⟨1, 0⟩
  attributes := [.field "flag" .boolean, .field "items" DataType.octets]
  extent? := none
  isFinal := true
  isDeprecated := false
  portId? := none
  sourcePath := ""

theorem Declaration.buildable_flagged : ∀ a ∈ flagged.attributes, a.type.Buildable := by
  simp only [flagged, List.mem_cons, List.not_mem_nil, or_false]
  rintro a (rfl | rfl)
  · exact .primitive rfl
  · exact DataType.buildable_octets

theorem Composite.exists_flagged :
    ∃ c, ofStructure 0 Declaration.flagged = .ok c ∧ c.lengths.toList = [16, 24, 32] :=
  toOption_map_eq_some_iff.1 (by decide +kernel)

namespace DataType

/-! ## The invariant -/

theorem wellFormed_of_isPrimitive {t : DataType} (h : t.isPrimitive = true) : t.WellFormed := by
  cases t with
  | boolean => exact wellFormed_of_singleton (n := 1) (by decide) rfl rfl rfl
  | unsigned u => exact wellFormed_of_singleton u.admitted.lt_lengthLimit rfl rfl rfl
  | signed s => exact wellFormed_of_singleton s.admitted.lt_lengthLimit rfl rfl rfl
  | float f => exact wellFormed_of_singleton f.bits_lt_lengthLimit rfl rfl rfl
  | void v => exact wellFormed_of_singleton v.admitted.lt_lengthLimit rfl rfl rfl
  | fixedArray | variableArray | composite => exact absurd h Bool.false_ne_true

/-- **Every type that can be made is well-formed.** -/
theorem Buildable.wellFormed {t : DataType} (h : t.Buildable) : t.WellFormed := by
  refine h.induct wellFormed_of_isPrimitive (fun _ he h => he.fixedArray h)
    (fun _ he h => he.variableArray h) fun ha _ h => ?_
  have hmade := Composite.madeFrom_of_build h
  refine hmade.wellFormed (wellFormed_of_mem_fieldTypes fun a hmem => (ha a ?_).2)
  rwa [hmade.attributes_eq] at hmem

/-- **The run behind a composite that can be made**, from attributes of types that can be made. -/
theorem Buildable.exists_build {c : Composite} (h : (DataType.composite c).Buildable) :
    ∃ identity shape bounded d, Composite.build identity shape bounded d = .ok c ∧
      ContainsHalves shape d ∧ ∀ a ∈ c.attributes, a.type.Buildable := by
  refine Buildable.induct (P := fun t => ∀ c, t = .composite c → ∃ identity shape bounded d,
    Composite.build identity shape bounded d = .ok c ∧ ContainsHalves shape d ∧
      ∀ a ∈ c.attributes, a.type.Buildable)
    (fun hp c => ?_) (fun _ _ h c => ?_) (fun _ _ h c => ?_) (fun ha hhalves h c => ?_) h c rfl
  · rintro rfl
    exact absurd hp Bool.false_ne_true
  · obtain ⟨-, _, -, rfl⟩ := ofFixedArray_eq_ok_iff.1 h
    exact nofun
  · obtain ⟨-, _, _, _, -, -, -, rfl⟩ := ofVariableArray_eq_ok_iff.1 h
    exact nofun
  · rintro ⟨⟩
    refine ⟨_, _, _, _, h, hhalves, fun a hmem => (ha a ?_).1⟩
    rwa [(Composite.madeFrom_of_build h).attributes_eq] at hmem

/-- The types of the attributes of a composite that can be made can be made. -/
theorem Buildable.of_mem_attributes {c : Composite} (h : (DataType.composite c).Buildable)
    {a : Attribute} (ha : a ∈ c.attributes) : a.type.Buildable := by
  obtain ⟨_, _, _, _, -, -, hattributes⟩ := h.exists_build
  exact hattributes a ha

/-- A composite that can be made was made from a declaration, and of well-formed fields. -/
theorem Buildable.exists_madeFrom {c : Composite} (h : (DataType.composite c).Buildable) :
    ∃ shape bounded d, Composite.MadeFrom shape bounded d c ∧
      ∀ t ∈ fieldTypes c.attributes, t.WellFormed := by
  obtain ⟨_, shape, bounded, d, hbuild, -, hattributes⟩ := h.exists_build
  exact ⟨shape, bounded, d, Composite.madeFrom_of_build hbuild,
    wellFormed_of_mem_fieldTypes fun a ha => (hattributes a ha).wellFormed⟩

/-- The type at the bottom of an array of any depth. -/
def bottom : DataType → DataType
  | .fixedArray element _ _ => element.bottom
  | .variableArray element _ _ _ => element.bottom
  | t => t

/-- An array is aligned as the type at its bottom is. -/
theorem alignment_bottom : ∀ t : DataType, t.bottom.alignment = t.alignment
  | .fixedArray element _ _ => element.alignment_bottom
  | .variableArray element _ _ _ => element.alignment_bottom
  | .boolean | .unsigned _ | .signed _ | .float _ | .void _ | .composite _ => rfl

/-- **Lengths and alignment of every type that can be made**: it has a length, its alignment divides
all of them, and the alignment is a bit or a byte.  That of a composite is a byte, and that of an
array is the one of the type at its bottom. -/
theorem Buildable.lengths_and_alignment {t : DataType} (h : t.Buildable) :
    (∃ x, x ∈ t.lengths) ∧ (∀ x ∈ t.lengths, t.alignment ∣ x) ∧
      (t.alignment = 1 ∨ t.alignment = 8) ∧ (∀ c, t = .composite c → t.alignment = 8) ∧
      t.alignment = t.bottom.alignment := by
  have hwf := h.wellFormed
  refine ⟨hwf.inhabited, hwf.dvd, ?_, ?_, t.alignment_bottom.symm⟩
  · rw [hwf.alignment_eq]
    split_ifs
    · exact Or.inr rfl
    · exact Or.inl rfl
  · rintro c rfl
    exact hwf.alignment_eq

theorem Buildable.lengths_and_alignment_flagged : ∃ c,
    Composite.ofStructure 0 .flagged = .ok c ∧ (∃ x, x ∈ c.lengths) ∧
      (∀ x ∈ c.lengths, c.alignment ∣ x) ∧ c.alignment = 8 := by
  obtain ⟨c, hc, -⟩ := Composite.exists_flagged
  obtain ⟨hlength, hdvd, -, halign, -⟩ :=
    Buildable.lengths_and_alignment (.struct Declaration.buildable_flagged hc)
  exact ⟨c, hc, hlength, hdvd, halign c rfl⟩

end DataType
end WireSchema
