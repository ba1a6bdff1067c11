import WireSchema.Proofs.Catalog.Refusals
import WireSchema.Proofs.DataType.Context
import WireSchema.Proofs.DataType.Dependencies

/-!
# Proofs/DataType/ServiceFields — services as the types of fields

A service has no serialized form of its own, and its aggregate and its fields are refused.  But it
has lengths and an alignment like any final composite, and a definition looks at no more of the
types in it.  So a service counts everywhere as the final structure of its two halves
(`DataType.Buildable.service_as_structure`); in particular it is accepted as the type of a field,
directly and in an array (`Composite.exists_laysOutService`).
-/

namespace WireSchema

/-! ## The row of the halves -/

namespace Composite

variable {shape shape' : Shape} {bounded bounded' : Bool} {d d' : Declaration}
  {c c' request response : Composite}

/-- What has halves was made as the service of them. -/
theorem MadeFrom.shape_eq_service (h : MadeFrom shape bounded d c) (hreq : c.request? = some request)
    (hres : c.response? = some response) : shape = .service request response := by
  have hkind : shape.kind = .service := h.kind_eq.symm.trans (kind_of_half (Or.inl hreq))
  cases shape with
  | struct | union => exact absurd hkind nofun
  | service =>
    obtain ⟨hreq', hres'⟩ := h.halves_eq
    rw [Option.some.inj (hreq'.symm.trans hreq), Option.some.inj (hres'.symm.trans hres)]

/-- **Final composites of one row of fields** have the same lengths. -/
theorem MadeFrom.lengths_eq_of_row (h : MadeFrom shape bounded d c)
    (h' : MadeFrom shape' bounded' d' c') (hkind : shape.kind ≠ .union)
    (hkind' : shape'.kind ≠ .union) (hfinal : c.isFinal = true) (hfinal' : c'.isFinal = true)
    (htypes : fieldTypes c.attributes = fieldTypes c'.attributes) : c.lengths = c'.lengths := by
  have halign : c.alignment = c'.alignment := by rw [h.alignment_eq, h'.alignment_eq, htypes]
  have haggregate : c.aggregate = c'.aggregate := by
    refine LengthSet.toSet_inj.1 ?_
    rw [h.aggregate_of_row hkind, h'.aggregate_of_row hkind', htypes]
  refine LengthSet.ext fun z => ?_
  rw [h.mem_lengths_of_final hfinal, h'.mem_lengths_of_final hfinal', halign, haggregate]

end Composite

/-! ## Services in contexts -/

/-- **A service counts as the final structure of its two halves.**  In every type expression the one
may stand for the other, if both are deprecated or neither: the type is made with both, and looks
the same and has the same properties, or it is refused with both, for the same kind of reason. -/
theorem DataType.Buildable.service_as_structure {s c request response : Composite}
    (hs : (DataType.composite s).Buildable) (hreq : s.request? = some request)
    (hres : s.response? = some response) (hc : (DataType.composite c).Buildable)
    (hkind : c.kind = .struct) (hfinal : c.isFinal = true)
    (htypes : fieldTypes c.attributes = [.composite request, .composite response])
    (hdeprecated : s.isDeprecated = c.isDeprecated) (k : TypeContext) :
    SameOutcome Error.kind k.Alike (k.fill s) (k.fill c) := by
  obtain ⟨_, shape, _, d, hbuild, hhalves, -⟩ := hs.exists_build
  have hmade := Composite.madeFrom_of_build hbuild
  obtain rfl := hmade.shape_eq_service hreq hres
  obtain ⟨hlast, hattributes⟩ := hhalves
  obtain ⟨shape', _, d', hmade', -⟩ := hc.exists_madeFrom
  have hrow : fieldTypes s.attributes = fieldTypes c.attributes := by
    rw [hmade.attributes_eq, hattributes, htypes]
    rfl
  have hlengths : s.lengths = c.lengths :=
    hmade.lengths_eq_of_row hmade' nofun (by rw [← hmade'.kind_eq, hkind]; nofun)
      (hmade.isFinal_eq.trans hlast) hfinal hrow
  have halign : s.alignment = c.alignment := hs.wellFormed.alignment_eq.trans
    hc.wellFormed.alignment_eq.symm
  exact TypeContext.fill_sameOutcome (Composite.outline_congr hlengths halign hdeprecated) k

/-- A final structure of the two composites. -/
def Declaration.paired (first second : Composite) : Declaration :=
  { flagged with name := "sample.Paired", attributes :=
      [.field "first" (.composite first), .field "second" (.composite second)] }

theorem DataType.Buildable.service_as_structure_exchange : ∃ s request response c t t',
    Composite.ofService 0 .exchange = .ok s ∧ s.request? = some request ∧
    s.response? = some response ∧ Composite.ofStructure 1 (.paired request response) = .ok c ∧
    TypeContext.wrapping.fill s = .ok t ∧ TypeContext.wrapping.fill c = .ok t' ∧
    t.alignment = t'.alignment ∧ t.lengths = t'.lengths := by
  have hrun : ((Composite.ofService 0 .exchange).toOption.map fun s => s.request?.map fun request =>
      s.response?.map fun response =>
        (Composite.ofStructure 1 (.paired request response)).toOption.map fun _ =>
          (TypeContext.wrapping.fill s).toOption.map (·.alignment)) =
      some (some (some (some (some 8)))) := by
    decide +kernel
  obtain ⟨s, hs, hrun⟩ := toOption_map_eq_some_iff.1 hrun
  obtain ⟨request, hreq, hrun⟩ := Option.map_eq_some_iff.1 hrun
  obtain ⟨response, hres, hrun⟩ := Option.map_eq_some_iff.1 hrun
  obtain ⟨c, hc, hrun⟩ := toOption_map_eq_some_iff.1 hrun
  obtain ⟨t, ht, -⟩ := toOption_map_eq_some_iff.1 hrun
  have hservice : (DataType.composite s).Buildable :=
    .service Declaration.buildable_flagged Declaration.buildable_flagged hs
  have hrequest : (DataType.composite request).Buildable :=
    .half Declaration.buildable_flagged Declaration.buildable_flagged hs (Or.inl hreq)
  have hresponse : (DataType.composite response).Buildable :=
    .half Declaration.buildable_flagged Declaration.buildable_flagged hs (Or.inr hres)
  have hmade := Composite.madeFrom_of_build (Composite.ofStructure_eq_ok_iff.1 hc)
  have hpair : (DataType.composite c).Buildable := .struct (d := .paired request response)
    (List.forall_mem_cons.2 ⟨hrequest, List.forall_mem_singleton.2 hresponse⟩) hc
  have htypes : fieldTypes c.attributes = [.composite request, .composite response] := by
    rw [hmade.attributes_eq]
    rfl
  obtain ⟨_, _, -, -, hbuild⟩ := Composite.exists_of_ofService hs
  have hdeprecated : s.isDeprecated = c.isDeprecated :=
    (Composite.madeFrom_of_build hbuild).isDeprecated_eq.trans hmade.isDeprecated_eq.symm
  have hsame := service_as_structure hservice hreq hres hpair hmade.kind_eq hmade.isFinal_eq htypes
    hdeprecated TypeContext.wrapping
  rw [ht] at hsame
  generalize ht' : TypeContext.wrapping.fill c = x at hsame
  cases hsame with
  | @ok _ t' halike =>
    exact ⟨s, request, response, c, t, t', hs, hreq, hres, hc, ht, ht',
      congrArg Outline.alignment halike.outline_eq, congrArg Outline.lengths halike.outline_eq⟩

/-! ## Services in layouts -/

/-- **A service is part of the layout**, as the type of a field or at the bottom of an array. -/
def Composite.LaysOutService (c : Composite) : Prop :=
  ∃ a ∈ c.fields, ∃ inner, a.type.innermost? = some inner ∧ inner.kind = .service

/-- **A service may become part of a layout**: a structure is made of a field whose type is a
service, and another of a field whose type is an array of them. -/
theorem Composite.exists_laysOutService : ∃ s t items u,
    ofService 0 .exchange = .ok s ∧ s.kind = .service ∧
    ofStructure 1 (.holding (.composite s)) = .ok t ∧ t.kind = .struct ∧ t.LaysOutService ∧
    DataType.ofVariableArray (.composite s) 2 = .ok items ∧
    ofStructure 2 (.holding items) = .ok u ∧ u.kind = .struct ∧ u.LaysOutService := by
  have hrun : ((ofService 0 .exchange).toOption.map fun s =>
      ((ofStructure 1 (.holding (.composite s))).toOption.map fun t =>
        (DataType.ofVariableArray (.composite s) 2).toOption.map fun items =>
          (ofStructure 2 (.holding items)).toOption.map (·.isFinal))) =
      some (some (some (some true))) := by
    decide +kernel
  obtain ⟨s, hs, hrun⟩ := toOption_map_eq_some_iff.1 hrun
  obtain ⟨t, ht, hrun⟩ := toOption_map_eq_some_iff.1 hrun
  obtain ⟨items, hitems, hrun⟩ := toOption_map_eq_some_iff.1 hrun
  obtain ⟨u, hu, -⟩ := toOption_map_eq_some_iff.1 hrun
  obtain ⟨_, _, -, -, hbuild⟩ := exists_of_ofService hs
  have hkind : s.kind = .service := (madeFrom_of_build hbuild).kind_eq
  have hlaysOut : ∀ {type : DataType} {c : Composite} {serial : Nat},
      ofStructure serial (.holding type) = .ok c → type.innermost? = some s →
      c.kind = .struct ∧ c.LaysOutService := by
    intro type c serial hc hinner
    have hmade := madeFrom_of_build (ofStructure_eq_ok_iff.1 hc)
    refine ⟨hmade.kind_eq, .field "items" type, ?_, s, hinner, hkind⟩
    rw [fields, hmade.attributes_eq]
    exact List.mem_cons_self
  have hbottom : items.innermost? = some s := by
    obtain ⟨-, _, _, _, -, -, -, rfl⟩ := DataType.ofVariableArray_eq_ok_iff.1 hitems
    rfl
  obtain ⟨htkind, htlays⟩ := hlaysOut ht rfl
  obtain ⟨hukind, hulays⟩ := hlaysOut hu hbottom
  exact ⟨s, t, items, u, hs, hkind, ht, htkind, htlays, hitems, hu, hukind, hulays⟩

end WireSchema
