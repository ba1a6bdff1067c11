import WireSchema.Proofs.Composite.Nested
import WireSchema.Proofs.Composite.Outline

/-!
# Proofs/DataType/Context — what is made around a composite that may still change

A `TypeContext` is a type expression with holes for a composite, anywhere and any number of times:
in arrays of any depth, in the attributes of structures and unions, and in the halves of services.
`TypeContext.fill` makes the type, from the inside out.

Composites that are not final, with the same extent, have the same outline
(`Composite.outline_eq_of_extent`), and a step of a context sees no more than that.  So a context
has the same outcome for both (`TypeContext.fill_sameOutcome`, by induction on the context), and
what is made around the one has the properties of what is made around the other
(`Buildable.same_in_context`): a minor version may replace another and nothing outside of it moves.
-/

namespace WireSchema

/-! ## Parts of a service -/

/-- The part of a composite that plays the role; a composite without halves plays all of them. -/
def Composite.part (c : Composite) : Role → Composite
  | .whole => c
  | .request => c.request?.getD c
  | .response => c.response?.getD c

/-- The declaration of the service with other attributes in its halves. -/
def ServiceDeclaration.withAttributes (d : ServiceDeclaration) (request response : List Attribute) :
    ServiceDeclaration :=
  { d with
    request := { d.request with attributes := request }
    response := { d.response with attributes := response } }

/-! ## Contexts -/

mutual

/-- **A type expression with holes** for a composite. -/
inductive TypeContext where
  | hole
  /-- A type that is there already. -/
  | given (t : DataType)
  | fixedArray (element : TypeContext) (capacity : Nat)
  | variableArray (element : TypeContext) (capacity : Nat)
  /-- The structure of the declaration, with these attributes. -/
  | struct (serial : Nat) (d : Declaration) (attributes : List AttributeContext)
  /-- The tagged union of the declaration, with these attributes. -/
  | union (serial : Nat) (d : Declaration) (attributes : List AttributeContext)
  /-- A part of the service of the declaration, with these attributes in its halves. -/
  | service (serial : Nat) (d : ServiceDeclaration) (request response : List AttributeContext)
    (part : Role)

/-- **One line of a definition** with holes in its type. -/
inductive AttributeContext where
  | field (name : String) (type : TypeContext)
  | padding (filler : VoidType)
  | constant (name : String) (type : TypeContext) (value : Value)

end

mutual

/-- **The type with the composite in the holes**, made from the inside out. -/
def TypeContext.fill (c : Composite) : TypeContext → Except Error DataType
  | .hole => .ok (.composite c)
  | .given t => .ok t
  | .fixedArray element capacity => do
    let element ← element.fill c
    (DataType.ofFixedArray element capacity).mapError .ofCause
  | .variableArray element capacity => do
    let element ← element.fill c
    (DataType.ofVariableArray element capacity).mapError .ofCause
  | .struct serial d attributes => do
    let attributes ← AttributeContext.fillAll c attributes
    let made ← Composite.ofStructure serial (d.withAttributes attributes)
    return .composite made
  | .union serial d attributes => do
    let attributes ← AttributeContext.fillAll c attributes
    let made ← Composite.ofUnion serial (d.withAttributes attributes)
    return .composite made
  | .service serial d request response part => do
    let request ← AttributeContext.fillAll c request
    let response ← AttributeContext.fillAll c response
    let made ← Composite.ofService serial (d.withAttributes request response)
    return .composite (made.part part)

/-- The attribute with the composite in the holes. -/
def AttributeContext.fill (c : Composite) : AttributeContext → Except Error Attribute
  | .field name type => do
    let type ← type.fill c
    return .field name type
  | .padding filler => .ok (.padding filler)
  | .constant name type value => do
    let type ← type.fill c
    return .constant name type value

/-- The attributes with the composite in the holes, one by one. -/
def AttributeContext.fillAll (c : Composite) : List AttributeContext → Except Error (List Attribute)
  | [] => .ok []
  | a :: rest => do
    let a ← a.fill c
    let rest ← AttributeContext.fillAll c rest
    return a :: rest

end

/-! ## What is put into the holes -/

variable {c c' : Composite}

/-- **Of a composite that is not final only the extent is seen.** -/
theorem Composite.outline_eq_of_extent (h : (DataType.composite c).Buildable)
    (h' : (DataType.composite c').Buildable) (hfinal : c.isFinal = false)
    (hfinal' : c'.isFinal = false) (hdeprecated : c.isDeprecated = c'.isDeprecated)
    (hextent : c.extent = c'.extent) :
    (DataType.composite c).outline = (DataType.composite c').outline := by
  obtain ⟨_, _, _, hmade, hwf⟩ := h.exists_madeFrom
  obtain ⟨_, _, _, hmade', hwf'⟩ := h'.exists_madeFrom
  have halign : c.alignment = c'.alignment :=
    (hmade.alignment_eq_byte hwf).trans (hmade'.alignment_eq_byte hwf').symm
  obtain ⟨header, -, hbits, hmem⟩ := hmade.mem_lengths_of_delimited hwf hfinal
  obtain ⟨header', -, hbits', hmem'⟩ := hmade'.mem_lengths_of_delimited hwf' hfinal'
  have hlengths : c.lengths = c'.lengths := by
    refine LengthSet.toSet_inj.1 (Set.ext fun z => ?_)
    rw [LengthSet.mem_toSet, LengthSet.mem_toSet, hmem, hmem', hextent, halign, hbits, hbits']
  exact outline_congr hlengths halign hdeprecated

/-! ## Steps -/

/-- **Types with the same properties**: composites, or types that look the same. -/
inductive DataType.SameProperties : DataType → DataType → Prop
  | composite {c c' : Composite} (h : c.SameProperties c') :
      SameProperties (.composite c) (.composite c')
  | other {t t' : DataType} (h : t.outline = t'.outline) (ht : t.asComposite? = none)
      (ht' : t'.asComposite? = none) : SameProperties t t'

theorem DataType.SameProperties.refl (t : DataType) : t.SameProperties t := by
  cases t with
  | composite c => exact .composite (.refl c)
  | boolean | unsigned | signed | float | void | fixedArray | variableArray =>
    exact .other rfl rfl rfl

theorem DataType.SameProperties.outline_eq {t t' : DataType} (h : t.SameProperties t') :
    t.outline = t'.outline := by
  cases h with
  | composite h => exact h.outline_eq
  | other h => exact h

namespace DataType

variable {element element' : DataType}

/-- Arrays look the same if their lengths are the same and their elements look the same. -/
theorem outline_fixedArray (h : element.outline = element'.outline) (capacity : Nat)
    (lengths : LengthSet) : (fixedArray element capacity lengths).outline =
      (fixedArray element' capacity lengths).outline := by
  have halign : element.alignment = element'.alignment := congrArg Outline.alignment h
  have hdeprecated := congrArg Outline.isDeprecated h
  exact Outline.mk.injEq .. ▸ ⟨rfl, halign, rfl, hdeprecated⟩

/-- The text of the error names the elements; its kind does not. -/
theorem require_sameOutcome (element element' : DataType) (capacity : Nat)
    (lengths? : Option LengthSet) :
    SameOutcome Cause.kind Eq (require (element.tooLarge capacity) lengths?)
      (require (element'.tooLarge capacity) lengths?) := by
  have hkind : (element.tooLarge capacity).kind = (element'.tooLarge capacity).kind := rfl
  exact sameOutcome_require hkind lengths?

/-- **Two runs on elements that look the same.** -/
theorem ofFixedArray_sameOutcome (h : element.outline = element'.outline) (capacity : Nat) :
    SameOutcome Cause.kind SameProperties (ofFixedArray element capacity)
      (ofFixedArray element' capacity) := by
  have hlengths : element.lengths = element'.lengths := congrArg Outline.lengths h
  refine (SameOutcome.refl (R := Eq) (fun _ => rfl) _).bind fun _ _ _ => ?_
  rw [hlengths]
  refine (require_sameOutcome element element' capacity _).bind fun lengths _ hl => ?_
  obtain rfl := hl
  exact .ok (.other (outline_fixedArray h capacity lengths) rfl rfl)

theorem ofVariableArray_sameOutcome (h : element.outline = element'.outline) (capacity : Nat) :
    SameOutcome Cause.kind SameProperties (ofVariableArray element capacity)
      (ofVariableArray element' capacity) := by
  have hlengths : element.lengths = element'.lengths := congrArg Outline.lengths h
  have halign : element.alignment = element'.alignment := congrArg Outline.alignment h
  refine (SameOutcome.refl (R := Eq) (fun _ => rfl) _).bind fun _ _ _ => ?_
  rw [hlengths, halign]
  refine (SameOutcome.refl (R := Eq) (fun _ => rfl) _).bind fun field _ hfield => ?_
  obtain rfl := hfield
  refine (require_sameOutcome element element' capacity _).bind fun lengths _ hl => ?_
  obtain rfl := hl
  exact .ok (.other (outline_fixedArray h capacity lengths) rfl rfl)

end DataType

namespace Composite

variable {request request' response response' attributes attributes' : List Attribute}

/-- **Two definitions whose attributes look the same**, in any file. -/
theorem located_sameOutcome (identity : Identity) (shape : Shape) (d : Declaration)
    (h : List.Forall₂ Attribute.SameOutline attributes attributes') :
    SameOutcome Error.kind SameProperties
      ((build identity shape true (d.withAttributes attributes)).mapError (located d.sourcePath))
      ((build identity shape true (d.withAttributes attributes')).mapError
        (located d.sourcePath)) :=
  (build_sameOutcome identity identity rfl true d h).mapError (fun _ => rfl) fun _ => rfl

/-- **Two services around halves with the same properties** have the same properties, and their
halves are these. -/
theorem container_sameOutcome (serial : Nat) (d : ServiceDeclaration) {req req' res res' : Composite}
    (hreq : req.SameProperties req') (hres : res.SameProperties res') :
    SameOutcome Cause.kind (fun s s' => ∀ role, (s.part role).SameProperties (s'.part role))
      (build ⟨serial, .whole⟩ (.service req res) true
        (containerDeclaration d (Text.trim d.name) req res))
      (build ⟨serial, .whole⟩ (.service req' res') true
        (containerDeclaration d (Text.trim d.name) req' res')) := by
  have hfields : List.Forall₂ Attribute.SameOutline
      [.field "request" (.composite req), .field "response" (.composite res)]
      [.field "request" (.composite req'), .field "response" (.composite res')] :=
    .cons (.field _ hreq.outline_eq) (.cons (.field _ hres.outline_eq) .nil)
  have hkind : (Shape.service req res).kind = (Shape.service req' res').kind := rfl
  refine (build_sameOutcome _ _ hkind true (containerDeclaration d (Text.trim d.name) req res)
    hfields).imp fun s s' hs hs' hwhole role => ?_
  obtain ⟨hreq?, hres?⟩ := (madeFrom_of_build hs).halves_eq
  obtain ⟨hreq?', hres?'⟩ := (madeFrom_of_build hs').halves_eq
  cases role with
  | whole => exact hwhole
  | request =>
    rw [part, part, hreq?, hreq?']
    exact hreq
  | response =>
    rw [part, part, hres?, hres?']
    exact hres

/-- **Two services whose halves look the same** have the same properties, and so have their
halves. -/
theorem ofService_sameOutcome (serial : Nat) (d : ServiceDeclaration)
    (hrequest : List.Forall₂ Attribute.SameOutline request request')
    (hresponse : List.Forall₂ Attribute.SameOutline response response') :
    SameOutcome Error.kind (fun s s' => ∀ role, (s.part role).SameProperties (s'.part role))
      (ofService serial (d.withAttributes request response))
      (ofService serial (d.withAttributes request' response')) := by
  have hhalf : ∀ (role : Role) (s : Schema) {attributes attributes' : List Attribute},
      List.Forall₂ Attribute.SameOutline attributes attributes' →
      SameOutcome Cause.kind SameProperties
        (half serial (d.withAttributes request response) (Text.trim d.name) role
          { s with attributes })
        (half serial (d.withAttributes request' response') (Text.trim d.name) role
          { s with attributes := attributes' }) := fun role s _ _ h =>
    build_sameOutcome ⟨serial, role⟩ ⟨serial, role⟩ rfl false
      (halfDeclaration d (Text.trim d.name) role s) h
  have hcause : SameOutcome Cause.kind
      (fun s s' => ∀ role, (s.part role).SameProperties (s'.part role))
      (buildService serial (d.withAttributes request response))
      (buildService serial (d.withAttributes request' response')) := by
    refine (hhalf .request d.request hrequest).bind fun req req' hreq => ?_
    refine (hhalf .response d.response hresponse).bind fun res res' hres => ?_
    exact container_sameOutcome serial d hreq hres
  exact hcause.mapError (fun _ => rfl) fun _ => rfl

end Composite

/-! ## Runs -/

/-- **What a context makes of two composites**: types that look the same and, but for the bare hole,
have the same properties. -/
structure TypeContext.Alike (k : TypeContext) (t t' : DataType) : Prop where
  outline_eq : t.outline = t'.outline
  same : k ≠ .hole → t.SameProperties t'

theorem DataType.SameProperties.alike {k : TypeContext} {t t' : DataType}
    (h : t.SameProperties t') : k.Alike t t' :=
  ⟨h.outline_eq, fun _ => h⟩

mutual

/-- **A context has the same outcome** for two composites that look the same. -/
theorem TypeContext.fill_sameOutcome
    (h : (DataType.composite c).outline = (DataType.composite c').outline) :
    ∀ k : TypeContext, SameOutcome Error.kind k.Alike (k.fill c) (k.fill c')
  | .hole => .ok ⟨h, fun hk => absurd rfl hk⟩
  | .given t => .ok (DataType.SameProperties.refl t).alike
  | .fixedArray element capacity => by
      rw [TypeContext.fill, TypeContext.fill]
      refine (TypeContext.fill_sameOutcome h element).bind fun t t' ht => ?_
      have hmade := DataType.ofFixedArray_sameOutcome ht.outline_eq capacity
      exact SameOutcome.mapError (hmade.imp fun _ _ _ _ hsame => hsame.alike) (fun _ => rfl)
        fun _ => rfl
  | .variableArray element capacity => by
      rw [TypeContext.fill, TypeContext.fill]
      refine (TypeContext.fill_sameOutcome h element).bind fun t t' ht => ?_
      have hmade := DataType.ofVariableArray_sameOutcome ht.outline_eq capacity
      exact SameOutcome.mapError (hmade.imp fun _ _ _ _ hsame => hsame.alike) (fun _ => rfl)
        fun _ => rfl
  | .struct serial d attributes => by
      rw [TypeContext.fill, TypeContext.fill]
      refine (AttributeContext.fillAll_sameOutcome h attributes).bind fun as as' has => ?_
      refine (Composite.located_sameOutcome ⟨serial, .whole⟩ .struct d has).bind fun _ _ hmade => ?_
      exact .ok (DataType.SameProperties.composite hmade).alike
  | .union serial d attributes => by
      rw [TypeContext.fill, TypeContext.fill]
      refine (AttributeContext.fillAll_sameOutcome h attributes).bind fun as as' has => ?_
      refine (Composite.located_sameOutcome ⟨serial, .whole⟩ .union d has).bind fun _ _ hmade => ?_
      exact .ok (DataType.SameProperties.composite hmade).alike
  | .service serial d request response part => by
      rw [TypeContext.fill, TypeContext.fill]
      refine (AttributeContext.fillAll_sameOutcome h request).bind fun as as' has => ?_
      refine (AttributeContext.fillAll_sameOutcome h response).bind fun bs bs' hbs => ?_
      refine (Composite.ofService_sameOutcome serial d has hbs).bind fun made made' hmade => ?_
      exact .ok (DataType.SameProperties.composite (hmade part)).alike

theorem AttributeContext.fill_sameOutcome
    (h : (DataType.composite c).outline = (DataType.composite c').outline) :
    ∀ a : AttributeContext, SameOutcome Error.kind Attribute.SameOutline (a.fill c) (a.fill c')
  | .field name type => by
      rw [AttributeContext.fill, AttributeContext.fill]
      exact (TypeContext.fill_sameOutcome h type).bind fun _ _ ht =>
        .ok (.field name ht.outline_eq)
  | .padding filler => .ok (.padding filler)
  | .constant name type value => by
      rw [AttributeContext.fill, AttributeContext.fill]
      exact (TypeContext.fill_sameOutcome h type).bind fun t t' ht =>
        .ok (.constant name value ht.outline_eq)

theorem AttributeContext.fillAll_sameOutcome
    (h : (DataType.composite c).outline = (DataType.composite c').outline) :
    ∀ attributes : List AttributeContext, SameOutcome Error.kind
      (List.Forall₂ Attribute.SameOutline) (AttributeContext.fillAll c attributes)
      (AttributeContext.fillAll c' attributes)
  | [] => .ok .nil
  | a :: rest => by
      rw [AttributeContext.fillAll, AttributeContext.fillAll]
      refine (AttributeContext.fill_sameOutcome h a).bind fun b b' hb => ?_
      refine (AttributeContext.fillAll_sameOutcome h rest).bind fun bs bs' hbs => ?_
      exact .ok (.cons hb hbs)

end

/-- **A composite that is not final is seen by its extent alone.**  Of two such composites with the
same extent, both deprecated or neither, the one may stand for the other in any type expression: the
type is made with both or refused with both, for the same kind of reason.  If it is made, the two
types have the same alignment and lengths; and what is made around the composites is the same kind
of composite in both, with the same extent, aggregate, header, tag and offsets. -/
theorem DataType.Buildable.same_in_context {c c' : Composite}
    (h : (DataType.composite c).Buildable) (h' : (DataType.composite c').Buildable)
    (hfinal : c.isFinal = false) (hfinal' : c'.isFinal = false)
    (hdeprecated : c.isDeprecated = c'.isDeprecated) (hextent : c.extent = c'.extent)
    (k : TypeContext) :
    ((∃ t, k.fill c = .ok t) ↔ ∃ t', k.fill c' = .ok t') ∧
      (∀ e e', k.fill c = .error e → k.fill c' = .error e' → e.kind = e'.kind) ∧
      ∀ t t', k.fill c = .ok t → k.fill c' = .ok t' →
        t.alignment = t'.alignment ∧ t.lengths = t'.lengths ∧
        (k ≠ .hole → t.asComposite?.isSome = t'.asComposite?.isSome ∧
          ∀ made made', t = .composite made → t' = .composite made' →
            made.kind = made'.kind ∧ made.extent = made'.extent ∧
            made.aggregate = made'.aggregate ∧ made.header? = made'.header? ∧
            made.tag? = made'.tag? ∧ ∀ base?, made.offsets base? = made'.offsets base?) := by
  have hrun := TypeContext.fill_sameOutcome
    (Composite.outline_eq_of_extent h h' hfinal hfinal' hdeprecated hextent) k
  generalize k.fill c = x, k.fill c' = x' at hrun
  cases hrun with
  | @error e e' he =>
    refine ⟨iff_of_false nofun nofun, ?_, nofun⟩
    rintro _ _ ⟨⟩ ⟨⟩
    exact he
  | @ok t t' ht =>
    refine ⟨iff_of_true ⟨t, rfl⟩ ⟨t', rfl⟩, by rintro _ _ ⟨⟩, ?_⟩
    rintro _ _ ⟨⟩ ⟨⟩
    refine ⟨congrArg Outline.alignment ht.outline_eq, congrArg Outline.lengths ht.outline_eq,
      fun hk => ?_⟩
    cases ht.same hk with
    | composite hmade =>
      refine ⟨rfl, ?_⟩
      rintro _ _ ⟨⟩ ⟨⟩
      exact ⟨hmade.kind_eq, hmade.extent_eq, hmade.aggregate_eq, hmade.header_eq, hmade.tag_eq,
        hmade.offsets_eq⟩
    | other _ hnone hnone' =>
      refine ⟨by rw [hnone, hnone'], ?_⟩
      rintro made _ rfl
      exact absurd hnone (Option.some_ne_none made)

/-! ## A sample -/

/-- A structure that may still change, with room for eight octets. -/
def Declaration.roomy (attributes : List Attribute) : Declaration :=
  { growing with name := "sample.Roomy", attributes, extent? := some 64 }

/-- A structure of a flag and up to two composites. -/
def TypeContext.wrapping : TypeContext :=
  .struct 2 .flagged [.field "flag" (.given .boolean), .field "items" (.variableArray .hole 2)]

theorem DataType.Buildable.same_in_context_wrapping : ∃ c c' t t',
    Composite.ofStructure 0 (.roomy []) = .ok c ∧
    Composite.ofStructure 1 (.roomy Declaration.flagged.attributes) = .ok c' ∧
    TypeContext.wrapping.fill c = .ok t ∧ TypeContext.wrapping.fill c' = .ok t' ∧
    t.alignment = t'.alignment ∧ t.lengths = t'.lengths ∧
    ∀ made made', t = .composite made → t' = .composite made' → made.extent = made'.extent ∧
      ∀ base?, made.offsets base? = made'.offsets base? := by
  have hrun : ((Composite.ofStructure 0 (.roomy [])).toOption.map fun c =>
      (Composite.ofStructure 1 (.roomy Declaration.flagged.attributes)).toOption.map fun c' =>
        ((c.extent, c'.extent), (TypeContext.wrapping.fill c).toOption.isSome)) =
      some (some ((64, 64), true)) := by
    decide +kernel
  obtain ⟨c, hc, hrun⟩ := toOption_map_eq_some_iff.1 hrun
  obtain ⟨c', hc', hrun⟩ := toOption_map_eq_some_iff.1 hrun
  obtain ⟨hextents, hfilled⟩ := Prod.mk.inj hrun
  obtain ⟨hextent, hextent'⟩ := Prod.mk.inj hextents
  obtain ⟨t, ht⟩ : ∃ t, TypeContext.wrapping.fill c = .ok t := by
    cases hfill : TypeContext.wrapping.fill c with
    | ok t => exact ⟨t, rfl⟩
    | error e => rw [hfill] at hfilled; exact absurd hfilled Bool.false_ne_true
  have hmade := Composite.madeFrom_of_build (Composite.ofStructure_eq_ok_iff.1 hc)
  have hmade' := Composite.madeFrom_of_build (Composite.ofStructure_eq_ok_iff.1 hc')
  have hbuildable : (DataType.composite c).Buildable := .struct (List.forall_mem_nil _) hc
  have hbuildable' : (DataType.composite c').Buildable :=
    .struct (d := .roomy Declaration.flagged.attributes) Declaration.buildable_flagged hc'
  have hdeprecated : c.isDeprecated = c'.isDeprecated :=
    hmade.isDeprecated_eq.trans hmade'.isDeprecated_eq.symm
  obtain ⟨hiff, -, hsame⟩ := Buildable.same_in_context hbuildable hbuildable' hmade.isFinal_eq
    hmade'.isFinal_eq hdeprecated (hextent.trans hextent'.symm) TypeContext.wrapping
  obtain ⟨t', ht'⟩ := hiff.1 ⟨t, ht⟩
  obtain ⟨halign, hlengths, hmore⟩ := hsame t t' ht ht'
  refine ⟨c, c', t, t', hc, hc', ht, ht', halign, hlengths, fun made made' h h' => ?_⟩
  obtain ⟨-, hextent, -, -, -, hoffsets⟩ := (hmore nofun).2 made made' h h'
  exact ⟨hextent, hoffsets⟩

end WireSchema
