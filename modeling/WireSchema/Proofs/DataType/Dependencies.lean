import WireSchema.Proofs.Composite.Nested
import WireSchema.Proofs.Composite.Rules

/-!
# Proofs/DataType/Dependencies — what a type depends on, at any depth

A type contains the composites that are met on the way down from it: the elements of arrays, the
attributes of composites, fields and constants alike, and the halves of services, each with what it
contains itself (`DataType.Contains`).

A definition is checked for deprecated types only at the bottom of its own attributes, and not
behind the composites that it finds there.  That is enough: whatever is found there was checked in
its turn when it was made.  So nothing deprecated is ever contained in what is not
(`Buildable.not_deprecated_of_contains`), by induction on how a type was made.
-/

namespace WireSchema

/-- **The composites that a type contains**, at any depth. -/
inductive DataType.Contains : DataType → Composite → Prop
  | self (c : Composite) : Contains (.composite c) c
  | fixedArray {element : DataType} {capacity : Nat} {lengths : LengthSet} {c : Composite}
      (h : element.Contains c) : Contains (.fixedArray element capacity lengths) c
  | variableArray {element : DataType} {capacity : Nat} {field : UnsignedType}
      {lengths : LengthSet} {c : Composite} (h : element.Contains c) :
      Contains (.variableArray element capacity field lengths) c
  | member {outer : Composite} {a : Attribute} {c : Composite} (ha : a ∈ outer.attributes)
      (h : a.type.Contains c) : Contains (.composite outer) c
  | half {outer half c : Composite}
      (hhalf : outer.request? = some half ∨ outer.response? = some half)
      (h : (DataType.composite half).Contains c) : Contains (.composite outer) c

namespace Composite

variable {shape : Shape} {bounded : Bool} {d : Declaration} {c half : Composite}

/-- **What is not deprecated is not made of what is**: not at the bottom of any attribute. -/
theorem MadeFrom.not_deprecated_of_innermost (h : MadeFrom shape bounded d c)
    (hc : c.isDeprecated = false) :
    ∀ a ∈ c.attributes, ∀ b, a.type.innermost? = some b → b.isDeprecated = false := by
  have hheading : refuse (d.headingDefect? (Text.trim d.name) shape.kind bounded) = .ok () :=
    refuse_eq_ok_iff.2 (h.name_eq ▸ h.heading)
  have hrule := (d.heading_checks shape.kind bounded).holds () hheading .dependencies (by simp)
  rw [h.attributes_eq]
  refine hrule.resolve_left fun hd => ?_
  rw [h.isDeprecated_eq, hd] at hc
  exact absurd hc nofun

/-- The halves of a service are the types of its attributes. -/
theorem MadeFrom.exists_attribute_of_half (h : MadeFrom shape bounded d c)
    (hhalves : DataType.ContainsHalves shape d)
    (hhalf : c.request? = some half ∨ c.response? = some half) :
    ∃ a ∈ c.attributes, a.type = .composite half := by
  rw [h.attributes_eq]
  cases shape with
  | struct | union => exact absurd (h.kind_eq.symm.trans (kind_of_half hhalf)) nofun
  | service request response =>
    obtain ⟨hreq, hres⟩ := h.halves_eq
    rw [hreq, hres, Option.some.injEq, Option.some.injEq] at hhalf
    rw [hhalves.2]
    rcases hhalf with rfl | rfl
    · exact ⟨_, List.mem_cons_self, rfl⟩
    · exact ⟨_, List.mem_cons_of_mem _ List.mem_cons_self, rfl⟩

/-- **What a composite contains besides itself** is behind one of its attributes. -/
theorem MadeFrom.eq_or_behind_attribute (h : MadeFrom shape bounded d c)
    (hhalves : DataType.ContainsHalves shape d) {inner : Composite}
    (hinner : (DataType.composite c).Contains inner) :
    inner = c ∨ ∃ a ∈ c.attributes, a.type.Contains inner := by
  cases hinner with
  | self => exact Or.inl rfl
  | member hmem hinner => exact Or.inr ⟨_, hmem, hinner⟩
  | half hhalf hinner =>
    obtain ⟨a, hmem, htype⟩ := h.exists_attribute_of_half hhalves hhalf
    exact Or.inr ⟨a, hmem, htype ▸ hinner⟩

end Composite

namespace DataType

/-- **The check at the bottom is enough**: a type that has nothing deprecated at its bottom contains
nothing deprecated. -/
theorem Buildable.not_deprecated_of_innermost {t : DataType} (h : t.Buildable) :
    (∀ b, t.innermost? = some b → b.isDeprecated = false) →
      ∀ c, t.Contains c → c.isDeprecated = false := by
  refine Buildable.induct (P := fun t => (∀ b, t.innermost? = some b → b.isDeprecated = false) →
      ∀ c, t.Contains c → c.isDeprecated = false)
    (fun hp _ c hc => ?_) (fun _ ih hmade hbottom c hc => ?_)
    (fun _ ih hmade hbottom c hc => ?_) (fun ha hhalves hbuild hbottom c hc => ?_) h
  · cases hc <;> exact absurd hp Bool.false_ne_true
  · obtain ⟨-, _, -, rfl⟩ := ofFixedArray_eq_ok_iff.1 hmade
    cases hc with
    | fixedArray hc => exact ih hbottom c hc
  · obtain ⟨-, _, _, _, -, -, -, rfl⟩ := ofVariableArray_eq_ok_iff.1 hmade
    cases hc with
    | variableArray hc => exact ih hbottom c hc
  · have hmade := Composite.madeFrom_of_build hbuild
    rcases hmade.eq_or_behind_attribute hhalves hc with rfl | ⟨a, hmem, hbehind⟩
    · exact hbottom c rfl
    · have hattribute := hmade.not_deprecated_of_innermost (hbottom _ rfl) a hmem
      rw [hmade.attributes_eq] at hmem
      exact (ha a hmem).2 hattribute c hbehind

/-- **Deprecation cannot be hidden.**  A composite that can be made and is not deprecated contains
nothing deprecated, at any depth: not behind arrays, not behind the attributes of other composites,
and not in the halves of a service. -/
theorem Buildable.not_deprecated_of_contains {c : Composite}
    (h : (DataType.composite c).Buildable) (hc : c.isDeprecated = false) {inner : Composite}
    (hinner : (DataType.composite c).Contains inner) : inner.isDeprecated = false := by
  refine h.not_deprecated_of_innermost (fun b hb => ?_) inner hinner
  obtain rfl := Option.some.inj hb
  exact hc

end DataType

/-! ## A sample -/

/-- A structure of up to two things. -/
def Declaration.holding (t : DataType) : Declaration :=
  { flagged with name := "sample.Holding", attributes := [.field "items" t] }

theorem DataType.Buildable.not_deprecated_of_contains_holding : ∃ inner middle items outer,
    Composite.ofStructure 0 .growing = .ok inner ∧
    Composite.ofStructure 1 (.wrapping inner) = .ok middle ∧
    ofVariableArray (.composite middle) 2 = .ok items ∧
    Composite.ofStructure 2 (.holding items) = .ok outer ∧
    outer.isDeprecated = false ∧ (composite outer).Contains inner ∧
    inner.isDeprecated = false := by
  have hrun : ((Composite.ofStructure 0 .growing).toOption.map fun inner =>
      (Composite.ofStructure 1 (.wrapping inner)).toOption.map fun middle =>
        (ofVariableArray (.composite middle) 2).toOption.map fun items =>
          (Composite.ofStructure 2 (.holding items)).toOption.map (·.isDeprecated)) =
      some (some (some (some false))) := by
    decide +kernel
  obtain ⟨inner, hinner, hrun⟩ := toOption_map_eq_some_iff.1 hrun
  obtain ⟨middle, hmiddle, hrun⟩ := toOption_map_eq_some_iff.1 hrun
  obtain ⟨items, hitems, hrun⟩ := toOption_map_eq_some_iff.1 hrun
  obtain ⟨outer, houter, hdeprecated⟩ := toOption_map_eq_some_iff.1 hrun
  have hbuildable : (composite outer).Buildable := by
    have hmade : (composite middle).Buildable :=
      .struct (Declaration.buildable_wrapping (.struct Declaration.buildable_growing hinner))
        hmiddle
    exact .struct (d := .holding items) (List.forall_mem_singleton.2 (.variableArray hmade hitems))
      houter
  have hcontains : (composite outer).Contains inner := by
    have hmiddle' : (composite middle).Contains inner := by
      refine .member (a := .field "inner" (.composite inner)) ?_ (.self inner)
      rw [(Composite.madeFrom_of_build (Composite.ofStructure_eq_ok_iff.1 hmiddle)).attributes_eq]
      exact List.mem_cons_of_mem _ List.mem_cons_self
    refine .member (a := .field "items" items) ?_ ?_
    · rw [(Composite.madeFrom_of_build (Composite.ofStructure_eq_ok_iff.1 houter)).attributes_eq]
      exact List.mem_cons_self
    · obtain ⟨-, _, _, _, -, -, -, rfl⟩ := ofVariableArray_eq_ok_iff.1 hitems
      exact .variableArray hmiddle'
  exact ⟨inner, middle, items, outer, hinner, hmiddle, hitems, houter, hdeprecated, hcontains,
    hbuildable.not_deprecated_of_contains hdeprecated hcontains⟩

end WireSchema
