import WireSchema.Proofs.Composite.Rules
import WireSchema.Proofs.Composite.Stops

/-!
# Proofs/Composite/Kinds — which stage fails with which kind of error

Only the heading of a definition is about names, versions, port numbers and dependencies.  Whatever
stops a run behind it is about sizes, about the variants of a union, or a broken invariant
(`Composite.StopsAt.isOfSize_or`).  Behind the look at the variants only sizes and broken
invariants are left.  Nothing is assumed of the types of the fields.
-/

namespace WireSchema

variable {types : List DataType}

/-! ## Framing and layouts -/

theorem Framing.header?_onlyFails (alignment : Nat) (isFinal : Bool) :
    OnlyFails (fun cause => cause.kind = .internal) (header? alignment isFinal) := by
  unfold header?
  dsimp only
  split_ifs
  · exact onlyFails_ok _ _
  · split
    · exact onlyFails_ok _ _
    · rintro _ ⟨⟩
      rfl

/-- **Framed lengths fail only for their size.** -/
theorem Framing.lengths_onlyFails (alignment extent : Nat) (aggregate : LengthSet) :
    ∀ header? : Option UnsignedType,
      OnlyFails Cause.IsOfSize (lengths alignment extent aggregate header?)
  | none => onlyFails_require fun _ => Or.inl rfl
  | some header => by
    refine OnlyFails.bind (onlyFails_refuse fun cause h => ?_) fun _ _ => ?_
    · obtain ⟨-, h⟩ := Option.ite_none_right_eq_some.1 h
      obtain rfl := Option.some.inj h
      exact Or.inl rfl
    refine OnlyFails.bind (onlyFails_refuse fun cause h => ?_) fun _ _ => ?_
    · obtain ⟨-, h⟩ := Option.ite_none_left_eq_some.1 h
      obtain rfl := Option.some.inj h
      exact Or.inr rfl
    · exact onlyFails_require fun _ => Or.inl rfl

/-- With variants to choose from, or for any other fields, a layout fails only as it never
should. -/
theorem Shape.layout_onlyFails {shape : Shape}
    (htwo : shape.kind = .union → minVariants ≤ types.length) :
    OnlyFails (fun cause => cause.kind = .internal) (shape.layout types) := by
  cases shape with
  | struct => exact onlyFails_ok _ _
  | service request response => exact onlyFails_ok _ _
  | union =>
    refine OnlyFails.bind (Composite.tagBits_onlyFails (htwo rfl)) fun bits _ => ?_
    split
    · exact onlyFails_ok _ _
    · rintro _ ⟨⟩
      rfl

/-! ## Stages -/

/-- **A footprint fails for its size or for its variants.** -/
theorem Footprint.StopsAt.isOfSize_or {name : String} {kind : Kind} {attributes : List Attribute}
    {asked? : Option Nat} {isFinal : Bool} {cause : Cause}
    (h : StopsAt name kind attributes asked? isFinal cause) :
    cause.IsOfSize ∨ kind = .union ∧ variantDefect? attributes = some cause := by
  cases h with
  | aggregate h => exact Or.inl (Composite.aggregateOf_onlyFails _ _ cause h)
  | longest _ _ hcause => exact Or.inl (Or.inr (hcause ▸ rfl))
  | extent _ _ h => exact Or.inl (Or.inl (Extent.resolve_onlyFails _ _ _ _ cause h))
  | variants _ hkind h => exact Or.inr ⟨hkind, h⟩
  | header _ _ h => exact Or.inl (Or.inr (Framing.header?_onlyFails _ _ cause h))
  | lengths _ _ _ h => exact Or.inl (Framing.lengths_onlyFails _ _ _ _ cause h)

namespace Composite

variable {shape : Shape} {bounded : Bool} {d : Declaration} {cause : Cause}

/-- **Behind a sound heading** a definition fails for its size or for its variants. -/
theorem StopsAt.isOfSize_or (h : StopsAt shape bounded d cause)
    (hheading : d.headingDefect? (Text.trim d.name) shape.kind bounded = none) :
    cause.IsOfSize ∨ shape.kind = .union ∧ variantDefect? d.attributes = some cause := by
  cases h with
  | heading h => exact absurd (h.symm.trans hheading) (Option.some_ne_none cause)
  | footprint _ h => exact h.isOfSize_or
  | layout _ hf h =>
    obtain ⟨-, -, -, hvariants, -⟩ := ofAttributes_eq_ok_iff.1 hf
    refine Or.inl (Or.inr (Shape.layout_onlyFails (fun hunion => ?_) cause h))
    exact le_length_of_variantDefect? (hvariants hunion)
  | consistency _ _ _ _ hcause => exact Or.inl (Or.inr (hcause ▸ rfl))

end Composite
end WireSchema
