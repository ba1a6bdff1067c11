import WireSchema.Composite.Build

/-!
# Proofs/Composite/Stops — the stage that the making of a composite stops at

Making a composite runs through stages: the heading is checked; the fields are put together and
measured, which takes six steps; the layout is found; and the footprint is looked at once more.  A
run that fails has passed all stages before one of them, and has the cause that this one came to.
`Composite.StopsAt` has a case for each stage, and says what the stages before it came to.
`Composite.build_eq_error_iff` says that there is no other way to fail, for any declaration at all.
-/

namespace WireSchema

/-! ## Footprints -/

namespace Footprint

variable {name : String} {kind : Kind} {attributes : List Attribute} {asked? : Option Nat}
  {isFinal : Bool} {cause : Cause}

/-- **The fields have been measured**: they have an aggregate, and against the longest of its
lengths an extent. -/
structure Measures (kind : Kind) (attributes : List Attribute) (asked? : Option Nat)
    (isFinal : Bool) (aggregate : LengthSet) (extent : Extent) : Prop where
  aggregate_eq : Composite.aggregateOf kind (fieldTypes attributes) = .ok aggregate
  extent_eq : ∃ longest, aggregate.max? = some longest ∧
    Extent.resolve (Composite.alignmentOf (fieldTypes attributes)) longest asked? isFinal =
      .ok extent

/-- **How the making of a footprint stops with the cause**, by the step that it stops at. -/
inductive StopsAt (name : String) (kind : Kind) (attributes : List Attribute)
    (asked? : Option Nat) (isFinal : Bool) (cause : Cause) : Prop
  /-- The fields cannot be put together. -/
  | aggregate (h : Composite.aggregateOf kind (fieldTypes attributes) = .error cause)
  /-- Put together they have no length. -/
  | longest {aggregate : LengthSet}
      (haggregate : Composite.aggregateOf kind (fieldTypes attributes) = .ok aggregate)
      (hmax : aggregate.max? = none) (hcause : cause = .inconsistent (.noLength name))
  /-- The extent does not fit them. -/
  | extent {aggregate : LengthSet} {longest : Nat}
      (haggregate : Composite.aggregateOf kind (fieldTypes attributes) = .ok aggregate)
      (hmax : aggregate.max? = some longest)
      (h : Extent.resolve (Composite.alignmentOf (fieldTypes attributes)) longest asked? isFinal =
        .error cause)
  /-- They cannot be the variants of a union. -/
  | variants {aggregate : LengthSet} {extent : Extent}
      (hmeasures : Measures kind attributes asked? isFinal aggregate extent)
      (hkind : kind = .union) (h : variantDefect? attributes = some cause)
  /-- No header can be put in front of them. -/
  | header {aggregate : LengthSet} {extent : Extent}
      (hmeasures : Measures kind attributes asked? isFinal aggregate extent)
      (hvariants : kind = .union → variantDefect? attributes = none)
      (h : Framing.header? (Composite.alignmentOf (fieldTypes attributes)) isFinal = .error cause)
  /-- Framed they have lengths that are too long, or too many. -/
  | lengths {aggregate : LengthSet} {extent : Extent} {header? : Option UnsignedType}
      (hmeasures : Measures kind attributes asked? isFinal aggregate extent)
      (hvariants : kind = .union → variantDefect? attributes = none)
      (hheader : Framing.header? (Composite.alignmentOf (fieldTypes attributes)) isFinal =
        .ok header?)
      (h : Framing.lengths (Composite.alignmentOf (fieldTypes attributes)) extent.bits aggregate
        header? = .error cause)

/-- Behind the measures come the variants, the header and the framed lengths. -/
theorem ofAttributes_eq_of_measures {aggregate : LengthSet} {extent : Extent} (name : String)
    (h : Measures kind attributes asked? isFinal aggregate extent) :
    ofAttributes name kind attributes asked? isFinal = (do
      let alignment := Composite.alignmentOf (fieldTypes attributes)
      refuse (if kind = .union then variantDefect? attributes else none)
      let header? ← Framing.header? alignment isFinal
      let lengths ← Framing.lengths alignment extent.bits aggregate header?
      return { alignment, extent, aggregate, header?, lengths }) := by
  obtain ⟨haggregate, longest, hmax, hextent⟩ := h
  rw [ofAttributes, haggregate]
  change (require _ aggregate.max? >>= fun longest => _) = _
  rw [hmax]
  change (Extent.resolve _ longest asked? isFinal >>= fun extent => _) = _
  rw [hextent]
  rfl

/-- **A footprint cannot be made** exactly if its making stops at one of the steps. -/
theorem ofAttributes_eq_error_iff :
    ofAttributes name kind attributes asked? isFinal = .error cause ↔
      StopsAt name kind attributes asked? isFinal cause := by
  have hrefuse : (kind = .union → variantDefect? attributes = none) ↔
      (if kind = .union then variantDefect? attributes else none) = none :=
    ite_eq_right_iff.symm
  constructor
  · intro h
    rcases bind_eq_error_iff.1 h with h | ⟨aggregate, haggregate, h⟩
    · exact .aggregate h
    rcases bind_eq_error_iff.1 h with h | ⟨longest, hmax, h⟩
    · obtain ⟨hmax, rfl⟩ := require_eq_error_iff.1 h
      exact .longest haggregate hmax rfl
    have hmax := require_eq_ok_iff.1 hmax
    rcases bind_eq_error_iff.1 h with h | ⟨extent, hextent, h⟩
    · exact .extent haggregate hmax h
    have hmeasures : Measures kind attributes asked? isFinal aggregate extent :=
      ⟨haggregate, longest, hmax, hextent⟩
    rcases bind_eq_error_iff.1 h with h | ⟨_, hvariants, h⟩
    · obtain ⟨hkind, h⟩ := Option.ite_none_right_eq_some.1 (refuse_eq_error_iff.1 h)
      exact .variants hmeasures hkind h
    have hvariants := hrefuse.2 (refuse_eq_ok_iff.1 hvariants)
    rcases bind_eq_error_iff.1 h with h | ⟨header?, hheader, h⟩
    · exact .header hmeasures hvariants h
    rcases bind_eq_error_iff.1 h with h | ⟨lengths, -, h⟩
    · exact .lengths hmeasures hvariants hheader h
    · exact absurd h nofun
  · intro h
    cases h with
    | aggregate h => exact bind_eq_error_iff.2 (.inl h)
    | longest haggregate hmax hcause =>
      refine bind_eq_error_iff.2 (.inr ⟨_, haggregate, bind_eq_error_iff.2 (.inl ?_)⟩)
      exact require_eq_error_iff.2 ⟨hmax, hcause.symm⟩
    | extent haggregate hmax h =>
      refine bind_eq_error_iff.2 (.inr ⟨_, haggregate, ?_⟩)
      refine bind_eq_error_iff.2 (.inr ⟨_, require_eq_ok_iff.2 hmax, ?_⟩)
      exact bind_eq_error_iff.2 (.inl h)
    | variants hmeasures hkind h =>
      rw [ofAttributes_eq_of_measures name hmeasures]
      refine bind_eq_error_iff.2 (.inl (refuse_eq_error_iff.2 ?_))
      rwa [if_pos hkind]
    | header hmeasures hvariants h =>
      rw [ofAttributes_eq_of_measures name hmeasures]
      refine bind_eq_error_iff.2 (.inr ⟨(), refuse_eq_ok_iff.2 (hrefuse.1 hvariants), ?_⟩)
      exact bind_eq_error_iff.2 (.inl h)
    | lengths hmeasures hvariants hheader h =>
      rw [ofAttributes_eq_of_measures name hmeasures]
      refine bind_eq_error_iff.2 (.inr ⟨(), refuse_eq_ok_iff.2 (hrefuse.1 hvariants), ?_⟩)
      exact bind_eq_error_iff.2 (.inr ⟨_, hheader, bind_eq_error_iff.2 (.inl h)⟩)

end Footprint

/-! ## Composites -/

namespace Composite

variable {identity : Identity} {shape : Shape} {bounded : Bool} {d : Declaration} {cause : Cause}

/-- **How the making of a composite stops with the cause**, by the stage that it stops at. -/
inductive StopsAt (shape : Shape) (bounded : Bool) (d : Declaration) (cause : Cause) : Prop
  /-- The heading has a defect. -/
  | heading (h : d.headingDefect? (Text.trim d.name) shape.kind bounded = some cause)
  /-- The fields have no footprint. -/
  | footprint (hheading : d.headingDefect? (Text.trim d.name) shape.kind bounded = none)
      (h : Footprint.StopsAt (Text.trim d.name) shape.kind d.attributes d.extent? d.isFinal cause)
  /-- The fields have no layout. -/
  | layout {f : Footprint}
      (hheading : d.headingDefect? (Text.trim d.name) shape.kind bounded = none)
      (hf : Footprint.ofAttributes (Text.trim d.name) shape.kind d.attributes d.extent?
        d.isFinal = .ok f)
      (h : shape.layout (fieldTypes d.attributes) = .error cause)
  /-- The footprint does not fit together. -/
  | consistency {f : Footprint} {layout : Layout} {what : Inconsistency}
      (hheading : d.headingDefect? (Text.trim d.name) shape.kind bounded = none)
      (hf : Footprint.ofAttributes (Text.trim d.name) shape.kind d.attributes d.extent?
        d.isFinal = .ok f)
      (hlayout : shape.layout (fieldTypes d.attributes) = .ok layout)
      (h : f.inconsistency? d.isFinal = some what) (hcause : cause = .inconsistent what)

/-- **A composite cannot be made** exactly if its making stops at one of the stages. -/
theorem build_eq_error_iff :
    build identity shape bounded d = .error cause ↔ StopsAt shape bounded d cause := by
  constructor
  · intro h
    rcases bind_eq_error_iff.1 h with h | ⟨_, hheading, h⟩
    · exact .heading (refuse_eq_error_iff.1 h)
    have hheading := refuse_eq_ok_iff.1 hheading
    rcases bind_eq_error_iff.1 h with h | ⟨f, hf, h⟩
    · exact .footprint hheading (Footprint.ofAttributes_eq_error_iff.1 h)
    rcases bind_eq_error_iff.1 h with h | ⟨layout, hlayout, h⟩
    · exact .layout hheading hf h
    rcases bind_eq_error_iff.1 h with h | ⟨_, -, h⟩
    · obtain ⟨what, hwhat, rfl⟩ := Option.map_eq_some_iff.1 (refuse_eq_error_iff.1 h)
      exact .consistency hheading hf hlayout hwhat rfl
    · exact absurd h nofun
  · intro h
    cases h with
    | heading h => exact bind_eq_error_iff.2 (.inl (refuse_eq_error_iff.2 h))
    | footprint hheading h =>
      refine bind_eq_error_iff.2 (.inr ⟨(), refuse_eq_ok_iff.2 hheading, ?_⟩)
      exact bind_eq_error_iff.2 (.inl (Footprint.ofAttributes_eq_error_iff.2 h))
    | layout hheading hf h =>
      refine bind_eq_error_iff.2 (.inr ⟨(), refuse_eq_ok_iff.2 hheading, ?_⟩)
      exact bind_eq_error_iff.2 (.inr ⟨_, hf, bind_eq_error_iff.2 (.inl h)⟩)
    | consistency hheading hf hlayout h hcause =>
      refine bind_eq_error_iff.2 (.inr ⟨(), refuse_eq_ok_iff.2 hheading, ?_⟩)
      refine bind_eq_error_iff.2 (.inr ⟨_, hf, bind_eq_error_iff.2 (.inr ⟨_, hlayout, ?_⟩)⟩)
      refine bind_eq_error_iff.2 (.inl (refuse_eq_error_iff.2 ?_))
      exact Option.map_eq_some_iff.2 ⟨_, h, hcause.symm⟩

end Composite
end WireSchema
