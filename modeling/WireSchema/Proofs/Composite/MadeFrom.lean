import WireSchema.Composite.Build

/-!
# Proofs/Composite/MadeFrom — what a composite owes to its declaration

Making a composite runs through a row of checks and computations.  `MadeFrom` lists what each of
them came to, in terms of the composite that was made, so that nobody who reasons about a composite
has to look at the row again: `madeFrom_of_build` reads the list off a successful run.
-/

namespace WireSchema
namespace Composite

/-- **What a composite owes to its declaration**, step by step. -/
structure MadeFrom (shape : Shape) (bounded : Bool) (d : Declaration) (c : Composite) : Prop where
  name_eq : c.name = Text.trim d.name
  version_eq : c.version = d.version
  attributes_eq : c.attributes = d.attributes
  isFinal_eq : c.isFinal = d.isFinal
  isDeprecated_eq : c.isDeprecated = d.isDeprecated
  portId_eq : c.portId? = d.portId?
  sourcePath_eq : c.sourcePath = d.sourcePath
  /-- The heading has no defect. -/
  heading : d.headingDefect? c.name shape.kind bounded = none
  alignment_eq : c.alignment = alignmentOf (fieldTypes c.attributes)
  aggregate_eq : aggregateOf shape.kind (fieldTypes c.attributes) = .ok c.aggregate
  /-- The extent is resolved against the longest aggregate. -/
  extent_eq : ∃ longest minimal, c.aggregate.max? = some longest ∧
    Extent.resolve c.alignment longest d.extent? c.isFinal = .ok ⟨minimal, c.extent⟩
  variants : shape.kind = .union → variantDefect? c.attributes = none
  header_eq : Framing.header? c.alignment c.isFinal = .ok c.header?
  lengths_eq : Framing.lengths c.alignment c.extent c.aggregate c.header? = .ok c.lengths
  layout_eq : shape.layout (fieldTypes c.attributes) = .ok c.layout

/-- **The steps behind a footprint**; the name only goes into an error. -/
theorem ofAttributes_eq_ok_iff {name : String} {kind : Kind} {attributes : List Attribute}
    {asked? : Option Nat} {isFinal : Bool} {f : Footprint} :
    Footprint.ofAttributes name kind attributes asked? isFinal = .ok f ↔
      f.alignment = alignmentOf (fieldTypes attributes) ∧
        aggregateOf kind (fieldTypes attributes) = .ok f.aggregate ∧
        (∃ longest, f.aggregate.max? = some longest ∧
          Extent.resolve f.alignment longest asked? isFinal = .ok f.extent) ∧
        (kind = .union → variantDefect? attributes = none) ∧
        Framing.header? f.alignment isFinal = .ok f.header? ∧
        Framing.lengths f.alignment f.extent.bits f.aggregate f.header? = .ok f.lengths := by
  have hrefuse : (kind = .union → variantDefect? attributes = none) ↔
      refuse (if kind = .union then variantDefect? attributes else none) = .ok () := by
    rw [refuse_eq_ok_iff, ite_eq_right_iff]
  constructor
  · intro h
    obtain ⟨aggregate, haggregate, h⟩ := bind_eq_ok_iff.1 h
    obtain ⟨longest, hlongest, h⟩ := bind_eq_ok_iff.1 h
    obtain ⟨extent, hextent, h⟩ := bind_eq_ok_iff.1 h
    obtain ⟨_, hvariants, h⟩ := bind_eq_ok_iff.1 h
    obtain ⟨header?, hheader, h⟩ := bind_eq_ok_iff.1 h
    obtain ⟨lengths, hlengths, h⟩ := bind_eq_ok_iff.1 h
    obtain rfl := Except.ok.inj h
    exact ⟨rfl, haggregate, ⟨longest, require_eq_ok_iff.1 hlongest, hextent⟩,
      hrefuse.2 hvariants, hheader, hlengths⟩
  · rintro ⟨halign, haggregate, ⟨longest, hlongest, hextent⟩, hvariants, hheader, hlengths⟩
    rw [halign] at hextent hheader hlengths
    refine bind_eq_ok_iff.2 ⟨_, haggregate, ?_⟩
    refine bind_eq_ok_iff.2 ⟨longest, require_eq_ok_iff.2 hlongest, ?_⟩
    refine bind_eq_ok_iff.2 ⟨_, hextent, ?_⟩
    refine bind_eq_ok_iff.2 ⟨(), hrefuse.1 hvariants, ?_⟩
    refine bind_eq_ok_iff.2 ⟨_, hheader, ?_⟩
    refine bind_eq_ok_iff.2 ⟨_, hlengths, ?_⟩
    exact congrArg Except.ok (congrArg (Footprint.mk · _ _ _ _) halign.symm)

/-- What is assembled behind the checks is made from the declaration. -/
theorem madeFrom_assemble {identity : Identity} {shape : Shape} {bounded : Bool} {d : Declaration}
    {f : Footprint} {layout : Layout}
    (hheading : d.headingDefect? (Text.trim d.name) shape.kind bounded = none)
    (hf : Footprint.ofAttributes (Text.trim d.name) shape.kind d.attributes d.extent? d.isFinal =
      .ok f)
    (hlayout : shape.layout (fieldTypes d.attributes) = .ok layout) :
    MadeFrom shape bounded d (assemble identity (Text.trim d.name) d f layout) := by
  obtain ⟨halign, haggregate, ⟨longest, hlongest, hextent⟩, hvariants, hheader, hlengths⟩ :=
    ofAttributes_eq_ok_iff.1 hf
  exact
    { name_eq := rfl
      version_eq := rfl
      attributes_eq := rfl
      isFinal_eq := rfl
      isDeprecated_eq := rfl
      portId_eq := rfl
      sourcePath_eq := rfl
      heading := hheading
      alignment_eq := halign
      aggregate_eq := haggregate
      extent_eq := ⟨longest, f.extent.minimal, hlongest, hextent⟩
      variants := hvariants
      header_eq := hheader
      lengths_eq := hlengths
      layout_eq := hlayout }

/-- **The steps behind a composite.** -/
theorem build_eq_ok_iff {identity : Identity} {shape : Shape} {bounded : Bool} {d : Declaration}
    {c : Composite} :
    build identity shape bounded d = .ok c ↔ ∃ f layout,
      d.headingDefect? (Text.trim d.name) shape.kind bounded = none ∧
      Footprint.ofAttributes (Text.trim d.name) shape.kind d.attributes d.extent? d.isFinal =
        .ok f ∧
      shape.layout (fieldTypes d.attributes) = .ok layout ∧
      f.inconsistency? d.isFinal = none ∧ assemble identity (Text.trim d.name) d f layout = c := by
  constructor
  · intro h
    obtain ⟨_, hheading, h⟩ := bind_eq_ok_iff.1 h
    obtain ⟨f, hf, h⟩ := bind_eq_ok_iff.1 h
    obtain ⟨layout, hlayout, h⟩ := bind_eq_ok_iff.1 h
    obtain ⟨_, hconsistent, h⟩ := bind_eq_ok_iff.1 h
    exact ⟨f, layout, refuse_eq_ok_iff.1 hheading, hf, hlayout,
      Option.map_eq_none_iff.1 (refuse_eq_ok_iff.1 hconsistent), Except.ok.inj h⟩
  · rintro ⟨f, layout, hheading, hf, hlayout, hconsistent, rfl⟩
    refine bind_eq_ok_iff.2 ⟨(), refuse_eq_ok_iff.2 hheading, ?_⟩
    refine bind_eq_ok_iff.2 ⟨f, hf, ?_⟩
    refine bind_eq_ok_iff.2 ⟨layout, hlayout, ?_⟩
    exact bind_eq_ok_iff.2 ⟨(), refuse_eq_ok_iff.2 (Option.map_eq_none_iff.2 hconsistent), rfl⟩

/-- **The steps of a successful run.** -/
theorem madeFrom_of_build {identity : Identity} {shape : Shape} {bounded : Bool} {d : Declaration}
    {c : Composite} (h : build identity shape bounded d = .ok c) : MadeFrom shape bounded d c := by
  obtain ⟨f, layout, hheading, hf, hlayout, -, rfl⟩ := build_eq_ok_iff.1 h
  exact madeFrom_assemble hheading hf hlayout

theorem identity_of_build {identity : Identity} {shape : Shape} {bounded : Bool} {d : Declaration}
    {c : Composite} (h : build identity shape bounded d = .ok c) : c.identity = identity := by
  obtain ⟨_, _, -, -, -, -, rfl⟩ := build_eq_ok_iff.1 h
  rfl

end Composite
end WireSchema
