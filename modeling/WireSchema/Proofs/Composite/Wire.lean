import WireSchema.Proofs.Catalog.Objects
import WireSchema.Proofs.Composite.Outline

/-!
# Proofs/Composite/Wire — the form on the wire is that of the fields

What a composite looks like on the wire follows from the types of its fields, in order, and from
what its definition says about the extent and finality (`Composite.MadeFrom.sameWire`).  Names,
versions, port numbers and deprecation have no part in it, and constants may stand anywhere between
the fields (`Composite.wire_of_fieldTypes`).
-/

namespace WireSchema
namespace Composite

variable {shape shape' : Shape} {bounded bounded' : Bool} {d d' : Declaration} {c c' : Composite}

/-- Shapes of one kind lay out fields that look the same in one way. -/
theorem sameSort_of_layout {types types' : List DataType} {layout layout' : Layout}
    (hkind : shape.kind = shape'.kind) (htypes : SameOutlines types types')
    (h : shape.layout types = .ok layout) (h' : shape'.layout types' = .ok layout') :
    layout.SameSort layout' := by
  have hrun := Shape.layout_sameOutcome hkind htypes
  rw [h, h'] at hrun
  cases hrun with
  | ok hsort => exact hsort

/-- **Two definitions of one kind** with the same say on extent and finality, whose fields look the
same, make composites of the same form on the wire. -/
theorem MadeFrom.sameWire (h : MadeFrom shape bounded d c) (h' : MadeFrom shape' bounded' d' c')
    (hkind : shape.kind = shape'.kind) (hextent : d.extent? = d'.extent?)
    (hfinal : d.isFinal = d'.isFinal)
    (htypes : SameOutlines (fieldTypes d.attributes) (fieldTypes d'.attributes)) :
    c.SameWire c' := by
  have hfields : SameOutlines (fieldTypes c.attributes) (fieldTypes c'.attributes) := by
    rwa [h.attributes_eq, h'.attributes_eq]
  have hlast : c.isFinal = c'.isFinal := by rw [h.isFinal_eq, h'.isFinal_eq, hfinal]
  have halign : c.alignment = c'.alignment := by
    rw [h.alignment_eq, h'.alignment_eq, alignmentOf, alignmentOf,
      widenTo_congr (map_alignment_congr hfields)]
  have haggregate : c.aggregate = c'.aggregate := by
    have hrun := h.aggregate_eq
    rw [hkind, aggregateOf_congr _ hfields, h'.aggregate_eq] at hrun
    exact (Except.ok.inj hrun).symm
  have hextents : c.extent = c'.extent := by
    obtain ⟨longest, minimal, hlongest, hresolve⟩ := h.extent_eq
    obtain ⟨longest', minimal', hlongest', hresolve'⟩ := h'.extent_eq
    rw [haggregate, hlongest'] at hlongest
    rw [halign, hextent, hlast, ← Option.some.inj hlongest, hresolve'] at hresolve
    exact (Extent.mk.inj (Except.ok.inj hresolve)).2.symm
  have hheader : c.header? = c'.header? := by
    have hrun := h.header_eq
    rw [halign, hlast, h'.header_eq] at hrun
    exact (Except.ok.inj hrun).symm
  have hlengths : c.lengths = c'.lengths := by
    have hrun := h.lengths_eq
    rw [halign, hextents, haggregate, hheader, h'.lengths_eq] at hrun
    exact (Except.ok.inj hrun).symm
  exact ⟨sameSort_of_layout hkind hfields h.layout_eq h'.layout_eq, hfields, halign, hextents,
    haggregate, hlengths, hheader⟩

/-- Types at hand that are the same look the same. -/
theorem sameOutlines_of_same {catalog : Catalog} {types types' : List DataType}
    (hoffers : ∀ t ∈ types, catalog.Offers t) (hoffers' : ∀ t ∈ types', catalog.Offers t)
    (hsame : List.Forall₂ (fun t t' => t.same t' = true) types types') :
    SameOutlines types types' := by
  induction hsame with
  | nil => exact .nil
  | cons ht _ ih =>
    obtain ⟨hfirst, hrest⟩ := List.forall_mem_cons.1 hoffers
    obtain ⟨hfirst', hrest'⟩ := List.forall_mem_cons.1 hoffers'
    exact .cons (congrArg DataType.outline ((hfirst.same_iff_eq hfirst').1 ht)) (ih hrest hrest')

/-- **Only the row of field types decides the form on the wire.**  Two structures, or two unions,
whose definitions ask for the same extent, or for none, are both final or neither, and have fields
and padding of the same types in order, have the same alignment, extent, aggregate, lengths, header
and tag and as many fields.  From every base their fields have the same offsets, or there are none,
for the same reason.  Their names, versions, port numbers, deprecation and files may differ, the
names of their fields too, and any constants may stand between these. -/
theorem wire_of_fieldTypes {catalog : Catalog} {serial serial' : Nat}
    (hmade : ofStructure serial d = .ok c ∧ ofStructure serial' d' = .ok c' ∨
      ofUnion serial d = .ok c ∧ ofUnion serial' d' = .ok c')
    (hextent : d.extent? = d'.extent?) (hfinal : d.isFinal = d'.isFinal)
    (hoffers : ∀ t ∈ fieldTypes d.attributes, catalog.Offers t)
    (hoffers' : ∀ t ∈ fieldTypes d'.attributes, catalog.Offers t)
    (hsame : List.Forall₂ (fun t t' => t.same t' = true) (fieldTypes d.attributes)
      (fieldTypes d'.attributes)) :
    c.alignment = c'.alignment ∧ c.extent = c'.extent ∧ c.aggregate = c'.aggregate ∧
      c.lengths = c'.lengths ∧ c.header? = c'.header? ∧ c.tag? = c'.tag? ∧
      c.fields.length = c'.fields.length ∧ ∀ base?, c.offsets base? = c'.offsets base? := by
  have htypes := sameOutlines_of_same hoffers hoffers' hsame
  have hwire : c.SameWire c' := by
    rcases hmade with ⟨h, h'⟩ | ⟨h, h'⟩
    · exact (madeFrom_of_build (ofStructure_eq_ok_iff.1 h)).sameWire
        (madeFrom_of_build (ofStructure_eq_ok_iff.1 h')) rfl hextent hfinal htypes
    · exact (madeFrom_of_build (ofUnion_eq_ok_iff.1 h)).sameWire
        (madeFrom_of_build (ofUnion_eq_ok_iff.1 h')) rfl hextent hfinal htypes
  exact ⟨hwire.alignment_eq, hwire.extent_eq, hwire.aggregate_eq, hwire.lengths_eq,
    hwire.header_eq, hwire.tag_eq, hwire.fields.length_eq, hwire.offsets_eq⟩

end Composite

/-- A structure of the same two types in a row, which says all else otherwise. -/
def Declaration.rewrapping (c : Composite) : Declaration :=
  { wrapping c with
    name := "sample.Rewrapping"
    version := ⟨2, 3⟩
    attributes := [.constant "LIMIT" .octet (.ofNat 7), .field "state" .boolean,
      .constant "BASE" .octet (.ofNat 1), .field "content" (.composite c)]
    isDeprecated := true
    portId? := some 7 }

theorem Composite.wire_of_fieldTypes_rewrapping : ∃ inner c c',
    ofStructure 0 .growing = .ok inner ∧ ofStructure 1 (.wrapping inner) = .ok c ∧
    ofStructure 2 (.rewrapping inner) = .ok c' ∧ c.attributes.length = 2 ∧
    c'.attributes.length = 4 ∧ c.lengths = c'.lengths ∧ c.fields.length = c'.fields.length ∧
    ∀ base?, c.offsets base? = c'.offsets base? := by
  have hrun : ((ofStructure 0 .growing).toOption.map fun inner =>
      (ofStructure 1 (.wrapping inner)).toOption.map fun c =>
        (ofStructure 2 (.rewrapping inner)).toOption.map fun c' =>
          (c.attributes.length, c'.attributes.length)) = some (some (some (2, 4))) := by
    decide +kernel
  obtain ⟨inner, hinner, hrun⟩ := toOption_map_eq_some_iff.1 hrun
  obtain ⟨c, hc, hrun⟩ := toOption_map_eq_some_iff.1 hrun
  obtain ⟨c', hc', hrun⟩ := toOption_map_eq_some_iff.1 hrun
  obtain ⟨hlength, hlength'⟩ := Prod.mk.inj hrun
  have hadded : Catalog.empty.addStructure .growing = .ok (inner, Catalog.empty.push inner) :=
    Catalog.addStructure_eq_ok_iff.2 ⟨hinner, rfl⟩
  have hinnerOffered : (Catalog.empty.push inner).Offers (.composite inner) :=
    .struct (d := .growing) (Catalog.offers_flagged Catalog.empty) hadded
  have hrow : fieldTypes (Declaration.rewrapping inner).attributes =
      fieldTypes (Declaration.wrapping inner).attributes := rfl
  have hoffers : ∀ t ∈ fieldTypes (Declaration.wrapping inner).attributes,
      (Catalog.empty.push inner).Offers t := by
    change ∀ t ∈ [DataType.boolean, .composite inner], _
    exact List.forall_mem_cons.2 ⟨.primitive rfl, List.forall_mem_singleton.2 hinnerOffered⟩
  have hsame : List.Forall₂ (fun t t' => t.same t' = true)
      (fieldTypes (Declaration.wrapping inner).attributes)
      (fieldTypes (Declaration.rewrapping inner).attributes) := by
    rw [hrow]
    exact List.forall₂_same.2 fun t _ => t.same_refl
  obtain ⟨-, -, -, hlengths, -, -, hfields, hoffsets⟩ :=
    wire_of_fieldTypes (Or.inl ⟨hc, hc'⟩) rfl rfl hoffers (hrow ▸ hoffers) hsame
  exact ⟨inner, c, c', hinner, hc, hc', hlength, hlength', hlengths, hfields, hoffsets⟩

end WireSchema
