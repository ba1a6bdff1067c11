import WireSchema.Proofs.DataType.Buildable
import WireSchema.Proofs.Name.Child

/-!
# Proofs/Composite/Remade — composites that are made again

A definition may say otherwise what it is called, in which file it stands, and what was derived from
it: the composite is the same but for that (`Composite.build_remade`).  The name has to be one that
may be used.  The extent that was derived passes for one that was asked for, because it was checked
like one (`Extent.resolve_some_bits`).

So a composite can be written down as a definition, with its own extent, and what is made of that
definition is the composite again (`Composite.remade_of_written`).
-/

namespace WireSchema
namespace Composite

variable {identity : Identity} {shape : Shape} {bounded bounded' : Bool} {d : Declaration}
  {c : Composite}

/-! ## Under another name -/

/-- The name of a heading without a defect may be used. -/
theorem isFull_of_headingDefect? {name : String} {kind : Kind}
    (h : d.headingDefect? name kind bounded = none) : Name.IsFull bounded name := by
  rw [Declaration.headingDefect?, Option.orElse_eq_orElse, Option.orElse_eq_or,
    Option.or_eq_none_iff] at h
  exact Name.defect?_eq_none_iff.1 (Option.map_eq_none_iff.1 h.1)

/-- **No other check of a heading looks at the name.** -/
theorem headingDefect?_renamed {name name' : String} {kind : Kind}
    (h : d.headingDefect? name kind bounded = none) (hname : Name.IsFull bounded' name') :
    d.headingDefect? name' kind bounded' = none := by
  rw [Declaration.headingDefect?, Option.orElse_eq_orElse, Option.orElse_eq_or,
    Option.or_eq_none_iff] at h ⊢
  exact ⟨Option.map_eq_none_iff.2 (Name.defect?_eq_none_iff.2 hname), h.2⟩

/-- **A composite made again** under another name, in another file, and with its extent asked for:
it is the same but for the name, the file, and which object it is. -/
theorem build_remade {name : String} {extent? : Option Nat}
    (h : build identity shape bounded d = .ok c) (hname : Name.IsFull bounded' (Text.trim name))
    (hextent : extent? = d.extent? ∨ extent? = some c.extent) (identity' : Identity)
    (path : String) :
    build identity' shape bounded' { d with name, extent?, sourcePath := path } =
      .ok { c with identity := identity', name := Text.trim name, sourcePath := path } := by
  obtain ⟨f, layout, hheading, hf, hlayout, hconsistent, rfl⟩ := build_eq_ok_iff.1 h
  have hfootprint : Footprint.ofAttributes (Text.trim name) shape.kind d.attributes extent?
      d.isFinal = .ok f := by
    obtain ⟨halign, haggregate, ⟨longest, hlongest, hresolve⟩, hrest⟩ := ofAttributes_eq_ok_iff.1 hf
    refine ofAttributes_eq_ok_iff.2 ⟨halign, haggregate, ⟨longest, hlongest, ?_⟩, hrest⟩
    rcases hextent with rfl | rfl
    · exact hresolve
    · exact Extent.resolve_some_bits hresolve
  exact build_eq_ok_iff.2 ⟨f, layout, headingDefect?_renamed hheading hname, hfootprint, hlayout,
    hconsistent, rfl⟩

/-! ## Written down -/

/-- **A composite written down** as a definition, with all that can be seen of it. -/
def written (c : Composite) : Declaration where
  name := c.name
  version := c.version
  attributes := c.attributes
  extent? := some c.extent
  isFinal := c.isFinal
  isDeprecated := c.isDeprecated
  portId? := c.portId?
  sourcePath := c.sourcePath

/-- What is written down says what the definition said, but that the name is trimmed and the extent
is there. -/
theorem MadeFrom.written_eq (h : MadeFrom shape bounded d c) :
    c.written = { d with name := Text.trim d.name, extent? := some c.extent } := by
  rw [written, h.name_eq, h.version_eq, h.attributes_eq, h.isFinal_eq, h.isDeprecated_eq,
    h.portId_eq, h.sourcePath_eq]

/-- **What is written down is made again**, as the same composite but another object. -/
theorem build_written (h : build identity shape bounded d = .ok c) (identity' : Identity) :
    build identity' shape bounded c.written = .ok { c with identity := identity' } := by
  have hmade := madeFrom_of_build h
  have hname : Name.IsFull bounded (Text.trim (Text.trim d.name)) := by
    rw [Text.trim_trim, ← hmade.name_eq]
    exact isFull_of_headingDefect? hmade.heading
  have hself : { c with
      identity := identity', name := Text.trim (Text.trim d.name), sourcePath := d.sourcePath } =
      { c with identity := identity' } := by
    rw [Text.trim_trim, ← hmade.name_eq, ← hmade.sourcePath_eq]
  rw [hmade.written_eq, ← hself]
  exact build_remade h hname (Or.inr rfl) identity' d.sourcePath

/-- **To say what was derived changes nothing.**  Of a structure that was made, the definition with
its own name, version, attributes, extent, finality, deprecation, port number and file is accepted,
and makes a structure with the same name, version, attributes, flags, port number, file, alignment,
extent, aggregate, lengths, header and tag: all but which object it is.  So it is of a union. -/
theorem remade_of_written (serial serial' : Nat) (d : Declaration) (c : Composite) :
    (ofStructure serial d = .ok c →
      ofStructure serial' c.written = .ok { c with identity := ⟨serial', .whole⟩ }) ∧
    (ofUnion serial d = .ok c →
      ofUnion serial' c.written = .ok { c with identity := ⟨serial', .whole⟩ }) := by
  simp only [ofStructure_eq_ok_iff, ofUnion_eq_ok_iff]
  exact ⟨fun h => build_written h _, fun h => build_written h _⟩

end Composite

/-- A definition with white space around its name, that leaves its extent to be derived. -/
def Declaration.spaced : Declaration :=
  { flagged with name := " sample.Spaced\n", isFinal := false }

theorem Composite.remade_of_written_spaced : ∃ c u,
    ofStructure 0 .spaced = .ok c ∧ (c.name, c.extent) = ("sample.Spaced", 56) ∧
    ofStructure 2 c.written = .ok { c with identity := ⟨2, .whole⟩ } ∧
    ofUnion 1 .spaced = .ok u ∧ u.extent = 64 ∧
    ofUnion 3 u.written = .ok { u with identity := ⟨3, .whole⟩ } := by
  obtain ⟨c, hc, hkept⟩ : ∃ c, ofStructure 0 .spaced = .ok c ∧
      (c.name, c.extent) = ("sample.Spaced", 56) := toOption_map_eq_some_iff.1 (by decide +kernel)
  obtain ⟨u, hu, hextent⟩ : ∃ u, ofUnion 1 .spaced = .ok u ∧ u.extent = 64 :=
    toOption_map_eq_some_iff.1 (by decide +kernel)
  exact ⟨c, u, hc, hkept, (remade_of_written 0 2 .spaced c).1 hc, hu, hextent,
    (remade_of_written 1 3 .spaced u).2 hu⟩

end WireSchema
