import WireSchema.Proofs.Composite.Kinds
import WireSchema.Proofs.Name.Grammar

/-!
# Proofs/Composite/Named — definitions refused for their names

A definition is refused for its name exactly if the name, without the white space around it, may not
be used (`Composite.exists_invalidName_iff`): the name is looked at first, and nothing behind it is
about names.  With the grammar of names this says which definitions those are, down to the characters
(`Composite.names_by_grammar`).
-/

namespace WireSchema
namespace Composite

variable {shape : Shape} {bounded : Bool} {d : Declaration} {cause : Cause}

/-- A name with a defect is the first thing that a run stops at. -/
theorem exists_headingDefect?_of_not_isFull (h : ¬ Name.IsFull bounded (Text.trim d.name)) :
    ∃ defect, d.headingDefect? (Text.trim d.name) shape.kind bounded = some (.name defect) := by
  obtain ⟨defect, hdefect⟩ := Option.ne_none_iff_exists'.1 (mt Name.defect?_eq_none_iff.1 h)
  refine ⟨defect, ?_⟩
  rw [Declaration.headingDefect?, hdefect]
  rfl

/-- Of the checks of a heading only the first is about the name. -/
theorem not_isFull_of_headingDefect?
    (h : d.headingDefect? (Text.trim d.name) shape.kind bounded = some cause)
    (hkind : cause.kind = .invalidName) : ¬ Name.IsFull bounded (Text.trim d.name) := by
  obtain ⟨r, hfirst, hblames⟩ :=
    (d.heading_checks shape.kind bounded).blames cause (refuse_eq_error_iff.2 h)
  have hname : r.errorKind = .invalidName := hblames.symm.trans hkind
  obtain rfl : r = .name := by
    cases r with
    | name => rfl
    | _ => exact absurd hname nofun
  exact hfirst.not_holds

/-- **A definition is refused for its name** exactly if that may not be used. -/
theorem exists_invalidName_iff (identity : Identity) (shape : Shape) :
    (∃ cause, build identity shape bounded d = .error cause ∧ cause.kind = .invalidName) ↔
      ¬ Name.IsFull bounded (Text.trim d.name) := by
  constructor
  · rintro ⟨cause, h, hkind⟩
    have hstops := build_eq_error_iff.1 h
    cases hheading : d.headingDefect? (Text.trim d.name) shape.kind bounded with
    | none =>
      -- behind the heading there are causes of three kinds, and this is none of them
      have hother := hstops.isOfSize_or hheading
      rw [Cause.IsOfSize, hkind] at hother
      rcases hother with (hkind' | hkind') | ⟨-, hvariants⟩
      · exact absurd hkind' nofun
      · exact absurd hkind' nofun
      · exact absurd (hkind.symm.trans (kind_of_variantDefect? hvariants)) nofun
    | some defect =>
      have hrun : build identity shape bounded d = .error defect :=
        build_eq_error_iff.2 (.heading hheading)
      obtain rfl := Except.error.inj (hrun.symm.trans h)
      exact not_isFull_of_headingDefect? hheading hkind
  · intro h
    obtain ⟨defect, hheading⟩ := exists_headingDefect?_of_not_isFull h
    exact ⟨.name defect, build_eq_error_iff.2 (.heading hheading), rfl⟩

/-- The same for the errors that a definition is refused with. -/
theorem exists_located_invalidName_iff (identity : Identity) (shape : Shape) (path : String) :
    (∃ e, (build identity shape true d).mapError (located path) = .error e ∧
        e.kind = .invalidName) ↔
      ¬ Name.IsRow (Text.trim d.name) ∨ 50 < (Text.trim d.name).length := by
  have hfull : ¬ Name.IsFull true (Text.trim d.name) ↔
      ¬ Name.IsRow (Text.trim d.name) ∨ 50 < (Text.trim d.name).length := by
    rw [Name.isFull_iff_isRow, not_and_or, forall_prop_of_true rfl, Nat.not_le]
    rfl
  rw [← hfull, ← exists_invalidName_iff identity shape]
  constructor
  · rintro ⟨e, he, hkind⟩
    obtain ⟨cause, hcause, rfl⟩ := mapError_eq_error_iff.1 he
    exact ⟨cause, hcause, hkind⟩
  · rintro ⟨cause, hcause, hkind⟩
    exact ⟨located path cause, mapError_eq_error_iff.2 ⟨cause, hcause, rfl⟩, hkind⟩

/-- **Names are accepted exactly by the grammar.**  A component has no defect if and only if the
grammar allows it, and a structure or a union is refused for its name if and only if that name,
without the white space around it, is no row of allowed words or has more than fifty characters. -/
theorem names_by_grammar :
    (∀ word, Name.componentDefect? word = none ↔ Name.IsAllowed word) ∧
      ∀ (serial : Nat) (d : Declaration),
        ((∃ e, ofStructure serial d = .error e ∧ e.kind = .invalidName) ↔
          ¬ Name.IsRow (Text.trim d.name) ∨ 50 < (Text.trim d.name).length) ∧
        ((∃ e, ofUnion serial d = .error e ∧ e.kind = .invalidName) ↔
          ¬ Name.IsRow (Text.trim d.name) ∨ 50 < (Text.trim d.name).length) := by
  refine ⟨fun word => ?_, fun serial d => ⟨?_, ?_⟩⟩
  · rw [Name.componentDefect?_eq_none_iff, Name.isComponent_iff_isAllowed]
  · exact exists_located_invalidName_iff _ _ d.sourcePath
  · exact exists_located_invalidName_iff _ _ d.sourcePath

end Composite
end WireSchema
