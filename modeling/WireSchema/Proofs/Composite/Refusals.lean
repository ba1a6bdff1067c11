import WireSchema.Proofs.Composite.Rules

/-!
# Proofs/Composite/Refusals — what definitions are refused for

A definition whose attributes have types that can be made is either made itself, or refused for a
mistake in it.  The broken invariants never come up: whatever stops a run is a broken rule, and none
of the rules is about the library itself (`Composite.build_onlyFails`).
-/

namespace WireSchema

/-- **The kinds of error that a definition may be refused with.** -/
def ErrorKind.refusals : List ErrorKind :=
  [.invalidName, .invalidVersion, .attributeNameCollision, .invalidFixedPortId,
    .deprecatedDependency, .invalidExtent, .malformedUnion]

/-- The cause is a mistake in a definition. -/
def Cause.IsRefusal (cause : Cause) : Prop := cause.kind ∈ ErrorKind.refusals

/-- Every broken rule is a mistake in a definition. -/
theorem Rule.errorKind_mem_refusals (r : Rule) : r.errorKind ∈ ErrorKind.refusals := by
  cases r <;> decide

/-- **A definition with well-formed fields** is made or refused; no broken invariant comes up. -/
theorem Composite.build_onlyFails (identity : Identity) (shape : Shape) (bounded : Bool)
    {d : Declaration} (hwf : ∀ t ∈ fieldTypes d.attributes, t.WellFormed)
    (hlen : (fieldTypes d.attributes).length ≤ lengthLimit) :
    OnlyFails Cause.IsRefusal (build identity shape bounded d) := by
  intro cause h
  obtain ⟨r, -, hblames⟩ := (build_checks identity shape bounded hwf hlen).blames cause h
  have hkind : cause.kind = r.errorKind := hblames
  rw [Cause.IsRefusal, hkind]
  exact r.errorKind_mem_refusals

end WireSchema
