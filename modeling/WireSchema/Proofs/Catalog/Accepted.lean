import WireSchema.Proofs.Catalog.Refusals

/-!
# Proofs/Catalog/Accepted — the definitions that are accepted

Structures and unions of attributes whose types can be made are accepted exactly if they keep all
rules, and are refused for the first that they break.
-/

namespace WireSchema

/-- **Definitions are accepted by the rules**, in a fixed order.  A structure or a union of
attributes whose types can be made is made exactly if its declaration keeps all rules of its kind,
and the kind of the error is that of the first rule that it breaks. -/
theorem Declaration.accepted_iff_rules (d : Declaration) (h : Admissible d.attributes)
    (serial : Nat) :
    ((∃ c, Composite.ofStructure serial d = .ok c) ↔
        ∀ r ∈ Rule.inOrder, r.Holds d .struct true) ∧
      (∀ e, Composite.ofStructure serial d = .error e →
        ∃ r, FirstBroken (Rule.Holds d .struct true) Rule.inOrder r ∧ e.kind = r.errorKind) ∧
      ((∃ c, Composite.ofUnion serial d = .ok c) ↔
        ∀ r ∈ Rule.inOrder, r.Holds d .union true) ∧
      (∀ e, Composite.ofUnion serial d = .error e →
        ∃ r, FirstBroken (Rule.Holds d .union true) Rule.inOrder r ∧ e.kind = r.errorKind) := by
  have hchecks : ∀ shape : Shape, Checks (Rule.Holds d shape.kind true)
      (fun r (e : Error) => e.kind = r.errorKind) Rule.inOrder
      ((Composite.build ⟨serial, .whole⟩ shape true d).mapError
        (Composite.located d.sourcePath)) := fun shape =>
    (Composite.build_checks _ shape true h.wellFormed h.length_fieldTypes_le).mapError
      fun _ _ hblames => hblames
  exact ⟨(hchecks .struct).exists_ok_iff, (hchecks .struct).blames, (hchecks .union).exists_ok_iff,
    (hchecks .union).blames⟩

/-- Two variants, and a constant that has the name of the first one and the type of a bit of
padding. -/
def Declaration.clashing : Declaration :=
  { flagged with
    name := "sample.Clashing"
    attributes := [.field "number" .octet, .field "flag" .boolean,
      .constant "number" (.void ⟨1, by decide⟩) (.ofNat 1)] }

theorem Declaration.admissible_clashing : Admissible clashing.attributes := by
  refine ⟨?_, by decide⟩
  simp only [clashing, List.mem_cons, List.not_mem_nil, or_false]
  rintro a (rfl | rfl | rfl) <;> exact .primitive rfl

/-- The structure is accepted and keeps all rules.  The union breaks two rules with its constant,
and the name of the constant is checked before its type. -/
theorem Declaration.accepted_iff_rules_flagged : Admissible flagged.attributes ∧
    (∃ c, Composite.ofStructure 0 .flagged = .ok c) ∧
    (∀ r ∈ Rule.inOrder, r.Holds .flagged .struct true) ∧
    Admissible clashing.attributes ∧ ¬ Rule.variants.Holds .clashing .union true ∧
    (¬ ∃ c, Composite.ofUnion 0 .clashing = .ok c) ∧
    ∃ e, Composite.ofUnion 0 .clashing = .error e ∧ e.kind = .attributeNameCollision ∧
      FirstBroken (Rule.Holds .clashing .union true) Rule.inOrder .distinct := by
  have hadmissible : Admissible flagged.attributes := ⟨buildable_flagged, by decide⟩
  obtain ⟨c, hc, -⟩ := Composite.exists_flagged
  obtain ⟨hiff, -, -, -⟩ := Declaration.accepted_iff_rules .flagged hadmissible 0
  obtain ⟨-, -, hiff', hblames⟩ :=
    Declaration.accepted_iff_rules .clashing admissible_clashing 0
  have hvariants : ¬ Rule.variants.Holds clashing .union true := fun h => by
    obtain ⟨-, hfillers⟩ := h rfl
    obtain ⟨-, hvoid⟩ := hfillers (.constant "number" (.void ⟨1, by decide⟩) (.ofNat 1))
      (.tail _ (.tail _ (.head _)))
    exact absurd hvoid (by decide)
  have hrefused : ¬ ∃ c, Composite.ofUnion 0 .clashing = .ok c := fun hmade =>
    hvariants (hiff'.1 hmade .variants (by decide))
  have hrun : (Composite.ofUnion 0 .clashing).map (·.name) =
      .error ⟨.repeatedAttribute "number", none, none⟩ := by decide +kernel
  refine ⟨hadmissible, ⟨c, hc⟩, hiff.1 ⟨c, hc⟩, admissible_clashing, hvariants, hrefused, ?_⟩
  cases herror : Composite.ofUnion 0 .clashing with
  | ok c' => exact absurd ⟨c', herror⟩ hrefused
  | error e =>
    rw [herror] at hrun
    obtain rfl := Except.error.inj hrun
    obtain ⟨r, hfirst, hkind⟩ := hblames _ herror
    -- the kind of the error is that of one rule only
    have hr : r = .distinct := by
      revert hkind
      cases r <;> decide
    exact ⟨_, rfl, rfl, hr ▸ hfirst⟩

end WireSchema
