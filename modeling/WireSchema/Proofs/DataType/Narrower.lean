import WireSchema.Proofs.Composite.Aggregates
import WireSchema.Proofs.DataType.Buildable
import WireSchema.Proofs.LengthSet.Subsets

/-!
# Proofs/DataType/Narrower — types with fewer lengths in the place of others

A type **narrows** another if it is aligned alike and has no length that the other does not have.
What is laid out keeps the order: aggregates and arrays of narrower types have no lengths beyond
those of the others, and are not refused where these are not.

For structures this is the order of sets step by step.  The tag of a union does not see the lengths
of its variants at all.  And for arrays, which are refused by limits that no order of sets obeys in
general, it is `LengthSet.within_replicate?`.  No type has to be well-formed for any of this.
-/

namespace WireSchema

open LengthSet (Within)

namespace DataType

/-- **Fewer lengths in the same place**: the alignment is the same, and no length is new. -/
structure Narrows (t u : DataType) : Prop where
  alignment_eq : t.alignment = u.alignment
  lengths_subset : t.lengths.toSet ⊆ u.lengths.toSet

theorem Narrows.refl (t : DataType) : t.Narrows t := ⟨rfl, subset_rfl⟩

theorem map_alignment_of_narrows {ts us : List DataType} (h : List.Forall₂ Narrows ts us) :
    ts.map (·.alignment) = us.map (·.alignment) := by
  induction h with
  | nil => rfl
  | cons htu _ ih => exact congrArg₂ List.cons htu.alignment_eq ih

end DataType

namespace Composite

variable {t u : DataType} {ts us : List DataType} {before before' : LengthSet}

/-! ## Structures -/

theorem within_append? (h : t.Narrows u) (hbefore : before.toSet ⊆ before'.toSet) :
    Within (append? before t) (append? before' u) := by
  rw [append?, append?, h.alignment_eq]
  exact (LengthSet.within_padTo? hbefore u.alignment).bind fun _ _ hpadded =>
    LengthSet.within_add? hpadded h.lengths_subset

/-- **A row of narrower fields** behind fewer lengths is within the other row. -/
theorem within_foldlM_append? (h : List.Forall₂ DataType.Narrows ts us) :
    ∀ {before before' : LengthSet}, before.toSet ⊆ before'.toSet →
      Within (ts.foldlM append? before) (us.foldlM append? before') := by
  induction h with
  | nil => exact fun hbefore => LengthSet.within_some hbefore
  | cons htu _ ih =>
    intro before before' hbefore
    rw [List.foldlM_cons, List.foldlM_cons]
    exact (within_append? htu hbefore).bind fun _ _ hnext => ih hnext

/-! ## Unions -/

theorem unionAll_subset_of_narrows (h : List.Forall₂ DataType.Narrows ts us) :
    (LengthSet.unionAll (ts.map (·.lengths))).toSet ⊆
      (LengthSet.unionAll (us.map (·.lengths))).toSet := by
  refine LengthSet.unionAll_subset ?_
  rw [List.forall₂_map_left_iff, List.forall₂_map_right_iff]
  exact h.imp fun _ _ htu => htu.lengths_subset

/-- **A union of narrower variants** has the same tag in front of fewer lengths. -/
theorem unionAggregate_of_narrows (h : List.Forall₂ DataType.Narrows ts us) {r : LengthSet}
    (hr : unionAggregate us = .ok r) :
    ∃ q, unionAggregate ts = .ok q ∧ q.toSet ⊆ r.toSet := by
  have hsub := unionAll_subset_of_narrows h
  have htag := tagBits_congr (DataType.map_alignment_of_narrows h)
  cases h with
  | nil => exact ⟨r, hr, subset_rfl⟩
  | @cons t u _ _ htu hrest =>
    cases hrest with
    | nil =>
      obtain rfl := Except.ok.inj hr
      exact ⟨t.lengths, rfl, htu.lengths_subset⟩
    | cons =>
      have htwo : ∀ {t t' : DataType} {rest : List DataType},
          minVariants ≤ (t :: t' :: rest).length := Nat.le_add_left _ _
      obtain ⟨bits, hbits, hshift⟩ := (unionAggregate_eq_ok_iff htwo).1 hr
      obtain ⟨q, hq, hqr⟩ := LengthSet.within_shift? hsub bits r hshift
      exact ⟨q, (unionAggregate_eq_ok_iff htwo).2 ⟨bits, htag.trans hbits, hq⟩, hqr⟩

end Composite

namespace DataType

variable {t u a : DataType} {capacity : Nat}

/-! ## Arrays -/

/-- **An array of narrower elements** is narrower than that of as many others. -/
theorem Narrows.ofFixedArray (h : t.Narrows u) (ha : ofFixedArray u capacity = .ok a) :
    ∃ b, ofFixedArray t capacity = .ok b ∧ b.Narrows a := by
  obtain ⟨hcapacity, r, hr, rfl⟩ := ofFixedArray_eq_ok_iff.1 ha
  obtain ⟨q, hq, hqr⟩ := LengthSet.within_replicate? h.lengths_subset capacity r hr
  exact ⟨_, ofFixedArray_eq_ok_iff.2 ⟨hcapacity, q, hq, rfl⟩, h.alignment_eq, hqr⟩

/-- **An array of at most so many narrower elements** has the same field in front. -/
theorem Narrows.ofVariableArray (h : t.Narrows u) (ha : ofVariableArray u capacity = .ok a) :
    ∃ b, ofVariableArray t capacity = .ok b ∧ b.Narrows a := by
  obtain ⟨hcapacity, field, run, r, hfield, hrun, hshift, rfl⟩ := ofVariableArray_eq_ok_iff.1 ha
  obtain ⟨row, hrow, hsub⟩ := LengthSet.within_replicateUpTo? h.lengths_subset capacity run hrun
  obtain ⟨q, hq, hqr⟩ := LengthSet.within_shift? hsub field.bits r hshift
  rw [← h.alignment_eq] at hfield
  exact ⟨_, ofVariableArray_eq_ok_iff.2 ⟨hcapacity, field, row, q, hfield, hrow, hq, rfl⟩,
    h.alignment_eq, hqr⟩

/-! ## All layouts -/

/-- **Narrower parts make narrower wholes.**  Where the aggregate of a structure or a union is not
refused, that of as many narrower types, one by one, is not, and has no lengths beyond.  Where an
array is not refused, the array of narrower elements of the same capacity is not, and is narrower
itself; so arrays of arrays are, too. -/
theorem narrows_in_layouts :
    (∀ ts us : List DataType, List.Forall₂ Narrows ts us →
      (∀ r, Composite.structAggregate us = .ok r →
        ∃ q, Composite.structAggregate ts = .ok q ∧ q.toSet ⊆ r.toSet) ∧
      ∀ r, Composite.unionAggregate us = .ok r →
        ∃ q, Composite.unionAggregate ts = .ok q ∧ q.toSet ⊆ r.toSet) ∧
    ∀ (t u : DataType) (capacity : Nat), t.Narrows u →
      (∀ a, ofFixedArray u capacity = .ok a →
        ∃ b, ofFixedArray t capacity = .ok b ∧ b.Narrows a) ∧
      ∀ a, ofVariableArray u capacity = .ok a →
        ∃ b, ofVariableArray t capacity = .ok b ∧ b.Narrows a := by
  refine ⟨fun ts us h => ⟨fun r hr => ?_, fun r hr => Composite.unionAggregate_of_narrows h hr⟩,
    fun t u capacity h => ⟨fun a ha => h.ofFixedArray ha, fun a ha => h.ofVariableArray ha⟩⟩
  simp only [Composite.structAggregate, require_eq_ok_iff] at hr ⊢
  exact Composite.within_foldlM_append? h subset_rfl r hr

/-- An octet is one of up to two octets behind their count, as far as lengths go. -/
theorem octet_narrows_octets : octet.Narrows octets where
  alignment_eq := rfl
  lengths_subset := by
    rintro x hx
    obtain rfl := List.mem_singleton.1 hx
    exact List.mem_cons_self

theorem narrows_in_layouts_octets : List.Forall₂ Narrows [octet, .boolean] [octets, .boolean] ∧
    ∃ r q r' q' a b a' b', Composite.structAggregate [octets, .boolean] = .ok r ∧
      r.toList = [9, 17, 25] ∧ Composite.structAggregate [octet, .boolean] = .ok q ∧
      q.toSet ⊆ r.toSet ∧ Composite.unionAggregate [octets, .boolean] = .ok r' ∧
      r'.toList = [9, 16, 24, 32] ∧ Composite.unionAggregate [octet, .boolean] = .ok q' ∧
      q'.toSet ⊆ r'.toSet ∧ ofFixedArray octets 2 = .ok a ∧ ofFixedArray octet 2 = .ok b ∧
      b.Narrows a ∧ ofVariableArray octets 2 = .ok a' ∧ ofVariableArray octet 2 = .ok b' ∧
      b'.Narrows a' := by
  obtain ⟨hlayouts, harrays⟩ := narrows_in_layouts
  have hnarrower : List.Forall₂ Narrows [octet, .boolean] [octets, .boolean] :=
    .cons octet_narrows_octets (.cons (.refl .boolean) .nil)
  obtain ⟨hstruct, hunion⟩ := hlayouts _ _ hnarrower
  obtain ⟨hfixed, hvariable⟩ := harrays octet octets 2 octet_narrows_octets
  have hrun : (Composite.structAggregate [octets, .boolean]).toOption.map (·.toList) =
      some [9, 17, 25] := by
    decide +kernel
  have hrun' : (Composite.unionAggregate [octets, .boolean]).toOption.map (·.toList) =
      some [9, 16, 24, 32] := by
    decide +kernel
  have hrow : (ofFixedArray octets 2).toOption.map (·.lengths.toList) =
      some [16, 24, 32, 40, 48] := by
    decide +kernel
  have hrow' : (ofVariableArray octets 2).toOption.map (·.lengths.toList) =
      some [8, 16, 24, 32, 40, 48, 56] := by
    decide +kernel
  obtain ⟨r, hr, hlist⟩ := toOption_map_eq_some_iff.1 hrun
  obtain ⟨r', hr', hlist'⟩ := toOption_map_eq_some_iff.1 hrun'
  obtain ⟨a, ha, -⟩ := toOption_map_eq_some_iff.1 hrow
  obtain ⟨a', ha', -⟩ := toOption_map_eq_some_iff.1 hrow'
  obtain ⟨q, hq, hqr⟩ := hstruct r hr
  obtain ⟨q', hq', hqr'⟩ := hunion r' hr'
  obtain ⟨b, hb, hba⟩ := hfixed a ha
  obtain ⟨b', hb', hba'⟩ := hvariable a' ha'
  exact ⟨hnarrower, r, q, r', q', a, b, a', b', hr, hlist, hq, hqr, hr', hlist', hq', hqr', ha, hb,
    hba, ha', hb', hba'⟩

end DataType
end WireSchema
