import WireSchema.Proofs.Composite.Nested

/-!
# Proofs/Composite/Variants — where the variants of a union start

A union has one tag, and its width is asked for three times: for the aggregate, which is all lengths
of all variants together, shifted by it; for the offsets, which are the start positions, shifted by
it; and for the field that holds the tag.  It is the same number (`MadeFrom.exists_tag_aggregate`).

So the two shifts agree, although one is made of a union of sets and the other before the sets of
the variants are united.  From every base from which a union has offsets, the variants end together
where the aggregate does (`Buildable.starts_in_union`).
-/

open scoped Pointwise

namespace WireSchema
namespace Composite

variable {c : Composite} {start offsets : LengthSet} {bounded : Bool} {d : Declaration}

/-- **The tag of a union and its aggregate**: the lengths of all variants behind the tag. -/
theorem MadeFrom.exists_tag_aggregate (h : MadeFrom .union bounded d c) :
    ∃ tag, c.layout = .union tag ∧ tagBits (fieldTypes c.attributes) = .ok tag.bits ∧
      (LengthSet.unionAll ((fieldTypes c.attributes).map (·.lengths))).shift? tag.bits =
        some c.aggregate := by
  obtain ⟨tag, hlayout, htag⟩ := h.exists_tag
  obtain ⟨bits, hbits, hshift⟩ := (unionAggregate_eq_ok_iff h.two_le_variants).1 h.aggregate_eq
  obtain rfl := Except.ok.inj (hbits.symm.trans htag)
  exact ⟨tag, hlayout, htag, hshift⟩

/-- **Where each of the fields ends** behind the same offsets, as far as all of it fits, and where
any one of them does. -/
theorem exists_stops : ∀ {fields : List Attribute},
    (∀ a ∈ fields, ∀ o ∈ offsets, ∀ x ∈ a.type.lengths, o + x < lengthLimit) →
    ∃ stops, List.Forall₂ (fun a stop => offsets.add a.type.lengths = .ok stop) fields stops ∧
      ∀ z, z ∈ LengthSet.unionAll stops ↔
        ∃ p ∈ fields.map fun a => (⟨a, offsets⟩ : Placement), z ∈ p.ends
  | [], _ => ⟨[], .nil, fun z => by simp⟩
  | a :: rest, h => by
      obtain ⟨ha, hrest⟩ := List.forall_mem_cons.1 h
      obtain ⟨stop, hstop, hmem⟩ := LengthSet.exists_add ha
      obtain ⟨stops, hstops, hall⟩ := exists_stops hrest
      refine ⟨stop :: stops, .cons hstop hstops, fun z => ?_⟩
      have hends : z ∈ (⟨a, offsets⟩ : Placement).ends ↔ z ∈ stop := (hmem z).symm
      simp only [LengthSet.mem_unionAll] at hall
      simp only [LengthSet.mem_unionAll, List.map_cons, List.mem_cons, exists_eq_or_imp, hends,
        hall]

end Composite

/-- **The offsets in a union agree with its aggregate**, from every base from which it has offsets
at all.  Exactly the variants are placed, in order, and all at the same offsets: the start positions
(the base, padded), shifted by the width of the tag.  Where any one of them may end behind these, is
the start positions plus the aggregate, which without a base is the aggregate itself.  The width of
the tag is the one that the aggregate is shifted by, too. -/
theorem DataType.Buildable.starts_in_union {c : Composite} (h : (DataType.composite c).Buildable)
    (hkind : c.kind = .union) {base? : Option LengthSet} {start : LengthSet}
    (hstart : c.startPositions base? = .ok start) :
    (Composite.basePositions base?).padTo? c.alignment = some start ∧
    ∃ tag offsets aggregate stops,
      c.tag? = some tag ∧ Composite.tagBits (fieldTypes c.attributes) = .ok tag.bits ∧
      start.shift tag.bits = .ok offsets ∧
      c.placements base? = .ok (c.fields.map fun a => ⟨a, offsets⟩) ∧
      c.serializedAggregate = .ok aggregate ∧
      (LengthSet.unionAll ((fieldTypes c.attributes).map (·.lengths))).shift? tag.bits =
        some aggregate ∧
      List.Forall₂ (fun a stop => offsets.add a.type.lengths = .ok stop) c.fields stops ∧
      start.add aggregate = .ok (LengthSet.unionAll stops) ∧
      (base? = none → LengthSet.unionAll stops = aggregate) := by
  have hserialized : c.kind ≠ .service := by
    rw [hkind]
    nofun
  obtain ⟨shape, bounded, d, hmade, hwf⟩ := h.exists_madeFrom
  obtain rfl : shape = .union := by
    have hshape := hmade.kind_eq.symm.trans hkind
    cases shape with
    | union => rfl
    | struct | service => exact absurd hshape nofun
  obtain ⟨tag, hlayout, htag, haggregate⟩ := hmade.exists_tag_aggregate
  obtain ⟨placed, hplaced, -⟩ := hmade.exists_placements hserialized hwf hstart
  have hends := hmade.fieldEnds_eq hserialized hwf hstart hplaced
  have hfits := hmade.lt_of_mem_ends hserialized hwf hstart hplaced
  obtain ⟨offsets, hoffsets, rfl⟩ :=
    Composite.exists_of_placements_union hlayout hstart hplaced
  obtain ⟨stops, hstops, hmem⟩ := Composite.exists_stops fun a ha o ho x hx =>
    hfits ⟨a, offsets⟩ (List.mem_map_of_mem ha) (o + x) ⟨o, ho, x, hx, rfl⟩
  rw [Composite.fieldEnds, hlayout] at hends
  have hset : (LengthSet.unionAll stops).toSet = start.toSet + c.aggregate.toSet :=
    (Set.ext hmem).trans hends
  refine ⟨((Composite.startPositions_eq_ok_iff hserialized).1 hstart).1, tag, offsets, c.aggregate,
    stops, ?_, htag, LengthSet.shift_eq_ok_iff.2 hoffsets, hplaced,
    Composite.serializedAggregate_eq hserialized, haggregate, hstops,
    LengthSet.add_eq_ok_iff.2 hset, ?_⟩
  · rw [Composite.tag?, hlayout]
  · rintro rfl
    rw [Composite.toSet_startPositions_none hserialized hstart] at hset
    exact LengthSet.toSet_inj.1 (hset.trans (zero_add c.aggregate.toSet))

theorem DataType.Buildable.starts_in_union_flagged : ∃ c start tag offsets stops,
    Composite.ofUnion 0 .flagged = .ok c ∧ c.kind = .union ∧
    c.startPositions (some ⟨[0, 4, 8], by decide, by decide⟩) = .ok start ∧
    start.toList = [0, 8] ∧ c.tag? = some tag ∧ start.shift tag.bits = .ok offsets ∧
    c.placements (some ⟨[0, 4, 8], by decide, by decide⟩) =
      .ok (c.fields.map fun a => ⟨a, offsets⟩) ∧
    List.Forall₂ (fun a stop => offsets.add a.type.lengths = .ok stop) c.fields stops ∧
    start.add c.aggregate = .ok (LengthSet.unionAll stops) := by
  have hrun : ((Composite.ofUnion 0 .flagged).toOption.map fun c => (decide (c.kind = .union),
      (c.startPositions (some ⟨[0, 4, 8], by decide, by decide⟩)).toOption.map (·.toList))) =
        some (true, some [0, 8]) := by
    decide +kernel
  obtain ⟨c, hc, hrun⟩ := toOption_map_eq_some_iff.1 hrun
  obtain ⟨hkind, hstart⟩ := Prod.mk.inj hrun
  obtain ⟨start, hstart, hlist⟩ := toOption_map_eq_some_iff.1 hstart
  have hkind := of_decide_eq_true hkind
  obtain ⟨-, tag, offsets, aggregate, stops, htag, -, hoffsets, hplaced, haggregate, -, hstops,
    hsum, -⟩ := Buildable.starts_in_union (.union Declaration.buildable_flagged hc) hkind hstart
  have hserialized : c.kind ≠ .service := by
    rw [hkind]
    nofun
  obtain rfl :=
    Except.ok.inj (haggregate.symm.trans (Composite.serializedAggregate_eq hserialized))
  exact ⟨c, start, tag, offsets, stops, hc, hkind, hstart, hlist, htag, hoffsets, hplaced, hstops,
    hsum⟩

end WireSchema
