import WireSchema.Proofs.DataType.Arrays

/-!
# Proofs/Composite/Extremes — the shortest and the longest aggregate

Every length of a row comes from a choice of one length for each field, and a longer choice never
ends earlier: rounding up and adding are monotone.  So the row of the shortest values ends first
(`isLeast_endsInRow`), and the row of the longest ends last, which decides whether there is an
aggregate at all (`foldlM_append?_reaches`).  Behind the tag of a union it is the shortest and the
longest of all variants.

Both are put as `Spans`: a run that is refused for its longest result, as too long, and whose
result has the two ends otherwise.
-/

namespace WireSchema

namespace Composite

open LengthSet (Reaches)

variable {types : List DataType} {r? : Option LengthSet} {low top : Nat}

/-- The shortest row that ends with a value of the type, behind a row of `bits`. -/
def shortestBehind (bits : Nat) (t : DataType) : Nat := roundUp bits t.alignment + t.shortest

/-- **A run with the two ends**: it is refused exactly if the upper one is not a length, and as too
long; if it is not refused, these are its smallest and its largest result. -/
structure Spans (x : Except Cause LengthSet) (low top : Nat) : Prop where
  refused_iff : ∀ cause, x = .error cause ↔ cause = .lengthOverflow ∧ lengthLimit ≤ top
  min?_eq : ∀ r, x = .ok r → r.min? = some low
  max?_eq : ∀ r, x = .ok r → r.max? = some top

theorem spans_require (hreach : Reaches r? top) (hlow : ∀ r, r? = some r → r.min? = some low) :
    Spans (require .lengthOverflow r?) low top where
  refused_iff cause := by
    rw [require_eq_error_iff, and_comm, eq_comm]
    exact and_congr_right fun _ => ⟨hreach.le_of_eq_none, hreach.eq_none_of_le⟩
  min?_eq r hr := hlow r (require_eq_ok_iff.1 hr)
  max?_eq _ hr := hreach.max?_eq (require_eq_ok_iff.1 hr)

/-- A run whose upper end is a length has a result. -/
theorem Spans.exists_ok {x : Except Cause LengthSet} (h : Spans x low top)
    (htop : top < lengthLimit) : ∃ r, x = .ok r := by
  cases hx : x with
  | ok r => exact ⟨r, rfl⟩
  | error cause => exact absurd ((h.refused_iff cause).1 hx).2 (Nat.not_le.2 htop)

/-! ## Structures -/

/-- **A row that starts later** does not end earlier. -/
theorem foldl_shortestBehind_mono : ∀ (types : List DataType) {bits n : Nat}, bits ≤ n →
    types.foldl shortestBehind bits ≤ types.foldl shortestBehind n
  | [], _, _, h => h
  | t :: rest, _, _, h =>
      foldl_shortestBehind_mono rest
        (Nat.add_le_add_right (roundUp_le_roundUp t.alignment h) t.shortest)

/-- **The row of the shortest values ends first.** -/
theorem isLeast_endsInRow : ∀ {types : List DataType} (start : Nat),
    (∀ t ∈ types, t.WellFormed) →
    IsLeast (Slot.endsInRow (types.map DataType.slot) start) (types.foldl shortestBehind start)
  | [], _, _ => isLeast_singleton
  | t :: rest, start, hwf => by
      obtain ⟨ht, hrest⟩ := List.forall_mem_cons.1 hwf
      have hshortest := ht.min?_lengths
      constructor
      · exact ⟨t.shortest, LengthSet.mem_of_min? hshortest, (isLeast_endsInRow _ hrest).1⟩
      · rintro stop ⟨x, hx, hstop⟩
        -- the rest starts no earlier behind `x` than behind the shortest value
        have hle : t.shortest ≤ x := LengthSet.le_of_min? hshortest hx
        exact (foldl_shortestBehind_mono rest (Nat.add_le_add_left hle _)).trans
          ((isLeast_endsInRow _ hrest).2 hstop)

theorem structAggregate_spans (hwf : ∀ t ∈ types, t.WellFormed) :
    Spans (structAggregate types) (types.foldl shortestBehind 0) (types.foldl longestBehind 0) := by
  refine spans_require (foldlM_append?_reaches hwf rfl) fun r hr => ?_
  have hends : r.toSet = Slot.endsInRow (types.map DataType.slot) 0 :=
    Set.ext fun _ => mem_of_structAggregate (require_eq_ok_iff.2 hr)
  rw [LengthSet.min?_eq_some_iff, hends]
  exact isLeast_endsInRow 0 hwf

/-! ## Unions -/

/-- **A union ends between its shortest and its longest variant**, each behind the tag. -/
theorem exists_unionAggregate_spans (hwf : ∀ t ∈ types, t.WellFormed)
    (htwo : minVariants ≤ types.length) (hlimit : types.length ≤ lengthLimit) :
    ∃ bits shortest longest, tagBits types = .ok bits ∧
      IsLeast (variantLengths types) shortest ∧ IsGreatest (variantLengths types) longest ∧
      Spans (unionAggregate types) (bits + shortest) (bits + longest) := by
  obtain ⟨t, ht⟩ := List.exists_mem_of_length_pos (Nat.lt_of_lt_of_le Nat.two_pos htwo)
  obtain ⟨x, hx⟩ := (hwf t ht).inhabited
  have hmem : x ∈ LengthSet.unionAll (types.map (·.lengths)) :=
    LengthSet.mem_unionAll.2 ⟨_, List.mem_map_of_mem ht, hx⟩
  obtain ⟨shortest, hshortest⟩ := LengthSet.exists_min? hmem
  obtain ⟨longest, hlongest⟩ := LengthSet.exists_max? hmem
  refine ⟨_, shortest, longest, tagBits_eq hwf htwo hlimit, ?_, ?_, ?_⟩
  · rw [← toSet_unionAll_lengths]
    exact LengthSet.min?_eq_some_iff.1 hshortest
  · rw [← toSet_unionAll_lengths]
    exact LengthSet.max?_eq_some_iff.1 hlongest
  · rw [unionAggregate_eq_require hwf htwo hlimit, Nat.add_comm _ shortest,
      Nat.add_comm _ longest]
    exact spans_require (LengthSet.reaches_shift? hlongest _) fun _ =>
      LengthSet.min?_of_shift? hshortest

/-- **No aggregate is refused for the number of variants**, however few there are. -/
theorem kind_of_unionAggregate_eq_error {cause : Cause} (h : unionAggregate types = .error cause) :
    cause.kind ≠ .malformedUnion := by
  rcases unionAggregate_onlyFails types cause h with hkind | hkind
  · exact fun hvariants => absurd (hkind.symm.trans hvariants) nofun
  · exact fun hvariants => absurd (hkind.symm.trans hvariants) nofun

/-! ## Aggregates -/

/-- **Aggregates are decided by their ends.**  That of a structure is refused, for its extent,
exactly if the row of the longest values is too long at its end; otherwise it reaches from the row
of the shortest values to that of the longest.  That of a union with variants to choose from, of
which there are no more than a word can number, is refused exactly if the longest variant is too
long behind the tag; otherwise it reaches from the shortest variant to the longest, each behind the
tag.  Too few variants are never a reason. -/
theorem aggregates_span (h : ∀ t ∈ types, t.Buildable) :
    Spans (structAggregate types) (types.foldl shortestBehind 0) (types.foldl longestBehind 0) ∧
    Cause.lengthOverflow.kind = .invalidExtent ∧
    (minVariants ≤ types.length → types.length ≤ lengthLimit → ∃ bits shortest longest,
      tagBits types = .ok bits ∧
      IsLeast (variantLengths types) shortest ∧ IsGreatest (variantLengths types) longest ∧
      Spans (unionAggregate types) (bits + shortest) (bits + longest)) ∧
    ∀ cause, unionAggregate types = .error cause → cause.kind ≠ .malformedUnion := by
  have hwf : ∀ t ∈ types, t.WellFormed := fun t ht => (h t ht).wellFormed
  exact ⟨structAggregate_spans hwf, rfl, exists_unionAggregate_spans hwf,
    fun _ => kind_of_unionAggregate_eq_error⟩

end Composite

namespace DataType

/-- A row of words that takes half of all lengths there are. -/
def vast : DataType :=
  .fixedArray (.unsigned ⟨64, .saturated, by decide⟩) 0x200000000000000
    ⟨[0x8000000000000000], by decide, by decide⟩

theorem buildable_vast : vast.Buildable := by
  have h : ofFixedArray (.unsigned ⟨64, .saturated, by decide⟩) 0x200000000000000 = .ok vast := rfl
  exact .fixedArray (.primitive rfl) h

end DataType

theorem Composite.aggregates_span_vast : ∃ r q,
    structAggregate [.octets, .vast] = .ok r ∧ r.min? = some 0x8000000000000008 ∧
    r.max? = some 0x8000000000000018 ∧
    structAggregate [.vast, .octets, .vast] = .error .lengthOverflow ∧
    unionAggregate [.octets, .vast] = .ok q ∧ q.min? = some 16 ∧
    q.max? = some 0x8000000000000008 := by
  have hpair : ∀ t ∈ [DataType.octets, .vast], t.Buildable := List.forall_mem_cons.2
    ⟨DataType.buildable_octets, List.forall_mem_singleton.2 DataType.buildable_vast⟩
  have hthree : ∀ t ∈ [DataType.vast, .octets, .vast], t.Buildable :=
    List.forall_mem_cons.2 ⟨DataType.buildable_vast, hpair⟩
  obtain ⟨hstruct, -, hunion, -⟩ := aggregates_span hpair
  obtain ⟨bits, shortest, longest, hbits, hshortest, hlongest, hunion⟩ :=
    hunion (Nat.le_refl 2) (by decide)
  obtain rfl : 8 = bits := Except.ok.inj hbits
  obtain rfl : 8 = shortest := by
    rw [← toSet_unionAll_lengths] at hshortest
    exact (LengthSet.min?_eq_some_iff.1 rfl).unique hshortest
  obtain rfl : 0x8000000000000000 = longest := by
    rw [← toSet_unionAll_lengths] at hlongest
    exact (LengthSet.max?_eq_some_iff.1 rfl).unique hlongest
  have hlong : lengthLimit ≤ [DataType.vast, .octets, .vast].foldl longestBehind 0 := by decide
  obtain ⟨r, hr⟩ := hstruct.exists_ok (by decide)
  obtain ⟨q, hq⟩ := hunion.exists_ok (by decide)
  exact ⟨r, q, hr, hstruct.min?_eq r hr, hstruct.max?_eq r hr,
    ((aggregates_span hthree).1.refused_iff _).2 ⟨rfl, hlong⟩,
    hq, hunion.min?_eq q hq, hunion.max?_eq q hq⟩

end WireSchema
