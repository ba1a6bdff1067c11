import WireSchema.Proofs.DataType.Arrays

/-!
# Proofs/DataType/Prefixes — the words in front of unions and of arrays

Two things are written in front of values: the number of the variant of a union, and the number of
elements of an array.  Both go into the narrowest of the common words that holds them and is no
narrower than what comes behind is aligned.  Since no alignment is more than a byte, the alignments
never decide on the width, and what comes behind starts aligned.

The two differ by one.  A union of `n` variants numbers them from `0` to `n - 1`, so that a tag of
`w` bits tells up to `2 ^ w` variants apart (`Composite.tagBits_isLeast`).  An array of up to `n`
elements may have any number from `0` to `n` of them, so that `w` bits count up to `2 ^ w - 1`
(`DataType.Buildable.lengths_behind_count`).
-/

namespace WireSchema

/-! ## Tags -/

namespace Composite

variable {types : List DataType}

/-- **A tag is the narrowest that does.**  It is the least of the common widths that tells the
variants apart and is no narrower than any of their alignments, all of which divide it.  With more
variants behind, of whatever types, it is no narrower.  Fewer than two variants have no tag. -/
theorem tagBits_isLeast (h : ∀ t ∈ types, t.Buildable) :
    (types.length < minVariants → ∃ cause, tagBits types = .error cause ∧
      cause.kind = .malformedUnion) ∧
    (minVariants ≤ types.length → types.length ≤ lengthLimit → ∃ bits, tagBits types = .ok bits ∧
      IsLeast {w | w ∈ [8, 16, 32, 64] ∧ types.length ≤ Nat.pow 2 w ∧
        ∀ t ∈ types, t.alignment ≤ w} bits ∧
      (∀ t ∈ types, t.alignment ∣ bits) ∧
      ∀ more bits', tagBits (types ++ more) = .ok bits' → bits ≤ bits') := by
  have hwf : ∀ t ∈ types, t.WellFormed := fun t ht => (h t ht).wellFormed
  refine ⟨fun hfew => ⟨_, if_pos hfew, rfl⟩, fun htwo hlimit => ?_⟩
  have hpos : 0 < types.length := Nat.lt_of_lt_of_le Nat.two_pos htwo
  have htold : ∀ n, types.length ≤ n ↔ types.length - 1 < n := fun n => by omega
  refine ⟨_, tagBits_eq hwf htwo hlimit, ?_, fun t ht => ?_, fun more bits' hbits' => ?_⟩
  · simp only [htold]
    exact isLeast_wordBits_and ((htold _).1 hlimit) fun w hw t ht =>
      (hwf t ht).alignment_le.trans hw
  · exact (hwf t ht).alignment_dvd.trans (bitsPerByte_dvd_wordBits _)
  · have hlength : types.length ≤ (types ++ more).length := by
      rw [List.length_append]
      exact Nat.le_add_right _ _
    calc wordBits (types.length - 1)
        ≤ wordBits ((types ++ more).length - 1) := wordBits_mono (Nat.sub_le_sub_right hlength 1)
      _ ≤ widenTo (wordBits ((types ++ more).length - 1)) (types ++ more) := le_widenTo _ _
      _ = bits' := (eq_widenTo_of_tagBits hbits').symm

theorem tagBits_isLeast_octets :
    (∃ cause, tagBits [.octets] = .error cause ∧ cause.kind = .malformedUnion) ∧
    ∃ bits, tagBits [.octets, .boolean] = .ok bits ∧ bits = 8 ∧
      IsLeast {w | w ∈ [8, 16, 32, 64] ∧ 2 ≤ Nat.pow 2 w ∧
        ∀ t ∈ [DataType.octets, .boolean], t.alignment ≤ w} bits ∧
      tagBits [.octets, .boolean, .octet] = .ok 8 ∧ bits ≤ 8 := by
  have hone : ∀ t ∈ [DataType.octets], t.Buildable :=
    List.forall_mem_singleton.2 DataType.buildable_octets
  have htwo : ∀ t ∈ [DataType.octets, .boolean], t.Buildable :=
    List.forall_mem_cons.2 ⟨DataType.buildable_octets, List.forall_mem_singleton.2 (.primitive rfl)⟩
  obtain ⟨bits, hbits, hleast, -, hgrows⟩ := (tagBits_isLeast htwo).2 (by decide) (by decide)
  exact ⟨(tagBits_isLeast hone).1 (by decide), bits, hbits, (Except.ok.inj hbits).symm, hleast, rfl,
    hgrows [.octet] 8 rfl⟩

end Composite

/-! ## Counts of elements -/

namespace DataType

variable {element t : DataType} {capacity : Nat}

/-- **An array of at most so many elements is a row of them behind their count**, and the count has
the narrowest field that does: the least of the common widths that holds the capacity and is no
narrower than the alignment of the elements, which divides it.  The shortest array has the field
alone, and the longest has all elements at their longest. -/
theorem Buildable.lengths_behind_count (he : element.Buildable)
    (h : ofVariableArray element capacity = .ok t) :
    ∃ field run, t = .variableArray element capacity field t.lengths ∧
      IsLeast {w | w ∈ [8, 16, 32, 64] ∧ capacity < Nat.pow 2 w ∧ element.alignment ≤ w}
        field.bits ∧
      element.alignment ∣ field.bits ∧
      element.lengths.replicateUpTo? capacity = some run ∧
      t.lengths.toSet = (· + field.bits) '' run.toSet ∧
      t.lengths.min? = some field.bits ∧
      t.lengths.max? = some (field.bits + capacity * element.longest) := by
  have hwf := he.wellFormed
  obtain ⟨-, field, run, lengths, hfield, hrun, hshift, rfl⟩ := ofVariableArray_eq_ok_iff.1 h
  have hbits : field.bits = wordBits capacity := hwf.bits_of_ofBits hfield
  -- the field is there, so that the capacity is what a word of 64 bits holds
  have hlimit : capacity < lengthLimit := by
    have hle : wordBits capacity ≤ 64 := hbits ▸ field.admitted.2
    exact (lt_two_pow_wordBits capacity).trans_le (Nat.pow_le_pow_right Nat.two_pos hle)
  refine ⟨field, run, rfl, ?_, ?_, hrun, Set.ext fun _ => LengthSet.mem_of_shift? hshift, ?_, ?_⟩
  · rw [hbits]
    exact isLeast_wordBits_and hlimit fun _ => hwf.alignment_le.trans
  · rw [hbits]
    exact hwf.alignment_dvd.trans (bitsPerByte_dvd_wordBits capacity)
  · have hmin := LengthSet.min?_of_shift? (LengthSet.min?_of_replicateUpTo? hrun) hshift
    rwa [Nat.zero_add] at hmin
  · have hmax := LengthSet.max?_of_replicateUpTo? (Composite.max?_lengths hwf) hrun
    rw [Nat.add_comm, Nat.mul_comm]
    exact (LengthSet.reaches_shift? hmax field.bits).max?_eq hshift

theorem Buildable.lengths_behind_count_octets : ∃ field run,
    ofVariableArray octet 2 = .ok octets ∧ octets = .variableArray octet 2 field octets.lengths ∧
    field.bits = 8 ∧ octet.lengths.replicateUpTo? 2 = some run ∧ run.toList = [0, 8, 16] ∧
    octets.lengths.toSet = (· + 8) '' run.toSet ∧ octets.lengths.max? = some (8 + 2 * 8) := by
  have hoctets : ofVariableArray octet 2 = .ok octets := rfl
  have hlist : (octet.lengths.replicateUpTo? 2).map (·.toList) = some [0, 8, 16] := by
    decide +kernel
  obtain ⟨field, run, heq, -, -, hrun, hset, hmin, hmax⟩ :=
    Buildable.lengths_behind_count (.primitive rfl) hoctets
  have hbits : field.bits = 8 := Option.some.inj hmin.symm
  rw [hbits] at hset hmax
  rw [hrun] at hlist
  exact ⟨field, run, hoctets, heq, hbits, hrun, Option.some.inj hlist, hset, hmax⟩

end DataType
end WireSchema
