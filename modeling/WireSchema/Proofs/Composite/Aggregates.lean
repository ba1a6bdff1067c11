import WireSchema.Composite.Aggregate
import WireSchema.Proofs.DataType.WellFormed
import WireSchema.Proofs.Error.OnlyFails
import WireSchema.Proofs.Layout.Slot

/-!
# Proofs/Composite/Aggregates — aggregates are where a row of fields may end

The aggregate of a structure is computed on whole sets, one field after the other.  Read member by
member it is `Slot.endsInRow` of its fields (`mem_of_structAggregate`).  That of a union is one of
its variants behind the tag, and the padding in front of the variant is not missing: the tag is a
word (`tagBits_eq`), and every alignment divides a word (`mem_of_unionAggregate`).
-/

namespace WireSchema

/-- **The cause is about a size**, or it is a broken invariant. -/
def Cause.IsOfSize (cause : Cause) : Prop := cause.kind = .invalidExtent ∨ cause.kind = .internal

/-- **The slot that a type takes.** -/
def DataType.slot (t : DataType) : Slot := ⟨t.alignment, t.lengths.toSet⟩

namespace Composite

variable {types types' : List DataType} {before r : LengthSet} {z : Nat}

/-! ## Alignments -/

theorem widenTo_eq_self : ∀ {types : List DataType} {bits : Nat},
    (∀ t ∈ types, t.alignment ≤ bits) → widenTo bits types = bits
  | [], _, _ => rfl
  | t :: rest, bits, h => by
      have ht : max bits t.alignment = bits := max_eq_left (h t List.mem_cons_self)
      rw [widenTo, List.foldl_cons, ht]
      exact widenTo_eq_self fun u hu => h u (List.mem_cons_of_mem t hu)

theorem le_widenTo : ∀ (types : List DataType) (bits : Nat), bits ≤ widenTo bits types
  | [], _ => Nat.le_refl _
  | t :: rest, bits => (le_max_left bits t.alignment).trans (le_widenTo rest (max bits t.alignment))

theorem alignmentOf_pos (types : List DataType) : 0 < alignmentOf types :=
  Nat.lt_of_lt_of_le bitsPerByte_pos (le_widenTo types bitsPerByte)

/-- Types that are aligned alike, one by one, ask for the same together. -/
theorem widenTo_congr (h : types.map (·.alignment) = types'.map (·.alignment)) (bits : Nat) :
    widenTo bits types = widenTo bits types' := by
  have hfold : ∀ ts : List DataType, widenTo bits ts = (ts.map (·.alignment)).foldl max bits :=
    fun _ => List.foldl_map.symm
  rw [hfold, hfold, h]

/-- **Well-formed fields are aligned to a byte** together. -/
theorem alignmentOf_eq (h : ∀ t ∈ types, t.WellFormed) : alignmentOf types = bitsPerByte :=
  widenTo_eq_self fun t ht => (h t ht).alignment_le

/-! ## Structures -/

/-- The slots of well-formed types can all be filled. -/
theorem nonempty_slots (hwf : ∀ t ∈ types, t.WellFormed) :
    ∀ s ∈ types.map DataType.slot, s.lengths.Nonempty := by
  intro s hs
  obtain ⟨t, ht, rfl⟩ := List.mem_map.1 hs
  exact (hwf t ht).inhabited

theorem mem_of_append? {t : DataType} (h : append? before t = some r) :
    z ∈ r ↔ ∃ p ∈ before, ∃ x ∈ t.lengths, roundUp p t.alignment + x = z := by
  obtain ⟨padded, hpad, hadd⟩ := Option.bind_eq_some_iff.1 h
  simp only [LengthSet.mem_of_add? hadd, LengthSet.mem_of_padTo? hpad, exists_exists_and_eq_and]

theorem mem_of_foldlM_append? : ∀ {types : List DataType} {before : LengthSet},
    types.foldlM append? before = some r →
    (z ∈ r ↔ ∃ p ∈ before, z ∈ Slot.endsInRow (types.map DataType.slot) p)
  | [], _, h => by
      obtain rfl := Option.some.inj h
      simp
  | t :: rest, before, h => by
      rw [List.foldlM_cons] at h
      obtain ⟨next, hnext, hrest⟩ := Option.bind_eq_some_iff.1 h
      rw [mem_of_foldlM_append? hrest, List.map_cons]
      simp only [mem_of_append? hnext, Slot.mem_endsInRow_cons]
      constructor
      · rintro ⟨_, ⟨p, hp, x, hx, rfl⟩, hz⟩
        exact ⟨p, hp, x, hx, hz⟩
      · rintro ⟨p, hp, x, hx, hz⟩
        exact ⟨_, ⟨p, hp, x, hx, rfl⟩, hz⟩

/-- **The aggregate of a structure** is where the row of its fields may end. -/
theorem mem_of_structAggregate (h : structAggregate types = .ok r) :
    z ∈ r ↔ z ∈ Slot.endsInRow (types.map DataType.slot) 0 := by
  rw [mem_of_foldlM_append? (require_eq_ok_iff.1 h)]
  simp

/-! ## Unions -/

/-- The tag is the word that holds the last of the numbers of variants. -/
theorem widenTo_word_eq (h : ∀ t ∈ types, t.WellFormed) (n : Nat) :
    widenTo (wordBits n) types = wordBits n :=
  widenTo_eq_self fun t ht => (h t ht).alignment_le.trans (bitsPerByte_le_wordBits n)

/-- **The tag of well-formed variants** is a word, wide enough for the last of their numbers. -/
theorem tagBits_eq (h : ∀ t ∈ types, t.WellFormed) (htwo : minVariants ≤ types.length)
    (hlimit : types.length ≤ lengthLimit) :
    tagBits types = .ok (wordBits (types.length - 1)) := by
  have hword : wordBits (types.length - 1) ∈ tagWidths :=
    wordBits_mem (by unfold minVariants at htwo; omega)
  have hwiden := widenTo_word_eq h (types.length - 1)
  unfold wordBits at hwiden hword ⊢
  rw [tagBits]
  dsimp only
  rw [if_neg (Nat.not_lt.2 htwo), hwiden, if_pos hword]

/-- **The tag is up to the number of variants and their alignments.** -/
theorem tagBits_congr (h : types.map (·.alignment) = types'.map (·.alignment)) :
    tagBits types = tagBits types' := by
  have hlength : types.length = types'.length := by
    rw [← List.length_map, h, List.length_map]
  simp only [tagBits, hlength, widenTo_congr h]

/-- Any tag is a word, widened to the alignments. -/
theorem eq_widenTo_of_tagBits {bits : Nat} (hbits : tagBits types = .ok bits) :
    bits = widenTo (wordBits (types.length - 1)) types := by
  unfold tagBits at hbits
  dsimp only at hbits
  split_ifs at hbits
  exact (Except.ok.inj hbits).symm

theorem eq_of_tagBits {bits : Nat} (h : ∀ t ∈ types, t.WellFormed)
    (hbits : tagBits types = .ok bits) : bits = wordBits (types.length - 1) :=
  (eq_widenTo_of_tagBits hbits).trans (widenTo_word_eq h _)

/-- **The aggregate of a union** with variants to choose from: a tag, and all of their lengths. -/
theorem unionAggregate_eq : ∀ {types : List DataType}, minVariants ≤ types.length →
    unionAggregate types = tagBits types >>= fun bits =>
      require .lengthOverflow ((LengthSet.unionAll (types.map (·.lengths))).shift? bits)
  | [], htwo => absurd htwo (Nat.not_succ_le_zero 1)
  | [_], htwo => absurd htwo (Nat.not_succ_le_self 1)
  | _ :: _ :: _, _ => rfl

/-- **The aggregate of a union of well-formed variants** can only be too long. -/
theorem unionAggregate_eq_require (h : ∀ t ∈ types, t.WellFormed)
    (htwo : minVariants ≤ types.length) (hlimit : types.length ≤ lengthLimit) :
    unionAggregate types = require .lengthOverflow
      ((LengthSet.unionAll (types.map (·.lengths))).shift? (wordBits (types.length - 1))) := by
  rw [unionAggregate_eq htwo, tagBits_eq h htwo hlimit]
  rfl

/-- **The steps behind the aggregate of a union** with variants to choose from. -/
theorem unionAggregate_eq_ok_iff (htwo : minVariants ≤ types.length) :
    unionAggregate types = .ok r ↔ ∃ bits, tagBits types = .ok bits ∧
      (LengthSet.unionAll (types.map (·.lengths))).shift? bits = some r := by
  simp only [unionAggregate_eq htwo, bind_eq_ok_iff, require_eq_ok_iff]

/-- **The aggregate of a union** is where any one of its variants may end behind the tag. -/
theorem mem_of_unionAggregate (hwf : ∀ t ∈ types, t.WellFormed) (htwo : minVariants ≤ types.length)
    (h : unionAggregate types = .ok r) :
    z ∈ r ↔ z ∈ Slot.endsOfOne (types.map DataType.slot) (wordBits (types.length - 1)) := by
  obtain ⟨bits, hbits, hshift⟩ := (unionAggregate_eq_ok_iff htwo).1 h
  obtain rfl := eq_of_tagBits hwf hbits
  rw [LengthSet.mem_of_shift? hshift, Slot.mem_endsOfOne]
  simp only [LengthSet.mem_unionAll, List.mem_map, exists_exists_and_eq_and]
  -- the tag is a word, so that no variant is padded
  have hpad : ∀ t ∈ types, roundUp (wordBits (types.length - 1)) t.alignment =
      wordBits (types.length - 1) := fun t ht =>
    roundUp_eq_self ((hwf t ht).alignment_dvd.trans (bitsPerByte_dvd_wordBits _))
  constructor
  · rintro ⟨x, ⟨t, ht, hx⟩, rfl⟩
    exact ⟨t, ht, x, hx, by rw [DataType.slot, hpad t ht, Nat.add_comm]⟩
  · rintro ⟨t, ht, x, hx, rfl⟩
    exact ⟨x, ⟨t, ht, hx⟩, by rw [DataType.slot, hpad t ht, Nat.add_comm]⟩

/-! ## Refusals -/

/-- With variants to choose from, a tag fails only by a width that no word has. -/
theorem tagBits_onlyFails (htwo : minVariants ≤ types.length) :
    OnlyFails (fun cause => cause.kind = .internal) (tagBits types) := by
  intro cause h
  rw [tagBits] at h
  dsimp only at h
  rw [if_neg (Nat.not_lt.2 htwo)] at h
  split_ifs at h
  obtain rfl := Except.error.inj h
  rfl

theorem unionAggregate_onlyFails : ∀ types, OnlyFails Cause.IsOfSize (unionAggregate types)
  | [] => onlyFails_ok _ _
  | [_] => onlyFails_ok _ _
  | t :: u :: rest => by
    have htwo : minVariants ≤ (t :: u :: rest).length := Nat.le_add_left _ _
    rw [unionAggregate_eq htwo]
    refine OnlyFails.bind (fun cause h => Or.inr (tagBits_onlyFails htwo cause h)) fun _ _ => ?_
    exact onlyFails_require fun _ => Or.inl rfl

/-- **An aggregate fails only for its size.** -/
theorem aggregateOf_onlyFails (kind : Kind) (types : List DataType) :
    OnlyFails Cause.IsOfSize (aggregateOf kind types) := by
  cases kind with
  | union => exact unionAggregate_onlyFails types
  | struct | service => exact onlyFails_require fun _ => Or.inl rfl

end Composite
end WireSchema
