import WireSchema.Proofs.Catalog.Places
import WireSchema.Proofs.LengthSet.Grids

/-!
# Proofs/Catalog/Sizes — how many lengths a type may have

No array has more than `maxSize` lengths, and no type that may still change.  For arrays the bound
is on the cells that are searched, and a row has at most one length for each of them.

For a type that may still change the bound is exact.  Its lengths are as many as the multiples of
its alignment up to its extent, zero and the extent itself among them (`ncard_alignedLengths`).  A
declaration that keeps all rules but the one for its size stops there or nowhere: it is refused as
too large if they are more than `maxSize`, and made with that many lengths if they are not
(`Declaration.DecidedBySize`).
-/

namespace WireSchema

variable {d : Declaration} {kind : Kind} {bounded : Bool}

/-! ## What decides -/

namespace Declaration

/-- **The aligned lengths of a declaration**: the multiples of its alignment up to its extent. -/
def alignedLengths (d : Declaration) (kind : Kind) : Set Nat :=
  {z | d.alignment ∣ z ∧ z ≤ d.extentBits kind}

/-- The refusal of a declaration with too many of them. -/
def tooLarge (d : Declaration) (kind : Kind) : Cause :=
  .extentTooLarge (d.extentBits kind) (Framing.largestExtent d.alignment)

/-- **The declaration passes every check but the one for its size.** -/
def KeepsOthers (d : Declaration) (kind : Kind) (bounded : Bool) : Prop :=
  ∀ r ∈ Rule.inOrder, r ≠ .size → r.Holds d kind bounded

/-- **The number of aligned lengths decides about the run**: too many are refused with the error,
and otherwise there is a composite with as many lengths. -/
structure DecidedBySize {ε : Type} (d : Declaration) (kind : Kind) (e : ε)
    (x : Except ε Composite) : Prop where
  refused_iff : x = .error e ↔ LengthSet.maxSize < (d.alignedLengths kind).ncard
  made : (d.alignedLengths kind).ncard ≤ LengthSet.maxSize →
    ∃ c, x = .ok c ∧ c.lengths.size = (d.alignedLengths kind).ncard

/-- The refusal may be put in other words. -/
theorem DecidedBySize.mapError {ε ε' : Type} {e : ε} {x : Except ε Composite}
    (h : d.DecidedBySize kind e x) (g : ε → ε') : d.DecidedBySize kind (g e) (x.mapError g) where
  refused_iff := by
    constructor
    · intro hg
      by_contra hfew
      obtain ⟨c, rfl, -⟩ := h.made (Nat.not_lt.1 hfew)
      exact absurd hg nofun
    · intro hmany
      rw [h.refused_iff.2 hmany]
      rfl
  made hfew := by
    obtain ⟨c, rfl, hsize⟩ := h.made hfew
    exact ⟨c, rfl, hsize⟩

end Declaration

/-- **The multiples up to a number** are one more than the quotient, as zero is among them. -/
theorem ncard_multiples {a e : Nat} (ha : 0 < a) : {z | a ∣ z ∧ z ≤ e}.ncard = e / a + 1 := by
  have himage : {z | a ∣ z ∧ z ≤ e} = (a * ·) '' (Finset.range (e / a + 1) : Set Nat) := by
    ext z
    constructor
    · rintro ⟨⟨i, rfl⟩, hle⟩
      refine ⟨i, Finset.mem_coe.2 (Finset.mem_range.2 (Nat.lt_succ_of_le ?_)), rfl⟩
      rwa [Nat.le_div_iff_mul_le ha, Nat.mul_comm]
    · rintro ⟨i, hi, rfl⟩
      have hi : i ≤ e / a := Nat.lt_succ_iff.1 (Finset.mem_range.1 (Finset.mem_coe.1 hi))
      exact ⟨Nat.dvd_mul_right a i, (Nat.mul_le_mul_left a hi).trans (Nat.mul_div_le e a)⟩
  rw [himage, Set.ncard_image_of_injective _ (mul_right_injective₀ ha.ne'), Set.ncard_coe_finset,
    Finset.card_range]

theorem ncard_alignedLengths (halign : d.alignment = bitsPerByte) :
    (d.alignedLengths kind).ncard = d.extentBits kind / d.alignment + 1 :=
  ncard_multiples (halign ▸ bitsPerByte_pos)

namespace Composite

variable {shape : Shape} {c : Composite}

/-! ## Declarations -/

/-- The fields of a declaration with a sound extent are measured, as the extent covers the longest
aggregate. -/
theorem exists_measures (h : Admissible d.attributes) (hextent : d.HasExtent kind) :
    ∃ aggregate, Footprint.Measures kind d.attributes d.extent? d.isFinal aggregate
      ⟨d.minimalExtent kind, d.extentBits kind⟩ := by
  obtain ⟨r?, haggregate, hreach⟩ := aggregateOf_reaches kind h.wellFormed h.length_fieldTypes_le
  have hlong : d.longest kind < lengthLimit := (le_roundUp _ _).trans_lt hextent.fits
  obtain ⟨aggregate, rfl, hmax⟩ := hreach.exists_of_lt hlong
  exact ⟨aggregate, haggregate, d.longest kind, hmax,
    Declaration.resolve_eq_ok_iff.2 ⟨hextent, rfl⟩⟩

/-- **A declaration with too many aligned lengths**, and nothing else against it, stops there. -/
theorem build_eq_error_of_large (identity : Identity) (h : Admissible d.attributes)
    (hfinal : d.isFinal = false) (hrules : d.KeepsOthers shape.kind bounded)
    (hlarge : LengthSet.maxSize ≤ d.extentBits shape.kind / d.alignment) :
    build identity shape bounded d = .error (d.tooLarge shape.kind) := by
  have halign : d.alignment = bitsPerByte := alignmentOf_eq h.wellFormed
  obtain ⟨_, hheading⟩ := (d.heading_checks shape.kind bounded).exists_ok_iff.2 fun r hr =>
    hrules r (by revert r; decide) (by revert r; decide)
  obtain ⟨_, hvariants⟩ := (variants_checks d shape.kind bounded).exists_ok_iff.2 fun r hr =>
    hrules r (by revert r; decide) (by revert r; decide)
  obtain ⟨aggregate, hmeasures⟩ := exists_measures h (hrules .extent (by decide) (by decide))
  obtain ⟨header?, hheader⟩ := Framing.exists_header? d.isFinal
  rw [← halign] at hheader
  have hform := Framing.header?_eq_ok hheader
  rw [hfinal, if_neg Bool.false_ne_true] at hform
  obtain ⟨header, rfl, -⟩ := hform
  refine build_eq_error_iff.2 (.footprint (refuse_eq_ok_iff.1 hheading)
    (.lengths hmeasures ?_ hheader (Framing.delimited_eq_error hlarge)))
  exact ite_eq_right_iff.1 (refuse_eq_ok_iff.1 hvariants)

/-- **A composite that may still change** has a length for each multiple of its alignment up to its
extent, and not too many. -/
theorem MadeFrom.size_lengths (h : MadeFrom shape bounded d c)
    (hwf : ∀ t ∈ fieldTypes c.attributes, t.WellFormed) (hfinal : c.isFinal = false) :
    c.lengths.size = c.extent / c.alignment + 1 ∧ c.lengths.size ≤ LengthSet.maxSize := by
  obtain ⟨header, -, -, hsize, hlist⟩ := h.toList_lengths_of_delimited hwf hfinal
  rw [LengthSet.size, hlist, List.length_range']
  exact ⟨rfl, hsize⟩

/-- **A declaration with few enough aligned lengths**, and nothing else against it, is made, with a
length for each of them. -/
theorem exists_build_of_small (identity : Identity) (h : Admissible d.attributes)
    (hfinal : d.isFinal = false) (hrules : d.KeepsOthers shape.kind bounded)
    (hsmall : d.extentBits shape.kind / d.alignment < LengthSet.maxSize) :
    ∃ c, build identity shape bounded d = .ok c ∧
      c.lengths.size = d.extentBits shape.kind / d.alignment + 1 := by
  have hchecks := build_checks (d := d) identity shape bounded h.wellFormed h.length_fieldTypes_le
  obtain ⟨c, hc⟩ := hchecks.exists_ok_iff.2 fun r hr => by
    by_cases hsize : r = .size
    · exact hsize ▸ fun _ => hsmall
    · exact hrules r hr hsize
  have hmade := madeFrom_of_build hc
  obtain ⟨hsize, -⟩ := hmade.size_lengths (hmade.attributes_eq ▸ h.wellFormed)
    (hmade.isFinal_eq.trans hfinal)
  refine ⟨c, hc, ?_⟩
  rw [hsize, hmade.extent_eq_extentBits h.wellFormed h.length_fieldTypes_le, hmade.alignment_eq,
    hmade.attributes_eq, Declaration.alignment]

/-- **The number of aligned lengths decides** about a declaration with nothing else against it. -/
theorem build_decidedBySize (identity : Identity) (shape : Shape) (h : Admissible d.attributes)
    (hfinal : d.isFinal = false) (hrules : d.KeepsOthers shape.kind bounded) :
    d.DecidedBySize shape.kind (d.tooLarge shape.kind) (build identity shape bounded d) := by
  have hncard : (d.alignedLengths shape.kind).ncard = d.extentBits shape.kind / d.alignment + 1 :=
    ncard_alignedLengths (alignmentOf_eq h.wellFormed)
  refine ⟨⟨fun herror => ?_, fun hmany => ?_⟩, fun hfew => ?_⟩
  · rw [hncard, Nat.lt_succ_iff]
    by_contra hsmall
    obtain ⟨c, hc, -⟩ := exists_build_of_small identity h hfinal hrules (Nat.not_le.1 hsmall)
    exact absurd (herror.symm.trans hc) nofun
  · rw [hncard, Nat.lt_succ_iff] at hmany
    exact build_eq_error_of_large identity h hfinal hrules hmany
  · rw [hncard] at hfew ⊢
    exact exists_build_of_small identity h hfinal hrules hfew

end Composite

/-! ## Types -/

/-- An array that was made has not too many lengths. -/
theorem DataType.size_lengths_le_of_array {element t : DataType} {capacity : Nat}
    (h : ofFixedArray element capacity = .ok t ∨ ofVariableArray element capacity = .ok t) :
    t.lengths.size ≤ LengthSet.maxSize := by
  rcases h with h | h
  · obtain ⟨-, lengths, hrow, rfl⟩ := ofFixedArray_eq_ok_iff.1 h
    exact LengthSet.size_le_of_replicate? hrow
  · obtain ⟨-, _, run, lengths, -, hrun, hshift, rfl⟩ := ofVariableArray_eq_ok_iff.1 h
    exact (LengthSet.size_of_shift? hshift).trans_le (LengthSet.size_le_of_sumsOfAtMost? hrun)

/-- **A bound on lengths, and where it is exact.**  No array has more than `maxSize` lengths, and no
composite that may still change.  A declaration of such a composite, or a half of a service, with
nothing else against it is refused as too large exactly if its aligned lengths are more than that,
and otherwise made with one length for each of them. -/
theorem DataType.size_lengths_bound :
    (∀ (element t : DataType) (capacity : Nat),
      ofFixedArray element capacity = .ok t ∨ ofVariableArray element capacity = .ok t →
      t.lengths.size ≤ LengthSet.maxSize) ∧
    (∀ c : Composite, (composite c).Buildable → c.isFinal = false →
      c.lengths.size ≤ LengthSet.maxSize) ∧
    (∀ (d : Declaration) (serial : Nat), Admissible d.attributes → d.isFinal = false →
      (d.KeepsOthers .struct true → d.DecidedBySize .struct
        (Composite.located d.sourcePath (d.tooLarge .struct)) (Composite.ofStructure serial d)) ∧
      (d.KeepsOthers .union true → d.DecidedBySize .union
        (Composite.located d.sourcePath (d.tooLarge .union)) (Composite.ofUnion serial d))) ∧
    (∀ (d : ServiceDeclaration) (serial : Nat) (name : String) (role : Role) (s : Schema),
      Admissible s.attributes → s.isFinal = false →
      (Composite.halfDeclaration d name role s).KeepsOthers s.shape.kind false →
      (Composite.halfDeclaration d name role s).DecidedBySize s.shape.kind
        ((Composite.halfDeclaration d name role s).tooLarge s.shape.kind)
        (Composite.half serial d name role s)) ∧
    ∀ (d : Declaration) (kind : Kind), (d.tooLarge kind).kind = .invalidExtent := by
  refine ⟨fun _ _ _ => size_lengths_le_of_array, fun c h hfinal => ?_,
    fun d serial h hfinal => ⟨fun hrules => ?_, fun hrules => ?_⟩, ?_, fun _ _ => rfl⟩
  · obtain ⟨shape, bounded, d, hmade, hwf⟩ := h.exists_madeFrom
    exact (hmade.size_lengths hwf hfinal).2
  · exact (Composite.build_decidedBySize _ .struct h hfinal hrules).mapError _
  · exact (Composite.build_decidedBySize _ .union h hfinal hrules).mapError _
  · intro d serial name role s h hfinal hrules
    exact Composite.build_decidedBySize ⟨serial, role⟩ s.shape h hfinal hrules

/-- The structure that may still change, with the given extent. -/
def Declaration.growingTo (bits : Nat) : Declaration := { growing with extent? := some bits }

theorem Declaration.admissible_growing : Admissible growing.attributes :=
  ⟨buildable_growing, by decide⟩

/-- Only the rules about the extent look at the extent. -/
theorem Declaration.keepsOthers_growingTo {bits : Nat} (hdvd : 8 ∣ bits) (hle : 32 ≤ bits) :
    (growingTo bits).KeepsOthers .struct true := by
  have hrun : (Composite.build ⟨0, .whole⟩ .struct true growing).toOption.map (·.alignment) =
      some 8 := by
    decide +kernel
  have hchecks := Composite.build_checks (d := growing) ⟨0, .whole⟩ .struct true
    admissible_growing.wellFormed admissible_growing.length_fieldTypes_le
  obtain ⟨c, hc, -⟩ := toOption_map_eq_some_iff.1 hrun
  have hrules := hchecks.exists_ok_iff.1 ⟨c, hc⟩
  have halign : growing.alignment = 8 := by decide +kernel
  have hminimal : growing.minimalExtent .struct = 32 := by decide +kernel
  intro r hr hne
  cases r with
  | size => exact absurd rfl hne
  | extent =>
    have hextent : growing.HasExtent .struct := hrules .extent hr
    exact
      { fits := hextent.fits
        derived := nofun
        aligned := halign.symm ▸ hdvd
        enough := hminimal.symm ▸ hle
        final := nofun }
  | name => exact hrules .name hr
  | version => exact hrules .version hr
  | distinct => exact hrules .distinct hr
  | portId => exact hrules .portId hr
  | dependencies => exact hrules .dependencies hr
  | variants => exact hrules .variants hr

theorem Declaration.ncard_alignedLengths_growingTo (bits : Nat) :
    ((growingTo bits).alignedLengths .struct).ncard = bits / 8 + 1 := by
  have halign : (growingTo bits).alignment = 8 :=
    Composite.alignmentOf_eq admissible_growing.wellFormed
  rw [ncard_alignedLengths halign, halign]
  rfl

theorem DataType.size_lengths_bound_growing : ∃ c,
    Composite.ofStructure 0 (.growingTo 8388600) = .ok c ∧ (composite c).Buildable ∧
    c.isFinal = false ∧ c.lengths.size ≤ LengthSet.maxSize ∧ c.lengths.size = 1048576 ∧
    Composite.ofStructure 0 (.growingTo 8388608) =
      .error (Composite.located "" (.extentTooLarge 8388608 8388600)) ∧
    ofVariableArray .octet 2 = .ok octets ∧ octets.lengths.size ≤ LengthSet.maxSize := by
  obtain ⟨harrays, hcomposites, hexact, -, -⟩ := size_lengths_bound
  have hsmall := (hexact (.growingTo 8388600) 0 Declaration.admissible_growing rfl).1
    (Declaration.keepsOthers_growingTo (by decide) (by decide))
  have hlarge := (hexact (.growingTo 8388608) 0 Declaration.admissible_growing rfl).1
    (Declaration.keepsOthers_growingTo (by decide) (by decide))
  have hncard := Declaration.ncard_alignedLengths_growingTo
  obtain ⟨c, hc, hsize⟩ := hsmall.made (by rw [hncard]; decide)
  have hbuildable : (composite c).Buildable :=
    .struct (d := .growingTo 8388600) Declaration.buildable_growing hc
  have hfinal : c.isFinal = false :=
    (Composite.madeFrom_of_build (Composite.ofStructure_eq_ok_iff.1 hc)).isFinal_eq
  have hoctets : ofVariableArray .octet 2 = .ok octets := rfl
  refine ⟨c, hc, hbuildable, hfinal, hcomposites c hbuildable hfinal, ?_, ?_, hoctets,
    harrays _ _ _ (.inr hoctets)⟩
  · rw [hsize, hncard]
  · exact hlarge.refused_iff.2 (by rw [hncard]; decide)

end WireSchema
