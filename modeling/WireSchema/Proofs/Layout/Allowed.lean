import WireSchema.Proofs.DataType.Buildable

/-!
# Proofs/Layout/Allowed — the lengths that the layout rules allow

`DataType.allowed` says by recursion on a type, in unbounded arithmetic, how long a value of it may
be.  It follows a single value: each part starts at the next multiple of its own alignment, however
long the parts in front came out.  Of what arrays and composites keep it reads only what the rules
speak of (alignments, the extent, the widths of headers, tags and length fields), never the lengths.

The main theorem is `Buildable.mem_lengths_iff`: the kept lengths of every type that can be made are
exactly the allowed ones, although they were computed on whole sets, with rows of elements found on
a grid, and with no padding between elements or behind a tag.
-/

namespace WireSchema

/-! ## The layout rules -/

/-- Ends rounded up to an alignment. -/
def endsRoundedUp (ends : Set Nat) (alignment : Nat) : Set Nat :=
  {stop | ∃ z ∈ ends, roundUp z alignment = stop}

/-- A header with any multiple of the alignment behind it that is not above the extent. -/
def endsDelimited (header? : Option UnsignedType) (alignment extent : Nat) : Set Nat :=
  {stop | ∃ header ∈ header?, ∃ n ≤ extent, alignment ∣ n ∧ header.bits + n = stop}

mutual

/-- **The lengths that the layout rules allow** a value of the type. -/
def DataType.allowed : DataType → Set Nat
  | .boolean => {1}
  | .unsigned t => {t.bits}
  | .signed t => {t.bits}
  | .float t => {t.bits}
  | .void t => {t.bits}
  | .fixedArray element capacity _ =>
      Slot.endsInRow (List.replicate capacity ⟨element.alignment, element.allowed⟩) 0
  | .variableArray element capacity field _ =>
      {stop | ∃ k ≤ capacity,
        stop ∈ Slot.endsInRow (List.replicate k ⟨element.alignment, element.allowed⟩) field.bits}
  | .composite c => c.allowed

/-- **The lengths that the layout rules allow** a value of the composite. -/
def Composite.allowed : Composite → Set Nat
  | { layout := .service request response, alignment, .. } =>
      endsRoundedUp (Slot.endsInRow
        [⟨request.alignment, request.allowed⟩, ⟨response.alignment, response.allowed⟩] 0) alignment
  | { attributes, isFinal := true, layout := .struct, alignment, .. } =>
      endsRoundedUp (Slot.endsInRow (allowedSlots attributes) 0) alignment
  | { attributes, isFinal := true, layout := .union tag, alignment, .. } =>
      endsRoundedUp (Slot.endsOfOne (allowedSlots attributes) tag.bits) alignment
  | { isFinal := false, alignment, extent, header?, .. } => endsDelimited header? alignment extent

/-- The slots of the attributes that are laid out, in order. -/
def allowedSlots : List Attribute → List Slot
  | [] => []
  | .field _ t :: rest => ⟨t.alignment, t.allowed⟩ :: allowedSlots rest
  | .padding filler :: rest => ⟨1, {filler.bits}⟩ :: allowedSlots rest
  | .constant _ _ _ :: rest => allowedSlots rest

end

namespace Composite

variable {c : Composite}

theorem allowed_of_service {request response : Composite}
    (h : c.layout = .service request response) :
    c.allowed = endsRoundedUp (Slot.endsInRow
      [⟨request.alignment, request.allowed⟩, ⟨response.alignment, response.allowed⟩] 0)
      c.alignment := by
  cases c
  subst h
  rfl

theorem allowed_of_struct (h : c.layout = .struct) (hfinal : c.isFinal = true) :
    c.allowed = endsRoundedUp (Slot.endsInRow (allowedSlots c.attributes) 0) c.alignment := by
  cases c
  subst h hfinal
  rfl

theorem allowed_of_union {tag : UnsignedType} (h : c.layout = .union tag)
    (hfinal : c.isFinal = true) :
    c.allowed =
      endsRoundedUp (Slot.endsOfOne (allowedSlots c.attributes) tag.bits) c.alignment := by
  cases c
  subst h hfinal
  rfl

theorem allowed_of_not_final (h : c.kind ≠ .service) (hfinal : c.isFinal = false) :
    c.allowed = endsDelimited c.header? c.alignment c.extent := by
  cases c with
  | mk _ _ _ _ _ _ _ _ layout =>
    subst hfinal
    cases layout with
    | service => exact absurd rfl h
    | struct | union => rfl

end Composite

/-! ## The kept lengths are the allowed ones -/

namespace DataType

variable {element t : DataType} {capacity : Nat}

/-- Where the kept lengths are the allowed ones, the slots are the same. -/
theorem allowedSlots_eq : ∀ {attributes : List Attribute},
    (∀ t ∈ fieldTypes attributes, t.allowed = t.lengths.toSet) →
    allowedSlots attributes = (fieldTypes attributes).map slot
  | [], _ => rfl
  | .constant _ _ _ :: _, h => by
      rw [allowedSlots]
      exact allowedSlots_eq h
  | .field _ t :: rest, h => by
      have hslot : ⟨t.alignment, t.allowed⟩ = t.slot := by rw [h t List.mem_cons_self]; rfl
      rw [allowedSlots, hslot, allowedSlots_eq fun u hu => h u (List.mem_cons_of_mem t hu)]
      rfl
  | .padding filler :: rest, h => by
      have hslot : ⟨1, {filler.bits}⟩ = (DataType.void filler).slot := by
        rw [slot, ← h (.void filler) List.mem_cons_self, allowed]
        rfl
      rw [allowedSlots, hslot, allowedSlots_eq fun u hu => h u (List.mem_cons_of_mem _ hu)]
      rfl

theorem allowed_of_isPrimitive (h : t.isPrimitive = true) : t.allowed = t.lengths.toSet := by
  cases t with
  | fixedArray | variableArray | composite => exact absurd h Bool.false_ne_true
  | boolean | unsigned | signed | float | void =>
    rw [allowed]
    ext x
    exact Iff.symm List.mem_singleton

theorem allowed_of_ofFixedArray (he : element.WellFormed)
    (ih : element.allowed = element.lengths.toSet) (h : ofFixedArray element capacity = .ok t) :
    t.allowed = t.lengths.toSet := by
  obtain ⟨-, lengths, hlengths, rfl⟩ := ofFixedArray_eq_ok_iff.1 h
  ext z
  rw [allowed, ih, Slot.mem_endsInRow_replicate (L := element.lengths.toSet) he.dvd
    (Nat.dvd_zero element.alignment)]
  simp only [Nat.zero_add, exists_eq_right]
  exact (LengthSet.mem_of_replicate? hlengths).symm

theorem allowed_of_ofVariableArray (he : element.WellFormed)
    (ih : element.allowed = element.lengths.toSet) (h : ofVariableArray element capacity = .ok t) :
    t.allowed = t.lengths.toSet := by
  obtain ⟨-, field, run, lengths, hfield, hrun, hshift, rfl⟩ := ofVariableArray_eq_ok_iff.1 h
  -- the elements start right behind the field, which is a word
  have hstart : element.alignment ∣ field.bits := by
    rw [he.bits_of_ofBits hfield]
    exact he.alignment_dvd.trans (bitsPerByte_dvd_wordBits capacity)
  ext z
  have hrow : ∀ k, z ∈ Slot.endsInRow (List.replicate k ⟨element.alignment, element.allowed⟩)
      field.bits ↔ ∃ y ∈ rowSums element.lengths.toSet k, field.bits + y = z := by
    intro k
    rw [ih, Slot.mem_endsInRow_replicate (L := element.lengths.toSet) he.dvd hstart]
  change _ ↔ z ∈ lengths
  rw [allowed, LengthSet.mem_of_shift? hshift]
  simp only [LengthSet.mem_of_replicateUpTo? hrun]
  refine (exists_congr fun k => and_congr_right fun _ => hrow k).trans ?_
  constructor
  · rintro ⟨k, hk, y, hy, rfl⟩
    exact ⟨y, ⟨k, hk, hy⟩, Nat.add_comm y field.bits⟩
  · rintro ⟨y, ⟨k, hk, hy⟩, rfl⟩
    exact ⟨k, hk, y, hy, Nat.add_comm field.bits y⟩

end DataType

namespace Composite

variable {shape : Shape} {bounded : Bool} {d : Declaration} {c : Composite}

/-- Of a final composite the rules allow its aggregate, rounded up. -/
theorem MadeFrom.allowed_of_final (h : MadeFrom shape bounded d c)
    (hwf : ∀ t ∈ fieldTypes c.attributes, t.WellFormed)
    (ih : ∀ t ∈ fieldTypes c.attributes, t.allowed = t.lengths.toSet)
    (hhalves : DataType.ContainsHalves shape d) (hfinal : c.isFinal = true) :
    c.allowed = endsRoundedUp c.aggregate.toSet c.alignment := by
  cases shape with
  | struct =>
    have hlayout : c.layout = .struct := (Except.ok.inj h.layout_eq).symm
    rw [allowed_of_struct hlayout hfinal, DataType.allowedSlots_eq ih, h.aggregate_of_row nofun]
  | union =>
    obtain ⟨tag, hlayout, -, haggregate⟩ := h.aggregate_of_union hwf
    rw [allowed_of_union hlayout hfinal, DataType.allowedSlots_eq ih, haggregate]
  | service request response =>
    have hlayout : c.layout = .service request response := (Except.ok.inj h.layout_eq).symm
    have hattributes := h.attributes_eq.trans hhalves.2
    have hslots : (fieldTypes c.attributes).map DataType.slot =
        [⟨request.alignment, request.allowed⟩, ⟨response.alignment, response.allowed⟩] := by
      rw [← DataType.allowedSlots_eq ih, hattributes]
      rfl
    rw [allowed_of_service hlayout, h.aggregate_of_row nofun, hslots]

/-- **The step for composites**: the kept lengths are the allowed ones if the fields' are. -/
theorem MadeFrom.allowed_eq (h : MadeFrom shape bounded d c)
    (hwf : ∀ t ∈ fieldTypes c.attributes, t.WellFormed)
    (ih : ∀ t ∈ fieldTypes c.attributes, t.allowed = t.lengths.toSet)
    (hhalves : DataType.ContainsHalves shape d) : c.allowed = c.lengths.toSet := by
  rcases Bool.eq_false_or_eq_true c.isFinal with hfinal | hfinal
  · rw [h.allowed_of_final hwf ih hhalves hfinal]
    ext z
    exact (h.mem_lengths_of_final hfinal).symm
  · have hkind : c.kind ≠ .service := by
      rw [h.kind_eq]
      cases shape with
      | struct | union => nofun
      | service => exact absurd (h.isFinal_eq.trans hhalves.1) (by simp [hfinal])
    obtain ⟨header, hheader, -, hmem⟩ := h.mem_lengths_of_delimited hwf hfinal
    rw [allowed_of_not_final hkind hfinal, hheader]
    ext z
    refine Iff.trans ?_ (hmem z).symm
    constructor
    · rintro ⟨_, hsome, hz⟩
      obtain rfl := Option.some.inj hsome
      exact hz
    · exact fun hz => ⟨header, rfl, hz⟩

end Composite

namespace DataType

/-- The kept lengths of every type that can be made, as a set, are the allowed ones. -/
theorem Buildable.allowed_eq {t : DataType} (h : t.Buildable) : t.allowed = t.lengths.toSet := by
  refine h.induct allowed_of_isPrimitive (fun he ih h => allowed_of_ofFixedArray he.wellFormed ih h)
    (fun he ih h => allowed_of_ofVariableArray he.wellFormed ih h) fun ha hhalves h => ?_
  have hmade := Composite.madeFrom_of_build h
  rw [← hmade.attributes_eq] at ha
  refine hmade.allowed_eq (wellFormed_of_mem_fieldTypes fun a hmem => (ha a hmem).1.wellFormed)
    (fun t ht => ?_) hhalves
  obtain ⟨a, hmem, rfl⟩ := List.mem_map.1 ht
  exact (ha a (List.mem_filter.1 hmem).1).2

/-- **The kept lengths are exactly the allowed ones**, for every type that can be made. -/
theorem Buildable.mem_lengths_iff {t : DataType} (h : t.Buildable) (n : Nat) :
    n ∈ t.lengths ↔ n ∈ t.allowed := by
  rw [h.allowed_eq, LengthSet.mem_toSet]

theorem Buildable.mem_lengths_iff_flagged : ∃ c, Composite.ofStructure 0 .flagged = .ok c ∧
    c.lengths.toList = [16, 24, 32] ∧ ∀ n, n ∈ c.lengths ↔ n ∈ c.allowed := by
  obtain ⟨c, hc, hlist⟩ := Composite.exists_flagged
  exact ⟨c, hc, hlist, Buildable.mem_lengths_iff (.struct Declaration.buildable_flagged hc)⟩

end DataType

end WireSchema
