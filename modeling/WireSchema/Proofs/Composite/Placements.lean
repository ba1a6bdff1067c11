import WireSchema.Composite.Offsets
import WireSchema.Proofs.DataType.Buildable
import WireSchema.Proofs.Error.OnlyFails
import WireSchema.Proofs.LengthSet.Unchecked

/-!
# Proofs/Composite/Placements — one check is enough for all fields

Before the first field of a value is placed, one check is made of two largest members.  Behind it
every position is computed without a check, field after field.

The invariant of the positions is that there is room for what is still to be placed: wherever the
rest of the row may end from there, the end is a length (`HasRoom`).  One field keeps it
(`HasRoom.step`), and so a row is placed to its end (`HasRoom.placeInRow`).  At the start the
invariant is what the check says, because the start is aligned: the ends of the row are those of the
aggregate, shifted (`Slot.mem_endsInRow_add`).
-/

namespace WireSchema

/-! ## Rows of fields -/

/-- **A field placed as it has to be**: somewhere, and at its own alignment. -/
structure Placement.Sound (p : Placement) : Prop where
  inhabited : ∃ x, x ∈ p.offsets
  aligned : p.offsets.isAligned p.field.type.alignment = true

/-- **There is room for the types** behind the positions: a row of them always ends at a length. -/
structure HasRoom (types : List DataType) (position : LengthSet) : Prop where
  inhabited : ∃ x, x ∈ position
  fits : ∀ p ∈ position, ∀ z ∈ Slot.endsInRow (types.map DataType.slot) p, z < lengthLimit

variable {types : List DataType} {t : DataType} {position : LengthSet}

/-- What is placed first has room itself. -/
theorem HasRoom.first_fits (hwf : ∀ t ∈ types, t.WellFormed) (h : HasRoom (t :: types) position)
    {p x : Nat} (hp : p ∈ position) (hx : x ∈ t.lengths) :
    roundUp p t.alignment + x < lengthLimit := by
  obtain ⟨z, hz⟩ :=
    Slot.exists_mem_endsInRow (roundUp p t.alignment + x) (Composite.nonempty_slots hwf)
  exact (Slot.le_of_mem_endsInRow hz).trans_lt (h.fits p hp z ⟨x, hx, hz⟩)

/-- **One field keeps the room** for those behind it, and nothing overflows on the way. -/
theorem HasRoom.step (ht : t.WellFormed) (hwf : ∀ t ∈ types, t.WellFormed)
    (h : HasRoom (t :: types) position) :
    ∃ offsets next, position.padTo t.alignment = .ok offsets ∧ offsets.add t.lengths = .ok next ∧
      (∃ x, x ∈ offsets) ∧ offsets.isAligned t.alignment = true ∧ HasRoom types next := by
  obtain ⟨p, hp⟩ := h.inhabited
  obtain ⟨x, hx⟩ := ht.inhabited
  obtain ⟨offsets, hpad, hoffsets⟩ := LengthSet.exists_padTo fun q hq =>
    (Nat.le_add_right _ x).trans_lt (h.first_fits hwf hq hx)
  have hsum : ∀ o ∈ offsets, ∀ y ∈ t.lengths, o + y < lengthLimit := by
    intro o ho y hy
    obtain ⟨q, hq, rfl⟩ := (hoffsets o).1 ho
    exact h.first_fits hwf hq hy
  obtain ⟨next, hadd, hnext⟩ := LengthSet.exists_add hsum
  have hfirst : roundUp p t.alignment ∈ offsets := (hoffsets _).2 ⟨p, hp, rfl⟩
  refine ⟨offsets, next, hpad, hadd, ⟨_, hfirst⟩, ?_, ⟨_, (hnext _).2 ⟨_, hfirst, x, hx, rfl⟩⟩, ?_⟩
  · refine LengthSet.isAligned_iff.2 (Or.inr fun o ho => ?_)
    obtain ⟨q, -, rfl⟩ := (hoffsets o).1 ho
    exact dvd_roundUp_of_pos q ht.alignment_pos
  · intro n hn z hz
    obtain ⟨o, ho, y, hy, rfl⟩ := (hnext n).1 hn
    obtain ⟨q, hq, rfl⟩ := (hoffsets o).1 ho
    exact h.fits q hq z ⟨y, hy, hz⟩

/-- **A row with room is placed to its end**, every field soundly. -/
theorem HasRoom.placeInRow : ∀ {fields : List Attribute} (placed : List Placement)
    {position : LengthSet}, (∀ t ∈ fields.map (·.type), t.WellFormed) →
    HasRoom (fields.map (·.type)) position →
    ∃ more, Composite.placeInRow placed position fields = .ok (placed.reverse ++ more) ∧
      more.map (·.field) = fields ∧ ∀ p ∈ more, p.Sound
  | [], placed, _, _, _ => ⟨[], by rw [List.append_nil, Composite.placeInRow], rfl, nofun⟩
  | a :: rest, placed, position, hwf, h => by
      obtain ⟨ha, hrest⟩ := List.forall_mem_cons.1 hwf
      obtain ⟨offsets, next, hpad, hadd, hinhabited, haligned, hroom⟩ := h.step ha hrest
      obtain ⟨more, hmore, hfields, hsound⟩ :=
        HasRoom.placeInRow (⟨a, offsets⟩ :: placed) hrest hroom
      refine ⟨⟨a, offsets⟩ :: more, ?_, ?_, List.forall_mem_cons.2 ⟨⟨hinhabited, haligned⟩, hsound⟩⟩
      · simp only [Composite.placeInRow, hpad, hadd, hmore, List.reverse_cons, List.append_assoc,
          List.singleton_append]
      · rw [List.map_cons, hfields]

namespace Composite

variable {c : Composite} {base? : Option LengthSet} {start : LengthSet} {b m : Nat}

/-! ## The one check -/

/-- **The positions asked for, rounded up** to the alignment, in unbounded arithmetic. -/
def alignedBase (c : Composite) (base? : Option LengthSet) : Set Nat :=
  {z | ∃ x ∈ basePositions base?, roundUp x c.alignment = z}

/-- There is always a position to start from. -/
theorem exists_mem_basePositions (base? : Option LengthSet) : ∃ x, x ∈ basePositions base? := by
  cases base? with
  | none => exact ⟨0, LengthSet.mem_zero.2 rfl⟩
  | some base =>
    unfold basePositions
    dsimp only
    split_ifs with hempty
    · exact ⟨0, LengthSet.mem_zero.2 rfl⟩
    · exact LengthSet.isEmpty_eq_false_iff.1 (Bool.eq_false_iff.2 hempty)

theorem maximaFit_iff {s t : LengthSet} (hs : IsGreatest s.toSet b) (ht : IsGreatest t.toSet m) :
    maximaFit s t = true ↔ b + m < lengthLimit := by
  rw [maximaFit, LengthSet.max?_eq_some_iff.2 hs, LengthSet.max?_eq_some_iff.2 ht]
  exact decide_eq_true_iff

/-- Where the largest members have a sum that is a length, so have all. -/
theorem lt_of_maximaFit {s t : LengthSet} (h : maximaFit s t = true) {x y : Nat} (hx : x ∈ s)
    (hy : y ∈ t) : x + y < lengthLimit := by
  obtain ⟨b, hb⟩ := LengthSet.exists_max? hx
  obtain ⟨m, hm⟩ := LengthSet.exists_max? hy
  rw [maximaFit_iff (LengthSet.max?_eq_some_iff.1 hb) (LengthSet.max?_eq_some_iff.1 hm)] at h
  exact (Nat.add_le_add (LengthSet.le_of_max? hb hx) (LengthSet.le_of_max? hm hy)).trans_lt h

theorem startPositions_eq_ok_iff (hkind : c.kind ≠ .service) :
    c.startPositions base? = .ok start ↔
      (basePositions base?).padTo? c.alignment = some start ∧
        maximaFit start c.aggregate = true := by
  simp only [startPositions, ensureSerializable, if_neg hkind, bind_eq_ok_iff, refuse_eq_ok_iff,
    require_eq_ok_iff, pure, Except.pure, Except.ok.injEq, exists_const, true_and, ite_eq_left_iff,
    reduceCtorEq, imp_false, Bool.not_eq_true, Bool.not_eq_false]
  constructor
  · rintro ⟨_, hpad, hfit, rfl⟩
    exact ⟨hpad, hfit⟩
  · rintro ⟨hpad, hfit⟩
    exact ⟨start, hpad, hfit, rfl⟩

/-- The only error is that a length is too long. -/
theorem startPositions_onlyFails (hkind : c.kind ≠ .service) :
    OnlyFails (fun e => e.kind = .invalidExtent) (c.startPositions base?) := by
  rw [startPositions, ensureSerializable, if_neg hkind]
  refine (onlyFails_ok _ ()).bind fun _ _ => ?_
  refine OnlyFails.bind (onlyFails_require fun _ => rfl) fun start _ => ?_
  refine OnlyFails.bind (onlyFails_refuse fun e he => ?_) fun _ _ => onlyFails_ok _ _
  split_ifs at he
  obtain rfl := Option.some.inj he
  rfl

theorem mem_of_startPositions (hkind : c.kind ≠ .service) (h : c.startPositions base? = .ok start)
    (z : Nat) : z ∈ start ↔ z ∈ c.alignedBase base? :=
  LengthSet.mem_of_padTo? ((startPositions_eq_ok_iff hkind).1 h).1

/-- **The check is exact**: it goes well where the greatest position and the longest aggregate have
a sum that is a length. -/
theorem exists_startPositions_iff (hkind : c.kind ≠ .service)
    (hb : IsGreatest (c.alignedBase base?) b) (hm : IsGreatest c.aggregate.toSet m) :
    (∃ start, c.startPositions base? = .ok start) ↔ b + m < lengthLimit := by
  have hstart : ∀ {start : LengthSet}, (basePositions base?).padTo? c.alignment = some start →
      (maximaFit start c.aggregate = true ↔ b + m < lengthLimit) := by
    intro start hpad
    have hset : start.toSet = c.alignedBase base? := Set.ext fun z => LengthSet.mem_of_padTo? hpad
    exact maximaFit_iff (hset ▸ hb) hm
  constructor
  · rintro ⟨start, h⟩
    obtain ⟨hpad, hfit⟩ := (startPositions_eq_ok_iff hkind).1 h
    exact (hstart hpad).1 hfit
  · intro hlt
    obtain ⟨start, hpad⟩ :=
      (LengthSet.exists_padTo?_iff hb).2 ((Nat.le_add_right b m).trans_lt hlt)
    exact ⟨start, (startPositions_eq_ok_iff hkind).2 ⟨hpad, (hstart hpad).2 hlt⟩⟩

/-! ## Behind the check -/

variable {shape : Shape} {bounded : Bool} {d : Declaration}

/-- **An aligned start leaves room for a structure** as far as its aggregate fits. -/
theorem MadeFrom.hasRoom (h : MadeFrom shape bounded d c) (hkind : shape.kind ≠ .union)
    (hwf : ∀ t ∈ fieldTypes c.attributes, t.WellFormed) (hinhabited : ∃ x, x ∈ start)
    (haligned : ∀ x ∈ start, bitsPerByte ∣ x)
    (hfits : ∀ x ∈ start, ∀ y ∈ c.aggregate, x + y < lengthLimit) :
    HasRoom (fieldTypes c.attributes) start := by
  refine ⟨hinhabited, fun x hx z hz => ?_⟩
  have hdvd : ∀ s ∈ (fieldTypes c.attributes).map DataType.slot, s.alignment ∣ x := by
    intro s hs
    obtain ⟨t, ht, rfl⟩ := List.mem_map.1 hs
    exact (hwf t ht).alignment_dvd.trans (haligned x hx)
  rw [← Nat.add_zero x] at hz
  obtain ⟨y, hy, rfl⟩ := (Slot.mem_endsInRow_add hdvd).1 hz
  rw [← h.aggregate_of_row hkind] at hy
  exact hfits x hx y hy

/-- The tag of a union is not above what the union may take. -/
theorem MadeFrom.exists_tag_le (h : MadeFrom .union bounded d c)
    (hwf : ∀ t ∈ fieldTypes c.attributes, t.WellFormed) :
    ∃ tag, c.layout = .union tag ∧ bitsPerByte ∣ tag.bits ∧ ∃ y ∈ c.aggregate, tag.bits ≤ y := by
  obtain ⟨tag, hlayout, hbits, haggregate⟩ := h.aggregate_of_union hwf
  obtain ⟨y, hy⟩ := h.exists_mem_aggregate
  have hend : y ∈ Slot.endsOfOne ((fieldTypes c.attributes).map DataType.slot) tag.bits := by
    rw [← haggregate]
    exact hy
  obtain ⟨s, -, x, -, hstop⟩ := Slot.mem_endsOfOne.1 hend
  refine ⟨tag, hlayout, hbits ▸ bitsPerByte_dvd_wordBits _, y, hy, ?_⟩
  have htag : tag.bits ≤ roundUp tag.bits s.alignment := le_roundUp _ _
  omega

/-- **All fields are placed** from an aligned start, as far as the aggregate fits. -/
theorem MadeFrom.exists_placeFields (h : MadeFrom shape bounded d c) (hkind : c.kind ≠ .service)
    (hwf : ∀ t ∈ fieldTypes c.attributes, t.WellFormed) (hinhabited : ∃ x, x ∈ start)
    (haligned : ∀ x ∈ start, bitsPerByte ∣ x)
    (hfits : ∀ x ∈ start, ∀ y ∈ c.aggregate, x + y < lengthLimit) :
    ∃ placed, c.placeFields start = .ok placed ∧ placed.map (·.field) = c.fields ∧
      ∀ p ∈ placed, p.Sound := by
  rw [placeFields, tag?]
  cases shape with
  | service request response => exact absurd h.kind_eq hkind
  | struct =>
    rw [← Except.ok.inj h.layout_eq]
    obtain ⟨placed, hplaced, hfields, hsound⟩ :=
      (h.hasRoom nofun hwf hinhabited haligned hfits).placeInRow [] hwf
    exact ⟨placed, hplaced, hfields, hsound⟩
  | union =>
    obtain ⟨tag, hlayout, hdvd, y, hy, hle⟩ := h.exists_tag_le hwf
    rw [hlayout]
    obtain ⟨offsets, hshift, hoffsets⟩ := LengthSet.exists_shift fun x hx =>
      (Nat.add_le_add_left hle x).trans_lt (hfits x hx y hy)
    refine ⟨c.fields.map fun a => ⟨a, offsets⟩, by simp [hshift],
      List.map_map.trans (List.map_id' c.fields), fun p hp => ?_⟩
    obtain ⟨a, ha, rfl⟩ := List.mem_map.1 hp
    obtain ⟨x, hx⟩ := hinhabited
    refine ⟨⟨_, (hoffsets _).2 ⟨x, hx, rfl⟩⟩, LengthSet.isAligned_iff.2 (Or.inr fun o ho => ?_)⟩
    obtain ⟨x, hx, rfl⟩ := (hoffsets o).1 ho
    exact (hwf _ (List.mem_map_of_mem ha)).alignment_dvd.trans
      (Nat.dvd_add (haligned x hx) hdvd)

/-- The positions behind the check are whole numbers of bytes. -/
theorem MadeFrom.aligned_of_startPositions (h : MadeFrom shape bounded d c)
    (hkind : c.kind ≠ .service) (hwf : ∀ t ∈ fieldTypes c.attributes, t.WellFormed)
    (hstart : c.startPositions base? = .ok start) : ∀ z ∈ start, bitsPerByte ∣ z := by
  intro z hz
  obtain ⟨w, -, rfl⟩ := (mem_of_startPositions hkind hstart z).1 hz
  rw [h.alignment_eq_byte hwf]
  exact dvd_roundUp_of_pos w bitsPerByte_pos

/-- Behind the check the fields are placed. -/
theorem placements_of_startPositions (hstart : c.startPositions base? = .ok start) :
    c.placements base? = (c.placeFields start).mapError .fault := by
  rw [placements, hstart]
  rfl

/-- **Where the check goes well, everything does**: all fields are placed from the base. -/
theorem MadeFrom.exists_placements (h : MadeFrom shape bounded d c) (hkind : c.kind ≠ .service)
    (hwf : ∀ t ∈ fieldTypes c.attributes, t.WellFormed)
    (hstart : c.startPositions base? = .ok start) :
    ∃ placed, c.placements base? = .ok placed ∧ placed.map (·.field) = c.fields ∧
      ∀ p ∈ placed, p.Sound := by
  obtain ⟨x, hx⟩ := exists_mem_basePositions base?
  have hfirst := (mem_of_startPositions hkind hstart _).2 ⟨x, hx, rfl⟩
  have hfit := ((startPositions_eq_ok_iff hkind).1 hstart).2
  obtain ⟨placed, hplaced, hfields, hsound⟩ :=
    h.exists_placeFields hkind hwf ⟨_, hfirst⟩ (h.aligned_of_startPositions hkind hwf hstart)
      fun z hz w hw => lt_of_maximaFit hfit hz hw
  refine ⟨placed, ?_, hfields, hsound⟩
  rw [placements_of_startPositions hstart, hplaced]
  rfl

end Composite

/-- **Offsets are safe, and their one check is exact**, for every structure or union that can be
made.  Let `b` be the greatest position, rounded up, and `m` the longest aggregate.  The offsets are
refused if and only if `b + m` is not a length, and only as an invalid extent.  Behind the check
nothing overflows: every field is placed, somewhere and at its own alignment. -/
theorem DataType.Buildable.placements_checked {c : Composite}
    (h : (DataType.composite c).Buildable) (hkind : c.kind ≠ .service) (base? : Option LengthSet) :
    ∃ b m, IsGreatest (c.alignedBase base?) b ∧ IsGreatest {x | x ∈ c.aggregate} m ∧
      ((∃ e, c.startPositions base? = .error e) ↔ lengthLimit ≤ b + m) ∧
      (∀ e, c.startPositions base? = .error e → e.kind = .invalidExtent) ∧
      ∀ start, c.startPositions base? = .ok start → ∃ placed, c.placements base? = .ok placed ∧
        placed.map (·.field) = c.fields ∧ ∀ p ∈ placed, (∃ x, x ∈ p.offsets) ∧
          p.offsets.isAligned p.field.type.alignment = true := by
  obtain ⟨shape, bounded, d, hmade, hwf⟩ := h.exists_madeFrom
  obtain ⟨x, hx⟩ := Composite.exists_mem_basePositions base?
  obtain ⟨top, htop⟩ := LengthSet.exists_max? hx
  obtain ⟨y, hy⟩ := hmade.exists_mem_aggregate
  obtain ⟨m, hmax⟩ := LengthSet.exists_max? hy
  have hb : IsGreatest (c.alignedBase base?) (roundUp top c.alignment) :=
    LengthSet.isGreatest_roundUp htop c.alignment
  have hm : IsGreatest c.aggregate.toSet m := LengthSet.max?_eq_some_iff.1 hmax
  refine ⟨_, m, hb, hm, ?_, Composite.startPositions_onlyFails hkind, fun start hstart => ?_⟩
  · rw [← Nat.not_lt, ← Composite.exists_startPositions_iff hkind hb hm]
    cases c.startPositions base? <;> simp
  · obtain ⟨placed, hplaced, hfields, hsound⟩ := hmade.exists_placements hkind hwf hstart
    exact ⟨placed, hplaced, hfields, fun p hp => ⟨(hsound p hp).inhabited, (hsound p hp).aligned⟩⟩

theorem DataType.Buildable.placements_checked_flagged : ∃ c placed,
    Composite.ofStructure 0 .flagged = .ok c ∧
      c.placements (some (.singleton 3 (by decide))) = .ok placed ∧
      placed.map (·.field) = c.fields ∧ ∀ p ∈ placed, (∃ x, x ∈ p.offsets) ∧
        p.offsets.isAligned p.field.type.alignment = true := by
  have hrun : ((Composite.ofStructure 0 .flagged).toOption.map fun c =>
      (c.startPositions (some (.singleton 3 (by decide)))).toOption.map (·.toList)) =
        some (some [8]) := by
    decide +kernel
  obtain ⟨c, hc, hstart⟩ := toOption_map_eq_some_iff.1 hrun
  obtain ⟨start, hstart, -⟩ := toOption_map_eq_some_iff.1 hstart
  have hmade := Composite.madeFrom_of_build (Composite.ofStructure_eq_ok_iff.1 hc)
  have hkind : c.kind ≠ .service := by
    rw [hmade.kind_eq]
    nofun
  obtain ⟨b, m, -, -, -, -, hplaced⟩ := Buildable.placements_checked
    (.struct Declaration.buildable_flagged hc) hkind (some (.singleton 3 (by decide)))
  obtain ⟨placed, hplaced, hfields, hsound⟩ := hplaced start hstart
  exact ⟨c, placed, hc, hplaced, hfields, hsound⟩

end WireSchema
