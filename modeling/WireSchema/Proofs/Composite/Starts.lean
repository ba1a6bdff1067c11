import WireSchema.Proofs.Composite.Placements
import WireSchema.Proofs.Layout.Allowed

/-!
# Proofs/Composite/Starts — where the fields of a structure start

A structure is laid out twice: once from zero, when it is made, to find its aggregate; and again
from the positions that a user asks about, to find the offsets of its fields.  The two agree.  The
offsets of a field are the start positions with the aggregate of the fields in front of it, padded
to its alignment, added to them; and the last field ends where the whole aggregate does, counted
from the start positions (`Buildable.starts_in_struct`).

The positions of the second run are shifted by the start, and padding does not commute with every
shift.  It does with this one (`endsRoundedUp_add`), because the start is aligned and every field
asks for no more.  A run over the fields is taken apart once, into `Composite.InRow`; what it says
about offsets and ends is by induction on that.
-/

open scoped Pointwise

namespace WireSchema

/-! ## Rows from several positions -/

/-- **Where a row of values may end** that starts at one of several positions. -/
def Slot.endsFrom (slots : List Slot) (starts : Set Nat) : Set Nat :=
  {stop | ∃ start ∈ starts, stop ∈ Slot.endsInRow slots start}

/-- A row from aligned positions ends where it does from zero, counted from the positions. -/
theorem Slot.endsFrom_eq_add {slots : List Slot} {starts : Set Nat}
    (h : ∀ s ∈ slots, ∀ x ∈ starts, s.alignment ∣ x) :
    Slot.endsFrom slots starts = starts + Slot.endsInRow slots 0 := by
  ext stop
  refine exists_congr fun x => and_congr_right fun hx => ?_
  have hrow : stop ∈ Slot.endsInRow slots (x + 0) ↔ ∃ z ∈ Slot.endsInRow slots 0, x + z = stop :=
    Slot.mem_endsInRow_add fun s hs => h s hs x hx
  exact hrow

/-- **Rounding up commutes with a shift** by aligned positions. -/
theorem endsRoundedUp_add {starts ends : Set Nat} {a : Nat} (h : ∀ x ∈ starts, a ∣ x) :
    endsRoundedUp (starts + ends) a = starts + endsRoundedUp ends a :=
  LengthSet.image_roundUp_add h

/-! ## Runs over the fields of a structure -/

/-- **Where a placed field may end**: any length of it behind any of its offsets. -/
def Placement.ends (p : Placement) : Set Nat := p.offsets.toSet + p.field.type.lengths.toSet

namespace Composite

/-- **A run over fields**: each is put behind the position where the one in front of it ends. -/
inductive InRow : LengthSet → List Attribute → List Placement → Prop
  | nil {position : LengthSet} : InRow position [] []
  | cons {position offsets next : LengthSet} {a : Attribute} {rest : List Attribute}
      {more : List Placement} (hpad : position.padTo a.type.alignment = .ok offsets)
      (hadd : offsets.add a.type.lengths = .ok next) (hrest : InRow next rest more) :
      InRow position (a :: rest) (⟨a, offsets⟩ :: more)

/-- A run behind fields that are placed already leaves them as they are. -/
theorem exists_inRow_of_placeInRow : ∀ {fields : List Attribute} {placed all : List Placement}
    {position : LengthSet}, placeInRow placed position fields = .ok all →
    ∃ more, all = placed.reverse ++ more ∧ InRow position fields more
  | [], placed, all, position, h => by
      obtain rfl := Except.ok.inj h
      exact ⟨[], (List.append_nil _).symm, .nil⟩
  | a :: rest, placed, all, position, h => by
      rw [placeInRow] at h
      split at h
      · exact absurd h (by simp)
      · next offsets hpad =>
        split at h
        · exact absurd h (by simp)
        · next next hadd =>
          obtain ⟨more, rfl, hrest⟩ := exists_inRow_of_placeInRow h
          refine ⟨⟨a, offsets⟩ :: more, ?_, .cons hpad hadd hrest⟩
          rw [List.reverse_cons, List.append_assoc, List.singleton_append]

variable {position : LengthSet} {fields : List Attribute} {placed : List Placement} {p : Placement}

/-- The slots of fields. -/
def slotsOf (fields : List Attribute) : List Slot := fields.map fun a => a.type.slot

/-- Where the next field is put is where a row of the one in front of it ends. -/
theorem endsFrom_cons_eq {a : Attribute} {offsets next : LengthSet}
    (hpad : position.padTo a.type.alignment = .ok offsets)
    (hadd : offsets.add a.type.lengths = .ok next) :
    Slot.endsFrom (slotsOf (a :: fields)) position.toSet =
      Slot.endsFrom (slotsOf fields) next.toSet := by
  rw [LengthSet.padTo_eq_ok_iff] at hpad
  rw [LengthSet.add_eq_ok_iff, hpad] at hadd
  rw [hadd]
  ext stop
  constructor
  · rintro ⟨q, hq, x, hx, hstop⟩
    exact ⟨_, ⟨_, ⟨q, hq, rfl⟩, x, hx, rfl⟩, hstop⟩
  · rintro ⟨_, ⟨_, ⟨q, hq, rfl⟩, x, hx, rfl⟩, hstop⟩
    exact ⟨q, hq, x, hx, hstop⟩

/-- **The offsets of a field in a row** are where the row in front of it may end, rounded up. -/
theorem InRow.offsets_eq (h : InRow position fields placed) : ∀ {i : Nat}, placed[i]? = some p →
    p.offsets.toSet = endsRoundedUp (Slot.endsFrom (slotsOf (fields.take i)) position.toSet)
      p.field.type.alignment := by
  induction h with
  | nil => exact fun hp => absurd hp (by simp)
  | @cons position offsets next a rest more hpad hadd hrest ih =>
    rintro (_ | i) hp
    · obtain rfl := Option.some.inj hp
      rw [LengthSet.padTo_eq_ok_iff.1 hpad]
      ext o
      simp [endsRoundedUp, Slot.endsFrom, slotsOf]
    · rw [ih hp, List.take_succ_cons, endsFrom_cons_eq hpad hadd]

/-- **The last field of a row** ends where the row does. -/
theorem InRow.ends_getLast (h : InRow position fields placed) : placed.getLast? = some p →
    p.ends = Slot.endsFrom (slotsOf fields) position.toSet := by
  induction h with
  | nil => exact fun hp => absurd hp (by simp)
  | @cons position offsets next a rest more hpad hadd hrest ih =>
    intro hp
    rw [endsFrom_cons_eq hpad hadd]
    cases hrest with
    | nil =>
      rw [List.getLast?_singleton, Option.some.injEq] at hp
      obtain rfl := hp
      rw [Placement.ends, ← LengthSet.add_eq_ok_iff.1 hadd]
      ext stop
      simp [Slot.endsFrom, slotsOf]
    | cons hpad' hadd' hrest' =>
      rw [List.getLast?_cons_cons] at hp
      exact ih hp

/-! ## Aggregates of the fields in front -/

/-- **The aggregate of a structure comes with that of every part in front**, padded to the alignment
of the field behind it. -/
theorem exists_structAggregate_take {types : List DataType} {r : LengthSet} {t : DataType} {i : Nat}
    (h : structAggregate types = .ok r) (ht : types[i]? = some t) :
    ∃ front padded, structAggregate (types.take i) = .ok front ∧
      front.padTo? t.alignment = some padded := by
  obtain ⟨hi, rfl⟩ := List.getElem?_eq_some_iff.1 ht
  have hfold := require_eq_ok_iff.1 h
  rw [← List.take_append_drop i types, List.drop_eq_getElem_cons hi, List.foldlM_append,
    Option.bind_eq_bind, Option.bind_eq_some_iff] at hfold
  obtain ⟨front, hfront, hrest⟩ := hfold
  rw [List.foldlM_cons, Option.bind_eq_bind, Option.bind_eq_some_iff] at hrest
  obtain ⟨_, happend, -⟩ := hrest
  obtain ⟨padded, hpadded, -⟩ := Option.bind_eq_some_iff.1 happend
  exact ⟨front, padded, require_eq_ok_iff.2 hfront, hpadded⟩

/-! ## Structures -/

variable {c : Composite} {base? : Option LengthSet} {start : LengthSet} {bounded : Bool}
  {d : Declaration}

/-- What is a structure is laid out as one. -/
theorem layout_eq_struct (h : c.kind = .struct) : c.layout = .struct := by
  cases hlayout : c.layout with
  | struct => rfl
  | union | service => simp [kind, hlayout] at h

/-- The slots of the first fields are those of the first types. -/
theorem slotsOf_take_fields (c : Composite) (i : Nat) :
    slotsOf (c.fields.take i) = ((fieldTypes c.attributes).take i).map DataType.slot := by
  rw [slotsOf, fieldTypes, ← List.map_take, List.map_map]
  rfl

/-- Well-formed fields take slots that a start on a byte satisfies. -/
theorem alignment_dvd_of_mem_slotsOf (hwf : ∀ a ∈ fields, a.type.WellFormed)
    (haligned : ∀ x ∈ start, bitsPerByte ∣ x) :
    ∀ s ∈ slotsOf fields, ∀ x ∈ start.toSet, s.alignment ∣ x := by
  intro s hs x hx
  obtain ⟨a, ha, rfl⟩ := List.mem_map.1 hs
  exact (hwf a ha).alignment_dvd.trans (haligned x hx)

/-- **A structure is placed in a row** from its start. -/
theorem inRow_of_placements (hlayout : c.layout = .struct)
    (hstart : c.startPositions base? = .ok start) (h : c.placements base? = .ok placed) :
    InRow start c.fields placed := by
  rw [placements_of_startPositions hstart, mapError_eq_ok_iff, placeFields, tag?, hlayout] at h
  obtain ⟨more, rfl, hrow⟩ := exists_inRow_of_placeInRow h
  exact hrow

/-- **The offsets of a field** are the start positions with what the fields in front of it take,
padded to its alignment, added to them. -/
theorem InRow.add_eq_offsets (h : InRow start c.fields placed)
    (hwf : ∀ a ∈ c.fields, a.type.WellFormed) (haligned : ∀ x ∈ start, bitsPerByte ∣ x)
    {i : Nat} {front padded : LengthSet} (hp : placed[i]? = some p) (hmem : p.field ∈ c.fields)
    (hfront : structAggregate ((fieldTypes c.attributes).take i) = .ok front)
    (hpadded : front.padTo? p.field.type.alignment = some padded) :
    start.add padded = .ok p.offsets := by
  have hends : Slot.endsInRow (slotsOf (c.fields.take i)) 0 = front.toSet := by
    ext z
    rw [slotsOf_take_fields]
    exact (mem_of_structAggregate hfront).symm
  have hslots : ∀ s ∈ slotsOf (c.fields.take i), ∀ x ∈ start.toSet, s.alignment ∣ x :=
    alignment_dvd_of_mem_slotsOf (fun a ha => hwf a (List.mem_of_mem_take ha)) haligned
  have halign : ∀ x ∈ start.toSet, p.field.type.alignment ∣ x := fun x hx =>
    (hwf _ hmem).alignment_dvd.trans (haligned x hx)
  rw [LengthSet.add_eq_ok_iff]
  calc p.offsets.toSet
      = endsRoundedUp (Slot.endsFrom (slotsOf (c.fields.take i)) start.toSet)
          p.field.type.alignment := h.offsets_eq hp
    _ = endsRoundedUp (start.toSet + front.toSet) p.field.type.alignment := by
          rw [Slot.endsFrom_eq_add hslots, hends]
    _ = start.toSet + endsRoundedUp front.toSet p.field.type.alignment := endsRoundedUp_add halign
    _ = start.toSet + padded.toSet :=
          congrArg (start.toSet + ·) (Set.ext fun z => (LengthSet.mem_of_padTo? hpadded).symm)

/-- **The last field ends where the aggregate does**, counted from the start positions. -/
theorem MadeFrom.ends_getLast (h : MadeFrom .struct bounded d c)
    (hrow : InRow start c.fields placed) (hwf : ∀ a ∈ c.fields, a.type.WellFormed)
    (haligned : ∀ x ∈ start, bitsPerByte ∣ x) (hp : placed.getLast? = some p) :
    p.ends = start.toSet + c.aggregate.toSet := by
  rw [hrow.ends_getLast hp, Slot.endsFrom_eq_add (alignment_dvd_of_mem_slotsOf hwf haligned),
    h.aggregate_of_row nofun, fieldTypes, List.map_map]
  rfl

/-- What has a serialized form has its aggregate. -/
theorem serializedAggregate_eq (hkind : c.kind ≠ .service) :
    c.serializedAggregate = .ok c.aggregate := by
  rw [serializedAggregate, ensureSerializable, if_neg hkind]
  rfl

/-- Without a base a structure starts at zero. -/
theorem toSet_startPositions_none (hkind : c.kind ≠ .service)
    (hstart : c.startPositions none = .ok start) : start.toSet = {0} := by
  ext z
  rw [LengthSet.mem_toSet, mem_of_startPositions hkind hstart]
  constructor
  · rintro ⟨x, hx, rfl⟩
    obtain rfl := LengthSet.mem_zero.1 hx
    exact roundUp_eq_self (Nat.dvd_zero c.alignment)
  · rintro rfl
    exact ⟨0, LengthSet.mem_zero.2 rfl, roundUp_eq_self (Nat.dvd_zero c.alignment)⟩

end Composite

/-- **The offsets in a structure agree with its aggregate**, from every base from which it has
offsets at all.  Exactly the fields are placed, in order.  The offsets of the `i`-th are the start
positions (the base, padded) plus the aggregate of the `i` fields in front of it, padded to its
alignment.  The last field ends at the start positions plus the aggregate of the structure, which
without a base is the aggregate itself. -/
theorem DataType.Buildable.starts_in_struct {c : Composite} (h : (DataType.composite c).Buildable)
    (hkind : c.kind = .struct) {base? : Option LengthSet} {start : LengthSet}
    (hstart : c.startPositions base? = .ok start) :
    (Composite.basePositions base?).padTo? c.alignment = some start ∧
    ∃ placed, c.placements base? = .ok placed ∧ placed.map (·.field) = c.fields ∧
      (∀ i p, placed[i]? = some p → ∃ front padded,
        Composite.structAggregate ((fieldTypes c.attributes).take i) = .ok front ∧
        front.padTo? p.field.type.alignment = some padded ∧ start.add padded = .ok p.offsets) ∧
      ∀ p, placed.getLast? = some p → ∃ aggregate stop,
        c.serializedAggregate = .ok aggregate ∧
        p.offsets.add p.field.type.lengths = .ok stop ∧ start.add aggregate = .ok stop ∧
        (base? = none → stop = aggregate) := by
  have hserialized : c.kind ≠ .service := by
    rw [hkind]
    nofun
  obtain ⟨shape, bounded, d, hmade, htypes⟩ := h.exists_madeFrom
  obtain rfl : shape = .struct := by
    have hshape := hmade.kind_eq.symm.trans hkind
    cases shape with
    | struct => rfl
    | union | service => exact absurd hshape nofun
  have hwf : ∀ a ∈ c.fields, a.type.WellFormed := fun a ha => htypes _ (List.mem_map_of_mem ha)
  have haligned := hmade.aligned_of_startPositions hserialized htypes hstart
  obtain ⟨hpad, hfit⟩ := (Composite.startPositions_eq_ok_iff hserialized).1 hstart
  obtain ⟨placed, hplaced, hfields, -⟩ := hmade.exists_placements hserialized htypes hstart
  have hrow := Composite.inRow_of_placements (Composite.layout_eq_struct hkind) hstart hplaced
  refine ⟨hpad, placed, hplaced, hfields, fun i p hp => ?_, fun p hp => ?_⟩
  · have hfield : c.fields[i]? = some p.field := by rw [← hfields, List.getElem?_map, hp]; rfl
    have htype : (fieldTypes c.attributes)[i]? = some p.field.type := by
      rw [fieldTypes, List.getElem?_map]
      exact congrArg (Option.map (·.type)) hfield
    obtain ⟨front, padded, hfront, hpadded⟩ :=
      Composite.exists_structAggregate_take hmade.aggregate_eq htype
    exact ⟨front, padded, hfront, hpadded, hrow.add_eq_offsets hwf haligned hp
      (List.mem_of_getElem? hfield) hfront hpadded⟩
  · have hends := hmade.ends_getLast hrow hwf haligned hp
    obtain ⟨stop, hstop, -⟩ := LengthSet.exists_add (s := start) (t := c.aggregate)
      fun x hx y hy => Composite.lt_of_maximaFit hfit hx hy
    have hset := LengthSet.add_eq_ok_iff.1 hstop
    refine ⟨c.aggregate, stop, Composite.serializedAggregate_eq hserialized,
      LengthSet.add_eq_ok_iff.2 (hset.trans hends.symm), hstop, ?_⟩
    rintro rfl
    rw [Composite.toSet_startPositions_none hserialized hstart] at hset
    exact LengthSet.toSet_inj.1 (hset.trans (zero_add c.aggregate.toSet))

theorem DataType.Buildable.starts_in_struct_flagged : ∃ c start placed,
    Composite.ofStructure 0 .flagged = .ok c ∧ c.kind = .struct ∧
    c.startPositions (some (.singleton 3 (by decide))) = .ok start ∧ start.toList = [8] ∧
    c.placements (some (.singleton 3 (by decide))) = .ok placed ∧
    (∀ i p, placed[i]? = some p → ∃ front padded,
      Composite.structAggregate ((fieldTypes c.attributes).take i) = .ok front ∧
      front.padTo? p.field.type.alignment = some padded ∧ start.add padded = .ok p.offsets) ∧
    ∀ p, placed.getLast? = some p → ∃ stop,
      p.offsets.add p.field.type.lengths = .ok stop ∧ start.add c.aggregate = .ok stop := by
  have hrun : ((Composite.ofStructure 0 .flagged).toOption.map fun c => (decide (c.kind = .struct),
      (c.startPositions (some (.singleton 3 (by decide)))).toOption.map (·.toList))) =
        some (true, some [8]) := by
    decide +kernel
  obtain ⟨c, hc, hrun⟩ := toOption_map_eq_some_iff.1 hrun
  obtain ⟨hkind, hstart⟩ := Prod.mk.inj hrun
  obtain ⟨start, hstart, hlist⟩ := toOption_map_eq_some_iff.1 hstart
  have hkind := of_decide_eq_true hkind
  obtain ⟨-, placed, hplaced, -, hoffsets, hends⟩ :=
    Buildable.starts_in_struct (.struct Declaration.buildable_flagged hc) hkind hstart
  refine ⟨c, start, placed, hc, hkind, hstart, hlist, hplaced, hoffsets, fun p hp => ?_⟩
  obtain ⟨aggregate, stop, haggregate, hstop, hsum, -⟩ := hends p hp
  have hserialized : c.kind ≠ .service := by
    rw [hkind]
    nofun
  obtain rfl :=
    Except.ok.inj (haggregate.symm.trans (Composite.serializedAggregate_eq hserialized))
  exact ⟨stop, hstop, hsum⟩

end WireSchema
