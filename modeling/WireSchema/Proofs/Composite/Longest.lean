import WireSchema.Proofs.Composite.Aggregates
import WireSchema.Proofs.LengthSet.Checked

/-!
# Proofs/Composite/Longest — the longest aggregate, in unbounded arithmetic

The longest aggregate of fields is found without looking at sets: in a structure each field adds its
longest value behind the padding, and in a union the longest of the variants follows the tag
(`Composite.longestOf`).  The aggregate itself is computed on whole sets, with a check at every
step.  Yet it is there exactly if that one number is a length, and has it as its greatest member
then (`Composite.aggregateOf_reaches`): the number only grows from field to field, so no check on
the way is stricter than the last.
-/

namespace WireSchema

/-- **The longest value** of a type. -/
def DataType.longest (t : DataType) : Nat := t.lengths.max?.getD 0

namespace Composite

open LengthSet (Reaches)

/-- The longest row that ends with a value of the type, behind a row of `bits`. -/
def longestBehind (bits : Nat) (t : DataType) : Nat := roundUp bits t.alignment + t.longest

/-- **The longest aggregate** of the fields, in unbounded arithmetic. -/
def longestOf (kind : Kind) (types : List DataType) : Nat :=
  match kind with
  | .struct | .service => types.foldl longestBehind 0
  | .union =>
    match types with
    | [] => 0
    | [t] => t.longest
    | types => wordBits (types.length - 1) + (types.map (·.longest)).max?.getD 0

variable {types : List DataType} {t : DataType} {before : LengthSet} {bits : Nat}

theorem max?_lengths (h : t.WellFormed) : t.lengths.max? = some t.longest := by
  obtain ⟨x, hx⟩ := h.inhabited
  obtain ⟨top, htop⟩ := LengthSet.exists_max? hx
  rw [DataType.longest, htop, Option.getD_some]

/-! ## Structures -/

theorem le_longestBehind (bits : Nat) (t : DataType) : bits ≤ longestBehind bits t :=
  (le_roundUp bits t.alignment).trans (Nat.le_add_right _ _)

/-- A row only grows. -/
theorem le_foldl_longestBehind :
    ∀ (types : List DataType) (bits : Nat), bits ≤ types.foldl longestBehind bits
  | [], bits => Nat.le_refl bits
  | t :: rest, bits => (le_longestBehind bits t).trans (le_foldl_longestBehind rest _)

theorem append?_reaches (h : t.WellFormed) (hbefore : before.max? = some bits) :
    Reaches (append? before t) (longestBehind bits t) :=
  (LengthSet.reaches_padTo? hbefore t.alignment).bind (Nat.le_add_right _ _)
    fun _ hpadded => LengthSet.reaches_add? hpadded (max?_lengths h)

/-- **A row reaches its longest end**, field by field. -/
theorem foldlM_append?_reaches : ∀ {types : List DataType} {before : LengthSet} {bits : Nat},
    (∀ t ∈ types, t.WellFormed) → before.max? = some bits →
    Reaches (types.foldlM append? before) (types.foldl longestBehind bits)
  | [], _, _, _, hbefore => LengthSet.reaches_some hbefore
  | t :: rest, before, bits, hwf, hbefore => by
      obtain ⟨ht, hrest⟩ := List.forall_mem_cons.1 hwf
      rw [List.foldlM_cons, List.foldl_cons]
      exact (append?_reaches ht hbefore).bind (le_foldl_longestBehind rest _)
        fun _ hnext => foldlM_append?_reaches hrest hnext

/-! ## Unions -/

/-- **The lengths of all variants** of a union, in front of which no tag is yet. -/
def variantLengths (types : List DataType) : Set Nat := {x | ∃ t ∈ types, x ∈ t.lengths}

theorem toSet_unionAll_lengths (types : List DataType) :
    (LengthSet.unionAll (types.map (·.lengths))).toSet = variantLengths types := by
  ext x
  rw [LengthSet.mem_toSet, LengthSet.mem_unionAll]
  constructor
  · rintro ⟨s, hs, hx⟩
    obtain ⟨t, ht, rfl⟩ := List.mem_map.1 hs
    exact ⟨t, ht, hx⟩
  · rintro ⟨t, ht, hx⟩
    exact ⟨t.lengths, List.mem_map_of_mem ht, hx⟩

theorem max?_unionAll (hwf : ∀ t ∈ types, t.WellFormed) (hne : types ≠ []) :
    (LengthSet.unionAll (types.map (·.lengths))).max? =
      some ((types.map (·.longest)).max?.getD 0) := by
  obtain ⟨top, htop⟩ : ∃ top, (types.map (·.longest)).max? = some top :=
    Option.isSome_iff_exists.1 (List.isSome_max?_of_ne_nil (mt List.map_eq_nil_iff.1 hne))
  obtain ⟨hmem, hle⟩ := List.max?_eq_some_iff.1 htop
  obtain ⟨t, ht, rfl⟩ := List.mem_map.1 hmem
  rw [htop, Option.getD_some, LengthSet.max?_eq_some_iff, toSet_unionAll_lengths]
  refine ⟨⟨t, ht, LengthSet.mem_of_max? (max?_lengths (hwf t ht))⟩, ?_⟩
  rintro x ⟨u, hu, hx⟩
  exact (LengthSet.le_of_max? (max?_lengths (hwf u hu)) hx).trans (hle _ (List.mem_map_of_mem hu))

/-! ## Aggregates -/

/-- **An aggregate is refused exactly if the longest is not a length**, and as too long. -/
theorem aggregateOf_reaches (kind : Kind) (hwf : ∀ t ∈ types, t.WellFormed)
    (hlen : types.length ≤ lengthLimit) :
    ∃ r?, aggregateOf kind types = require .lengthOverflow r? ∧
      Reaches r? (longestOf kind types) := by
  cases kind with
  | struct | service => exact ⟨_, rfl, foldlM_append?_reaches hwf rfl⟩
  | union =>
    match types with
    | [] => exact ⟨some LengthSet.zero, rfl, LengthSet.reaches_some rfl⟩
    | [t] =>
      exact ⟨some t.lengths, rfl,
        LengthSet.reaches_some (max?_lengths (hwf t List.mem_cons_self))⟩
    | t :: u :: rest =>
      have htwo : minVariants ≤ (t :: u :: rest).length := Nat.le_add_left _ _
      have hreach := LengthSet.reaches_shift? (max?_unionAll hwf (List.cons_ne_nil t (u :: rest)))
        (wordBits ((t :: u :: rest).length - 1))
      rw [Nat.add_comm] at hreach
      exact ⟨_, unionAggregate_eq_require hwf htwo hlen, hreach⟩

end Composite
end WireSchema
