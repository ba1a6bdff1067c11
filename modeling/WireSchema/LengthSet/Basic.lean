import WireSchema.Bits.Width
import WireSchema.LengthSet.Ascending

/-!
# LengthSet/Basic — finite sets of lengths

A `LengthSet` holds every length, in bits, that a value of some type can take on the wire.  It is an
ascending list of naturals below `lengthLimit`, and it is read through membership: two sets with the
same members are equal (`LengthSet.ext`).  This file has the ways to make one (`empty`, `singleton`,
`ofList?`, `progression?`), the ways to look at one (`size`, `min?`, `max?`, `isAligned`, `text`),
and the union, "either this or that".
-/

namespace WireSchema

/-- **A finite set of lengths**, each below `lengthLimit`. -/
structure LengthSet where
  /-- The members in ascending order. -/
  toList : List Nat
  ascending : toList.Pairwise (· < ·)
  fits : ∀ x ∈ toList, x < lengthLimit

namespace LengthSet

instance : Membership Nat LengthSet := ⟨fun s x => x ∈ s.toList⟩

theorem mem_toList {s : LengthSet} {x : Nat} : x ∈ s.toList ↔ x ∈ s := Iff.rfl

theorem lt_of_mem {s : LengthSet} {x : Nat} (h : x ∈ s) : x < lengthLimit := s.fits x h

theorem toList_inj {s t : LengthSet} : s.toList = t.toList ↔ s = t := by
  cases s
  cases t
  simp

/-- **Sets with the same members are equal.** -/
theorem ext {s t : LengthSet} (h : ∀ x, x ∈ s ↔ x ∈ t) : s = t :=
  toList_inj.1 (Ascending.eq_of_mem_iff s.ascending t.ascending h)

instance : DecidableEq LengthSet := fun s t =>
  decidable_of_iff ((s.toList == t.toList) = true) (beq_iff_eq.trans toList_inj)

instance (s : LengthSet) (x : Nat) : Decidable (x ∈ s) :=
  decidable_of_iff (s.toList.contains x = true) List.contains_iff_mem

/-! ## Making sets -/

/-- The set without members, a type that has no value. -/
def empty : LengthSet := ⟨[], List.Pairwise.nil, by simp⟩

instance : EmptyCollection LengthSet := ⟨empty⟩
instance : Inhabited LengthSet := ⟨∅⟩

@[simp] theorem not_mem_empty (x : Nat) : x ∉ (∅ : LengthSet) := List.not_mem_nil

/-- **The set of one length.** -/
def singleton (n : Nat) (h : n < lengthLimit) : LengthSet :=
  ⟨[n], List.pairwise_singleton _ _, by simpa using h⟩

@[simp] theorem mem_singleton {n x : Nat} {h : n < lengthLimit} : x ∈ singleton n h ↔ x = n :=
  List.mem_singleton

/-- The length of a value that takes no room. -/
def zero : LengthSet := singleton 0 (by decide)

@[simp] theorem mem_zero {x : Nat} : x ∈ zero ↔ x = 0 := mem_singleton

/-- The set of the members of a list in any order, unless one of them is too long. -/
def ofList? (xs : List Nat) : Option LengthSet :=
  if h : xs.all (· < lengthLimit) = true then
    some
      { toList := Ascending.unionMap (fun x => [x]) xs
        ascending := Ascending.ascending_unionMap fun _ _ => List.pairwise_singleton _ _
        fits := by
          intro x hx
          rw [Ascending.mem_unionMap fun _ _ => List.pairwise_singleton _ _] at hx
          obtain ⟨y, hy, hxy⟩ := hx
          obtain rfl := List.mem_singleton.1 hxy
          simpa using List.all_eq_true.1 h x hy }
  else none

/-- **The progression** of `count` lengths from `start` in steps of `stride`, unless it leaves the
64-bit range or does not advance. -/
def progression? (start stride count : Nat) : Option LengthSet :=
  if h : 0 < stride ∧ start + (count - 1) * stride < lengthLimit then
    some
      { toList := List.range' start count stride
        ascending := List.pairwise_lt_range' stride h.1
        fits := by
          intro x hx
          obtain ⟨i, hi, rfl⟩ := List.mem_range'.1 hx
          have : stride * i ≤ (count - 1) * stride := by
            rw [Nat.mul_comm]
            exact Nat.mul_le_mul_right stride (by omega)
          omega }
  else none

/-! ## Looking at sets -/

/-- The number of members. -/
def size (s : LengthSet) : Nat := s.toList.length

/-- Whether there is no member. -/
def isEmpty (s : LengthSet) : Bool := s.toList.isEmpty

/-- Whether `x` is a member. -/
def contains (s : LengthSet) (x : Nat) : Bool := s.toList.contains x

/-- **The smallest member.** -/
def min? (s : LengthSet) : Option Nat := s.toList.head?

/-- **The largest member.** -/
def max? (s : LengthSet) : Option Nat := s.toList.getLast?

theorem le_of_max? {s : LengthSet} {top x : Nat} (h : s.max? = some top) (hx : x ∈ s) : x ≤ top :=
  Ascending.le_getLast? s.ascending h x hx

theorem le_of_min? {s : LengthSet} {low x : Nat} (h : s.min? = some low) (hx : x ∈ s) : low ≤ x :=
  Ascending.head?_le s.ascending h x hx

theorem mem_of_max? {s : LengthSet} {top : Nat} (h : s.max? = some top) : top ∈ s :=
  List.mem_of_getLast? h

theorem mem_of_min? {s : LengthSet} {low : Nat} (h : s.min? = some low) : low ∈ s :=
  List.mem_of_head? h

theorem max?_eq_none_iff {s : LengthSet} : s.max? = none ↔ s = ∅ := by
  rw [max?, List.getLast?_eq_none_iff, ← toList_inj]
  rfl

theorem min?_eq_none_iff {s : LengthSet} : s.min? = none ↔ s = ∅ := by
  rw [min?, List.head?_eq_none_iff, ← toList_inj]
  rfl

/-- A set with a member has a largest one. -/
theorem exists_max? {s : LengthSet} {x : Nat} (h : x ∈ s) : ∃ top, s.max? = some top :=
  Option.ne_none_iff_exists'.1 fun hnone => not_mem_empty x (max?_eq_none_iff.1 hnone ▸ h)

/-- A set with a member has a smallest one. -/
theorem exists_min? {s : LengthSet} {x : Nat} (h : x ∈ s) : ∃ low, s.min? = some low :=
  Option.ne_none_iff_exists'.1 fun hnone => not_mem_empty x (min?_eq_none_iff.1 hnone ▸ h)

theorem isEmpty_eq_false_iff {s : LengthSet} : s.isEmpty = false ↔ ∃ x, x ∈ s := by
  rw [isEmpty, List.isEmpty_eq_false_iff_exists_mem]
  rfl

/-- **Whether every member is a multiple** of `alignment`; the alignments `0` and `1` ask for
nothing. -/
def isAligned (s : LengthSet) (alignment : Nat) : Bool :=
  alignment ≤ 1 || s.toList.all (· % alignment == 0)

theorem isAligned_iff {s : LengthSet} {alignment : Nat} :
    s.isAligned alignment = true ↔ alignment ≤ 1 ∨ ∀ x ∈ s, alignment ∣ x := by
  simp [isAligned, Nat.dvd_iff_mod_eq_zero, mem_toList]

/-- The members between braces. -/
def text (s : LengthSet) : String :=
  "\x7b" ++ String.intercalate ", " (s.toList.map toString) ++ "\x7d"

/-! ## Union -/

/-- **The union**: "either this or that". -/
def union (s t : LengthSet) : LengthSet where
  toList := Ascending.union s.toList t.toList
  ascending := Ascending.ascending_union s.ascending t.ascending
  fits := by
    intro x hx
    rcases (Ascending.mem_union t.ascending).1 hx with hx | hx
    · exact s.fits x hx
    · exact t.fits x hx

instance : Union LengthSet := ⟨union⟩

@[simp] theorem mem_union {s t : LengthSet} {x : Nat} : x ∈ s ∪ t ↔ x ∈ s ∨ x ∈ t :=
  Ascending.mem_union t.ascending

/-- **The union of many sets.** -/
def unionAll (ss : List LengthSet) : LengthSet where
  toList := Ascending.unionMap toList ss
  ascending := Ascending.ascending_unionMap fun s _ => s.ascending
  fits := by
    intro x hx
    obtain ⟨s, _, hx⟩ := (Ascending.mem_unionMap fun s _ => s.ascending).1 hx
    exact s.fits x hx

@[simp] theorem mem_unionAll {ss : List LengthSet} {x : Nat} :
    x ∈ unionAll ss ↔ ∃ s ∈ ss, x ∈ s :=
  Ascending.mem_unionMap fun s _ => s.ascending

end LengthSet
end WireSchema
