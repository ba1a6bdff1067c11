import WireSchema.Bits.RoundUp
import WireSchema.Fault
import WireSchema.LengthSet.Basic

/-!
# LengthSet/Arithmetic — sums, shifts and padding, with and without a check

Three operations move the members of a set upwards: the pointwise sum `add`, "this, then that"; the
shift by a fixed width, for a tag or a header in front; and padding, which rounds every member up to
an alignment.  Each comes in three forms.

* `add?`, `shift?` and `padTo?` are **checked**: they look at the largest members first, and are
  `none` where the largest result does not fit.
* `addEach?`, `shiftEach?` and `padEach?` are checked **from member to member**: they are `none` at
  the first result that does not fit, and take no short cut.
* `add`, `shift` and `padTo` are asked for **without a check**: they go from member to member, and
  fault at a result that does not fit.  So does `shiftInPlace`, unless there is nothing to shift by.

The members of a result are described once for each checked form (`mem_of_add?`, `mem_of_shift?`,
`mem_of_padTo?`).
-/

namespace WireSchema
namespace LengthSet

/-! ## The unbounded results -/

/-- **The pointwise sum** of two sets whose sums all fit. -/
def sumOf (s t : LengthSet) (h : ∀ x ∈ s, ∀ y ∈ t, x + y < lengthLimit) : LengthSet where
  toList := Ascending.sums s.toList t.toList
  ascending := Ascending.ascending_sums s.ascending t.ascending
  fits := by
    intro z hz
    obtain ⟨x, hx, y, hy, rfl⟩ := (Ascending.mem_sums s.ascending t.ascending).1 hz
    exact h x hx y hy

@[simp] theorem mem_sumOf {s t : LengthSet} {h : ∀ x ∈ s, ∀ y ∈ t, x + y < lengthLimit} {z : Nat} :
    z ∈ sumOf s t h ↔ ∃ x ∈ s, ∃ y ∈ t, x + y = z :=
  Ascending.mem_sums s.ascending t.ascending

/-- **The shift** by `n` of a set whose shifted members all fit. -/
def shiftOf (s : LengthSet) (n : Nat) (h : ∀ x ∈ s, x + n < lengthLimit) : LengthSet where
  toList := s.toList.map (· + n)
  ascending := Ascending.ascending_add_right n s.ascending
  fits := by
    intro z hz
    obtain ⟨x, hx, rfl⟩ := List.mem_map.1 hz
    exact h x hx

@[simp] theorem mem_shiftOf {s : LengthSet} {n : Nat} {h : ∀ x ∈ s, x + n < lengthLimit} {z : Nat} :
    z ∈ shiftOf s n h ↔ ∃ x ∈ s, x + n = z :=
  List.mem_map

/-- **The padding** up to the alignment `a` of a set whose padded members all fit. -/
def padOf (s : LengthSet) (a : Nat) (h : ∀ x ∈ s, roundUp x a < lengthLimit) : LengthSet where
  toList := Ascending.collapse (s.toList.map (roundUp · a))
  ascending :=
    Ascending.ascending_collapse
      (List.pairwise_map.2 (s.ascending.imp fun h => roundUp_le_roundUp a (Nat.le_of_lt h)))
  fits := by
    intro z hz
    obtain ⟨x, hx, rfl⟩ := List.mem_map.1 (Ascending.mem_collapse.1 hz)
    exact h x hx

@[simp] theorem mem_padOf {s : LengthSet} {a : Nat} {h : ∀ x ∈ s, roundUp x a < lengthLimit}
    {z : Nat} : z ∈ padOf s a h ↔ ∃ x ∈ s, roundUp x a = z :=
  Ascending.mem_collapse.trans List.mem_map

/-! ## Checked forms -/

/-- **The pointwise sum**, if the sum of the largest members fits. -/
def add? (s t : LengthSet) : Option LengthSet :=
  match hs : s.max?, ht : t.max? with
  | some x, some y =>
    if h : x + y < lengthLimit then
      some (sumOf s t fun _ ha _ hb =>
        Nat.lt_of_le_of_lt (Nat.add_le_add (le_of_max? hs ha) (le_of_max? ht hb)) h)
    else none
  | _, _ => some ∅

/-- **The shift** by `n`, if the largest member shifted fits. -/
def shift? (s : LengthSet) (n : Nat) : Option LengthSet :=
  match hs : s.max? with
  | some x =>
    if h : x + n < lengthLimit then
      some (shiftOf s n fun _ ha =>
        Nat.lt_of_le_of_lt (Nat.add_le_add_right (le_of_max? hs ha) n) h)
    else none
  | none => some ∅

/-- **The padding** up to the alignment `a`, if the largest member padded fits.  A set that is
aligned already stays as it is. -/
def padTo? (s : LengthSet) (a : Nat) : Option LengthSet :=
  if s.isAligned a then some s
  else
    match hs : s.max? with
    | some x =>
      if h : roundUp x a < lengthLimit then
        some (padOf s a fun _ hb => Nat.lt_of_le_of_lt (roundUp_le_roundUp a (le_of_max? hs hb)) h)
      else none
    | none => some ∅

theorem mem_of_add? {s t r : LengthSet} (h : s.add? t = some r) {z : Nat} :
    z ∈ r ↔ ∃ x ∈ s, ∃ y ∈ t, x + y = z := by
  unfold add? at h
  split at h
  · split at h
    · obtain rfl := Option.some.inj h
      exact mem_sumOf
    · simp at h
  · next hnone =>
    obtain rfl := Option.some.inj h
    cases hs : s.max? with
    | none =>
      obtain rfl := max?_eq_none_iff.1 hs
      simp
    | some x =>
      cases ht : t.max? with
      | none =>
        obtain rfl := max?_eq_none_iff.1 ht
        simp
      | some y => exact absurd ht (hnone x y hs)

theorem mem_of_shift? {s r : LengthSet} {n : Nat} (h : s.shift? n = some r) {z : Nat} :
    z ∈ r ↔ ∃ x ∈ s, x + n = z := by
  unfold shift? at h
  split at h
  · split at h
    · obtain rfl := Option.some.inj h
      exact mem_shiftOf
    · simp at h
  · next hs =>
    obtain rfl := Option.some.inj h
    obtain rfl := max?_eq_none_iff.1 hs
    simp

theorem mem_of_padTo? {s r : LengthSet} {a : Nat} (h : s.padTo? a = some r) {z : Nat} :
    z ∈ r ↔ ∃ x ∈ s, roundUp x a = z := by
  unfold padTo? at h
  split at h
  · next haligned =>
    obtain rfl := Option.some.inj h
    have hfix : ∀ x ∈ s, roundUp x a = x := by
      intro x hx
      rcases isAligned_iff.1 haligned with ha | ha
      · have : a = 0 ∨ a = 1 := by omega
        rcases this with rfl | rfl <;> simp
      · exact roundUp_eq_self (ha x hx)
    constructor
    · exact fun hz => ⟨z, hz, hfix z hz⟩
    · rintro ⟨x, hx, rfl⟩
      rwa [hfix x hx]
  · split at h
    · split at h
      · obtain rfl := Option.some.inj h
        exact mem_padOf
      · simp at h
    · next hs =>
      obtain rfl := Option.some.inj h
      obtain rfl := max?_eq_none_iff.1 hs
      simp

/-! ## From member to member -/

/-- **The pointwise sum** of two sets, pair by pair, unless one of the sums does not fit. -/
def addEach? (s t : LengthSet) : Option LengthSet :=
  ofList? (s.toList.flatMap fun x => t.toList.map (x + ·))

/-- **The shift** of a set member by member, unless one of the results does not fit. -/
def shiftEach? (s : LengthSet) (n : Nat) : Option LengthSet := ofList? (s.toList.map (· + n))

/-- **The padding** of a set member by member, aligned or not, unless one of the results does not
fit. -/
def padEach? (s : LengthSet) (a : Nat) : Option LengthSet := ofList? (s.toList.map (roundUp · a))

/-! ## Forms without a check -/

/-- Whether every sum of a member of `s` and a member of `t` fits. -/
def sumsFit (s t : LengthSet) : Bool :=
  s.toList.all fun x => t.toList.all fun y => x + y < lengthLimit

theorem sumsFit_iff {s t : LengthSet} :
    s.sumsFit t = true ↔ ∀ x ∈ s, ∀ y ∈ t, x + y < lengthLimit := by
  simp [sumsFit, mem_toList]

/-- **The pointwise sum**, with a fault at the first sum that does not fit. -/
def add (s t : LengthSet) : Except Fault LengthSet :=
  if h : s.sumsFit t = true then .ok (sumOf s t (sumsFit_iff.1 h)) else .error .sum

/-- Whether every member of `s` shifted by `n` fits. -/
def shiftsFit (s : LengthSet) (n : Nat) : Bool := s.toList.all (· + n < lengthLimit)

theorem shiftsFit_iff {s : LengthSet} {n : Nat} :
    s.shiftsFit n = true ↔ ∀ x ∈ s, x + n < lengthLimit := by
  simp [shiftsFit, mem_toList]

/-- **The shift** by `n`, with a fault at the first member that does not fit. -/
def shift (s : LengthSet) (n : Nat) : Except Fault LengthSet :=
  if h : s.shiftsFit n = true then .ok (shiftOf s n (shiftsFit_iff.1 h)) else .error .sum

/-- **The shift in place**, which leaves the set as it is where there is nothing to shift by. -/
def shiftInPlace (s : LengthSet) (n : Nat) : Except Fault LengthSet :=
  if n = 0 then .ok s else s.shift n

/-- Whether every member of `s` padded up to `a` fits. -/
def padsFit (s : LengthSet) (a : Nat) : Bool := s.toList.all (roundUp · a < lengthLimit)

theorem padsFit_iff {s : LengthSet} {a : Nat} :
    s.padsFit a = true ↔ ∀ x ∈ s, roundUp x a < lengthLimit := by
  simp [padsFit, mem_toList]

/-- **The padding** up to the alignment `a`, with a fault at the first member that does not fit.  A
set that is aligned already stays as it is. -/
def padTo (s : LengthSet) (a : Nat) : Except Fault LengthSet :=
  if s.isAligned a then .ok s
  else if h : s.padsFit a = true then .ok (padOf s a (padsFit_iff.1 h)) else .error .sum

end LengthSet
end WireSchema
