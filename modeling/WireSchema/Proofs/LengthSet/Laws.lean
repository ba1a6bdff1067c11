import WireSchema.Proofs.LengthSet.Outcomes

/-!
# Proofs/LengthSet/Laws — the laws of checked arithmetic on lengths

Checked operations are partial, and a law about them has two halves: the results are the same, and
so is when there is none.  Both halves follow at once where the two sides come to the same set
(`ComesTo.eq`), and for sets of naturals the laws are those of pointwise sums and of rounding up.

A chain of checked steps comes to the set of its last step, unless one of the steps before is
missing where the last one would not be.  That no element of a set on the way is above all of the
last set rules this out (`ComesTo.bind`).  It is here that sums need sets with members: the sum with
an empty set is empty, however long the lengths are that it would have been of.
-/

open scoped Pointwise

namespace WireSchema
namespace LengthSet

variable {s t u : LengthSet} {q? r? : Option LengthSet} {S T : Set Nat} {m n : Nat}

/-! ## Chains and unions of checked results -/

/-- **One checked step behind the other** comes to what the second one does, if that is nowhere
missing because of the first one alone. -/
theorem ComesTo.bind {f : LengthSet → Option LengthSet} (h : ComesTo r? S)
    (hle : ∀ x ∈ S, ∃ y ∈ T, x ≤ y) (hf : ∀ r, r.toSet = S → ComesTo (f r) T) :
    ComesTo (r?.bind f) T := by
  refine comesTo_of_mem ?_ ?_
  · intro r hr
    obtain ⟨q, hq, hfq⟩ := Option.bind_eq_some_iff.1 hr
    exact (hf q ((h q).1 hq) r).1 hfq
  · intro hlt
    have hfits : ∀ x ∈ S, x < lengthLimit := fun x hx => by
      obtain ⟨y, hy, hxy⟩ := hle x hx
      exact hxy.trans_lt (hlt y hy)
    obtain ⟨q, hq⟩ := exists_toSet_eq_iff.2 hfits
    obtain ⟨r, hr⟩ := exists_toSet_eq_iff.2 hlt
    exact ⟨r, Option.bind_eq_some_iff.2 ⟨q, (h q).2 hq, (hf q hq r).2 hr⟩⟩

theorem toSet_union (s t : LengthSet) : (s ∪ t).toSet = s.toSet ∪ t.toSet :=
  Set.ext fun _ => mem_union

theorem toSet_singleton (h : n < lengthLimit) : (singleton n h).toSet = {n} :=
  Set.ext fun _ => mem_singleton

/-- **The union of two checked results**, missing where one of them is. -/
theorem ComesTo.union (h : ComesTo q? S) (h' : ComesTo r? T) :
    ComesTo (Option.map₂ (· ∪ ·) q? r?) (S ∪ T) := by
  refine comesTo_of_mem ?_ ?_
  · intro r hr
    obtain ⟨p, q, hp, hq, rfl⟩ := Option.map₂_eq_some_iff.1 hr
    rw [toSet_union, (h p).1 hp, (h' q).1 hq]
  · intro hlt
    obtain ⟨p, hp⟩ := exists_toSet_eq_iff.2 fun x hx => hlt x (Or.inl hx)
    obtain ⟨q, hq⟩ := exists_toSet_eq_iff.2 fun x hx => hlt x (Or.inr hx)
    exact ⟨p ∪ q, Option.map₂_eq_some_iff.2 ⟨p, q, (h p).2 hp, (h' q).2 hq, rfl⟩⟩

/-! ## Sums -/

theorem add?_comm (s t : LengthSet) : s.add? t = t.add? s :=
  (comesTo_add? s t).eq (add_comm t.toSet s.toSet ▸ comesTo_add? t s)

/-- No element is above all sums with it. -/
theorem exists_le_add_right (hT : T.Nonempty) : ∀ x ∈ S, ∃ y ∈ S + T, x ≤ y := by
  obtain ⟨y, hy⟩ := hT
  exact fun x hx => ⟨x + y, ⟨x, hx, y, hy, rfl⟩, Nat.le_add_right x y⟩

theorem exists_le_add_left (hS : S.Nonempty) : ∀ y ∈ T, ∃ z ∈ S + T, y ≤ z := by
  rw [add_comm S T]
  exact exists_le_add_right hS

/-- **Sums of three sets** do not depend on where one starts, unless the first or the last set is
empty. -/
theorem add?_assoc (hs : s.toSet.Nonempty) (t : LengthSet) (hu : u.toSet.Nonempty) :
    (s.add? t).bind (·.add? u) = (t.add? u).bind (s.add? ·) := by
  have hleft : ComesTo ((s.add? t).bind (·.add? u)) (s.toSet + t.toSet + u.toSet) :=
    (comesTo_add? s t).bind (exists_le_add_right hu) fun r hr => hr ▸ comesTo_add? r u
  have hright : ComesTo ((t.add? u).bind (s.add? ·)) (s.toSet + (t.toSet + u.toSet)) :=
    (comesTo_add? t u).bind (exists_le_add_left hs) fun r hr => hr ▸ comesTo_add? s r
  exact hleft.eq (add_assoc s.toSet t.toSet u.toSet ▸ hright)

/-- The set of half the limit, twice which is too long. -/
def half : LengthSet := singleton 0x8000000000000000 (by decide)

-- With an empty set in front, the sum that starts with it is there and the other one is missing.
example : ((∅ : LengthSet).add? half).bind (·.add? half) = some ∅ ∧
    (half.add? half).bind ((∅ : LengthSet).add? ·) = none := by
  decide

theorem add?_union (s t u : LengthSet) :
    s.add? (t ∪ u) = Option.map₂ (· ∪ ·) (s.add? t) (s.add? u) := by
  have hset : s.toSet + (t ∪ u).toSet = s.toSet + t.toSet ∪ (s.toSet + u.toSet) := by
    rw [toSet_union, Set.add_union]
  exact (comesTo_add? s (t ∪ u)).eq (hset ▸ (comesTo_add? s t).union (comesTo_add? s u))

theorem union_add? (s t u : LengthSet) :
    (t ∪ u).add? s = Option.map₂ (· ∪ ·) (t.add? s) (u.add? s) := by
  rw [add?_comm, add?_union, add?_comm s t, add?_comm s u]

/-- **A shift is a sum** with the set of one number. -/
theorem shift?_eq_add? (s : LengthSet) (h : n < lengthLimit) :
    s.shift? n = s.add? (singleton n h) :=
  (comesTo_shift? s n).eq (toSet_singleton h ▸ comesTo_add? s (singleton n h))

/-! ## Padding -/

theorem alignedUp_alignedUp (S : Set Nat) (h : m ∣ n) (hn : 0 < n) :
    alignedUp (alignedUp S m) n = alignedUp S n := by
  simp only [alignedUp_eq_image, Set.image_image, roundUp_roundUp _ h hn]

theorem alignedUp_union (S T : Set Nat) (n : Nat) :
    alignedUp (S ∪ T) n = alignedUp S n ∪ alignedUp T n := by
  simp only [alignedUp_eq_image, Set.image_union]

theorem alignedUp_add (h : ∀ x ∈ S, m ∣ x) : alignedUp (S + T) m = S + alignedUp T m := by
  simp only [alignedUp_eq_image, image_roundUp_add h]

/-- No element is above all of the padded ones. -/
theorem exists_le_alignedUp (S : Set Nat) (n : Nat) : ∀ x ∈ S, ∃ y ∈ alignedUp S n, x ≤ y := by
  rw [alignedUp_eq_image]
  exact fun x hx => ⟨roundUp x n, ⟨x, hx, rfl⟩, le_roundUp x n⟩

/-- **The last of two paddings counts**, if its alignment is a multiple of the other one. -/
theorem padTo?_padTo? (s : LengthSet) (h : m ∣ n) (hn : 0 < n) :
    (s.padTo? m).bind (·.padTo? n) = s.padTo? n := by
  have hset : alignedUp (alignedUp s.toSet m) n = alignedUp s.toSet n :=
    alignedUp_alignedUp s.toSet h hn
  refine ComesTo.eq ?_ (hset ▸ comesTo_padTo? s n)
  exact (comesTo_padTo? s m).bind (exists_le_alignedUp _ n) fun r hr => hr ▸ comesTo_padTo? r n

theorem padTo?_union (s t : LengthSet) (n : Nat) :
    (s ∪ t).padTo? n = Option.map₂ (· ∪ ·) (s.padTo? n) (t.padTo? n) := by
  have hset : alignedUp (s ∪ t).toSet n = alignedUp s.toSet n ∪ alignedUp t.toSet n := by
    rw [toSet_union, alignedUp_union]
  exact (comesTo_padTo? (s ∪ t) n).eq (hset ▸ (comesTo_padTo? s n).union (comesTo_padTo? t n))

theorem isAligned_of_padTo? {r : LengthSet} (hn : 0 < n) (h : s.padTo? n = some r) :
    r.isAligned n = true := by
  refine isAligned_iff.2 (Or.inr fun z hz => ?_)
  obtain ⟨x, -, rfl⟩ := (mem_of_padTo? h).1 hz
  exact dvd_roundUp_of_pos x hn

/-- **Padding costs less than the alignment** at the greatest member. -/
theorem max?_of_padTo? {r : LengthSet} {top : Nat} (hn : 0 < n) (h : s.padTo? n = some r)
    (htop : s.max? = some top) : ∃ top', r.max? = some top' ∧ top ≤ top' ∧ top' < top + n :=
  ⟨roundUp top n, (reaches_padTo? htop n).max?_eq h, le_roundUp top n, roundUp_lt top hn⟩

theorem dvd_of_isAligned (hm : 0 < m) (h : s.isAligned m = true) : ∀ x ∈ s.toSet, m ∣ x := by
  rcases isAligned_iff.1 h with hle | hdvd
  · obtain rfl : m = 1 := Nat.le_antisymm hle hm
    exact fun x _ => one_dvd x
  · exact hdvd

/-- **What is aligned may be added before or after padding**, if it is not empty. -/
theorem add?_padTo? (hs : s.toSet.Nonempty) (hm : 0 < m) (h : s.isAligned m = true)
    (t : LengthSet) : (s.add? t).bind (·.padTo? m) = (t.padTo? m).bind (s.add? ·) := by
  have hset : alignedUp (s.toSet + t.toSet) m = s.toSet + alignedUp t.toSet m :=
    alignedUp_add (dvd_of_isAligned hm h)
  have hleft : ComesTo ((s.add? t).bind (·.padTo? m)) (alignedUp (s.toSet + t.toSet) m) :=
    (comesTo_add? s t).bind (exists_le_alignedUp _ m) fun r hr => hr ▸ comesTo_padTo? r m
  have hright : ComesTo ((t.padTo? m).bind (s.add? ·)) (s.toSet + alignedUp t.toSet m) :=
    (comesTo_padTo? t m).bind (exists_le_add_left hs) fun r hr => hr ▸ comesTo_add? s r
  exact hleft.eq (hset ▸ hright)

/-! ## All laws together -/

/-- **The laws of sums.**  The sides of each are the same set, or both of them are missing. -/
structure SumLaws (s t u : LengthSet) : Prop where
  comm : s.add? t = t.add? s
  assoc : s.toSet.Nonempty → u.toSet.Nonempty →
    (s.add? t).bind (·.add? u) = (t.add? u).bind (s.add? ·)
  add_union : s.add? (t ∪ u) = Option.map₂ (· ∪ ·) (s.add? t) (s.add? u)
  union_add : (t ∪ u).add? s = Option.map₂ (· ∪ ·) (t.add? s) (u.add? s)
  shift : ∀ n, ∀ h : n < lengthLimit, s.shift? n = s.add? (singleton n h)

/-- **The laws of padding** up to `m` and up to `n`, a multiple of it. -/
structure PaddingLaws (s t : LengthSet) (m n : Nat) : Prop where
  twice : (s.padTo? m).bind (·.padTo? n) = s.padTo? n
  again : (s.padTo? n).bind (·.padTo? n) = s.padTo? n
  union : (s ∪ t).padTo? n = Option.map₂ (· ∪ ·) (s.padTo? n) (t.padTo? n)
  aligned : ∀ r, s.padTo? n = some r → r.isAligned n = true
  greatest : ∀ r top, s.padTo? n = some r → s.max? = some top →
    ∃ top', r.max? = some top' ∧ top ≤ top' ∧ top' < top + n
  add : s.toSet.Nonempty → s.isAligned m = true →
    (s.add? t).bind (·.padTo? m) = (t.padTo? m).bind (s.add? ·)

/-- **Sums and paddings obey the laws of arithmetic, and so does what is missing.**  Sums commute,
are associative around sets with members, and distribute over unions from either side; a shift is a
sum.  Padding to a multiple absorbs padding in front of it, distributes over unions, ends at
multiples less than the alignment above, and may be put off until an aligned set is added. -/
theorem sum_and_padding_laws (s t u : LengthSet) (hmn : m ∣ n) (hn : 0 < n) :
    SumLaws s t u ∧ PaddingLaws s t m n := by
  have hsums : SumLaws s t u :=
    { comm := add?_comm s t
      assoc := fun hs hu => add?_assoc hs t hu
      add_union := add?_union s t u
      union_add := union_add? s t u
      shift := fun _ => shift?_eq_add? s }
  have hpaddings : PaddingLaws s t m n :=
    { twice := padTo?_padTo? s hmn hn
      again := padTo?_padTo? s dvd_rfl hn
      union := padTo?_union s t n
      aligned := fun _ => isAligned_of_padTo? hn
      greatest := fun _ _ => max?_of_padTo? hn
      add := fun hs h => add?_padTo? hs (Nat.pos_of_dvd_of_pos hmn hn) h t }
  exact ⟨hsums, hpaddings⟩

/-- Two lengths that are aligned to nothing. -/
def ragged : LengthSet := ⟨[5, 13], by decide, by decide⟩

theorem sum_and_padding_laws_uneven :
    uneven.toSet.Nonempty ∧ half.toSet.Nonempty ∧ uneven.isAligned 8 = true ∧
      (uneven.add? ragged).bind (·.add? half) = (ragged.add? half).bind (uneven.add? ·) ∧
      (uneven.padTo? 8).bind (·.padTo? 24) = uneven.padTo? 24 ∧
      (uneven.add? ragged).bind (·.padTo? 8) = (ragged.padTo? 8).bind (uneven.add? ·) ∧
      ((ragged.padTo? 8).bind (uneven.add? ·)).map (·.toList) = some [16, 24, 32, 40, 72, 80] := by
  have huneven : uneven.toSet.Nonempty := ⟨8, mem_toSet.2 (by decide)⟩
  have hhalf : half.toSet.Nonempty := ⟨0x8000000000000000, mem_singleton.2 rfl⟩
  have haligned : uneven.isAligned 8 = true := by decide
  obtain ⟨hsums, hpaddings⟩ :=
    sum_and_padding_laws uneven ragged half (m := 8) (n := 24) (by decide) (by decide)
  refine ⟨huneven, hhalf, haligned, hsums.assoc huneven hhalf, hpaddings.twice, ?_, by decide⟩
  exact hpaddings.add huneven haligned

end LengthSet
end WireSchema
