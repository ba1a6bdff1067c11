import WireSchema.Proofs.LengthSet.RowsOfRows

/-!
# Proofs/LengthSet/Subsets — fewer lengths are accepted where more are

A result is **within** another if it is there whenever the other is, and has no members beyond
(`Within`).  Every checked operation on fewer members is within the one on more: a member of the
smaller result is one of the larger, and so it fits.  One step behind the other stays within
(`Within.bind`).

For rows that is not enough, as they may be refused for the grid that they are searched for on.
Dropping members moves the ends of the grid and its start, and makes it coarser or leaves it as it
is: what divides the distances between many members divides those between some of them.  So there
are no more cells, and no more steps to look back by (`exists_sumsOfAtMost?_of_coarser`).
-/

namespace WireSchema
namespace LengthSet

variable {s t s' t' : LengthSet} {q? r? : Option LengthSet} {base low count : Nat}

/-- **A result with no members beyond those of another**, which is there whenever the other is. -/
def Within (q? r? : Option LengthSet) : Prop :=
  ∀ r, r? = some r → ∃ q, q? = some q ∧ q.toSet ⊆ r.toSet

theorem within_some (h : s.toSet ⊆ t.toSet) : Within (some s) (some t) := by
  rintro _ ⟨⟩
  exact ⟨s, rfl, h⟩

/-- **One step behind the other** stays within. -/
theorem Within.bind {f g : LengthSet → Option LengthSet} (h : Within q? r?)
    (hfg : ∀ q r : LengthSet, q.toSet ⊆ r.toSet → Within (f q) (g r)) :
    Within (q?.bind f) (r?.bind g) := by
  intro z hz
  obtain ⟨r, hr, hz⟩ := Option.bind_eq_some_iff.1 hz
  obtain ⟨q, rfl, hsub⟩ := h r hr
  exact hfg q r hsub z hz

/-! ## Checked arithmetic -/

theorem within_padTo? (h : s.toSet ⊆ t.toSet) (a : Nat) : Within (s.padTo? a) (t.padTo? a) := by
  intro r hr
  have hmem : ∀ x ∈ s, roundUp x a ∈ r := fun x hx => (mem_of_padTo? hr).2 ⟨x, h hx, rfl⟩
  obtain ⟨q, hq⟩ := exists_padTo? fun x hx => lt_of_mem (hmem x hx)
  refine ⟨q, hq, fun z hz => ?_⟩
  obtain ⟨x, hx, rfl⟩ := (mem_of_padTo? hq).1 hz
  exact hmem x hx

theorem within_add? (h : s.toSet ⊆ t.toSet) (h' : s'.toSet ⊆ t'.toSet) :
    Within (s.add? s') (t.add? t') := by
  intro r hr
  have hmem : ∀ x ∈ s, ∀ y ∈ s', x + y ∈ r := fun x hx y hy =>
    (mem_of_add? hr).2 ⟨x, h hx, y, h' hy, rfl⟩
  obtain ⟨q, hq⟩ := exists_add? fun x hx y hy => lt_of_mem (hmem x hx y hy)
  refine ⟨q, hq, fun z hz => ?_⟩
  obtain ⟨x, hx, y, hy, rfl⟩ := (mem_of_add? hq).1 hz
  exact hmem x hx y hy

theorem within_shift? (h : s.toSet ⊆ t.toSet) (n : Nat) : Within (s.shift? n) (t.shift? n) := by
  intro r hr
  have hmem : ∀ x ∈ s, x + n ∈ r := fun x hx => (mem_of_shift? hr).2 ⟨x, h hx, rfl⟩
  obtain ⟨q, hq⟩ := exists_shift? fun x hx => lt_of_mem (hmem x hx)
  refine ⟨q, hq, fun z hz => ?_⟩
  obtain ⟨x, hx, rfl⟩ := (mem_of_shift? hq).1 hz
  exact hmem x hx

/-- Sets within others one by one are together within those together. -/
theorem unionAll_subset {ss ts : List LengthSet}
    (h : List.Forall₂ (fun s t => s.toSet ⊆ t.toSet) ss ts) :
    (unionAll ss).toSet ⊆ (unionAll ts).toSet := by
  intro x hx
  rw [mem_toSet, mem_unionAll] at hx ⊢
  induction h with
  | nil => exact hx
  | @cons s t _ _ hst _ ih =>
    obtain ⟨u, hu, hx⟩ := hx
    rcases List.mem_cons.1 hu with rfl | hu
    · exact ⟨t, List.mem_cons_self, hst hx⟩
    · obtain ⟨v, hv, hx⟩ := ih ⟨u, hu, hx⟩
      exact ⟨v, List.mem_cons_of_mem t hv, hx⟩

/-! ## Rows -/

/-- **Fewer and shorter steps on a coarser grid** are not refused where the others are not. -/
theorem exists_sumsOfAtMost?_of_coarser {steps steps' : List Nat} {r : LengthSet}
    {positive : ∀ x ∈ steps, 0 < x} {positive' : ∀ x ∈ steps', 0 < x}
    (hgrid : gcdOf steps ∣ gcdOf steps') (hlargest : largestStep steps' ≤ largestStep steps)
    (hlength : steps'.length ≤ steps.length) (h : sumsOfAtMost? steps positive count = some r) :
    ∃ q, sumsOfAtMost? steps' positive' count = some q := by
  by_cases hcount : count = 0
  · subst hcount
    unfold sumsOfAtMost?
    split
    · exact ⟨zero, rfl⟩
    · exact ⟨zero, if_pos rfl⟩
  · have hreach : largestStep steps' * count ≤ largestStep steps * count :=
      Nat.mul_le_mul_right count hlargest
    obtain ⟨hlt, hfillable⟩ := (exists_sumsOfAtMost?_iff hcount).1 ⟨r, h⟩
    exact (exists_sumsOfAtMost?_iff hcount).2
      ⟨hreach.trans_lt hlt, hfillable.of_coarser hgrid hreach hlength⟩

/-- Fewer members above a higher start reach no further. -/
theorem largestStep_stepsAbove_le (h : s.toSet ⊆ t.toSet) (hle : base ≤ low) :
    largestStep (stepsAbove low s) ≤ largestStep (stepsAbove base t) := by
  cases hmax : s.max? with
  | none =>
    obtain rfl := max?_eq_none_iff.1 hmax
    exact Nat.zero_le _
  | some top =>
    have hmem : top ∈ t := h (mem_of_max? hmax)
    obtain ⟨last, hlast⟩ := exists_max? hmem
    rw [largestStep_stepsAbove hmax, largestStep_stepsAbove hlast]
    exact tsub_le_tsub (le_of_max? hlast hmem) hle

/-- **Rows of values with fewer lengths** are within the rows of as many others. -/
theorem within_replicate? (h : s.toSet ⊆ t.toSet) (count : Nat) :
    Within (s.replicate? count) (t.replicate? count) := by
  intro r hr
  obtain ⟨q, hq⟩ : ∃ q, s.replicate? count = some q := by
    refine exists_replicate?_of_ends fun low top hlow htop hcount => ?_
    have hlowMem : low ∈ t := h (mem_of_min? hlow)
    have htopMem : top ∈ t := h (mem_of_max? htop)
    obtain ⟨base, hbase⟩ := exists_min? hlowMem
    obtain ⟨last, hlast⟩ := exists_max? htopMem
    obtain ⟨hlt, hfillable⟩ := (exists_replicate?_iff hbase hlast hcount).1 ⟨r, hr⟩
    have hle : base ≤ low := le_of_min? hbase hlowMem
    refine ⟨(Nat.mul_le_mul_right count (le_of_max? hlast htopMem)).trans_lt hlt, ?_⟩
    exact hfillable.of_coarser (gcdOf_stepsAbove_dvd h hle (gcdOf_stepsAbove_dvd_sub base hlowMem))
      (Nat.mul_le_mul_right count (largestStep_stepsAbove_le h hle)) (length_stepsAbove_le h hle)
  refine ⟨q, hq, ?_⟩
  rw [toSet_of_replicate? hq, toSet_of_replicate? hr]
  exact rowSums_mono h count

/-- **Rows of at most so many values with fewer lengths** are within the rows of others. -/
theorem within_replicateUpTo? (h : s.toSet ⊆ t.toSet) (count : Nat) :
    Within (s.replicateUpTo? count) (t.replicateUpTo? count) := by
  intro r hr
  obtain ⟨q, hq⟩ : ∃ q, s.replicateUpTo? count = some q := by
    rw [replicateUpTo?_eq] at hr ⊢
    refine exists_sumsOfAtMost?_of_coarser ?_ (largestStep_stepsAbove_le h le_rfl)
      (length_stepsAbove_le h le_rfl) hr
    exact gcdOf_stepsAbove_dvd h le_rfl (dvd_zero _)
  refine ⟨q, hq, fun z hz => ?_⟩
  obtain ⟨k, hk, hz⟩ := (mem_of_replicateUpTo? hq).1 hz
  exact (mem_of_replicateUpTo? hr).2 ⟨k, hk, rowSums_mono h k hz⟩

end LengthSet
end WireSchema
