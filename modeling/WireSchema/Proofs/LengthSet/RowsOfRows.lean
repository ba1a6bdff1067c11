import WireSchema.Proofs.LengthSet.Grids

/-!
# Proofs/LengthSet/RowsOfRows — rows that are put together from rows

In unbounded arithmetic there is nothing to say: sums of sums are sums, so that rows of `m` and of
`n` values one behind the other are a row of `m + n` (`rowSums_add`), and `n` rows of `m` values are
a row of `m * n` (`rowSums_rowSums`).  What is to be seen is which of them are refused, as each is
searched for on a grid of its own.

* A row of `m * n` values is not refused where `n` rows of `m` are not (`replicate?_replicate?`).
  The lengths of a row lie on the grid of the lengths of its values, no finer and no coarser
  (`gcdOf_stepsAbove_of_replicate?`), and up to the same end; and there are no fewer of them, so
  that the search over the single values takes no more looks.
* The parts of a row that is not refused are not refused, and their sum is the row
  (`add?_of_replicate?_add`).
-/

open scoped Pointwise

namespace WireSchema

variable {L : Set Nat}

/-- **A sum of `m + n` members** is a sum of `m` and a sum of `n`. -/
theorem rowSums_add (n : Nat) : ∀ m, rowSums L (m + n) = rowSums L m + rowSums L n
  | 0 => by
      rw [Nat.zero_add]
      exact (zero_add (rowSums L n)).symm
  | m + 1 => by
      rw [Nat.add_right_comm]
      calc L + rowSums L (m + n)
          = L + (rowSums L m + rowSums L n) := by rw [rowSums_add n m]
        _ = L + rowSums L m + rowSums L n := (add_assoc _ _ _).symm

/-- **A sum of `n` sums of `m` members** is a sum of `m * n` members. -/
theorem rowSums_rowSums (m : Nat) : ∀ n, rowSums (rowSums L m) n = rowSums L (m * n)
  | 0 => rfl
  | n + 1 =>
      calc rowSums L m + rowSums (rowSums L m) n
          = rowSums L m + rowSums L (m * n) := by rw [rowSums_rowSums m n]
        _ = rowSums L (m + m * n) := (rowSums_add (m * n) m).symm
        _ = rowSums L (m * (n + 1)) := by rw [Nat.mul_succ, Nat.add_comm]

namespace LengthSet

variable {s r q : LengthSet} {low top m n : Nat}

theorem toSet_of_replicate? (h : s.replicate? m = some r) : r.toSet = rowSums s.toSet m :=
  Set.ext fun _ => mem_of_replicate? h

/-! ## A row as a set of its own -/

/-- The shortest row is so many of the shortest value. -/
theorem min?_of_replicate? (hlow : s.min? = some low) (h : s.replicate? m = some r) :
    r.min? = some (low * m) := by
  have hmem : low * m ∈ r := (mem_of_replicate? h).2 (mul_mem_rowSums (mem_of_min? hlow) m)
  obtain ⟨least, hleast⟩ := exists_min? hmem
  obtain ⟨k, -, y, -, heq⟩ := (mem_rowSums_iff_above (L := s.toSet) (mem_of_min? hlow)
    fun x hx => le_of_min? hlow hx).1 ((mem_of_replicate? h).1 (mem_of_min? hleast))
  have hle : least ≤ low * m := le_of_min? hleast hmem
  rw [hleast, Nat.le_antisymm hle (by omega)]

/-- The longest row is so many of the longest value. -/
theorem max?_of_replicate? (htop : s.max? = some top) (h : s.replicate? m = some r) :
    r.max? = some (top * m) := by
  rw [max?_eq_some_iff, toSet_of_replicate? h]
  exact ⟨mul_mem_rowSums (mem_of_max? htop) m,
    fun _ hz => le_of_mem_rowSums (fun _ hx => le_of_max? htop hx) hz⟩

/-- The shortest row of at most so many values has none. -/
theorem min?_of_replicateUpTo? (h : s.replicateUpTo? m = some r) : r.min? = some 0 :=
  min?_eq_some_iff.2
    ⟨(mem_of_replicateUpTo? h).2 ⟨0, Nat.zero_le m, rfl⟩, fun z _ => Nat.zero_le z⟩

/-- The longest row of at most so many values has all of them. -/
theorem max?_of_replicateUpTo? (htop : s.max? = some top) (h : s.replicateUpTo? m = some r) :
    r.max? = some (top * m) := by
  have hmem : top * m ∈ r :=
    (mem_of_replicateUpTo? h).2 ⟨m, le_rfl, mul_mem_rowSums (mem_of_max? htop) m⟩
  refine max?_eq_some_iff.2 ⟨hmem, fun z hz => ?_⟩
  obtain ⟨k, hk, hz⟩ := (mem_of_replicateUpTo? h).1 hz
  have hle : z ≤ top * k := le_of_mem_rowSums (fun _ hx => le_of_max? htop hx) hz
  exact hle.trans (Nat.mul_le_mul_left top hk)

/-- Each step above the shortest value leads from the shortest row to a row. -/
theorem stepsAbove_subset_of_replicate? (hlow : s.min? = some low) (hm : m ≠ 0)
    (h : s.replicate? m = some r) : stepsAbove low s ⊆ stepsAbove (low * m) r := by
  intro x hx
  obtain ⟨k, rfl⟩ := Nat.exists_eq_succ_of_ne_zero hm
  obtain ⟨hpos, hmem⟩ := mem_stepsAbove.1 hx
  refine mem_stepsAbove.2 ⟨hpos, (mem_of_replicate? h).2 ⟨low + x, hmem, low * k, ?_, ?_⟩⟩
  · exact mul_mem_rowSums (mem_of_min? hlow) k
  · rw [Nat.mul_succ]
    omega

/-- **A row lies on the grid of its values.** -/
theorem gcdOf_stepsAbove_of_replicate? (hlow : s.min? = some low) (hm : m ≠ 0)
    (h : s.replicate? m = some r) :
    gcdOf (stepsAbove (low * m) r) = gcdOf (stepsAbove low s) := by
  refine Nat.dvd_antisymm ?_ ?_
  · exact dvd_gcdOf fun x hx => gcdOf_dvd (stepsAbove_subset_of_replicate? hlow hm h hx)
  · refine dvd_gcdOf fun x hx => ?_
    obtain ⟨k, -, y, hy, heq⟩ := (mem_rowSums_iff_above (L := s.toSet) (mem_of_min? hlow)
      fun x hx => le_of_min? hlow hx).1 ((mem_of_replicate? h).1 (mem_stepsAbove.1 hx).2)
    obtain rfl : y = x := by omega
    rw [← setOf_stepsAbove] at hy
    exact dvd_of_mem_rowSums (fun _ hs => gcdOf_dvd hs) hy

/-- There are no fewer rows than values. -/
theorem length_stepsAbove_le_of_replicate? (hlow : s.min? = some low) (hm : m ≠ 0)
    (h : s.replicate? m = some r) :
    (stepsAbove low s).length ≤ (stepsAbove (low * m) r).length := by
  have hnodup : (stepsAbove low s).Nodup := ascending_stepsAbove.imp Nat.ne_of_lt
  exact (hnodup.subperm (stepsAbove_subset_of_replicate? hlow hm h)).length_le

/-! ## Rows of rows, and rows one behind the other -/

/-- **Where rows of rows are not refused**, the row of all their values is not. -/
theorem exists_replicate?_mul (h : s.replicate? m = some r) (h' : r.replicate? n = some q) :
    ∃ p, s.replicate? (m * n) = some p := by
  refine exists_replicate?_of_ends fun low top hlow htop hmn => ?_
  obtain ⟨hm, hn⟩ := Nat.mul_ne_zero_iff.1 hmn
  have hrtop := max?_of_replicate? htop h
  obtain ⟨hlt, hfillable⟩ :=
    (exists_replicate?_iff (min?_of_replicate? hlow h) hrtop hn).1 ⟨q, h'⟩
  refine ⟨(Nat.mul_assoc top m n) ▸ hlt, ?_⟩
  refine hfillable.of_coarser (gcdOf_stepsAbove_of_replicate? hlow hm h).dvd (Nat.le_of_eq ?_)
    (length_stepsAbove_le_of_replicate? hlow hm h)
  rw [largestStep_stepsAbove htop, largestStep_stepsAbove hrtop, ← Nat.mul_assoc, Nat.sub_mul]

/-- **Rows of rows are rows.** -/
theorem replicate?_replicate? (h : s.replicate? m = some r) (h' : r.replicate? n = some q) :
    s.replicate? (m * n) = some q := by
  obtain ⟨p, hp⟩ := exists_replicate?_mul h h'
  have hset : p.toSet = q.toSet :=
    calc p.toSet = rowSums s.toSet (m * n) := toSet_of_replicate? hp
      _ = rowSums (rowSums s.toSet m) n := (rowSums_rowSums m n).symm
      _ = q.toSet := by rw [← toSet_of_replicate? h, toSet_of_replicate? h']
  rw [hp, toSet_inj.1 hset]

/-- **A row is its front with its back behind**, neither of which is refused if it is not. -/
theorem add?_of_replicate?_add (h : s.replicate? (m + n) = some q) :
    ∃ front back, s.replicate? m = some front ∧ s.replicate? n = some back ∧
      front.add? back = some q := by
  obtain ⟨front, hfront⟩ := exists_replicate?_of_le h (Nat.le_add_right m n)
  obtain ⟨back, hback⟩ := exists_replicate?_of_le h (Nat.le_add_left n m)
  have hset : q.toSet = front.toSet + back.toSet := by
    rw [toSet_of_replicate? h, rowSums_add, ← toSet_of_replicate? hfront,
      ← toSet_of_replicate? hback]
  obtain ⟨row, hrow⟩ := exists_add? (s := front) (t := back) fun x hx y hy =>
    lt_of_mem (hset.superset ⟨x, hx, y, hy, rfl⟩)
  have hsum : row.toSet = front.toSet + back.toSet := Set.ext fun _ => mem_of_add? hrow
  rw [toSet_inj.1 (hsum.trans hset.symm)] at hrow
  exact ⟨front, back, hfront, hback, hrow⟩

end LengthSet
end WireSchema
