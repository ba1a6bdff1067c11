import Mathlib.Data.Set.Basic
import Mathlib.Tactic.Ring

/-!
# Proofs/LengthSet/RowSums — the sums of so many members of a set

`rowSums L k` is the `k`-fold pointwise sum of `L` over the unbounded naturals: what `k` values in a
row measure together if the lengths of one are in `L`, or what a list of `k` members adds up to
(`mem_rowSums_iff_exists_list`).  Two theorems bring such sums down to something that can be
searched:

* `mem_rowSums_scale` — the sums of multiples of `g` are the multiples by `g` of the sums of the
  quotients, so it is enough to look at the grid of `g`.
* `mem_rowSums_iff_above` — `k` members are `k` times the smallest one and at most `k` steps above
  it.  The other members are the steps, so "exactly `k`" has become "at most `k`".
-/

namespace WireSchema

variable {L M : Set Nat} {k n : Nat}

/-- **The sums of `k` members** of `L`, each as often as wanted. -/
def rowSums (L : Set Nat) : Nat → Set Nat
  | 0 => {0}
  | k + 1 => {n | ∃ x ∈ L, ∃ y ∈ rowSums L k, x + y = n}

@[simp] theorem mem_rowSums_zero : n ∈ rowSums L 0 ↔ n = 0 := Iff.rfl

theorem mem_rowSums_succ :
    n ∈ rowSums L (k + 1) ↔ ∃ x ∈ L, ∃ y ∈ rowSums L k, x + y = n := Iff.rfl

/-- **A sum of `k` members** is what a list of `k` members adds up to. -/
theorem mem_rowSums_iff_exists_list : ∀ {k n : Nat}, n ∈ rowSums L k ↔
    ∃ xs : List Nat, xs.length = k ∧ (∀ x ∈ xs, x ∈ L) ∧ xs.sum = n
  | 0, n => by
      constructor
      · rintro rfl
        exact ⟨[], rfl, List.forall_mem_nil _, rfl⟩
      · rintro ⟨xs, hlen, -, rfl⟩
        rw [List.length_eq_zero_iff.1 hlen]
        rfl
  | k + 1, n => by
      constructor
      · rintro ⟨x, hx, y, hy, rfl⟩
        obtain ⟨xs, rfl, hmem, rfl⟩ := mem_rowSums_iff_exists_list.1 hy
        exact ⟨x :: xs, rfl, List.forall_mem_cons.2 ⟨hx, hmem⟩, List.sum_cons⟩
      · rintro ⟨xs, hlen, hmem, rfl⟩
        obtain ⟨x, xs, rfl⟩ := List.exists_cons_of_length_eq_add_one hlen
        obtain ⟨hx, hmem⟩ := List.forall_mem_cons.1 hmem
        refine ⟨x, hx, xs.sum, mem_rowSums_iff_exists_list.2 ⟨xs, ?_, hmem, rfl⟩, ?_⟩
        · exact Nat.succ.inj hlen
        · exact List.sum_cons.symm

theorem rowSums_mono (h : L ⊆ M) : ∀ k, rowSums L k ⊆ rowSums M k
  | 0 => subset_rfl
  | k + 1 => by
      rintro n ⟨x, hx, y, hy, rfl⟩
      exact ⟨x, h hx, y, rowSums_mono h k hy, rfl⟩

/-- A common divisor of the members divides every sum. -/
theorem dvd_of_mem_rowSums {g : Nat} (h : ∀ x ∈ L, g ∣ x) : ∀ {k n}, n ∈ rowSums L k → g ∣ n
  | 0, _, hn => by
      rw [mem_rowSums_zero.1 hn]
      exact dvd_zero g
  | k + 1, _, ⟨x, hx, _, hy, hxy⟩ => hxy ▸ Nat.dvd_add (h x hx) (dvd_of_mem_rowSums h hy)

/-- The largest sum is so many times the largest member. -/
theorem le_of_mem_rowSums {top : Nat} (h : ∀ x ∈ L, x ≤ top) :
    ∀ {k n}, n ∈ rowSums L k → n ≤ top * k
  | 0, _, hn => (mem_rowSums_zero.1 hn).le
  | k + 1, _, ⟨x, hx, y, hy, hxy⟩ => by
      have hrest : y ≤ top * k := le_of_mem_rowSums h hy
      have hone : x ≤ top := h x hx
      rw [Nat.mul_succ]
      omega

/-- Positive members take at least one each. -/
theorem le_of_mem_rowSums_of_pos (h : ∀ x ∈ L, 0 < x) : ∀ {k n}, n ∈ rowSums L k → k ≤ n
  | 0, n, _ => Nat.zero_le n
  | k + 1, _, ⟨x, hx, y, hy, hxy⟩ => by
      have hrest : k ≤ y := le_of_mem_rowSums_of_pos h hy
      have hone : 0 < x := h x hx
      omega

/-- So many times one member is a sum. -/
theorem mul_mem_rowSums {x : Nat} (hx : x ∈ L) : ∀ k, x * k ∈ rowSums L k
  | 0 => rfl
  | k + 1 => ⟨x, hx, x * k, mul_mem_rowSums hx k, by ring⟩

/-! ## Sums on a grid -/

/-- **Sums on a grid**: if `g` divides every member, a multiple of `g` is a sum of members exactly
if its quotient is a sum of quotients. -/
theorem mem_rowSums_scale {g : Nat} (hg : 0 < g) (h : ∀ x ∈ L, g ∣ x) :
    ∀ {k n}, n ∈ rowSums {q | q * g ∈ L} k ↔ n * g ∈ rowSums L k
  | 0, n => by
      rw [mem_rowSums_zero, mem_rowSums_zero, Nat.mul_eq_zero]
      omega
  | k + 1, n => by
      constructor
      · rintro ⟨x, hx, y, hy, rfl⟩
        exact ⟨x * g, hx, y * g, (mem_rowSums_scale hg h).1 hy, (Nat.add_mul x y g).symm⟩
      · rintro ⟨x, hx, y, hy, hxy⟩
        obtain ⟨a, rfl⟩ := h x hx
        obtain ⟨b, rfl⟩ := dvd_of_mem_rowSums h hy
        rw [Nat.mul_comm g b] at hy
        refine ⟨a, ?_, b, (mem_rowSums_scale hg h).2 hy, ?_⟩
        · change a * g ∈ L
          rwa [Nat.mul_comm a g]
        · refine Nat.eq_of_mul_eq_mul_left hg ?_
          rw [Nat.mul_add, hxy, Nat.mul_comm]

/-! ## Steps above a member -/

/-- How far the other members of `L` lie above `low`. -/
def above (low : Nat) (L : Set Nat) : Set Nat := {x | 0 < x ∧ low + x ∈ L}

/-- A sum of `k` members, none below `low`, takes at most `k` steps above `k` times `low`: one for
each member that is not `low` itself. -/
theorem exists_of_mem_rowSums {low : Nat} (h : ∀ x ∈ L, low ≤ x) :
    ∀ {k n}, n ∈ rowSums L k → ∃ m ≤ k, ∃ y ∈ rowSums (above low L) m, y + low * k = n
  | 0, _, hn => ⟨0, le_rfl, 0, rfl, by rw [mem_rowSums_zero.1 hn, Nat.mul_zero]⟩
  | k + 1, _, ⟨x, hx, y, hy, hxy⟩ => by
      obtain ⟨m, hm, z, hz, rfl⟩ := exists_of_mem_rowSums h hy
      have hlow : low ≤ x := h x hx
      rcases Nat.eq_or_lt_of_le hlow with rfl | hlt
      · exact ⟨m, Nat.le_succ_of_le hm, z, hz, by rw [← hxy]; ring⟩
      · have hstep : x - low ∈ above low L :=
          ⟨Nat.sub_pos_of_lt hlt, by rwa [Nat.add_sub_cancel' hlow]⟩
        refine ⟨m + 1, Nat.succ_le_succ hm, x - low + z, ⟨_, hstep, z, hz, rfl⟩, ?_⟩
        rw [Nat.mul_succ]
        omega

/-- …and conversely, where `low` is a member, the places that take no step are filled with it. -/
theorem add_mem_rowSums {low : Nat} (hlow : low ∈ L) :
    ∀ {k m y}, m ≤ k → y ∈ rowSums (above low L) m → y + low * k ∈ rowSums L k
  | k, 0, y, _, hy => by
      rw [mem_rowSums_zero.1 hy, Nat.zero_add]
      exact mul_mem_rowSums hlow k
  | k + 1, m + 1, y, hm, ⟨x, hx, z, hz, hxz⟩ =>
      ⟨low + x, hx.2, z + low * k, add_mem_rowSums hlow (Nat.le_of_succ_le_succ hm) hz, by
        rw [← hxz]; ring⟩

/-- **The sums of `k` members are at most `k` steps** above `k` times the smallest member. -/
theorem mem_rowSums_iff_above {low : Nat} (hlow : low ∈ L) (h : ∀ x ∈ L, low ≤ x) :
    n ∈ rowSums L k ↔ ∃ m ≤ k, ∃ y ∈ rowSums (above low L) m, y + low * k = n := by
  constructor
  · exact exists_of_mem_rowSums h
  · rintro ⟨m, hm, y, hy, rfl⟩
    exact add_mem_rowSums hlow hm hy

/-- **Members that are zero are no steps**: the sums of at most `k` members are those of at most `k`
positive ones. -/
theorem exists_mem_rowSums_iff_above_zero :
    (∃ m ≤ k, n ∈ rowSums (above 0 L) m) ↔ ∃ m ≤ k, n ∈ rowSums L m := by
  constructor
  · rintro ⟨m, hm, hn⟩
    refine ⟨m, hm, rowSums_mono (fun x hx => ?_) m hn⟩
    rw [← Nat.zero_add x]
    exact hx.2
  · rintro ⟨m, hm, hn⟩
    obtain ⟨j, hj, y, hy, rfl⟩ := exists_of_mem_rowSums (fun x _ => Nat.zero_le x) hn
    refine ⟨j, hj.trans hm, ?_⟩
    rwa [Nat.zero_mul, Nat.add_zero]

end WireSchema
