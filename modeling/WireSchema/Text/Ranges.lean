/-!
# Text/Ranges — classes of characters as ranges of code points

A class of characters is given by an ascending list of disjoint ranges, each by its first and its
last code point.
-/

namespace WireSchema.Text

/-- **Whether a code point lies in one of the ranges**, which ascend. -/
def inRanges : List (Nat × Nat) → Nat → Bool
  | [], _ => false
  | (first, last) :: rest, n => if n < first then false else n ≤ last || inRanges rest n

theorem exists_of_inRanges {ranges : List (Nat × Nat)} {n : Nat} (h : inRanges ranges n = true) :
    ∃ r ∈ ranges, r.1 ≤ n ∧ n ≤ r.2 := by
  induction ranges with
  | nil => simp [inRanges] at h
  | cons r rest ih =>
    obtain ⟨first, last⟩ := r
    unfold inRanges at h
    split at h
    · simp at h
    · rcases Bool.or_eq_true _ _ ▸ h with hn | hrest
      · exact ⟨(first, last), List.mem_cons_self, by omega, by simpa using hn⟩
      · obtain ⟨r, hr, hn⟩ := ih hrest
        exact ⟨r, List.mem_cons_of_mem _ hr, hn⟩

end WireSchema.Text
