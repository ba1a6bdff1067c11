import WireSchema.Proofs.Name.Joined
import WireSchema.Proofs.Name.Valid
import WireSchema.Text.Blank

/-!
# Proofs/Name/Child — names with one more component

The halves of a service are named after it, with one more component at the end.  The components of
such a name are those of the service and the new one, so it may be used exactly if all components of
the service may, be they one or many (`isFull_child_iff`).

Nothing is trimmed off a name that was trimmed before, not even with a component behind it
(`trim_child`): a text is trimmed exactly at its two ends (`Text.IsTrimmed`).
-/

namespace WireSchema

/-! ## Trimmed texts -/

namespace Text

variable {cs : List Char} {c : Char}

/-- **No white space at either end.** -/
structure IsTrimmed (cs : List Char) : Prop where
  head : ∀ c, cs.head? = some c → isBlank c = false
  last : ∀ c, cs.getLast? = some c → isBlank c = false

theorem dropWhile_isBlank_eq_self (h : ∀ c, cs.head? = some c → isBlank c = false) :
    cs.dropWhile isBlank = cs := by
  cases cs with
  | nil => rfl
  | cons c rest => rw [List.dropWhile_cons_of_neg (by simp [h c rfl])]

theorem not_isBlank_of_head?_dropWhile (h : (cs.dropWhile isBlank).head? = some c) :
    isBlank c = false := by
  have hhead := List.head?_dropWhile_not isBlank cs
  rwa [h] at hhead

/-- **Nothing is left to trim** in a trimmed text. -/
theorem IsTrimmed.trimList_eq (h : IsTrimmed cs) : trimList cs = cs := by
  rw [trimList, dropWhile_isBlank_eq_self h.head, dropWhile_isBlank_eq_self, List.reverse_reverse]
  rw [List.head?_reverse]
  exact h.last

theorem isTrimmed_trimList (cs : List Char) : IsTrimmed (trimList cs) where
  head c hc := by
    -- what is left of a text from its end starts as the text does
    obtain ⟨off, hoff⟩ := List.dropWhile_suffix isBlank (l := (cs.dropWhile isBlank).reverse)
    rw [trimList, List.head?_reverse] at hc
    have hfirst : (cs.dropWhile isBlank).head? = some c := by
      rw [← List.getLast?_reverse, ← hoff, List.getLast?_append, hc, Option.some_or]
    exact not_isBlank_of_head?_dropWhile hfirst
  last c hc := by
    rw [trimList, List.getLast?_reverse] at hc
    exact not_isBlank_of_head?_dropWhile hc

theorem trim_trim (s : String) : trim (trim s) = trim s := by
  rw [trim, trim, String.toList_ofList, (isTrimmed_trimList s.toList).trimList_eq]

end Text

namespace Name

variable {name component : String}

/-! ## Components -/

/-- **A name with one more component may be used** exactly if all components of the name may, as
long as there is no bound on its length. -/
theorem isFull_child_iff (h : IsComponent component) :
    IsFull false (child name component) ↔ ∀ word ∈ components name, IsComponent word := by
  constructor
  · intro hfull
    have hwords := hfull.words
    rw [components_child h.not_mem_separator, List.forall_mem_append] at hwords
    exact hwords.1
  · intro hwords
    refine ⟨?_, nofun, ?_⟩
    · rw [toList_child]
      exact List.mem_append_right _ List.mem_cons_self
    · rw [components_child h.not_mem_separator]
      exact List.forall_mem_append.2 ⟨hwords, List.forall_mem_singleton.2 h⟩

/-! ## Trimmed names -/

theorem not_isBlank_of_isPart {c : Char} (h : isPart c = true) : Text.isBlank c = false := by
  -- what a name is made of lies between the digit zero and the letter z; white space does not
  have hbounds : '0' ≤ c ∧ c ≤ 'z' := by
    rw [isPart_iff, isStart_iff, isDigit_iff] at h
    rcases h with ((⟨hlow, hhigh⟩ | ⟨hlow, hhigh⟩) | rfl) | ⟨hlow, hhigh⟩
    · exact ⟨Char.le_trans (by decide) hlow, Char.le_trans hhigh (by decide)⟩
    · exact ⟨Char.le_trans (by decide) hlow, hhigh⟩
    · decide
    · exact ⟨hlow, Char.le_trans hhigh (by decide)⟩
  have hfirst : 48 ≤ c.toNat := hbounds.1
  have hlast : c.toNat ≤ 122 := hbounds.2
  have houtside : ∀ r ∈ Text.blankRanges, r.2 < 48 ∨ 122 < r.1 := by decide
  rw [Bool.eq_false_iff]
  intro hblank
  obtain ⟨r, hr, hmin, hmax⟩ := Text.exists_of_inRanges hblank
  rcases houtside r hr with hlow | hhigh <;> omega

/-- **A component behind a trimmed name** leaves nothing to trim. -/
theorem trim_child (h : IsComponent component) :
    Text.trim (child (Text.trim name) component) = child (Text.trim name) component := by
  have htrimmed := Text.isTrimmed_trimList name.toList
  have hends : Text.IsTrimmed (child (Text.trim name) component).toList := by
    rw [toList_child, Text.trim, String.toList_ofList]
    constructor
    · intro c hc
      rw [List.head?_append] at hc
      cases hhead : (Text.trimList name.toList).head? with
      | some first =>
        rw [hhead] at hc
        exact htrimmed.head c (hhead.trans hc)
      | none =>
        rw [hhead] at hc
        obtain rfl := Option.some.inj hc
        decide
    · intro c hc
      rw [List.getLast?_append, List.getLast?_cons, Option.some_or, ← List.getLast?_cons] at hc
      rcases List.mem_cons.1 (List.mem_of_getLast? hc) with rfl | hmem
      · decide
      · exact not_isBlank_of_isPart (h.parts c hmem)
  rw [Text.trim, hends.trimList_eq, String.ofList_toList]

end Name
end WireSchema
