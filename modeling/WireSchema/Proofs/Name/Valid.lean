import Mathlib.Tactic.SplitIfs
import WireSchema.Name.Dotted

/-!
# Proofs/Name/Valid — the names without a defect

A component may be used if it starts as one may, goes on as one may, and is not reserved, whatever
the case of its letters (`IsComponent`).  A full name may be used if it has a dot, is not too long,
and all its components may be used (`IsFull`); it is not empty then.  These are the words and names
in which no defect is found.
-/

namespace WireSchema
namespace Name

/-- **A component that may be used.** -/
structure IsComponent (word : String) : Prop where
  start : ∃ first rest, word.toList = first :: rest ∧ isStart first = true
  parts : ∀ c ∈ word.toList, isPart c = true
  free : reservation? (word.toList.map Char.toLower) = none

/-- **A full name that may be used**, with a bound on its length if `bounded` says so. -/
structure IsFull (bounded : Bool) (name : String) : Prop where
  dotted : separator ∈ name.toList
  short : bounded = true → name.length ≤ maxLength
  words : ∀ word ∈ components name, IsComponent word

/-- A component that may be used has no separator. -/
theorem IsComponent.not_mem_separator {word : String} (h : IsComponent word) :
    separator ∉ word.toList :=
  fun hmem => absurd (h.parts separator hmem) (by decide)

/-- A component starts with a letter of ASCII or an underscore. -/
theorem isStart_iff {c : Char} :
    isStart c = true ↔ ('A' ≤ c ∧ c ≤ 'Z' ∨ 'a' ≤ c ∧ c ≤ 'z') ∨ c = '_' := by
  change (decide ('A' ≤ c ∧ c ≤ 'Z') || decide ('a' ≤ c) && decide (c ≤ 'z') || c == '_') = true ↔ _
  simp only [Bool.or_eq_true, Bool.and_eq_true, decide_eq_true_eq, beq_iff_eq]

theorem isDigit_iff {c : Char} : c.isDigit = true ↔ '0' ≤ c ∧ c ≤ '9' := by
  change (decide ('0' ≤ c) && decide (c ≤ '9')) = true ↔ _
  simp only [Bool.and_eq_true, decide_eq_true_eq]

/-- A component goes on with what it may start with, or a digit. -/
theorem isPart_iff {c : Char} : isPart c = true ↔ isStart c = true ∨ c.isDigit = true := by
  simp only [isPart, isStart, Char.isAlphanum, Bool.or_eq_true]
  exact or_right_comm

theorem componentDefect?_eq_none_iff {word : String} :
    componentDefect? word = none ↔ IsComponent word := by
  rw [componentDefect?]
  split
  · next hnil =>
    refine iff_of_false nofun fun h => ?_
    obtain ⟨first, rest, hcons, -⟩ := h.start
    exact absurd (hnil.symm.trans hcons) nofun
  · next first rest hcons =>
    split_ifs with hstart
    · refine iff_of_false nofun fun h => ?_
      obtain ⟨first', rest', hcons', hfirst⟩ := h.start
      obtain ⟨rfl, rfl⟩ := List.cons.inj (hcons.symm.trans hcons')
      simp [hfirst] at hstart
    · split
      · next c hc =>
        refine iff_of_false nofun fun h => ?_
        have hpart := h.parts c (hcons ▸ List.mem_of_find?_eq_some hc)
        simpa [hpart] using List.find?_some hc
      · next hparts =>
        rw [Option.map_eq_none_iff, ← hcons]
        rw [List.find?_eq_none, ← hcons] at hparts
        constructor
        · intro hfree
          exact ⟨⟨first, rest, hcons, by simpa using hstart⟩, by simpa using hparts, hfree⟩
        · exact IsComponent.free

theorem defect?_eq_none_iff {bounded : Bool} {name : String} :
    defect? bounded name = none ↔ IsFull bounded name := by
  have hwords : (components name).findSome? componentDefect? = none ↔
      ∀ word ∈ components name, IsComponent word := by
    simp only [List.findSome?_eq_none_iff, componentDefect?_eq_none_iff]
  rw [defect?]
  split_ifs with hnil hdot hlong
  · refine iff_of_false nofun fun h => ?_
    exact absurd (hnil ▸ h.dotted) List.not_mem_nil
  · refine iff_of_false nofun fun h => ?_
    simp [h.dotted] at hdot
  · refine iff_of_false nofun fun h => ?_
    simp only [Bool.and_eq_true, decide_eq_true_eq] at hlong
    exact Nat.not_le.2 hlong.2 (h.short hlong.1)
  · rw [hwords]
    simp only [Bool.and_eq_true, decide_eq_true_eq, not_and, Nat.not_lt] at hlong
    exact ⟨fun h => ⟨by simpa using hdot, hlong, h⟩, IsFull.words⟩

end Name
end WireSchema
