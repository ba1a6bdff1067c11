import Mathlib.Computability.Language
import WireSchema.Proofs.Name.Joined
import WireSchema.Proofs.Name.Valid

/-!
# Proofs/Name/Grammar — the grammar of names

What a component of a name may be is said once more, by languages: an `identifier` of ASCII letters,
digits and underscores, which in small letters is not a `reservedWord`.  These are the components that
may be used (`isComponent_iff_isAllowed`), and the names of definitions that may be used are rows of
at least two of them with single dots between them (`isFull_iff_isRow`).
-/

namespace WireSchema
namespace Name

open Computability

variable {cs : List Char} {p q : Char → Prop} {words : List String}

/-! ## Languages -/

/-- **The words of a single character** of the class. -/
def oneOf (p : Char → Prop) : Language Char := {cs | ∃ c, p c ∧ cs = [c]}

/-- **The given words.** -/
def anyOf (words : List String) : Language Char := {cs | ∃ word ∈ words, word.toList = cs}

theorem mem_oneOf : cs ∈ oneOf p ↔ ∃ c, p c ∧ cs = [c] := Iff.rfl

theorem mem_anyOf : cs ∈ anyOf words ↔ ∃ word ∈ words, word.toList = cs := Iff.rfl

theorem oneOf_add (p q : Char → Prop) : oneOf p + oneOf q = oneOf fun c => p c ∨ q c := by
  refine Language.ext fun cs => ?_
  simp only [Language.mem_add, mem_oneOf, or_and_right, exists_or]

/-- A row of characters of the class. -/
theorem mem_kstar_oneOf : cs ∈ (oneOf p)∗ ↔ ∀ c ∈ cs, p c := by
  rw [Language.mem_kstar]
  constructor
  · rintro ⟨pieces, rfl, hpieces⟩ c hc
    obtain ⟨piece, hpiece, hc⟩ := List.mem_flatten.1 hc
    obtain ⟨b, hb, rfl⟩ := hpieces piece hpiece
    rwa [List.mem_singleton.1 hc]
  · intro h
    refine ⟨cs.map fun c => [c], (List.flatMap_singleton' cs).symm, ?_⟩
    exact List.forall_mem_map.2 fun c hc => ⟨c, h c hc, rfl⟩

/-- Nothing, or a single character of the class. -/
theorem mem_one_add_oneOf : cs ∈ 1 + oneOf p ↔ (∀ c ∈ cs, p c) ∧ cs.length ≤ 1 := by
  rw [Language.mem_add, Language.mem_one, mem_oneOf]
  match cs with
  | [] => simp
  | [c] => simp
  | b :: c :: rest => simp

/-- One of the words, and something of the other language behind it. -/
theorem mem_anyOf_mul {l : Language Char} :
    cs ∈ anyOf words * l ↔ ∃ word ∈ words, ∃ rest ∈ l, word.toList ++ rest = cs := by
  rw [Language.mem_mul]
  constructor
  · rintro ⟨_, ⟨word, hword, rfl⟩, rest, hrest, rfl⟩
    exact ⟨word, hword, rest, hrest, rfl⟩
  · rintro ⟨word, hword, rest, hrest, rfl⟩
    exact ⟨word.toList, ⟨word, hword, rfl⟩, rest, hrest, rfl⟩

/-! ## The grammar -/

/-- A letter of ASCII, or an underscore. -/
def letter : Language Char :=
  oneOf fun c => ('A' ≤ c ∧ c ≤ 'Z' ∨ 'a' ≤ c ∧ c ≤ 'z') ∨ c = '_'

/-- A digit of ASCII. -/
def digit : Language Char := oneOf fun c => '0' ≤ c ∧ c ≤ '9'

/-- **A letter, and letters and digits behind it.** -/
def identifier : Language Char := letter * (letter + digit)∗

/-- Words that look like the name of a data type. -/
def dataTypeWord : Language Char := anyOf ["bool", "uint", "int", "void", "float"] * digit∗

/-- Words that look like a keyword. -/
def keyword : Language Char := anyOf ["saturated", "truncated"]

/-- Words that some file system keeps for devices. -/
def device : Language Char :=
  anyOf ["con", "prn", "aux", "nul"] + anyOf ["com", "lpt"] * (1 + digit)

/-- **The reserved words**, in small letters. -/
def reservedWord : Language Char := dataTypeWord + keyword + device

/-- **A word that the grammar allows**: an identifier that is not reserved, whatever the case of its
letters. -/
structure IsAllowed (word : String) : Prop where
  isIdentifier : word.toList ∈ identifier
  isFree : word.toList.map Char.toLower ∉ reservedWord

/-- **A row of words that the grammar allows**, two or more, with single dots between them. -/
def IsRow (name : String) : Prop :=
  ∃ words : List String, 2 ≤ words.length ∧ (∀ word ∈ words, IsAllowed word) ∧
    ".".intercalate words = name

theorem mem_letter_add_digit_kstar :
    cs ∈ (letter + digit)∗ ↔ ∀ c ∈ cs, isPart c = true := by
  simp only [letter, digit, oneOf_add, mem_kstar_oneOf, isPart_iff, isStart_iff, isDigit_iff]

theorem mem_digit_kstar : cs ∈ digit∗ ↔ ∀ c ∈ cs, c.isDigit = true := by
  simp only [digit, mem_kstar_oneOf, isDigit_iff]

theorem mem_one_add_digit :
    cs ∈ 1 + digit ↔ (∀ c ∈ cs, c.isDigit = true) ∧ cs.length ≤ 1 := by
  simp only [digit, mem_one_add_oneOf, isDigit_iff]

/-- **An identifier** starts as a component does, and goes on as one does. -/
theorem mem_identifier : cs ∈ identifier ↔
    (∃ first rest, cs = first :: rest ∧ isStart first = true) ∧ ∀ c ∈ cs, isPart c = true := by
  rw [identifier, Language.mem_mul]
  constructor
  · rintro ⟨_, ⟨first, hfirst, rfl⟩, rest, hrest, rfl⟩
    have hstart : isStart first = true := isStart_iff.2 hfirst
    exact ⟨⟨first, rest, rfl, hstart⟩, List.forall_mem_cons.2
      ⟨isPart_of_isStart hstart, mem_letter_add_digit_kstar.1 hrest⟩⟩
  · rintro ⟨⟨first, rest, rfl, hstart⟩, hparts⟩
    exact ⟨[first], ⟨first, isStart_iff.1 hstart, rfl⟩, rest,
      mem_letter_add_digit_kstar.2 (List.forall_mem_cons.1 hparts).2, rfl⟩

/-! ## Reserved words -/

/-- A stem, and something behind it that is made of digits. -/
theorem isNumbered_eq_true_iff {digits : Nat → Bool} {l : Language Char}
    (hl : ∀ rest, rest ∈ l ↔ (∀ c ∈ rest, c.isDigit = true) ∧ digits rest.length = true) :
    isNumbered words digits cs = true ↔ cs ∈ anyOf words * l := by
  rw [isNumbered, List.any_eq_true, mem_anyOf_mul]
  refine exists_congr fun stem => and_congr_right fun _ => ?_
  cases hrest : stem.toList.isPrefixOf? cs with
  | none =>
    refine iff_of_false Bool.false_ne_true ?_
    rintro ⟨rest, -, hcs⟩
    exact absurd (hrest.symm.trans (List.isPrefixOf?_eq_some_iff_append_eq.2 hcs)) nofun
  | some rest =>
    have hcs := List.isPrefixOf?_eq_some_iff_append_eq.1 hrest
    have hiff : (rest.all Char.isDigit && digits rest.length) = true ↔ rest ∈ l := by
      rw [hl, Bool.and_eq_true, List.all_eq_true]
    refine hiff.trans ⟨fun h => ⟨rest, h, hcs⟩, ?_⟩
    rintro ⟨rest', hmem, hcs'⟩
    rwa [List.append_cancel_left (hcs.trans hcs'.symm)]

theorem any_toList_eq_iff : words.any (·.toList == cs) = true ↔ cs ∈ anyOf words := by
  simp only [List.any_eq_true, beq_iff_eq, mem_anyOf]

theorem isNumbered_any_iff : isNumbered words (fun _ => true) cs = true ↔
    cs ∈ anyOf words * digit∗ :=
  isNumbered_eq_true_iff fun _ => mem_digit_kstar.trans (and_iff_left rfl).symm

theorem isNumbered_one_iff : isNumbered words (· ≤ 1) cs = true ↔
    cs ∈ anyOf words * (1 + digit) :=
  isNumbered_eq_true_iff fun _ => mem_one_add_digit.trans (and_congr_right' decide_eq_true_iff.symm)

/-- **A word in small letters is free** exactly if it is not a reserved word. -/
theorem reservation?_eq_none_iff : reservation? cs = none ↔ cs ∉ reservedWord := by
  rw [reservedWord, Language.mem_add, Language.mem_add, dataTypeWord, keyword, device,
    Language.mem_add, ← isNumbered_any_iff, ← isNumbered_one_iff, ← any_toList_eq_iff,
    ← any_toList_eq_iff, ← Bool.or_eq_true (List.any _ _), reservation?]
  split_ifs with hdataType hkeyword hdevice
  · exact iff_of_false nofun fun h => h (Or.inl (Or.inl hdataType))
  · exact iff_of_false nofun fun h => h (Or.inl (Or.inr hkeyword))
  · exact iff_of_false nofun fun h => h (Or.inr hdevice)
  · exact iff_of_true rfl (not_or.2 ⟨not_or.2 ⟨hdataType, hkeyword⟩, hdevice⟩)

/-! ## Names -/

/-- **The components that may be used** are the words that the grammar allows. -/
theorem isComponent_iff_isAllowed {word : String} : IsComponent word ↔ IsAllowed word := by
  constructor
  · intro h
    exact ⟨mem_identifier.2 ⟨h.start, h.parts⟩, reservation?_eq_none_iff.1 h.free⟩
  · intro h
    obtain ⟨hstart, hparts⟩ := mem_identifier.1 h.isIdentifier
    exact ⟨hstart, hparts, reservation?_eq_none_iff.2 h.isFree⟩

/-- **The names that may be used** are rows of words that the grammar allows. -/
theorem isFull_iff_isRow {bounded : Bool} {name : String} :
    IsFull bounded name ↔ IsRow name ∧ (bounded = true → name.length ≤ maxLength) := by
  constructor
  · intro h
    exact ⟨⟨components name, two_le_length_components_iff.2 h.dotted,
      fun word hword => isComponent_iff_isAllowed.1 (h.words word hword),
      intercalate_components name⟩, h.short⟩
  · rintro ⟨⟨words, htwo, hallowed, rfl⟩, hshort⟩
    have hwords : ∀ word ∈ words, IsComponent word :=
      fun word hword => isComponent_iff_isAllowed.2 (hallowed word hword)
    have hcomponents : components (".".intercalate words) = words := by
      refine components_intercalate (fun word hword => (hwords word hword).not_mem_separator) ?_
      rintro rfl
      exact absurd htwo (by decide)
    refine ⟨two_le_length_components_iff.1 ?_, hshort, ?_⟩
    · rwa [hcomponents]
    · rwa [hcomponents]

end Name
end WireSchema
