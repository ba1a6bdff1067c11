import WireSchema.Proofs.DataType.Names

/-!
# Proofs/DataType/Texts — what is written of a type tells the type

Every type is written as a **stem**, a number, and for an array a bracket behind the number.  The
stem of an array is what is written of its elements, with a bracket; that of a composite is its name
with the major number of its version; that of a primitive is a word of its own.  No stem ends in a
digit or in a closing bracket, so what is written is cut in one way only
(`Text.append_eq_append_iff_of_class`), and the end of the stem tells the form of the type
(`DataType.ofStem?_stem`).

So two types are written alike exactly if they are the same expression, whatever was computed when
they were made (`DataType.text_eq_iff_sameExpression`).
-/

namespace WireSchema

/-! ## Texts that are cut in one way -/

namespace Text

variable {p : Char → Bool} {cs cs' ds ds' : List Char}

/-- Nothing of a class stands at the end of a text that does not end in the class. -/
theorem eq_nil_of_class (hlast : ∀ c, (cs ++ ds).getLast? = some c → p c = false)
    (hds : ∀ c ∈ ds, p c = true) : ds = [] := by
  rw [← List.getLast?_eq_none_iff, Option.eq_none_iff_forall_ne_some]
  intro c hc
  have hend : p c = false := hlast c (by rw [List.getLast?_append, hc, Option.some_or])
  exact absurd (hds c (List.mem_of_getLast? hc)) (Bool.eq_false_iff.1 hend)

/-- **A text is cut in one way only** before the characters of a class that it ends in. -/
theorem append_eq_append_iff_of_class (hcs : ∀ c, cs.getLast? = some c → p c = false)
    (hcs' : ∀ c, cs'.getLast? = some c → p c = false) (hds : ∀ c ∈ ds, p c = true)
    (hds' : ∀ c ∈ ds', p c = true) : cs ++ ds = cs' ++ ds' ↔ cs = cs' ∧ ds = ds' := by
  refine ⟨fun h => ?_, fun ⟨hleft, hright⟩ => hleft ▸ hright ▸ rfl⟩
  rcases List.append_eq_append_iff.1 h with ⟨mid, rfl, rfl⟩ | ⟨mid, rfl, rfl⟩
  · obtain rfl := eq_nil_of_class hcs' (List.forall_mem_append.1 hds).1
    exact ⟨(List.append_nil cs).symm, rfl⟩
  · obtain rfl := eq_nil_of_class hcs (List.forall_mem_append.1 hds').1
    exact ⟨List.append_nil cs', rfl⟩

end Text

namespace DataType

/-! ## Type expressions -/

/-- **The same type expression**: the same primitive, arrays of one form and capacity over the same
expression, or composites of the same name and version. -/
inductive SameExpression : DataType → DataType → Prop
  | primitive {t : DataType} (h : t.isPrimitive = true) : SameExpression t t
  | fixedArray {element element' : DataType} {capacity : Nat} {lengths lengths' : LengthSet}
      (h : SameExpression element element') :
      SameExpression (.fixedArray element capacity lengths) (.fixedArray element' capacity lengths')
  | variableArray {element element' : DataType} {capacity : Nat} {count count' : UnsignedType}
      {lengths lengths' : LengthSet} (h : SameExpression element element') :
      SameExpression (.variableArray element capacity count lengths)
        (.variableArray element' capacity count' lengths')
  | composite {c c' : Composite} (hname : c.name = c'.name) (hversion : c.version = c'.version) :
      SameExpression (.composite c) (.composite c')

/-- The same expressions are written alike. -/
theorem SameExpression.text_eq {t u : DataType} (h : t.SameExpression u) : t.text = u.text := by
  induction h with
  | primitive => rfl
  | fixedArray _ ih => rw [text, text, ih]
  | variableArray _ ih => rw [text, text, ih]
  | composite hname hversion => exact Composite.text_eq_iff.2 ⟨hname, hversion⟩

/-! ## Forms -/

/-- **The form of a type**, without its numbers and what is inside of it. -/
inductive Form where
  | boolean
  | unsigned (cast : CastMode)
  | signed (cast : CastMode)
  | float (cast : CastMode)
  | void
  | fixedArray
  | variableArray
  | composite

namespace Form

/-- **What the form is written with**, in front of the last number of a type. -/
def word : Form → String
  | boolean => "bool"
  | unsigned cast => cast.text ++ " uint"
  | signed cast => cast.text ++ " int"
  | float cast => cast.text ++ " float"
  | void => "void"
  | fixedArray => "["
  | variableArray => "[<="
  | composite => "."

/-- What is written behind the last number: the bracket of an array. -/
def closing : Form → String
  | fixedArray | variableArray => "]"
  | _ => ""

/-- The character that the word ends in. -/
def mark : Form → Char
  | boolean => 'l'
  | unsigned _ | signed _ | float _ => 't'
  | void => 'd'
  | fixedArray => '['
  | variableArray => '='
  | composite => '.'

/-- The words of primitives, with their forms. -/
def primitives : List (String × Form) :=
  [("bool", boolean), ("void", void),
    ("saturated uint", unsigned .saturated), ("truncated uint", unsigned .truncated),
    ("saturated int", signed .saturated), ("truncated int", signed .truncated),
    ("saturated float", float .saturated), ("truncated float", float .truncated)]

/-- **The form of a type**, read off what stands in front of its last number. -/
def ofStem? (stem : String) : Option Form :=
  match stem.toList.getLast? with
  | some '[' => some fixedArray
  | some '=' => some variableArray
  | some '.' => some composite
  | _ => primitives.lookup stem

theorem getLast?_word (f : Form) : f.word.toList.getLast? = some f.mark := by
  cases f with
  | boolean | void | fixedArray | variableArray | composite => rfl
  | unsigned cast | signed cast | float cast => cases cast <;> rfl

theorem ofStem?_word (f : Form) : ofStem? f.word = some f := by
  cases f with
  | boolean | void | fixedArray | variableArray | composite => rfl
  | unsigned cast | signed cast | float cast => cases cast <;> rfl

theorem eq_of_mem_closing {f : Form} {c : Char} (h : c ∈ f.closing.toList) : c = ']' := by
  cases f with
  | fixedArray | variableArray => exact List.mem_singleton.1 h
  | boolean | unsigned | signed | float | void | composite => exact absurd h List.not_mem_nil

end Form

/-! ## Stems -/

/-- The form of the type. -/
def form : DataType → Form
  | .boolean => .boolean
  | .unsigned t => .unsigned t.cast
  | .signed t => .signed t.cast
  | .float t => .float t.cast
  | .void _ => .void
  | .fixedArray _ _ _ => .fixedArray
  | .variableArray _ _ _ _ => .variableArray
  | .composite _ => .composite

/-- What is written in front of the word of the form. -/
def inside : DataType → String
  | .fixedArray element _ _ => element.text
  | .variableArray element _ _ _ => element.text
  | .composite c => c.name ++ "." ++ toString c.version.major
  | _ => ""

/-- The last number of a type as it is written, if there is one. -/
def lastNumber : DataType → String
  | .boolean => ""
  | .unsigned t => toString t.bits
  | .signed t => toString t.bits
  | .float t => toString t.bits
  | .void t => toString t.bits
  | .fixedArray _ capacity _ => toString capacity
  | .variableArray _ capacity _ _ => toString capacity
  | .composite c => toString c.version.minor

/-- **What is written in front of the last number** of a type. -/
def stem (t : DataType) : String := t.inside ++ t.form.word

/-- The stem of a primitive is its word. -/
theorem stem_of_isPrimitive {t : DataType} (h : t.isPrimitive = true) : t.stem = t.form.word := by
  cases t with
  | boolean | unsigned | signed | float | void => exact String.empty_append
  | fixedArray | variableArray | composite => exact absurd h Bool.false_ne_true

/-- **A type is written** as its stem, the last number, and what closes it. -/
theorem text_eq_append (t : DataType) : t.text = t.stem ++ (t.lastNumber ++ t.form.closing) := by
  cases t with
  | boolean => rfl
  | unsigned | signed | float | void =>
    rw [stem_of_isPrimitive rfl]
    exact congrArg _ String.append_empty.symm
  | fixedArray | variableArray =>
    rw [← String.append_assoc]
    rfl
  | composite c =>
    rw [text, Composite.text, Version.text, ← String.append_assoc, ← String.append_assoc]
    exact congrArg _ String.append_empty.symm

theorem getLast?_stem (t : DataType) : t.stem.toList.getLast? = some t.form.mark := by
  rw [stem, String.toList_append, List.getLast?_append, Form.getLast?_word, Option.some_or]

/-- **The stem tells the form.** -/
theorem ofStem?_stem (t : DataType) : Form.ofStem? t.stem = some t.form := by
  cases t with
  | boolean | unsigned | signed | float | void =>
    rw [stem_of_isPrimitive rfl, Form.ofStem?_word]
  | fixedArray | variableArray | composite =>
    rw [Form.ofStem?, getLast?_stem]
    rfl

/-- Whether a character may stand behind the stem of a type. -/
def isBehindStem (c : Char) : Bool := c.isDigit || c == ']'

theorem not_isBehindStem_getLast? (t : DataType) :
    ∀ c, t.stem.toList.getLast? = some c → isBehindStem c = false := by
  intro c hc
  rw [← Option.some.inj ((getLast?_stem t).symm.trans hc)]
  cases t.form <;> rfl

theorem isDigit_of_mem_lastNumber {t : DataType} {c : Char} (h : c ∈ t.lastNumber.toList) :
    c.isDigit = true := by
  cases t with
  | boolean => exact absurd h List.not_mem_nil
  | unsigned | signed | float | void | fixedArray | variableArray | composite =>
    exact Name.isDigit_of_mem_toString h

theorem isBehindStem_of_mem (t : DataType) :
    ∀ c ∈ t.lastNumber.toList ++ t.form.closing.toList, isBehindStem c = true := by
  intro c hc
  rw [isBehindStem, Bool.or_eq_true, beq_iff_eq]
  exact (List.mem_append.1 hc).imp isDigit_of_mem_lastNumber Form.eq_of_mem_closing

/-- **Types that are written alike** have the same stem, the same form and the same last number. -/
theorem parts_eq_of_text_eq {t u : DataType} (h : t.text = u.text) :
    t.form = u.form ∧ t.inside = u.inside ∧ t.lastNumber = u.lastNumber := by
  have hparts : t.stem.toList ++ (t.lastNumber.toList ++ t.form.closing.toList) =
      u.stem.toList ++ (u.lastNumber.toList ++ u.form.closing.toList) := by
    simpa only [text_eq_append, String.toList_append] using congrArg String.toList h
  obtain ⟨hstem, hbehind⟩ := (Text.append_eq_append_iff_of_class (not_isBehindStem_getLast? t)
    (not_isBehindStem_getLast? u) (isBehindStem_of_mem t) (isBehindStem_of_mem u)).1 hparts
  have hstem : t.stem = u.stem := String.toList_inj.1 hstem
  have hform : t.form = u.form := by
    rw [← Option.some.injEq, ← ofStem?_stem, ← ofStem?_stem, hstem]
  rw [hform] at hbehind
  rw [stem, stem, hform, String.append_left_inj] at hstem
  exact ⟨hform, hstem, String.toList_inj.1 (List.append_cancel_right hbehind)⟩

/-! ## What is written alike -/

/-- A primitive is told by its form and its number. -/
theorem eq_of_isPrimitive : ∀ {t u : DataType}, t.isPrimitive = true → t.form = u.form →
    t.lastNumber = u.lastNumber → t = u
  | .boolean, .boolean, _, _, _ => rfl
  | .unsigned ⟨bits, cast, _⟩, .unsigned ⟨bits', cast', _⟩, _, hform, hnumber => by
    obtain rfl : bits = bits' := Nat.repr_inj.1 hnumber
    obtain rfl : cast = cast' := Form.unsigned.inj hform
    rfl
  | .signed ⟨bits, cast, _⟩, .signed ⟨bits', cast', _⟩, _, hform, hnumber => by
    obtain rfl : bits = bits' := Nat.repr_inj.1 hnumber
    obtain rfl : cast = cast' := Form.signed.inj hform
    rfl
  | .float ⟨bits, cast, _⟩, .float ⟨bits', cast', _⟩, _, hform, hnumber => by
    obtain rfl : bits = bits' := Nat.repr_inj.1 hnumber
    obtain rfl : cast = cast' := Form.float.inj hform
    rfl
  | .void ⟨bits, _⟩, .void ⟨bits', _⟩, _, _, hnumber => by
    obtain rfl : bits = bits' := Nat.repr_inj.1 hnumber
    rfl

/-- **What is written alike is the same expression.**  By recursion on the one type: the other one
has its form, and so what is inside of them is written alike. -/
theorem sameExpression_of_text_eq : ∀ {t u : DataType}, t.text = u.text → t.SameExpression u
  | .fixedArray element capacity lengths, u, h => by
    obtain ⟨hform, hinside, hnumber⟩ := parts_eq_of_text_eq h
    cases u with
    | fixedArray element' capacity' lengths' =>
      obtain rfl : capacity = capacity' := Nat.repr_inj.1 hnumber
      exact .fixedArray (sameExpression_of_text_eq hinside)
    | boolean | unsigned | signed | float | void | variableArray | composite =>
      exact absurd hform nofun
  | .variableArray element capacity count lengths, u, h => by
    obtain ⟨hform, hinside, hnumber⟩ := parts_eq_of_text_eq h
    cases u with
    | variableArray element' capacity' count' lengths' =>
      obtain rfl : capacity = capacity' := Nat.repr_inj.1 hnumber
      exact .variableArray (sameExpression_of_text_eq hinside)
    | boolean | unsigned | signed | float | void | fixedArray | composite =>
      exact absurd hform nofun
  | .composite c, u, h => by
    obtain ⟨hform, -, -⟩ := parts_eq_of_text_eq h
    cases u with
    | composite c' =>
      obtain ⟨hname, hversion⟩ := Composite.text_eq_iff.1 h
      exact .composite hname hversion
    | boolean | unsigned | signed | float | void | fixedArray | variableArray =>
      exact absurd hform nofun
  | .boolean, u, h | .unsigned _, u, h | .signed _, u, h | .float _, u, h | .void _, u, h => by
    obtain ⟨hform, -, hnumber⟩ := parts_eq_of_text_eq h
    exact eq_of_isPrimitive rfl hform hnumber ▸ .primitive rfl

/-- **Types are written alike exactly if they are the same expression**: the same primitive, of the
same width and cast mode; arrays of the same form and capacity, whose elements are the same
expression; or composites of the same name and version. -/
theorem text_eq_iff_sameExpression (t u : DataType) : t.text = u.text ↔ t.SameExpression u :=
  ⟨sameExpression_of_text_eq, SameExpression.text_eq⟩

end DataType
end WireSchema
