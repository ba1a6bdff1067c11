import WireSchema.Text.Quoted

/-!
# Name/Component — the rules for one component of a name

A component is a letter or underscore followed by letters, digits and underscores, all of ASCII.  Of
these words some are reserved, whatever the case of their letters: those that look like a data type
(`bool`, `uint`, `int`, `void`, `float`, each with digits behind it or none), those that look like a
keyword (`saturated`, `truncated`), and those that some file system keeps for devices (`con`, `prn`,
`aux`, `nul`, and `com` and `lpt` with at most one digit).

`Name.componentDefect?` is the first defect of a word, or nothing for a word that may be used.
-/

namespace WireSchema
namespace Name

/-! ## What can be wrong with a name -/

/-- **Why a word is reserved.** -/
inductive Reservation where
  | dataType
  | keyword
  | device
  deriving DecidableEq, Repr

/-- The reason as a message gives it. -/
def Reservation.text : Reservation → String
  | .dataType => "looks like a data type name"
  | .keyword => "looks like a keyword"
  | .device => "reserved by the operating system"

/-- **What is wrong with a name**, or with one component of it. -/
inductive Defect where
  /-- The name of a definition is empty. -/
  | nothing
  /-- The name of a definition is a single component. -/
  | noNamespace
  /-- The name of a definition has too many characters. -/
  | tooLong (name : String)
  /-- A component is empty. -/
  | emptyComponent
  /-- A component starts with a character that no component starts with. -/
  | badStart (c : Char)
  /-- A component has a character that no component has. -/
  | badCharacter (c : Char)
  /-- A component is a reserved word. -/
  | reserved (word : String) (reason : Reservation)
  deriving DecidableEq, Repr

/-- **The largest number of characters** in the name of a definition. -/
def maxLength : Nat := 50

/-- The defect as a message. -/
def Defect.text : Defect → String
  | .nothing => "Composite type name cannot be empty"
  | .noNamespace => "Root namespace is not specified"
  | .tooLong name =>
    "Name is too long: " ++ Text.quoted name ++ " is longer than " ++ toString maxLength ++
      " characters"
  | .emptyComponent => "Name or namespace component cannot be empty"
  | .badStart c => "Name or namespace component cannot start with " ++ Text.quotedChar c
  | .badCharacter c => "Name cannot contain " ++ Text.quotedChar c
  | .reserved word reason => "Disallowed name " ++ Text.quoted word ++ ": " ++ reason.text

/-! ## Reserved words -/

/-- Whether `cs` is one of the stems followed by digits, of which `digits` decides how many. -/
def isNumbered (stems : List String) (digits : Nat → Bool) (cs : List Char) : Bool :=
  stems.any fun stem =>
    match stem.toList.isPrefixOf? cs with
    | none => false
    | some rest => rest.all Char.isDigit && digits rest.length

/-- **Why a word in small letters is reserved**, if it is. -/
def reservation? (cs : List Char) : Option Reservation :=
  if isNumbered ["bool", "uint", "int", "void", "float"] (fun _ => true) cs then some .dataType
  else if ["saturated", "truncated"].any (·.toList == cs) then some .keyword
  else if ["con", "prn", "aux", "nul"].any (·.toList == cs) ||
      isNumbered ["com", "lpt"] (· ≤ 1) cs then some .device
  else none

/-! ## Components -/

/-- Whether a component may start with the character. -/
def isStart (c : Char) : Bool := c.isAlpha || c == '_'

/-- Whether a component may have the character. -/
def isPart (c : Char) : Bool := c.isAlphanum || c == '_'

theorem isPart_of_isStart {c : Char} (h : isStart c = true) : isPart c = true := by
  simp only [isStart, isPart, Char.isAlphanum, Bool.or_eq_true] at h ⊢
  rcases h with h | h
  · exact Or.inl (Or.inl h)
  · exact Or.inr h

/-- **The first defect of a component**, if it has one. -/
def componentDefect? (word : String) : Option Defect :=
  match word.toList with
  | [] => some .emptyComponent
  | first :: rest =>
    if !isStart first then some (.badStart first)
    else
      match (first :: rest).find? (fun c => !isPart c) with
      | some c => some (.badCharacter c)
      | none => (reservation? ((first :: rest).map Char.toLower)).map (.reserved word)

end Name
end WireSchema
