import WireSchema.Text.Invisible

/-!
# Text/Quoted — text between quotes

A message that repeats a piece of its input puts it between quotes, so that its ends can be seen.  A
string stands between double quotes and a character between single ones.  Inside, the quote in use
and the backslash are escaped, five controls have short escapes, and every other invisible character
is written as its code point in hexadecimal digits between braces.
-/

namespace WireSchema.Text

/-- The escape of a code point: its lower-case hexadecimal digits between braces. -/
def codePointEscape (c : Char) : List Char :=
  ['\\', 'u', '\x7b'] ++ Nat.toDigits 16 c.toNat ++ ['\x7d']

/-- **One character between the quotes** `quote`. -/
def quoteChar (quote c : Char) : List Char :=
  if c = quote ∨ c = '\\' then ['\\', c]
  else if c = '\x00' then ['\\', '0']
  else if c = '\t' then ['\\', 't']
  else if c = '\n' then ['\\', 'n']
  else if c = '\r' then ['\\', 'r']
  else if isInvisible c then codePointEscape c
  else [c]

/-- The double quote. -/
def doubleQuote : Char := '\x22'

/-- The single quote. -/
def singleQuote : Char := '\x27'

/-- **A string between double quotes.** -/
def quoted (s : String) : String :=
  String.ofList (doubleQuote :: s.toList.flatMap (quoteChar doubleQuote) ++ [doubleQuote])

/-- **A character between single quotes.** -/
def quotedChar (c : Char) : String :=
  String.ofList (singleQuote :: quoteChar singleQuote c ++ [singleQuote])

end WireSchema.Text
