/-
Quoted text for messages: a string between double quotes, a character
between single quotes. Tab, carriage return, line feed, the null
character, the backslash and the delimiting quote are written with a
backslash, a character without a visible shape by its number in
hexadecimal, and every other character as itself.
-/
import EntityMarkup.Text.Hidden

namespace EntityMarkup.Text

/-- One character inside quotes of the given kind. -/
def escapeChar (quote c : Char) : List Char :=
  if c = '\t' then ['\\', 't']
  else if c = '\r' then ['\\', 'r']
  else if c = '\n' then ['\\', 'n']
  else if c = '\x00' then ['\\', '0']
  else if c = '\\' ∨ c = quote then ['\\', c]
  else if isHidden c then
    ['\\', 'u', '\x7b'] ++ Nat.toDigits 16 c.toNat ++ ['\x7d']
  else [c]

/-- The characters between quotes of the given kind. -/
def quoteChars (quote : Char) (chars : List Char) : String :=
  String.ofList (quote :: chars.flatMap (escapeChar quote) ++ [quote])

/-- The text between double quotes. -/
def quoted (text : String) : String :=
  quoteChars '"' text.toList

/-- The character between single quotes. -/
def quotedChar (c : Char) : String :=
  quoteChars '\'' [c]

/-- Quoted texts between square brackets. -/
def quotedList (texts : List String) : String :=
  "[" ++ ", ".intercalate (texts.map quoted) ++ "]"

end EntityMarkup.Text
