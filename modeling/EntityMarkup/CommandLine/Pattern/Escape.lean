/-
The characters behind a backslash in a pattern: classes of characters,
the marks of places, control characters, characters by their number, and
signs that would have a meaning without the backslash.
-/
import EntityMarkup.CommandLine.Pattern
import EntityMarkup.CommandLine.Pattern.Error

namespace EntityMarkup.CommandLine.Pattern

open PatternRead (wrong)

/-- What a backslash and the characters behind it stand for. -/
inductive Escaped where
  | literal (c : Char)
  | set (set : CharSet)
  | at (boundary : Boundary)
deriving DecidableEq, Repr

/-- The value of a hexadecimal digit. -/
def hexValue? (c : Char) : Option Nat :=
  if c.isDigit then some (c.toNat - '0'.toNat)
  else if 'a' ≤ c ∧ c ≤ 'f' then some (c.toNat - 'a'.toNat + 10)
  else if 'A' ≤ c ∧ c ≤ 'F' then some (c.toNat - 'A'.toNat + 10)
  else none

/-- The number of so many hexadecimal digits from an index on. -/
def readHexDigits (chars : Array Char) (i value : Nat) :
    Nat → PatternRead Nat
  | 0 => .ok value
  | n + 1 =>
    match chars[i]? with
    | none => wrong .escapeEnd i i
    | some c =>
      match hexValue? c with
      | some digit => readHexDigits chars (i + 1) (16 * value + digit) n
      | none => wrong .hexDigit i (i + 1)

/-- The character whose number so many hexadecimal digits give. -/
def readHexChar (chars : Array Char) (i count : Nat) :
    PatternRead Char := do
  let value ← readHexDigits chars i 0 count
  if value.isValidChar then return .ofNat value
  else wrong .hexNoChar i (i + count)

/-- The character of a number in hexadecimal digits: so many of them, or
any number of them between braces. -/
def readHex (chars : Array Char) (i count : Nat) :
    PatternRead (Char × Nat) := do
  if chars[i]? = some '\x7b' then
    let digits :=
      ((chars.toList.drop (i + 1)).takeWhile (· != '\x7d')).length
    let stop := i + 1 + digits
    let _ ← readHexDigits chars (i + 1) 0 digits
    if stop = chars.size then wrong .escapeEnd i stop
    else if digits = 0 then wrong .hexEmpty i (stop + 1)
    else return (← readHexChar chars (i + 1) digits, stop + 1)
  else return (← readHexChar chars i count, i + count)

/-- The sign of a letter behind a backslash that needs nothing more. -/
def escapeOfLetter? : Char → Option Escaped
  | 'd' => some (.set .digit)
  | 'D' => some (.set (.others .digit))
  | 'w' => some (.set .word)
  | 'W' => some (.set (.others .word))
  | 's' => some (.set .blank)
  | 'S' => some (.set (.others .blank))
  | 'a' => some (.literal '\x07')
  | 'f' => some (.literal '\x0c')
  | 't' => some (.literal '\t')
  | 'n' => some (.literal '\n')
  | 'r' => some (.literal '\r')
  | 'v' => some (.literal '\x0b')
  | 'A' => some (.at .textStart)
  | 'z' => some (.at .textEnd)
  | 'b' => some (.at (.wordEdge true))
  | 'B' => some (.at (.wordEdge false))
  | '<' => some (.at .wordStart)
  | '>' => some (.at .wordEnd)
  | _ => none

/-- How many digits the number of a character has behind this letter. -/
def hexCount? : Char → Option Nat
  | 'x' => some 2
  | 'u' => some 4
  | 'U' => some 8
  | _ => none

/-- What the backslash at this index and the characters behind it stand
for. -/
def readEscape (chars : Array Char) (i : Nat) :
    PatternRead (Escaped × Nat) :=
  match chars[i + 1]? with
  | none => wrong .escapeEnd i (i + 1)
  | some c =>
    match escapeOfLetter? c, hexCount? c with
    | some escaped, _ => .ok (escaped, i + 2)
    | none, some count => do
      let (c, next) ← readHex chars (i + 2) count
      return (.literal c, next)
    | none, none =>
      if c.isDigit then wrong .backreference i (i + 2)
      else if c.isAlpha || 0x7f < c.toNat then
        wrong .escapeUnknown i (i + 2)
      else .ok (.literal c, i + 2)

end EntityMarkup.CommandLine.Pattern
