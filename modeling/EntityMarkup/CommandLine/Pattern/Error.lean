/-
What can be wrong with the text of a pattern, and where: a fault, its
words, and the report that marks the part of the text it is about.
-/

namespace EntityMarkup.CommandLine

/-- Why a text is no pattern. -/
inductive PatternFault where
  | groupUnclosed
  | groupUnopened
  | groupNameEmpty
  | groupNameInvalid
  | groupNameUnclosed
  | lookAround
  | flagUnknown
  | flagDangling
  | flagEnd
  | repetitionOfNothing
  | countUnclosed
  | countEmpty
  | countTooLarge
  | countOrder
  | setUnclosed
  | setRangeOrder
  | setRangeEnd
  | setEscape
  | escapeEnd
  | escapeUnknown
  | backreference
  | hexEmpty
  | hexDigit
  | hexNoChar
deriving DecidableEq, Repr

/-- The fault in words. -/
def PatternFault.message : PatternFault → String
  | .groupUnclosed => "unclosed group"
  | .groupUnopened => "unopened group"
  | .groupNameEmpty => "empty capture group name"
  | .groupNameInvalid => "invalid capture group character"
  | .groupNameUnclosed => "unclosed capture group name"
  | .lookAround =>
    "look-around, including look-ahead and look-behind, is not supported"
  | .flagUnknown => "unrecognized flag"
  | .flagDangling => "dangling flag negation operator"
  | .flagEnd => "expected flag but got end of regex"
  | .repetitionOfNothing => "repetition operator missing expression"
  | .countUnclosed => "unclosed counted repetition"
  | .countEmpty => "repetition quantifier expects a valid decimal"
  | .countTooLarge => "decimal literal invalid"
  | .countOrder =>
    "invalid repetition count range, the start must be <= the end"
  | .setUnclosed => "unclosed character class"
  | .setRangeOrder =>
    "invalid character class range, the start must be <= the end"
  | .setRangeEnd => "invalid range boundary, must be a literal"
  | .setEscape => "invalid escape sequence found in character class"
  | .escapeEnd =>
    "incomplete escape sequence, reached end of pattern prematurely"
  | .escapeUnknown => "unrecognized escape sequence"
  | .backreference => "backreferences are not supported"
  | .hexEmpty => "hexadecimal literal empty"
  | .hexDigit => "invalid hexadecimal digit"
  | .hexNoChar => "hexadecimal literal is not a Unicode scalar value"

/-- A fault and the part of the text that it is about. -/
structure PatternError where
  fault : PatternFault
  /-- The index of the first character. -/
  start : Nat
  /-- The index behind the last character. -/
  stop : Nat
deriving DecidableEq, Repr

namespace PatternError

/-- The report on a text: the text with the part marked below it, by one
mark at least, and the fault. -/
def report (text : String) (e : PatternError) : String :=
  let marks := List.replicate e.start ' '
    ++ List.replicate (max 1 (e.stop - e.start)) '^'
  "regex parse error:\n    " ++ text ++ "\n    " ++ String.ofList marks
    ++ "\nerror: " ++ e.fault.message

end PatternError

/-- What reading a part of a text gives: a value and the index behind the
part, or what is wrong. -/
abbrev PatternRead (α : Type) := Except PatternError α

namespace PatternRead

/-- A fault about a part of the text. -/
def wrong {α : Type} (fault : PatternFault) (start stop : Nat) :
    PatternRead α :=
  .error ⟨fault, start, stop⟩

end PatternRead

end EntityMarkup.CommandLine
