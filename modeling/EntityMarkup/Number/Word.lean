/-
Natural numbers of 32 bits, read from decimal digits with at most one
plus sign before them.
-/

namespace EntityMarkup

namespace Word

/-- Why a text is no number of 32 bits. -/
inductive ReadError where
  | empty
  | invalidDigit
  | tooLarge
deriving DecidableEq, Repr

/-- The error in words. -/
def ReadError.message : ReadError → String
  | .empty => "cannot parse integer from empty string"
  | .invalidDigit => "invalid digit found in string"
  | .tooLarge => "number too large to fit in target type"

/-- One more digit behind a number. -/
def addDigit (n : UInt32) (c : Char) : Except ReadError UInt32 :=
  if c.isDigit then
    let sum := 10 * n.toNat + (c.toNat - '0'.toNat)
    if sum < UInt32.size then .ok (.ofNat sum) else .error .tooLarge
  else .error .invalidDigit

/-- Reads a number of 32 bits. Of two faults, the one further left
counts. -/
def read (text : String) : Except ReadError UInt32 :=
  match text.toList with
  | [] => .error .empty
  | ['+'] => .error .invalidDigit
  | '+' :: digits => digits.foldlM addDigit 0
  | digits => digits.foldlM addDigit 0

end Word

end EntityMarkup
