/-
Sets of characters between square brackets: characters, ranges, classes,
further brackets, and operators that combine what stands before them with
what stands behind. A sign at the start means all other characters.
-/
import EntityMarkup.CommandLine.Pattern.Escape

namespace EntityMarkup.CommandLine.Pattern

open PatternRead (wrong)

/-- The options that change how a pattern is read. -/
structure Flags where
  /-- Capital and small letters stand for each other. -/
  anyCase : Bool := false
  /-- The marks of the ends are those of lines. -/
  lines : Bool := false
  /-- A dot stands also for a line feed. -/
  dotAll : Bool := false
deriving DecidableEq, Repr

/-- A set under the options. -/
def Flags.set (flags : Flags) (set : CharSet) : CharSet :=
  if flags.anyCase then .anyCase set else set

/-- How two sets are combined. -/
inductive SetOperator where
  | both
  | difference
  | symmetric
deriving DecidableEq, Repr

namespace SetOperator

/-- The operator that is written as this character twice. -/
def ofChar? : Char → Option SetOperator
  | '&' => some .both
  | '-' => some .difference
  | '~' => some .symmetric
  | _ => none

/-- The two sets combined. -/
def apply : SetOperator → CharSet → CharSet → CharSet
  | .both, a, b => .both a b
  | .difference, a, b => .both a (.others b)
  | .symmetric, a, b => .both (.union a b) (.others (.both a b))

end SetOperator

/-- Brackets that are open. -/
structure OpenSet where
  /-- Where they stand. -/
  start : Nat
  /-- Behind the signs that open them. -/
  opened : Nat
  /-- All other characters are meant. -/
  others : Bool
  /-- What stands before the last operator. -/
  left : Option (CharSet × SetOperator)
  /-- What stands behind it. -/
  current : CharSet

namespace OpenSet

/-- The brackets that open at this index. Dashes at their start, or else
a closing bracket, stand for themselves. -/
def opening (chars : Array Char) (start : Nat) : OpenSet :=
  let others := chars[start + 1]? == some '^'
  let i := if others then start + 2 else start + 1
  let dashes := ((chars.toList.drop i).takeWhile (· == '-')).length
  if dashes ≠ 0 then ⟨start, i + dashes, others, none, .single '-'⟩
  else if chars[i]? = some ']' then
    ⟨start, i + 1, others, none, .single ']'⟩
  else ⟨start, i, others, none, .none⟩

/-- With more characters. -/
def add (s : OpenSet) (set : CharSet) : OpenSet :=
  { s with current := .union s.current set }

/-- All since the brackets were opened. -/
def combined (s : OpenSet) : CharSet :=
  match s.left with
  | none => s.current
  | some (set, operator) => operator.apply set s.current

/-- With an operator, and nothing behind it yet. -/
def operate (s : OpenSet) (operator : SetOperator) : OpenSet :=
  { s with left := some (s.combined, operator), current := .none }

/-- The set, when the brackets are closed. -/
def close (flags : Flags) (s : OpenSet) : CharSet :=
  let set := flags.set s.combined
  if s.others then .others set else set

end OpenSet

-- ============================================================== classes

/-- The class of a name. -/
def classOfName? (name : String) : Option CharSet :=
  let lower := CharSet.range 'a' 'z'
  let upper := CharSet.range 'A' 'Z'
  let digits := CharSet.range '0' '9'
  let letters := lower.union upper
  let visible := CharSet.range '!' '~'
  match name with
  | "alnum" => some (letters.union digits)
  | "alpha" => some letters
  | "ascii" => some (.range '\x00' '\x7f')
  | "blank" => some ((CharSet.single ' ').union (.single '\t'))
  | "cntrl" => some ((CharSet.range '\x00' '\x1f').union (.single '\x7f'))
  | "digit" => some digits
  | "graph" => some visible
  | "lower" => some lower
  | "print" => some (.range ' ' '~')
  | "punct" => some (visible.both (.others (letters.union digits)))
  | "space" => some ((CharSet.range '\t' '\r').union (.single ' '))
  | "upper" => some upper
  | "word" => some ((letters.union digits).union (.single '_'))
  | "xdigit" =>
    some ((digits.union (.range 'a' 'f')).union (.range 'A' 'F'))
  | _ => none

/-- The class that is named between colons and brackets at this index, if
one is, and the index behind it. -/
def readClass? (chars : Array Char) (i : Nat) : Option (CharSet × Nat) :=
  if chars[i + 1]? = some ':' then
    let others := chars[i + 2]? == some '^'
    let first := if others then i + 3 else i + 2
    let name := (chars.toList.drop first).takeWhile (· != ':')
    let stop := first + name.length
    if chars[stop + 1]? = some ']' then
      (classOfName? (String.ofList name)).map fun set =>
        (if others then .others set else set, stop + 2)
    else none
  else none

-- ================================================================ ranges

/-- What stands for itself or behind a backslash, and starts with this
character. -/
def readSetItem (chars : Array Char) (i : Nat) (c : Char) :
    PatternRead (Escaped × Nat) :=
  if c = '\\' then readEscape chars i else .ok (.literal c, i + 1)

/-- The index of the last character of a range, if the character at this
index is a dash that means one. -/
def rangeEnd? (chars : Array Char) (i : Nat) : Option Nat :=
  if chars[i]? = some '-' ∧ chars[i + 1]? ≠ some ']'
      ∧ chars[i + 1]? ≠ some '-' then
    some (i + 1)
  else none

/-- One item between brackets, or a range of two. -/
def readRange (chars : Array Char) (s : OpenSet) (i : Nat) (c : Char) :
    PatternRead (CharSet × Nat) := do
  let (item, next) ← readSetItem chars i c
  match rangeEnd? chars next with
  | none =>
    match item with
    | .literal c => return (.single c, next)
    | .set set => return (set, next)
    | .at _ => wrong .setEscape i next
  | some last =>
    match chars[last]? with
    | none => wrong .setUnclosed s.start s.opened
    | some d =>
      let (item', next') ← readSetItem chars last d
      match item, item' with
      | .literal a, .literal b =>
        if a ≤ b then return (.range a b, next')
        else wrong .setRangeOrder i next'
      | .literal _, _ => wrong .setRangeEnd last next'
      | _, _ => wrong .setRangeEnd i next

-- ================================================================= sets

/-- The set of the brackets that are open, the innermost first, read on
from an index. -/
def readSet (chars : Array Char) (flags : Flags) (s : OpenSet)
    (outer : List OpenSet) (i : Nat) : PatternRead (CharSet × Nat) :=
  match found : chars[i]? with
  | none => wrong .setUnclosed s.start s.opened
  | some c =>
    have _inside : i < chars.size :=
      (Array.getElem?_eq_some_iff.mp found).1
    if c = ']' then
      match outer with
      | [] => .ok (s.close flags, i + 1)
      | t :: outer =>
        readSet chars flags (t.add (s.close flags)) outer (i + 1)
    else if c = '[' then
      match readClass? chars i with
      | some (set, next) =>
        readSet chars flags (s.add set) outer (max next (i + 1))
      | none =>
        let t := OpenSet.opening chars i
        readSet chars flags t (s :: outer) (max t.opened (i + 1))
    else if chars[i + 1]? = some c ∧ (SetOperator.ofChar? c).isSome then
      let s := ((SetOperator.ofChar? c).map s.operate).getD s
      readSet chars flags s outer (i + 2)
    else
      match readRange chars s i c with
      | .ok (set, next) =>
        readSet chars flags (s.add set) outer (max next (i + 1))
      | .error e => .error e
termination_by chars.size - i
decreasing_by all_goals omega

end EntityMarkup.CommandLine.Pattern
