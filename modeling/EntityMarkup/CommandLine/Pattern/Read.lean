/-
Reading a pattern from its text. Characters stand for themselves, apart
from these: a dot, sets between square brackets, what stands behind a
backslash, groups, alternatives, repetitions, and the marks of the ends
of a text or a line. Options at the start of a group, or in a group of
their own, change how the characters behind them are read.

The text is read item by item, with the groups that are open; each item
says where it ends.
-/
import EntityMarkup.CommandLine.Pattern.Set

namespace EntityMarkup.CommandLine.Pattern

open PatternRead (wrong)

/-- A group that is open, or the whole: where it stands, the options to
go back to, and, last first, the alternatives that are complete and the
items of the one that is not. -/
structure OpenGroup where
  start : Nat
  flags : Flags
  done : List Pattern
  items : List Pattern

/-- The pattern of the group, when it is closed. -/
def OpenGroup.close (g : OpenGroup) : Pattern :=
  let last := sequence g.items.reverse
  match g.done.reverse with
  | [] => last
  | first :: rest => oneOf first (rest ++ [last])

/-- A pattern under way: the options, the innermost group, and the groups
around it. -/
structure Draft where
  flags : Flags
  group : OpenGroup
  outer : List OpenGroup

namespace Draft

/-- Nothing read yet. -/
def start : Draft := ⟨{}, ⟨0, {}, [], []⟩, []⟩

/-- With one more item. -/
def add (d : Draft) (p : Pattern) : Draft :=
  { d with group := { d.group with items := p :: d.group.items } }

/-- With one more group open, under these options. -/
def enter (d : Draft) (start : Nat) (flags : Flags) : Draft :=
  ⟨flags, ⟨start, d.flags, [], []⟩, d.group :: d.outer⟩

/-- With the innermost group closed by the bracket at this index. -/
def leave (d : Draft) (i : Nat) : PatternRead Draft :=
  match d.outer with
  | [] => wrong .groupUnopened i (i + 1)
  | g :: outer => .ok (add ⟨d.group.flags, g, outer⟩ d.group.close)

/-- With one more alternative begun. -/
def branch (d : Draft) : Draft :=
  let last := sequence d.group.items.reverse
  { d with
    group := { d.group with done := last :: d.group.done, items := [] } }

/-- With the last item repeated by the sign at this index. -/
def again (d : Draft) (i least : Nat) (most : Option Nat) :
    PatternRead Draft :=
  match d.group.items with
  | [] => wrong .repetitionOfNothing i i
  | p :: items =>
    let items := .times p least most :: items
    .ok { d with group := { d.group with items } }

end Draft

-- =============================================================== groups

/-- Options up to the colon or bracket behind them, and whether that is a
colon. The index of the last sign is given if it was a dash. -/
def readFlags (chars : Array Char) (flags : Flags) (negative : Bool)
    (dash : Option Nat) (i : Nat) : PatternRead (Flags × Bool × Nat) :=
  match found : chars[i]? with
  | none => wrong .flagEnd i i
  | some c =>
    have _inside : i < chars.size :=
      (Array.getElem?_eq_some_iff.mp found).1
    let on := !negative
    if c = ')' ∨ c = ':' then
      match dash with
      | some j => wrong .flagDangling j (j + 1)
      | none => .ok (flags, c == ':', i + 1)
    else if c = '-' then readFlags chars flags true (some i) (i + 1)
    else if c = 'i' then
      readFlags chars { flags with anyCase := on } negative none (i + 1)
    else if c = 'm' then
      readFlags chars { flags with lines := on } negative none (i + 1)
    else if c = 's' then
      readFlags chars { flags with dotAll := on } negative none (i + 1)
    else if c = 'u' ∨ c = 'U' then
      readFlags chars flags negative none (i + 1)
    else wrong .flagUnknown i (i + 1)
termination_by chars.size - i
decreasing_by all_goals omega

/-- A character that the name of a group may have. -/
def isGroupNameChar (first : Bool) (c : Char) : Bool :=
  c == '_' || (if first then Text.isAlphanumeric c && !c.isDigit
    else Text.isAlphanumeric c || c == '.' || c == '[' || c == ']')

/-- The index behind the name of a group, which starts at this index. -/
def readGroupName (chars : Array Char) (first : Nat) : PatternRead Nat :=
  let rest := chars.toList.drop first
  let name := rest.takeWhile (· != '>')
  let start := (name.takeWhile (isGroupNameChar true)).take 1
  let valid :=
    start ++ (name.drop 1).takeWhile (isGroupNameChar false)
  let valid := if start.isEmpty then 0 else valid.length
  if valid < name.length then
    wrong .groupNameInvalid (first + valid) (first + valid + 1)
  else if name.length = rest.length then
    wrong .groupNameUnclosed (first + valid) (first + valid)
  else if name.isEmpty then wrong .groupNameEmpty first first
  else .ok (first + name.length + 1)

/-- Opens the group whose bracket stands at this index, or changes the
options. -/
def readGroup (chars : Array Char) (d : Draft) (i : Nat) :
    PatternRead (Draft × Nat) :=
  match chars[i + 1]?, chars[i + 2]?, chars[i + 3]? with
  | some '?', none, _ => wrong .groupUnclosed i (i + 1)
  | some '?', some '=', _ => wrong .lookAround i (i + 3)
  | some '?', some '!', _ => wrong .lookAround i (i + 3)
  | some '?', some '<', some '=' => wrong .lookAround i (i + 4)
  | some '?', some '<', some '!' => wrong .lookAround i (i + 4)
  | some '?', some ')', _ => wrong .repetitionOfNothing (i + 1) (i + 1)
  | some '?', some 'P', some '<' => do
    return (d.enter i d.flags, ← readGroupName chars (i + 4))
  | some '?', some '<', _ => do
    return (d.enter i d.flags, ← readGroupName chars (i + 3))
  | some '?', _, _ => do
    let (flags, colon, next) ←
      readFlags chars d.flags false none (i + 2)
    return (if colon then d.enter i flags else { d with flags }, next)
  | _, _, _ => .ok (d.enter i d.flags, i + 1)

-- ========================================================== repetitions

/-- A number in decimal digits, with blanks around it, and the index
behind them. -/
def readNumber (chars : Array Char) (i : Nat) : PatternRead Nat × Nat :=
  let rest := chars.toList.drop i
  let before := (rest.takeWhile Text.isBlank).length
  let digits := (rest.drop before).takeWhile Char.isDigit
  let start := i + before
  let stop := start + digits.length
  let behind := ((chars.toList.drop stop).takeWhile Text.isBlank).length
  let value := digits.foldl
    (fun n c => 10 * n + (c.toNat - '0'.toNat)) 0
  (if digits.isEmpty then wrong .countEmpty start start
    else if UInt32.size ≤ value then wrong .countTooLarge start stop
    else .ok value,
    stop + behind)

/-- The bounds of a repetition, between the braces that open at this
index. A question mark behind them makes no difference. -/
def readCount (chars : Array Char) (i : Nat) :
    PatternRead (Nat × Option Nat × Nat) := do
  let (least, next) := readNumber chars (i + 1)
  let (least, most, stop) ← match chars[next]?, chars[next + 1]? with
    | none, _ => wrong .countUnclosed i next
    | some ',', none => wrong .countUnclosed i (next + 1)
    | some ',', some '\x7d' => pure (← least, none, next + 1)
    | some ',', some _ =>
      let least ← least
      let (most, stop) := readNumber chars (next + 1)
      pure (least, some (← most), stop)
    | some _, _ =>
      let least ← least
      pure (least, some least, next)
  if chars[stop]? = some '\x7d' then
    let next :=
      if chars[stop + 1]? = some '?' then stop + 2 else stop + 1
    if most.any (· < least) then wrong .countOrder i next
    else return (least, most, next)
  else wrong .countUnclosed i stop

-- ================================================================ items

/-- The index behind the sign of a repetition and the question mark
behind it, which makes no difference. -/
def behindSign (chars : Array Char) (i : Nat) : Nat :=
  if chars[i + 1]? = some '?' then i + 2 else i + 1

/-- One item, which starts with this character. -/
def readItem (chars : Array Char) (d : Draft) (i : Nat) (c : Char) :
    PatternRead (Draft × Nat) :=
  match c with
  | '(' => readGroup chars d i
  | ')' => do return (← d.leave i, i + 1)
  | '|' => .ok (d.branch, i + 1)
  | '*' => do return (← d.again i 0 none, behindSign chars i)
  | '+' => do return (← d.again i 1 none, behindSign chars i)
  | '?' => do return (← d.again i 0 (some 1), behindSign chars i)
  | '\x7b' => do
    let _ ← d.again i 0 none
    let (least, most, next) ← readCount chars i
    return (← d.again i least most, next)
  | '[' => do
    let s := OpenSet.opening chars i
    let (set, next) ← readSet chars d.flags s [] s.opened
    return (d.add (.one set), next)
  | '.' =>
    let excluded := if d.flags.dotAll then CharSet.none else .single '\n'
    .ok (d.add (.one (.others excluded)), i + 1)
  | '^' =>
    let boundary := if d.flags.lines then Boundary.lineStart else .textStart
    .ok (d.add (.at boundary), i + 1)
  | '$' =>
    let boundary := if d.flags.lines then Boundary.lineEnd else .textEnd
    .ok (d.add (.at boundary), i + 1)
  | '\\' => do
    let (escaped, next) ← readEscape chars i
    let item := match escaped with
      | .literal c => Pattern.one (d.flags.set (.single c))
      | .set set => .one set
      | .at boundary => .at boundary
    return (d.add item, next)
  | c => .ok (d.add (.one (d.flags.set (.single c))), i + 1)

/-- The pattern under way, read on from an index. -/
def readFrom (chars : Array Char) (d : Draft) (i : Nat) :
    PatternRead Pattern :=
  match found : chars[i]? with
  | none =>
    match d.outer with
    | [] => .ok d.group.close
    | _ :: _ => wrong .groupUnclosed d.group.start (d.group.start + 1)
  | some c =>
    have _inside : i < chars.size :=
      (Array.getElem?_eq_some_iff.mp found).1
    match readItem chars d i c with
    | .ok (d, next) => readFrom chars d (max next (i + 1))
    | .error e => .error e
termination_by chars.size - i
decreasing_by omega

/-- The pattern that a text describes. -/
def read (text : String) : PatternRead Pattern :=
  readFrom text.toList.toArray .start 0

end EntityMarkup.CommandLine.Pattern
