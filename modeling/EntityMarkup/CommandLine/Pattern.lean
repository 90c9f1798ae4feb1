/-
Patterns that a text may contain. What a pattern means is said by the
places in a text where a match of it can end, given the place where it
starts. Only whether there is a match is ever asked, so it makes no
difference in which order alternatives are tried.
-/
import EntityMarkup.Text.Alphanumeric
import EntityMarkup.Text.Blank

namespace EntityMarkup.CommandLine

/-- A set of characters. -/
inductive CharSet where
  | none
  /-- The characters from one to another. -/
  | range (first last : Char)
  | digit
  /-- Letters, digits and the underscore. -/
  | word
  | blank
  | union (a b : CharSet)
  | both (a b : CharSet)
  /-- All characters that are not in the set. -/
  | others (set : CharSet)
  /-- Capital and small letters stand for each other. -/
  | anyCase (set : CharSet)
deriving DecidableEq, Repr

namespace CharSet

/-- A letter, a digit or the underscore. -/
def isWordChar (c : Char) : Bool := Text.isAlphanumeric c || c == '_'

/-- The character is in the set. -/
def holds : CharSet → Char → Bool
  | .none, _ => false
  | .range first last, c => first ≤ c && c ≤ last
  | .digit, c => c.isDigit
  | .word, c => isWordChar c
  | .blank, c => Text.isBlank c
  | .union a b, c => a.holds c || b.holds c
  | .both a b, c => a.holds c && b.holds c
  | .others set, c => !set.holds c
  | .anyCase set, c =>
    set.holds c || set.holds c.toLower || set.holds c.toUpper

/-- The set of one character. -/
def single (c : Char) : CharSet := .range c c

end CharSet

/-- What is asked of a place between two characters. -/
inductive Boundary where
  | textStart
  | textEnd
  | lineStart
  | lineEnd
  /-- Between a character of a word and one that is not, or not. -/
  | wordEdge (wanted : Bool)
  | wordStart
  | wordEnd
deriving DecidableEq, Repr

/-- The place has the property, given the characters around it. -/
def Boundary.holds (before after : Option Char) : Boundary → Bool
  | .textStart => before.isNone
  | .textEnd => after.isNone
  | .lineStart => before.isNone || before == some '\n'
  | .lineEnd => after.isNone || after == some '\n'
  | .wordEdge wanted =>
    (before.any CharSet.isWordChar != after.any CharSet.isWordChar)
      == wanted
  | .wordStart =>
    !before.any CharSet.isWordChar && after.any CharSet.isWordChar
  | .wordEnd =>
    before.any CharSet.isWordChar && !after.any CharSet.isWordChar

/-- A pattern for a part of a text. -/
inductive Pattern where
  /-- Nothing at all; every place matches. -/
  | empty
  /-- One character of a set. -/
  | one (set : CharSet)
  /-- A place with a property. -/
  | at (boundary : Boundary)
  /-- One pattern behind the other. -/
  | seq (a b : Pattern)
  /-- One of two patterns. -/
  | either (a b : Pattern)
  /-- One pattern at least so many times, and at most so many if that is
  given. -/
  | times (p : Pattern) (least : Nat) (most : Option Nat)
deriving DecidableEq, Repr

namespace Pattern

/-- The places that exactly so many steps lead to. -/
def walk (step : Nat → List Nat) : Nat → List Nat → List Nat
  | 0, places => places
  | n + 1, places => walk step n (places.flatMap step).eraseDups

/-- The places that at most so many steps lead to. -/
def reach (step : Nat → List Nat) : Nat → List Nat → List Nat
  | 0, places => places
  | n + 1, places =>
    reach step n (places ++ places.flatMap step).eraseDups

/-- Where a match that starts at a place of the text can end. Of the
steps of a repetition only as many get anywhere as the text has
characters; all further ones stay where they are, so they are not
gone. -/
def ends (text : Array Char) : Pattern → Nat → List Nat
  | .empty, i => [i]
  | .one set, i => if text[i]?.any set.holds then [i + 1] else []
  | .at boundary, i =>
    let before := if i = 0 then none else text[i - 1]?
    if boundary.holds before text[i]? then [i] else []
  | .seq a b, i => ((ends text a i).flatMap (ends text b)).eraseDups
  | .either a b, i => (ends text a i ++ ends text b i).eraseDups
  | .times p least most, i =>
    let further := most.elim text.size fun n => min (n - least) text.size
    reach (ends text p) further
      (walk (ends text p) (min least (text.size + 1)) [i])

/-- The text contains a match. -/
def occursIn (p : Pattern) (text : String) : Bool :=
  let chars := text.toList.toArray
  (List.range (chars.size + 1)).any fun i => !(p.ends chars i).isEmpty

-- ========================================================= combinations

/-- The patterns one behind the other. -/
def sequence (ps : List Pattern) : Pattern := ps.foldr .seq .empty

/-- One of the patterns, of which there is at least one. -/
def oneOf (first : Pattern) (rest : List Pattern) : Pattern :=
  rest.foldl .either first

end Pattern

end EntityMarkup.CommandLine
