/-
White space, and the three operations that depend on it: whether a text
is blank, its trimmed form, and the trimmed non-blank lines it consists
of. The class is the Unicode property `White_Space`; lines are split at
line feeds only, so a carriage return is blank at the end of a line.
-/
import EntityMarkup.Text.Ranges

namespace EntityMarkup.Text

/-- The code points with the property `White_Space`. -/
def blankRanges : Ranges :=
  [(0x9, 0xd), (0x20, 0x20), (0x85, 0x85), (0xa0, 0xa0),
   (0x1680, 0x1680), (0x2000, 0x200a), (0x2028, 0x2029),
   (0x202f, 0x202f), (0x205f, 0x205f), (0x3000, 0x3000)]

/-- White space of any script. -/
def isBlank (c : Char) : Bool :=
  blankRanges.contains c

/-- Nothing but white space. -/
def isBlankText (text : String) : Bool :=
  text.toList.all isBlank

/-- The characters without the white space after the last other one. -/
def dropBlankEnd : List Char → List Char
  | [] => []
  | c :: rest =>
    match dropBlankEnd rest with
    | [] => if isBlank c then [] else [c]
    | kept => c :: kept

/-- The characters between the first and the last that is no white
space, both included. -/
def trimChars (chars : List Char) : List Char :=
  dropBlankEnd (chars.dropWhile isBlank)

/-- The text without white space at either end. -/
def trim (text : String) : String :=
  String.ofList (trimChars text.toList)

/-- The characters cut at every line feed: one piece more than there are
line feeds. -/
def splitLines : List Char → List (List Char)
  | [] => [[]]
  | c :: rest =>
    if c = '\n' then [] :: splitLines rest
    else
      match splitLines rest with
      | [] => [[c]]
      | line :: lines => (c :: line) :: lines

/-- The lines of a text, each trimmed, the blank ones left out. -/
def lines (text : String) : List String :=
  ((splitLines text.toList).map trimChars).filter (!·.isEmpty)
    |>.map String.ofList

-- ============================================================== lemmas

theorem splitLines_ne_nil (chars : List Char) : splitLines chars ≠ [] := by
  cases chars with
  | nil => simp [splitLines]
  | cons c rest =>
    simp only [splitLines]
    split
    · simp
    · split <;> simp

theorem dropBlankEnd_eq_nil_iff {chars : List Char} :
    dropBlankEnd chars = [] ↔ ∀ c ∈ chars, isBlank c := by
  induction chars with
  | nil => simp [dropBlankEnd]
  | cons c rest ih =>
    simp only [dropBlankEnd, List.mem_cons, forall_eq_or_imp, ← ih]
    split
    · rename_i h
      by_cases hc : isBlank c <;> simp [h, hc]
    · rename_i h
      simpa using fun _ => h

/-- A text trims to nothing exactly when it is blank. -/
theorem trimChars_eq_nil_iff {chars : List Char} :
    trimChars chars = [] ↔ ∀ c ∈ chars, isBlank c := by
  induction chars with
  | nil => simp [trimChars, dropBlankEnd]
  | cons c rest ih =>
    by_cases hc : isBlank c
    · simp only [trimChars] at ih
      simp [trimChars, hc, ih]
    · simp only [trimChars, hc, Bool.false_eq_true, not_false_eq_true,
        List.dropWhile_cons_of_neg, dropBlankEnd_eq_nil_iff]

end EntityMarkup.Text
