/-
Places in a source text: a line and a column, both counted from one. A
line feed ends its line and every other character is one column wide, so
the place after a run of characters is a fold over the run.
-/

namespace EntityMarkup

/-- A line and a column, both counted from one. -/
structure Position where
  line : Nat
  col : Nat
deriving DecidableEq, Repr

namespace Position

/-- The first character of a text. -/
def start : Position := ⟨1, 1⟩

/-- The place after one character. -/
def next (here : Position) (c : Char) : Position :=
  if c = '\n' then ⟨here.line + 1, 1⟩ else ⟨here.line, here.col + 1⟩

/-- The place after a run of characters. -/
def advance (here : Position) (run : List Char) : Position :=
  run.foldl next here

/-- Line and column, with a colon between them. -/
def text (here : Position) : String :=
  toString here.line ++ ":" ++ toString here.col

/-- Not after the other: by line, then by column. -/
def le (a b : Position) : Bool :=
  a.line < b.line || (a.line == b.line && a.col ≤ b.col)

@[simp] theorem advance_nil (here : Position) : here.advance [] = here :=
  rfl

@[simp] theorem advance_cons (here : Position) (c : Char)
    (run : List Char) :
    here.advance (c :: run) = (here.next c).advance run :=
  rfl

end Position

end EntityMarkup
