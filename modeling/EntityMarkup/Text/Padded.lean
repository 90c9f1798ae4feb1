/-
Text cut and padded to a width: at most so many characters of it are
kept, and spaces fill it up to a least width, counted in characters.
-/

namespace EntityMarkup.Text

/-- Where a text stands among the spaces that fill it up. -/
inductive Side where
  | left
  | right
  | center
deriving DecidableEq, Repr

/-- The text, cut to a greatest length if one is given, and filled up to
a least width. In the centre, an odd space goes to the right. -/
def padded (side : Side) (width : Nat) (most : Option Nat)
    (text : String) : String :=
  let kept := most.elim text.toList text.toList.take
  let gap := width - kept.length
  let before := match side with
    | .left => 0
    | .right => gap
    | .center => gap / 2
  String.ofList
    (List.replicate before ' ' ++ kept
      ++ List.replicate (gap - before) ' ')

end EntityMarkup.Text
