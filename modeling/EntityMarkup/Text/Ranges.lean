/-
Sets of characters given as closed ranges of code points. The tables of
character properties are values of this type, and membership is all that
is ever asked of them.
-/

namespace EntityMarkup.Text

/-- Closed ranges of code points, each as its first and last member. -/
abbrev Ranges := List (Nat × Nat)

/-- Some range holds the character's code point. -/
def Ranges.contains (ranges : Ranges) (c : Char) : Bool :=
  ranges.any fun (first, last) => first ≤ c.toNat && c.toNat ≤ last

end EntityMarkup.Text
