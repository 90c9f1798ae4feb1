/-
The tree that markup denotes: elements with a name, attributes, a body of
text runs and nested elements in written order, and the line they start
on. What `Document.parse?` reads has distinct attribute names and no
blank text; an element put together by hand may break both.
-/

namespace EntityMarkup

/-- A name and its value, kept as written. -/
structure Attribute where
  name : String
  value : String
deriving DecidableEq, Repr

/-- An element over a type of body items. -/
structure ElementOf (Item : Type) where
  name : String
  /-- In written order. -/
  attributes : List Attribute
  /-- In written order. -/
  body : List Item
  /-- Where the element starts, counted from one. -/
  line : Nat

/-- One item of an element's body. -/
inductive Content where
  | text (run : String)
  | element (e : ElementOf Content)

/-- An element of markup. -/
abbrev Element := ElementOf Content

-- ============================================================= equality

mutual

/-- Decides equality of body items. -/
def Content.decEq : (a b : Content) → Decidable (a = b)
  | .text r, .text s =>
    if h : r = s then isTrue (by rw [h]) else isFalse (by simp [h])
  | .text _, .element _ => isFalse (by simp)
  | .element _, .text _ => isFalse (by simp)
  | .element e, .element f =>
    match Element.decEq e f with
    | isTrue h => isTrue (by rw [h])
    | isFalse h => isFalse (by simp [h])

/-- Decides equality of elements. -/
def Element.decEq : (a b : ElementOf Content) → Decidable (a = b)
  | ⟨n, as, b, l⟩, ⟨n', as', b', l'⟩ =>
    match Content.decEqList b b' with
    | isTrue h =>
      if h' : n = n' ∧ as = as' ∧ l = l' then
        isTrue (by simp [h, h'])
      else isFalse (by simp only [ElementOf.mk.injEq]; grind)
    | isFalse h => isFalse (by simp [h])

/-- Decides equality of bodies. -/
def Content.decEqList : (a b : List Content) → Decidable (a = b)
  | [], [] => isTrue rfl
  | [], _ :: _ => isFalse (by simp)
  | _ :: _, [] => isFalse (by simp)
  | c :: cs, d :: ds =>
    match Content.decEq c d with
    | isTrue h =>
      match Content.decEqList cs ds with
      | isTrue h' => isTrue (by rw [h, h'])
      | isFalse h' => isFalse (by simp [h'])
    | isFalse h => isFalse (by simp [h])

end

instance : DecidableEq Content := Content.decEq

instance : DecidableEq (ElementOf Content) := Element.decEq

/-- A whole source: its outermost elements in written order. -/
structure Document where
  roots : List Element
deriving DecidableEq

-- ================================================================ queries

/-- The value of the first attribute of that name. -/
def valueOf (attributes : List Attribute) (name : String) :
    Option String :=
  (attributes.find? (·.name == name)).map (·.value)

namespace Element

/-- An element without attributes or body, on line one. -/
def named (name : String) : Element := ⟨name, [], [], 1⟩

/-- The elements of the body, in written order. -/
def children (e : Element) : List Element :=
  e.body.filterMap fun
    | .element child => some child
    | .text _ => none

/-- The value of its first attribute of that name. -/
def get? (e : Element) (name : String) : Option String :=
  valueOf e.attributes name

end Element

end EntityMarkup
