/-
The two phases in which attributes are handled: before an entity exists
they shape the draft it will be made from, and afterwards they are bound
to the entity itself.
-/

namespace EntityMarkup

/-- When an attribute is handled. -/
inductive Phase where
  /-- Before the entity exists. -/
  | building
  /-- On the entity. -/
  | binding
deriving DecidableEq, Repr

/-- The phase's name. -/
def Phase.name : Phase → String
  | .building => "building"
  | .binding => "binding"

end EntityMarkup
