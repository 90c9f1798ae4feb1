/-
What a build needs to know of the entities it builds. The set of entity
types is open: a build runs over any type `E` with an instance of
`Entity`, which tells the capabilities of each entity. An entity may be
composite (attributes are tried on its components too), a container of
hierarchy nodes (children and text become its nodes), or attachable (as a
child it attaches itself).
-/
import EntityMarkup.Entity.Handler

namespace EntityMarkup

/-- A node of a hierarchy: an entity and the nodes below it. -/
structure TreeNode (E : Type) where
  entity : E
  children : List (TreeNode E)

/-- The capabilities of entities. -/
class Entity (E : Type) where
  /-- The type's name, for looking up handlers and in messages. -/
  typeName : E → String
  /-- The components of a composite entity. -/
  components? : E → Option (List E)
  /-- A composite entity with its components replaced. -/
  withComponents : E → List E → E
  /-- The hierarchy nodes of a container of nodes. -/
  nodes? : E → Option (List (TreeNode E))
  /-- A container of nodes with its nodes replaced. -/
  withNodes : E → List (TreeNode E) → E
  /-- The leaf that stands for a line of text. -/
  textLeaf : String → E
  /-- The node, if the entity is a hierarchy node itself. -/
  asNode? : E → Option (TreeNode E)
  /-- As a child, attaches itself instead of being placed. -/
  isAttachable : E → Bool
  /-- Attaches the entity to the target, which is the state. -/
  attachTo : E → Handler E Unit

namespace Entity

variable {E : Type} [Entity E]

/-- What attaching comes to for entities that do not provide for it. -/
def refuseAttaching (name : E → String) (e : E) : Handler E Unit := do
  Handler.refuse
    (name e ++ " cannot be attached to " ++ name (← Handler.get))

end Entity

namespace TreeNode

variable {E : Type} [Entity E]

/-- A node without children around a leaf of text. -/
def leaf (text : String) : TreeNode E := ⟨Entity.textLeaf text, []⟩

/-- The node that an entity becomes: itself, if it is one. -/
def wrap (e : E) : TreeNode E := (Entity.asNode? e).getD ⟨e, []⟩

end TreeNode

end EntityMarkup
