/-
What a host registers for building: handlers for attributes, one kind for
each phase, and the kind of entity that a tag makes. A draft holds what
building handlers write before the entity exists; the set of draft types
is open, like that of entity types.
-/
import EntityMarkup.Entity.Action
import EntityMarkup.Text.Blank

namespace EntityMarkup

/-- Drafts of entities. -/
class Draft (D E : Type) where
  /-- Hands over to the new entity what only the draft holds. -/
  finish : Handler (D × E) Unit

/-- Handles an attribute's value on the draft. The answer tells whether
the attribute is done with; otherwise a binding handler may take it. -/
abbrev BuildingHandler (D : Type) := String → Handler D Bool

/-- What is bound: an entity or a component, and the hooks that handlers
ask for on it. -/
structure Bound (E : Type) where
  entity : E
  hooks : Hooks E

/-- What a binding handler may know of the tag and the build. -/
structure BindingContext (E : Type) where
  tag : String
  actions : Actions E

/-- Handles an attribute's value on the entity. -/
abbrev BindingHandler (E : Type) :=
  BindingContext E → String → Handler (Bound E) Unit

namespace BindingHandler

variable {E : Type}

/-- Asks to have the action of that name run at a moment. -/
def hook (context : BindingContext E) (moment : Moment) (name : String) :
    Handler (Bound E) Unit := do
  let action ← Handler.ofExcept (context.actions.resolve name)
  Handler.modify fun b => { b with hooks := b.hooks.push moment action }

/-- Asks to have the action named by the trimmed value run at a
moment. -/
def hookTrimmed (moment : Moment) : BindingHandler E :=
  fun context value => hook context moment (Text.trim value)

end BindingHandler

/-- What the tags of one name make, and how children and text are placed
in it. -/
structure TagKind (E D : Type) where
  /-- The entity type that building handlers are looked up for, before
  there is an entity. -/
  declaredType : String
  /-- The draft that a tag starts with. -/
  newDraft : D
  /-- Makes the entity from the draft. -/
  instantiate : Handler D E
  /-- Places a child that neither attaches itself nor becomes a node. -/
  placeChild : E → Handler E Unit
  /-- Places a line of text that does not become a node. -/
  placeLine : String → Handler E Unit
  /-- Runs when the tag closes, before any hooks. -/
  onClose : Handler E Unit

namespace TagKind

variable {E : Type} [Entity E]

/-- Refuses a child. -/
def refuseChild (child : E) : Handler E Unit := do
  let parent ← Handler.get
  Handler.refuse
    (Entity.typeName parent ++ " accepts no children (got "
      ++ Entity.typeName child ++ ")")

/-- Refuses a line of text. -/
def refuseLine (_ : String) : Handler E Unit := do
  let entity ← Handler.get
  Handler.refuse (Entity.typeName entity ++ " does not accept plain text")

end TagKind

end EntityMarkup
