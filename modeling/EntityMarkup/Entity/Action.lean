/-
Actions are what markup can name to have run on an entity once it is
created or when its tag closes. Named actions live in a table; those
asked for on one entity or component are its hooks, in the order in which
they were asked for.
-/
import EntityMarkup.Entity.Basic
import EntityMarkup.Text.Quoted
import Std.Data.TreeMap

namespace EntityMarkup

/-- A step on an entity that may report and cannot fail. -/
abbrev Action (E : Type) := E → List Entry × E

/-- Named actions, the last one of a name counting. -/
structure Actions (E : Type) where
  named : Std.TreeMap String (Action E)

namespace Actions

variable {E : Type}

/-- No actions. -/
def empty : Actions E := ⟨∅⟩

/-- With an action under a name. -/
def insert (actions : Actions E) (name : String) (action : Action E) :
    Actions E :=
  ⟨actions.named.insert name action⟩

/-- The action of that name. -/
def get? (actions : Actions E) (name : String) : Option (Action E) :=
  actions.named[name]?

/-- The action of that name; that there is none is a failure. -/
def resolve (actions : Actions E) (name : String) :
    Except Cause (Action E) :=
  match actions.get? name with
  | some action => .ok action
  | none => .error (.unknownAction name)

/-- How many names there are. -/
def size (actions : Actions E) : Nat := actions.named.size

/-- The names in the order of their code points, as messages show a
table. -/
def describe (actions : Actions E) : String :=
  "Actions \x7b named: " ++ Text.quotedList actions.named.keys ++ " \x7d"

end Actions

/-- When the hooks of an entity run. -/
inductive Moment where
  /-- When its attributes are bound, before anything is placed in it. -/
  | create
  /-- When its tag closes. -/
  | close
deriving DecidableEq, Repr

/-- The actions asked for on one entity, in order, by their moment. -/
structure Hooks (E : Type) where
  onCreate : List (Action E) := []
  onClose : List (Action E) := []

namespace Hooks

variable {E : Type}

/-- No actions. -/
def empty : Hooks E := {}

/-- With one more action at the end. -/
def push (hooks : Hooks E) (moment : Moment) (action : Action E) :
    Hooks E :=
  match moment with
  | .create => { hooks with onCreate := hooks.onCreate ++ [action] }
  | .close => { hooks with onClose := hooks.onClose ++ [action] }

/-- The actions for a moment. -/
def actions (hooks : Hooks E) (moment : Moment) : List (Action E) :=
  match moment with
  | .create => hooks.onCreate
  | .close => hooks.onClose

/-- No actions for either moment. -/
def isEmpty (hooks : Hooks E) : Bool :=
  hooks.onCreate.isEmpty && hooks.onClose.isEmpty

/-- The actions of one record and then those of the other. -/
def append (a b : Hooks E) : Hooks E :=
  ⟨a.onCreate ++ b.onCreate, a.onClose ++ b.onClose⟩

end Hooks

end EntityMarkup
