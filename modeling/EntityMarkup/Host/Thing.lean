/-
The objects of a host that has kinds of its own. A thing is of whatever
type the host says and records what is done to it; it has components,
nodes and properties as far as its kind gives it any.
-/
import EntityMarkup.Entity.Basic
import Std.Data.TreeMap

namespace EntityMarkup.Scene

/-- An object of a described type that records what is done to it. The
parts, if there is a list of them, are its components; the nodes, if
there is a list of them, make it a container of nodes. -/
structure Thing (O : Type) where
  typeName : String
  props : Std.TreeMap String String
  lines : List String
  parts : Option (List (Thing O))
  children : List O
  nodes : Option (List (TreeNode O))
  attachable : Bool

namespace Thing

variable {O : Type}

/-- A thing with nothing recorded. -/
def new (typeName : String) : Thing O :=
  ⟨typeName, ∅, [], none, [], none, false⟩

/-- With a property set. -/
def set (t : Thing O) (name value : String) : Thing O :=
  { t with props := t.props.insert name value }

end Thing

end EntityMarkup.Scene
