/-
A second set of entities, made to show every capability that a build
knows: plain widgets, panels that are composites of two widgets, hollow
composites without components, holders of hierarchy nodes, leaves, and
tips that attach to leaves.
-/
import EntityMarkup.Entity.StyleDraft
import EntityMarkup.Number.Word

namespace EntityMarkup.Scenario

/-- A widget, which keeps its children, its lines of text and the values
bound to it. -/
structure Widget (O : Type) where
  /-- The style it was made with. -/
  builtStyle : String
  text : Option String
  tone : Option String
  caption : Option String
  width : Option UInt32
  lines : List String
  children : List O

/-- A composite of two widgets. -/
structure Panel (O : Type) where
  first : Widget O
  second : Widget O
  text : Option String
  title : Option String
  closed : Bool

/-- A container of hierarchy nodes, with a list for children that are not
made nodes. -/
structure Holder (O : Type) where
  label : Option String
  nodes : List (TreeNode O)
  direct : List O

/-- An object of the set. -/
inductive Object where
  | widget (w : Widget Object)
  | panel (p : Panel Object)
  /-- A composite without components. -/
  | hollow
  | holder (h : Holder Object)
  | leaf (text : String) (tip : Option String)
  /-- Attaches to leaves. -/
  | tip (text : String)
  | text (text : String)
  | node (n : TreeNode Object)

/-- A widget made with a style. -/
def Widget.styled {O : Type} (style : String) : Widget O :=
  ⟨style, none, none, none, none, [], []⟩

/-- A panel as it is made. -/
def Panel.new {O : Type} : Panel O :=
  ⟨.styled "first", .styled "second", none, none, false⟩

/-- A holder as it is made. -/
def Holder.new {O : Type} : Holder O := ⟨none, [], []⟩

namespace Object

/-- The type's name. -/
def typeName : Object → String
  | .widget _ => "widget"
  | .panel _ => "panel"
  | .hollow => "hollow"
  | .holder _ => "holder"
  | .leaf _ _ => "leaf"
  | .tip _ => "tip"
  | .text _ => "text"
  | .node _ => "node"

/-- The components of panels, and of hollow objects. -/
def components? : Object → Option (List Object)
  | .panel p => some [.widget p.first, .widget p.second]
  | .hollow => some []
  | _ => none

/-- Puts components back. -/
def withComponents : Object → List Object → Object
  | .panel p, [.widget a, .widget b] =>
    .panel { p with first := a, second := b }
  | o, _ => o

/-- The nodes of holders and of nodes. -/
def nodes? : Object → Option (List (TreeNode Object))
  | .holder h => some h.nodes
  | .node n => some n.children
  | _ => none

/-- Replaces the nodes. -/
def withNodes : Object → List (TreeNode Object) → Object
  | .holder h, nodes => .holder { h with nodes := nodes }
  | .node n, nodes => .node { n with children := nodes }
  | o, _ => o

/-- Tips attach themselves. -/
def isAttachable : Object → Bool
  | .tip _ => true
  | _ => false

/-- A tip becomes the tip of a leaf. -/
def attachTo : Object → Handler Object Unit
  | .tip help => do
    match ← Handler.get with
    | .leaf shown _ => Handler.modify fun _ => .leaf shown (some help)
    | o =>
      Handler.refuse ("tips only attach to leaves, not " ++ o.typeName)
  | o => Entity.refuseAttaching typeName o

end Object

instance : Entity Object where
  typeName := Object.typeName
  components? := Object.components?
  withComponents := Object.withComponents
  nodes? := Object.nodes?
  withNodes := Object.withNodes
  textLeaf := .text
  asNode?
    | .node n => some n
    | _ => none
  isAttachable := Object.isAttachable
  attachTo := Object.attachTo

end EntityMarkup.Scenario
