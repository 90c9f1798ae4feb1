/-
The outline of an object: one line for each object below it, parents
before children, with two spaces of indentation for each level. A node
and the object it holds share a line. A window's title bar has a line of
its own if it has a text or is not aligned at the start.
-/
import EntityMarkup.Scene.Object

namespace EntityMarkup.Scene

/-- The spaces before a line at a depth. -/
def indent (depth : Nat) : String :=
  String.ofList (List.replicate (2 * depth) ' ')

/-- What the line of a widget shows beside its kind: whatever differs
from the default. -/
def marks (w : Widget Object) : List String :=
  [ w.text.map Text.quoted,
    if w.style = StyleDraft.defaultStyle then none
      else some ("[" ++ w.style ++ "]"),
    if w.align = .start then none else some ("align=" ++ w.align.name),
    if w.spacing.isZero then none
      else some ("spacing=" ++ w.spacing.text),
    if w.visible then none else some "hidden",
    w.tooltip.map fun text => "tooltip=" ++ Text.quoted text,
    w.onClick.map ("on_click=" ++ ·),
    if w.packed then some "packed" else none ].filterMap id

/-- The line of a widget. -/
def widgetLine (w : Widget Object) : String :=
  " ".intercalate (w.kind.name :: marks w)

/-- A title bar has a line if it has a text or is not aligned at the
start. -/
def showsTitle (title : Widget Object) : Bool :=
  title.text.isSome || title.align != .start

/-- The lines of a title bar that come out as these at no depth. -/
def titled (depth : Nat) : List String → List String
  | [] => []
  | first :: rest => (indent depth ++ "title: " ++ first) :: rest

mutual

/-- The lines of an object at a depth. -/
def objectLines (depth : Nat) : Object → List String
  | .widget w => widgetLines depth w
  | .node n => nodeLines depth n
  | .leaf text => [indent depth ++ Text.quoted text]
  | .tooltip _ => [indent depth ++ "tooltip"]
  | .thing t => [indent depth ++ t.typeName]
  | .clip typeName => [indent depth ++ typeName]

/-- The lines of a widget at a depth. -/
def widgetLines (depth : Nat) : Widget Object → List String
  | ⟨kind, style, text, visible, tooltip, spacing, align, onClick, packed,
      children, title, nodes⟩ =>
    (indent depth ++ widgetLine
        ⟨kind, style, text, visible, tooltip, spacing, align, onClick,
          packed, children, title, nodes⟩)
      :: (titleLines (depth + 1) title
        ++ objectsLines (depth + 1) children
        ++ nodesLines (depth + 1) nodes)

/-- The lines of a title bar, if it has any. -/
def titleLines (depth : Nat) : Option (Widget Object) → List String
  | none => []
  | some title =>
    if showsTitle title then titled depth (widgetLines 0 title) else []

/-- The lines of a node at a depth. -/
def nodeLines (depth : Nat) : TreeNode Object → List String
  | ⟨entity, children⟩ =>
    objectLines depth entity ++ nodesLines (depth + 1) children

/-- The lines of nodes at a depth. -/
def nodesLines (depth : Nat) : List (TreeNode Object) → List String
  | [] => []
  | n :: rest => nodeLines depth n ++ nodesLines depth rest

/-- The lines of objects at a depth. -/
def objectsLines (depth : Nat) : List Object → List String
  | [] => []
  | o :: rest => objectLines depth o ++ objectsLines depth rest

end

/-- The outline of an object. -/
def outline (o : Object) : String :=
  String.join ((objectLines 0 o).map (· ++ "\n"))

end EntityMarkup.Scene
