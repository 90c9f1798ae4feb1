/-
Widgets: the one type of object behind labels, buttons, groups, windows
and trees. What a widget may hold depends on its kind, and the operations
here are the ones that attributes and text come down to.
-/
import EntityMarkup.Entity.StyleDraft
import EntityMarkup.Number.Single
import EntityMarkup.Text.Blank
import EntityMarkup.Text.Quoted

namespace EntityMarkup.Scene

/-- Which widget a widget is. -/
inductive WidgetKind where
  | label
  | button
  | group
  | window
  | tree
deriving DecidableEq, Repr

namespace WidgetKind

/-- All kinds. -/
def all : List WidgetKind := [.label, .button, .group, .window, .tree]

/-- The name of the kind's tags, which is also its entity type. -/
def name : WidgetKind → String
  | .label => "label"
  | .button => "button"
  | .group => "group"
  | .window => "window"
  | .tree => "tree"

/-- Holds other objects as children. -/
def isContainer (kind : WidgetKind) : Bool :=
  kind == .group || kind == .window

/-- Takes the lines of its body as its own text. -/
def takesText (kind : WidgetKind) : Bool :=
  kind == .label || kind == .button

end WidgetKind

/-- Where a widget's text stands in its line. -/
inductive Align where
  | start
  | center
  | «end»
deriving DecidableEq, Repr

namespace Align

/-- The alignment's name. -/
def name : Align → String
  | .start => "start"
  | .center => "center"
  | .end => "end"

/-- The alignment of that name, white space around it aside. -/
def read (value : String) : Except Cause Align :=
  let word := Text.trim value
  match [Align.start, .center, .end].find? (·.name == word) with
  | some align => .ok align
  | none =>
    .error (.message
      ("expected start, center or end, got " ++ Text.quoted word))

end Align

/-- The truth value of that name, white space around it aside. -/
def readFlag (value : String) : Except Cause Bool :=
  let word := Text.trim value
  if word = "true" then .ok true
  else if word = "false" then .ok false
  else
    .error (.message ("expected true or false, got " ++ Text.quoted word))

/-- The distance of that length, white space around it aside, which must
not be negative. -/
def readSpacing (value : String) : Except Cause Single :=
  match Single.read (Text.trim value) with
  | .error e => .error (.message e.message)
  | .ok spacing =>
    if spacing.isNonNegative then .ok spacing
    else .error (.message "spacing must not be negative")

/-- The name in a value, white space around it aside; what it names is
missing if it is blank. -/
def readName (value what : String) : Except Cause String :=
  if Text.isBlankText value then
    .error (.message (what ++ " must not be blank"))
  else .ok (Text.trim value)

/-- A widget whose children are of type `O`. -/
structure Widget (O : Type) where
  kind : WidgetKind
  style : String
  text : Option String
  visible : Bool
  tooltip : Option String
  spacing : Single
  align : Align
  /-- The event that a click on a button stands for. -/
  onClick : Option String
  /-- Has been laid out. -/
  packed : Bool
  children : List O
  /-- The title bar, the component of a window. -/
  title : Option (Widget O)
  nodes : List (TreeNode O)

namespace Widget

variable {O : Type}

/-- A widget without title and contents. -/
def bare (kind : WidgetKind) : Widget O :=
  { kind, style := StyleDraft.defaultStyle, text := none, visible := true,
    tooltip := none, spacing := .zero, align := .start, onClick := none,
    packed := false, children := [], title := none, nodes := [] }

/-- A widget as it is made: windows have a label for a title bar. -/
def new (kind : WidgetKind) : Widget O :=
  { bare kind with
    title := if kind = .window then some (bare .label) else none }

/-- With one more line at the end of the text. -/
def pushText (w : Widget O) (line : String) : Widget O :=
  { w with text := some (w.text.elim line (· ++ "\n" ++ line)) }

/-- With one more child at the end. -/
def pushChild (w : Widget O) (child : O) : Widget O :=
  { w with children := w.children ++ [child] }

/-- With the text of the title bar replaced. -/
def setTitle (w : Widget O) (text : String) : Widget O :=
  { w with title := w.title.map fun t => { t with text := some text } }

end Widget

end EntityMarkup.Scene
