/-
What the markup of a scene depicts. The object of an element is read off
its tag, its attributes and its body, with no build in between: the body
comes down to a list of parts, which are lines of text and the objects of
inner elements, and each tag makes something of these parts (`shape`).

A body that goes on adds to the end of its parts, and one more part
changes what a tag makes of them in one place: a widget gets a line, a
child, or another tooltip, a tooltip gets a line, and a hierarchy gets a
node.
-/
import EntityMarkup.Markup.Element
import EntityMarkup.Scene.Standard

namespace EntityMarkup.Scene

-- ================================================================ tags

/-- The tags of a scene. -/
inductive SceneTag where
  | widget (kind : WidgetKind)
  | node
  | tooltip
deriving DecidableEq

namespace SceneTag

def name : SceneTag → String
  | .widget kind => kind.name
  | .node => "node"
  | .tooltip => "tooltip"

def all : List SceneTag :=
  WidgetKind.all.map .widget ++ [.node, .tooltip]

/-- The tag of that name. -/
def ofName? (name : String) : Option SceneTag :=
  all.find? (·.name == name)

theorem mem_all (t : SceneTag) : t ∈ all := by
  rcases t with kind | _ | _
  · cases kind <;> simp [all, WidgetKind.all]
  · simp [all]
  · simp [all]

@[simp] theorem ofName?_name (t : SceneTag) : ofName? t.name = some t := by
  rcases t with kind | _ | _
  · cases kind <;> rfl
  · rfl
  · rfl

theorem name_injective {t t' : SceneTag} (h : t.name = t'.name) :
    t = t' := by
  have hsame : some t = some t' := by
    rw [← ofName?_name t, ← ofName?_name t', h]
  exact Option.some.inj hsame

end SceneTag

-- =============================================================== values

theorem valueOf_cons (a : Attribute) (rest : List Attribute)
    (name : String) :
    valueOf (a :: rest) name
      = if a.name = name then some a.value else valueOf rest name := by
  unfold valueOf
  rw [List.find?_cons]
  by_cases hname : a.name = name
  · simp [hname]
  · rw [if_neg hname, beq_eq_false_iff_ne.mpr hname]

/-- An attribute makes no difference to other names. -/
theorem valueOf_cons_skip {p : String → Bool} {a : Attribute}
    (ha : p a.name = false) (rest : List Attribute) {name : String}
    (hname : p name = true) :
    valueOf (a :: rest) name = valueOf rest name := by
  rw [valueOf_cons, if_neg]
  rintro rfl
  rw [ha] at hname
  cases hname

theorem valueOf_eq_none {attributes : List Attribute} {name : String}
    (h : name ∉ attributes.map (·.name)) :
    valueOf attributes name = none := by
  unfold valueOf
  rw [Option.map_eq_none_iff, List.find?_eq_none]
  intro a ha
  simp only [beq_iff_eq]
  rintro rfl
  exact h (List.mem_map_of_mem ha)

/-- What a value is read as, if there is one that can be read. -/
def given {α : Type} (read : String → Except Cause α) (default : α) :
    Option String → α
  | none => default
  | some value =>
    match read value with
    | .ok a => a
    | .error _ => default

/-- The pieces in a row, if there are any. -/
def joined (separator : String) (pieces : List String) : Option String :=
  if pieces = [] then none else some (separator.intercalate pieces)

@[simp] theorem joined_toList (separator : String)
    (piece : Option String) : joined separator piece.toList = piece := by
  cases piece with
  | none => rfl
  | some text => simp [joined]

theorem joined_snoc (separator piece : String) (pieces : List String) :
    joined separator (pieces ++ [piece])
      = some ((joined separator pieces).elim piece
          (· ++ separator ++ piece)) := by
  by_cases hnil : pieces = []
  · subst hnil
    simp [joined]
  · simp [joined, hnil, String.intercalate_append_of_ne_nil]

-- ================================================================ parts

/-- A part of a body: what is placed in one step. -/
inductive Part where
  | line (text : String)
  | child (o : Object)

namespace Part

/-- The part as a line. -/
def line? : Part → Option String
  | .line text => some text
  | .child _ => none

/-- The text of a tooltip. -/
def tooltip? : Part → Option String
  | .child (.tooltip text) => some text
  | _ => none

/-- What a container holds for a part: a label for a line, and any child
but a tooltip. -/
def object? : Part → Option Object
  | .line text =>
    some (.widget { (.new .label : Widget Object) with text := some text })
  | .child (.tooltip _) => none
  | .child o => some o

/-- What a hierarchy holds for a part: a node around a line, and any child
but a tooltip, in a node unless it is one. -/
def node? : Part → Option (TreeNode Object)
  | .line text => some ⟨.leaf text, []⟩
  | .child (.tooltip _) => none
  | .child (.node n) => some n
  | .child o => some ⟨o, []⟩

end Part

-- =============================================================== shapes

section

variable (kind : WidgetKind) (get : String → Option String)
  (parts : List Part)

/-- The title bar of a window. It takes the alignment, which the window
does not know. -/
def titleShape : Widget Object :=
  { Widget.bare .label with
    text := get "title"
    align := given Align.read .start (get "align") }

/-- The widget of a kind with these values and parts. -/
def widgetShape : Widget Object where
  kind := kind
  style := (get "style").elim StyleDraft.defaultStyle Text.trim
  text :=
    if kind.takesText then
      joined "\n" ((get "text").toList ++ parts.filterMap Part.line?)
    else none
  visible := given readFlag true (get "visible")
  tooltip := (parts.filterMap Part.tooltip?).getLast?.or (get "tooltip")
  spacing :=
    if kind.isContainer then given readSpacing .zero (get "spacing")
    else .zero
  align :=
    if kind.takesText then given Align.read .start (get "align")
    else .start
  onClick :=
    if kind = .button then (get "on_click").map Text.trim else none
  packed := kind = .window
  children :=
    if kind.isContainer then parts.filterMap Part.object? else []
  title := if kind = .window then some (titleShape get) else none
  nodes := if kind = .tree then parts.filterMap Part.node? else []

/-- The hierarchy node with these values and parts. -/
def nodeShape : TreeNode Object :=
  ⟨.leaf ((get "text").getD ""), parts.filterMap Part.node?⟩

/-- The text of the tooltip with these values and parts. -/
def tooltipShape : String :=
  " ".intercalate
    (((get "text").toList ++ parts.filterMap Part.line?).filter (· ≠ ""))

/-- What a tag makes of the values of its attributes and the parts of its
body. -/
def shape : SceneTag → Object
  | .widget kind => .widget (widgetShape kind get parts)
  | .node => .node (nodeShape get parts)
  | .tooltip => .tooltip (tooltipShape get parts)

end

-- ======================================================= one more part

namespace WidgetKind

variable {kind : WidgetKind}

theorem of_takesText (h : kind.takesText = true) :
    kind.isContainer = false ∧ kind ≠ .tree := by
  cases kind <;> first | exact ⟨rfl, by decide⟩ | cases h

theorem of_isContainer (h : kind.isContainer = true) :
    kind.takesText = false ∧ kind ≠ .tree := by
  cases kind <;> first | exact ⟨rfl, by decide⟩ | cases h

end WidgetKind

/-- What a child other than a tooltip is as a part. -/
theorem child_other {o : Object} (ho : ∀ text, o ≠ .tooltip text) :
    (Part.child o).tooltip? = none ∧ (Part.child o).object? = some o
      ∧ (Part.child o).node? = some (TreeNode.wrap o) := by
  cases o with
  | tooltip text => exact absurd rfl (ho text)
  | leaf text => exact ⟨rfl, rfl, rfl⟩
  | node n => exact ⟨rfl, rfl, rfl⟩
  | widget w => exact ⟨rfl, rfl, rfl⟩
  | thing t => exact ⟨rfl, rfl, rfl⟩
  | clip typeName => exact ⟨rfl, rfl, rfl⟩

section

variable {kind : WidgetKind} (get : String → Option String)
  (parts : List Part)

theorem widgetShape_line (hkind : kind.takesText = true) (line : String) :
    widgetShape kind get (parts ++ [.line line])
      = (widgetShape kind get parts).pushText line := by
  obtain ⟨hcontainer, htree⟩ := WidgetKind.of_takesText hkind
  simp [widgetShape, Widget.pushText, Part.line?, Part.tooltip?, hkind,
    hcontainer, htree, ← List.append_assoc, joined_snoc]

theorem widgetShape_child (hkind : kind.isContainer = true) {part : Part}
    {o : Object} (ho : part.object? = some o)
    (htooltip : part.tooltip? = none) :
    widgetShape kind get (parts ++ [part])
      = (widgetShape kind get parts).pushChild o := by
  obtain ⟨htext, htree⟩ := WidgetKind.of_isContainer hkind
  simp [widgetShape, Widget.pushChild, ho, htooltip, hkind, htext, htree]

theorem widgetShape_tooltip (text : String) :
    widgetShape kind get (parts ++ [.child (.tooltip text)])
      = { widgetShape kind get parts with tooltip := some text } := by
  simp [widgetShape, List.filterMap_cons, Part.line?, Part.object?,
    Part.node?, Part.tooltip?]

/-- Pieces with text make a text. -/
theorem intercalate_eq_empty {separator : String} {pieces : List String}
    (hpieces : ∀ piece ∈ pieces, piece ≠ "") :
    separator.intercalate pieces = "" ↔ pieces = [] := by
  refine ⟨fun h => ?_, fun h => by rw [h, String.intercalate_nil]⟩
  cases pieces with
  | nil => rfl
  | cons piece rest =>
      cases rest with
      | nil =>
          rw [String.intercalate_singleton] at h
          exact absurd h (hpieces piece List.mem_cons_self)
      | cons next rest =>
          rw [String.intercalate_cons_cons, String.append_eq_empty_iff,
            String.append_eq_empty_iff] at h
          exact absurd h.1.1 (hpieces piece List.mem_cons_self)

theorem tooltipShape_line {line : String} (hline : line ≠ "") :
    tooltipShape get (parts ++ [.line line])
      = if (tooltipShape get parts).isEmpty then line
        else tooltipShape get parts ++ " " ++ line := by
  unfold tooltipShape
  have hadded : ((get "text").toList
        ++ (parts ++ [Part.line line]).filterMap Part.line?).filter (· ≠ "")
      = ((get "text").toList ++ parts.filterMap Part.line?).filter (· ≠ "")
        ++ [line] := by
    simp [Part.line?, hline]
  rw [hadded]
  have hpieces : ∀ piece ∈ ((get "text").toList
      ++ parts.filterMap Part.line?).filter (· ≠ ""), piece ≠ "" := by
    intro piece hmem
    exact of_decide_eq_true (List.mem_filter.mp hmem).2
  generalize ((get "text").toList
    ++ parts.filterMap Part.line?).filter (· ≠ "") = pieces at hpieces ⊢
  by_cases hnil : pieces = []
  · simp [hnil]
  · have hne : (" ".intercalate pieces).isEmpty = false := by
      rw [Bool.eq_false_iff, Ne, String.isEmpty_iff,
        intercalate_eq_empty hpieces]
      exact hnil
    rw [hne, String.intercalate_append_of_ne_nil hnil (by simp),
      String.intercalate_singleton]
    rfl

end

-- ============================================================ elements

mutual

/-- The parts that a body item comes down to: its lines, or the object of
the element. -/
def itemParts : Content → Option (List Part)
  | .text run => some ((Text.lines run).map .line)
  | .element e => do return [.child (← depicted e)]

/-- The object that an element depicts. There is none if it or an element
inside it has a tag that scenes do not know. -/
def depicted : Element → Option Object
  | ⟨name, attributes, content, _⟩ => do
    let t ← SceneTag.ofName? name
    let parts ← bodyParts content
    return shape (valueOf attributes) parts t

/-- The parts that a body comes down to. -/
def bodyParts : List Content → Option (List Part)
  | [] => some []
  | c :: rest => do
    let first ← itemParts c
    let others ← bodyParts rest
    return first ++ others

end

example : depicted ⟨"label", [⟨"text", "a"⟩], [.text " b \n c"], 1⟩
    = some (.widget { (.new .label : Widget Object) with
      text := some "a\nb\nc" }) := by
  rfl

end EntityMarkup.Scene
