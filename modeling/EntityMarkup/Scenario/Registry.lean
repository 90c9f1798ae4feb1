/-
The registry of the scenario objects. Its handlers write into a journal
which of them ran, with which value and on what, in the order in which
they ran.
-/
import EntityMarkup.Registry.Basic
import EntityMarkup.Scenario.Object

namespace EntityMarkup.Scenario

/-- Writes a line into the journal. -/
def journal {σ : Type} (text : String) : Handler σ Unit :=
  Handler.report (.journal text)

-- ================================================================ kinds

/-- A kind that makes an object from its draft and takes neither children
nor text. -/
def plainTag (type : String) (make : StyleDraft → Object) :
    TagKind Object StyleDraft where
  declaredType := type
  newDraft := .start
  instantiate := do return make (← Handler.get)
  placeChild := TagKind.refuseChild
  placeLine := TagKind.refuseLine
  onClose := pure ()

/-- The widget that an object is. -/
def asWidget : Handler Object (Widget Object) := do
  match ← Handler.get with
  | .widget w => return w
  | _ => Handler.refuse "expected a widget"

/-- Replaces the object by a widget. -/
def putWidget (w : Widget Object) : Handler Object Unit :=
  Handler.modify fun _ => .widget w

/-- Widgets take children and text. -/
def widgetTag : TagKind Object StyleDraft :=
  { plainTag "widget" (fun d => .widget (.styled d.style)) with
    placeChild := fun child => do
      let w ← asWidget
      journal ("valid child " ++ child.typeName)
      putWidget { w with children := w.children ++ [child] }
    placeLine := fun line => do
      let w ← asWidget
      journal ("text " ++ line)
      putWidget { w with lines := w.lines ++ [line] } }

/-- Panels are marked when they close. -/
def panelTag : TagKind Object StyleDraft :=
  { plainTag "panel" (fun _ => .panel .new) with
    onClose := do
      journal "panel hook"
      if let .panel p := ← Handler.get then
        Handler.modify fun _ => .panel { p with closed := true } }

/-- Holders take children that are not made nodes. -/
def holderTag : TagKind Object StyleDraft :=
  { plainTag "holder" (fun _ => .holder .new) with
    placeChild := fun child => do
      journal ("valid child " ++ child.typeName)
      if let .holder h := ← Handler.get then
        Handler.modify fun _ =>
          .holder { h with direct := h.direct ++ [child] } }

-- ============================================================= handlers

/-- The full name of the type of widgets, as failures show it. -/
def widgetPath : String := "trellis_build::fixtures::Widget"

/-- The same for panels. -/
def panelPath : String := "trellis_build::fixtures::Panel"

/-- Refuses an object that is not of the type of that full name. -/
def refuseOther {α : Type} (path : String) (o : Object) :
    Handler (Bound Object) α :=
  Handler.refuse ("expected " ++ path ++ ", found " ++ o.typeName)

/-- A binding handler that puts the value into objects of one type, and
writes into the journal. -/
def bindNoted (name type path : String)
    (put : String → Object → Option Object) : BindingHandler Object :=
  fun _ value => do
    let b ← Handler.get
    match put value b.entity with
    | some o =>
      Handler.modify fun b => { b with entity := o }
      journal ("bind " ++ name ++ "=" ++ value ++ " on " ++ type)
    | none => refuseOther path b.entity

/-- Changes a widget; there is nothing to change in other objects. -/
def inWidget (put : String → Widget Object → Widget Object)
    (value : String) : Object → Option Object
  | .widget w => some (.widget (put value w))
  | _ => none

/-- Changes a panel; there is nothing to change in other objects. -/
def inPanel (put : String → Panel Object → Panel Object)
    (value : String) : Object → Option Object
  | .panel p => some (.panel (put value p))
  | _ => none

/-- Sets the style of a draft. -/
def setStyle : BuildingHandler StyleDraft := fun value => do
  Handler.require (!value.isEmpty) "style must not be empty"
  Handler.modify fun d => { d with style := value }
  journal ("build style=" ++ value)
  return true

/-- Sees a tone and leaves it to be bound. -/
def declineTone : BuildingHandler StyleDraft := fun value => do
  journal ("build tone=" ++ value ++ " (declined)")
  return false

/-- Sets the width of a widget. -/
def setWidth : BindingHandler Object := fun _ value => do
  let b ← Handler.get
  match b.entity with
  | .widget w =>
    match Word.read value with
    | .ok width =>
      let w := { w with width := some width }
      Handler.modify fun b => { b with entity := .widget w }
    | .error e => Handler.refuse e.message
  | o => refuseOther widgetPath o

/-- Has an action run on a part when it is created, after writing into
the journal. -/
def hookPart : BindingHandler Object := fun context value => do
  journal ("bind part_create=" ++ value ++ " in <" ++ context.tag ++ ">")
  BindingHandler.hook context .create value

-- ============================================================= registry

/-- The registry under construction. -/
def registrations : Registrations Object StyleDraft :=
  Registrations.start
    |>.declare "widget" rootType
    |>.declare "panel" rootType
    |>.declare "hollow" rootType
    |>.declare "holder" rootType
    |>.declare "leaf" rootType
    |>.declare "tip" rootType
    |>.tag "widget" widgetTag
    |>.tag "panel" panelTag
    |>.tag "hollow" (plainTag "hollow" fun _ => .hollow)
    |>.tag "holder" holderTag
    |>.tag "leaf" (plainTag "leaf" fun _ => .leaf "" none)
    |>.tag "tip" (plainTag "tip" fun d => .tip (d.text.getD ""))
    |>.tag "node" (plainTag "node" fun _ => .node (.leaf ""))
    |>.onBuilding "widget" "style" setStyle
    |>.onBuilding "widget" "tone" declineTone
    |>.onBinding "widget" "tone"
      (bindNoted "tone" "widget" widgetPath (inWidget fun v w =>
        { w with tone := some v }))
    |>.onBinding "widget" "text"
      (bindNoted "text" "widget" widgetPath (inWidget fun v w =>
        { w with text := some v }))
    |>.onBinding "widget" "caption"
      (bindNoted "caption" "widget" widgetPath (inWidget fun v w =>
        { w with caption := some v }))
    |>.onBinding "widget" "width" setWidth
    |>.onBinding "widget" "part_close"
      (fun context value => BindingHandler.hook context .close value)
    |>.onBinding "widget" "part_create" hookPart
    |>.onBinding "panel" "text"
      (bindNoted "text" "panel" panelPath (inPanel fun v p =>
        { p with text := some v }))
    |>.onBinding "panel" "title"
      (bindNoted "title" "panel" panelPath (inPanel fun v p =>
        { p with title := some v }))
    |>.onBinding "holder" "label"
      (bindNoted "label" "holder" "trellis_build::fixtures::TreeHolder"
        fun v o => match o with
          | .holder h => some (.holder { h with label := some v })
          | _ => none)
    |>.onBinding "leaf" "text"
      (bindNoted "text" "leaf" "trellis_build::fixtures::Leaf"
        fun v o => match o with
          | .leaf _ tip => some (.leaf v tip)
          | _ => none)
    |>.onBuilding "tip" "text" StyleDraft.setText

/-- The finished registry. -/
def registry? : Except RegistryFault (Registry Object StyleDraft) :=
  registrations.finish

/-- The action that writes into the journal, and reports, its name and
the type of the object it runs on, with the style of a widget. -/
def notingAction (name : String) : Action Object := fun o =>
  let style := match o with
    | .widget w => w.builtStyle
    | _ => ""
  let text := "action " ++ name ++ " on " ++ o.typeName ++ " " ++ style
  ([.journal text, .note text], o)

end EntityMarkup.Scenario
