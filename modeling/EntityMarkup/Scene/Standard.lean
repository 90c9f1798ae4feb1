/-
The standard registry of scenes: the widget types and their ancestry, the
kinds of their tags, and the attributes they take.

  label, button   take text; a button is a label with an event
  group, window   hold children, and labels for lines of text; a window
                  has a title bar, which takes the attributes that the
                  window does not know
  tree            its children and lines become hierarchy nodes
  node            a hierarchy node around a leaf of text
  tooltip         attaches to any widget
-/
import EntityMarkup.Registry.Basic
import EntityMarkup.Scene.Object

namespace EntityMarkup.Scene

-- ================================================================ kinds

/-- The style draft of a sketch. -/
def styleDraft : Handler Sketch StyleDraft := do
  match ← Handler.get with
  | .styled draft => return draft
  | .collected _ _ => Handler.refuse "expected the default entity builder"

/-- The widget that an object is. -/
def asWidget : Handler Object (Widget Object) := do
  match ← Handler.get with
  | .widget w => return w
  | o => Handler.refuse ("expected a widget, found " ++ o.typeName)

/-- Replaces the object by a widget. -/
def putWidget (w : Widget Object) : Handler Object Unit :=
  Handler.modify fun _ => .widget w

/-- The kind of the tags that make widgets of one kind. -/
def widgetTag (kind : WidgetKind) : TagKind Object Sketch where
  declaredType := kind.name
  newDraft := .styled .start
  instantiate := do
    let draft ← styleDraft
    return .widget
      { Widget.new kind with style := draft.style, text := draft.text }
  placeChild child := do
    Handler.require kind.isContainer (kind.name ++ " holds no children")
    putWidget ((← asWidget).pushChild child)
  placeLine line := do
    let w ← asWidget
    if kind.takesText then putWidget (w.pushText line)
    else if kind.isContainer then
      let label : Widget Object := .new .label
      putWidget (w.pushChild (.widget { label with text := some line }))
    else Handler.refuse (kind.name ++ " does not accept plain text")
  onClose := do
    if kind = .window then
      let w ← asWidget
      putWidget { w with packed := true }
      Handler.report (.record .scene .debug
        ("packed window with " ++ toString w.children.length
          ++ " children"))

/-- The kind of the tags that make hierarchy nodes. -/
def nodeTag : TagKind Object Sketch where
  declaredType := "node"
  newDraft := .styled .start
  instantiate := do
    return .node (.leaf ((← styleDraft).text.getD ""))
  placeChild := TagKind.refuseChild
  placeLine := TagKind.refuseLine
  onClose := pure ()

/-- The kind of the tags that make tooltips. -/
def tooltipTag : TagKind Object Sketch where
  declaredType := "tooltip"
  newDraft := .styled .start
  instantiate := do
    return .tooltip ((← styleDraft).text.getD "")
  placeChild := TagKind.refuseChild
  placeLine line := do
    match ← Handler.get with
    | .tooltip text =>
      let text := if text.isEmpty then line else text ++ " " ++ line
      Handler.modify fun _ => .tooltip text
    | o => Handler.refuse ("expected a tooltip, found " ++ o.typeName)
  onClose := pure ()

-- =========================================================== attributes

/-- Sets the style of a draft. -/
def setStyle (value : String) : Handler StyleDraft Bool := do
  let style ← Handler.ofExcept (readName value "style")
  Handler.modify fun d => { d with style }
  return true

/-- A handler that reads a value and puts it into a widget. -/
def put {α : Type} (read : String → Except Cause α)
    (set : Widget Object → α → Widget Object) : BindingHandler Object :=
  onWidget fun value => do
    let a ← Handler.ofExcept (read value)
    Handler.modify fun w => set w a

/-- Adds the standard types, tags and attributes to a registry. -/
def register (r : Registrations Object Sketch) :
    Registrations Object Sketch :=
  let r := r
    |>.declare "widget" rootType
    |>.declare "label" "widget"
    |>.declare "button" "label"
    |>.declare "group" "widget"
    |>.declare "window" "group"
    |>.declare "tree" "widget"
    |>.declare "node" rootType
    |>.declare "tooltip" rootType
  let r := WidgetKind.all.foldl
    (fun r kind => r.tag kind.name (widgetTag kind)) r
  r |>.tag "node" nodeTag
    |>.tag "tooltip" tooltipTag
    |>.onBuilding "widget" "style" (onStyled setStyle)
    |>.onBuilding "label" "text" (onStyled StyleDraft.setText)
    |>.onBuilding "node" "text" (onStyled StyleDraft.setText)
    |>.onBuilding "tooltip" "text" (onStyled StyleDraft.setText)
    |>.onBinding "widget" "visible"
      (put readFlag fun w visible => { w with visible })
    |>.onBinding "widget" "tooltip"
      (put .ok fun w tooltip => { w with tooltip := some tooltip })
    |>.onBinding "label" "align"
      (put Align.read fun w align => { w with align })
    |>.onBinding "button" "on_click"
      (put (readName · "event name") fun w name =>
        { w with onClick := some name })
    |>.onBinding "group" "spacing"
      (put readSpacing fun w spacing => { w with spacing })
    |>.onBinding "window" "title" (put .ok Widget.setTitle)

/-- The standard registry under construction. -/
def registrations : Registrations Object Sketch :=
  register Registrations.start

/-- The standard registry. -/
def registry? : Except RegistryFault (Registry Object Sketch) :=
  registrations.finish

end EntityMarkup.Scene
