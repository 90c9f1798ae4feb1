/-
Kinds, handlers and actions that a host describes by data, for objects of
its own (`Thing`) and for those of a scene. Each reports what it is asked
to do as a line of its own, so that the order in which a build consults
them can be followed; what a described handler does to a draft or an
object is one of a few fixed effects. The standard scene has none of them.
-/
import EntityMarkup.Scene.Outline

namespace EntityMarkup.Scene

-- ============================================================== objects

namespace Object

mutual

/-- Changes the object, or the one that a hierarchy node holds. -/
def mapHeld (f : Object → Object) : Object → Object
  | .node n => .node (mapHeldNode f n)
  | .leaf text => f (.leaf text)
  | .widget w => f (.widget w)
  | .tooltip text => f (.tooltip text)
  | .thing t => f (.thing t)
  | .clip typeName => f (.clip typeName)

/-- Changes the object that a node holds. -/
def mapHeldNode (f : Object → Object) : TreeNode Object → TreeNode Object
  | ⟨entity, children⟩ => ⟨mapHeld f entity, children⟩

end

/-- Appends to the text of an object, as far as it has one. -/
def appendText (more : String) : Object → Object :=
  mapHeld fun
    | .leaf text => .leaf (text ++ more)
    | .tooltip text => .tooltip (text ++ more)
    | .widget w => .widget (w.pushText more)
    | .thing t => .thing (t.set "text" ((t.props["text"]?.getD "") ++ more))
    | o => o

/-- Sets an attribute of an object: a property of a thing, the text of a
leaf or a widget. -/
def setValue (name value : String) : Object → Object :=
  mapHeld fun
    | .leaf _ => .leaf value
    | .widget w => .widget { w with text := some value }
    | .thing t => .thing (t.set name value)
    | o => o

end Object

-- ============================================================== actions

/-- The action that reports its name and the outline of its object, and
then appends to the text of the object. -/
def describedAction (name more : String) : Action Object := fun o =>
  ([.note ("action " ++ name ++ " on " ++ o.typeName ++ ": " ++ outline o)],
    if more.isEmpty then o else o.appendText more)

-- ================================================================ kinds

/-- What a described kind makes. -/
inductive Form where
  | thing
  | clip
  | leaf
  /-- A node around a leaf. -/
  | node
  /-- A node around a node around a leaf. -/
  | nestedNode
deriving DecidableEq, Repr

/-- A described kind of tag. -/
structure KindDescription where
  declares : String
  /-- The type of what is made, if it is not the declared one. -/
  makes : Option String
  form : Form
  /-- The draft collects attributes for the properties of a thing. -/
  collects : Bool
  /-- The thing is a container of nodes. -/
  hierarchy : Bool
  /-- The types of the thing's components. -/
  parts : Option (List String)
  attachable : Bool
  /-- Children are placed. -/
  children : Bool
  /-- Lines of text are placed. -/
  text : Bool
  instantiateFailure : Option String
  finishFailure : Option String
  closeFailure : Option String

namespace KindDescription

/-- The type of what is made. -/
def made (k : KindDescription) : String := k.makes.getD k.declares

/-- The draft that the kind starts from. -/
def newDraft (k : KindDescription) : Sketch :=
  if k.collects then .collected [] k.finishFailure else .styled .start

/-- The thing that the kind makes with a style and a text. -/
def thing (k : KindDescription) (style : String) (text : Option String) :
    Thing Object :=
  let t : Thing Object :=
    { Thing.new k.made with
      parts := k.parts.map (·.map Thing.new)
      nodes := if k.hierarchy then some [] else none
      attachable := k.attachable }
  let t := if style = StyleDraft.defaultStyle then t else t.set "style" style
  text.elim t (t.set "text")

/-- What the kind makes from a style and a text. -/
def make (k : KindDescription) (style : String) (text : Option String) :
    Object :=
  match k.form with
  | .thing => .thing (k.thing style text)
  | .clip => .clip k.made
  | .leaf => .leaf (text.getD "")
  | .node => .node (.leaf (text.getD ""))
  | .nestedNode => .node ⟨.node (.leaf (text.getD "")), []⟩

/-- Makes the object and reports it. -/
def instantiate (k : KindDescription) : Handler Sketch Object := do
  if let some text := k.instantiateFailure then Handler.refuse text
  let (style, text) := match ← Handler.get with
    | .styled draft => (draft.style, draft.text)
    | .collected _ _ => ("-", none)
  Handler.note ("instantiate " ++ k.made ++ " style=" ++ style)
  return k.make style text

/-- Reports a child and gives it to a thing; others drop it. -/
def placeChild (child : Object) : Handler Object Unit := do
  let parent ← Handler.get
  Handler.note ("child " ++ child.typeName ++ " into " ++ parent.typeName)
  if let .thing t := parent then
    let t := { t with children := t.children ++ [child] }
    Handler.modify fun _ => .thing t

/-- Reports a line of text and gives it to a thing; others drop it. -/
def placeLine (line : String) : Handler Object Unit := do
  let o ← Handler.get
  Handler.note ("text " ++ line ++ " into " ++ o.typeName)
  if let .thing t := o then
    let t := { t with lines := t.lines ++ [line] }
    Handler.modify fun _ => .thing t

/-- Reports that the tag closes. -/
def close (k : KindDescription) : Handler Object Unit := do
  if let some text := k.closeFailure then Handler.refuse text
  Handler.note ("close " ++ (← Handler.get).typeName)

/-- The described kind. -/
def tagKind (k : KindDescription) : TagKind Object Sketch where
  declaredType := k.declares
  newDraft := k.newDraft
  instantiate := k.instantiate
  placeChild := if k.children then placeChild else TagKind.refuseChild
  placeLine := if k.text then placeLine else TagKind.refuseLine
  onClose := k.close

end KindDescription

-- ============================================================= handlers

/-- A described handler for an attribute of a type. -/
structure HandlerDescription where
  type : String
  name : String
  effect : String

namespace HandlerDescription

/-- What the handler reports of a value. -/
def reportText (phase : String) (h : HandlerDescription) (value : String) :
    String :=
  phase ++ " " ++ h.type ++ "." ++ h.name ++ "=" ++ value ++ " ("
    ++ h.effect ++ ")"

/-- The failure of a handler that refuses every value. -/
def rejection (h : HandlerDescription) (value : String) : String :=
  h.name ++ " rejected " ++ value

/-- A building handler on style drafts: refuses the value, or stores it
and declines it or not. -/
def onStyle (h : HandlerDescription) (value : String) :
    Handler StyleDraft Bool := do
  Handler.note (h.reportText "build" value)
  if h.effect = "fail" then Handler.refuse (h.rejection value)
  Handler.modify fun d =>
    if h.name = "style" then { d with style := value }
    else { d with text := some value }
  return h.effect != "decline"

/-- A building handler on drafts that collect. -/
def onCollected (h : HandlerDescription) : BuildingHandler Sketch :=
  fun value => do
    match ← Handler.get with
    | .styled _ =>
      Handler.refuse "expected builder driver::custom::ThingBuilder"
    | .collected seen failure =>
      Handler.note (h.reportText "build" value)
      if h.effect = "fail" then Handler.refuse (h.rejection value)
      Handler.modify fun _ =>
        .collected (seen ++ [(h.name, value)]) failure
      return h.effect != "decline"

/-- The building handler, on drafts of the one or the other form. -/
def building (h : HandlerDescription) (collected : Bool) :
    BuildingHandler Sketch :=
  if collected then h.onCollected else onStyled h.onStyle

/-- A binding handler on any object. -/
def bindingAny (h : HandlerDescription) : BindingHandler Object :=
  fun context value => do
    let b ← Handler.get
    Handler.note
      (h.reportText "bind" value ++ " on " ++ b.entity.typeName ++ " in <"
        ++ context.tag ++ ">")
    match h.effect, b.entity with
    | "fail", _ => Handler.refuse (h.rejection value)
    | "on_create", _ => BindingHandler.hook context .create value
    | "on_close", _ => BindingHandler.hook context .close value
    | "add_part", .thing t =>
      let parts := t.parts.getD [] ++ [Thing.new value]
      Handler.modify fun b =>
        { b with entity := .thing { t with parts := some parts } }
    | "clear_parts", .thing t =>
      Handler.modify fun b =>
        { b with entity := .thing { t with parts := none } }
    | "add_part", _ => return
    | "clear_parts", _ => return
    | _, o =>
      Handler.modify fun b => { b with entity := o.setValue h.name value }

/-- The type of object that a binding handler needs. -/
inductive Target where
  | thing
  | leaf
  | node
  | widget
deriving DecidableEq, Repr

/-- Is of the type. -/
def Target.accepts : Target → Object → Bool
  | .thing, .thing _ => true
  | .leaf, .leaf _ => true
  | .node, .node _ => true
  | .widget, .widget _ => true
  | _, _ => false

/-- The type's full name. -/
def Target.path : Target → String
  | .thing => "driver::custom::Thing"
  | .leaf => "trellis_build::entity::TextLeaf"
  | .node => "trellis_build::entity::TreeNode"
  | .widget => "trellis_build::scene::widget::Widget"

/-- The binding handler, on all objects or on those of one type. -/
def binding (h : HandlerDescription) : Option Target → BindingHandler Object
  | none => h.bindingAny
  | some target => fun context value => do
    let b ← Handler.get
    if target.accepts b.entity then h.bindingAny context value
    else
      Handler.refuse
        ("expected " ++ target.path ++ ", found " ++ b.entity.typeName)

end HandlerDescription

end EntityMarkup.Scene
