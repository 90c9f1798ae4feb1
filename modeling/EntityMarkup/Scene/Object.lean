/-
The objects of a scene: widgets, hierarchy nodes, leaves of text and
tooltips. Since the set of entity types is open, a scene may also hold
objects of a host (`Host/Thing.lean`): things, and clips, which attach to
nothing. The instance of `Entity` gives each its capabilities.
-/
import EntityMarkup.Host.Thing
import EntityMarkup.Scene.Widget

namespace EntityMarkup.Scene

/-- An object of a scene. -/
inductive Object where
  | leaf (text : String)
  | node (n : TreeNode Object)
  | widget (w : Widget Object)
  | tooltip (text : String)
  /-- An object of a host that records what is done to it. -/
  | thing (t : Thing Object)
  /-- An object of a host that attaches to nothing. -/
  | clip (typeName : String)

namespace Object

/-- The type's name. -/
def typeName : Object → String
  | .leaf _ => "text"
  | .node _ => "node"
  | .widget w => w.kind.name
  | .tooltip _ => "tooltip"
  | .thing t => t.typeName
  | .clip typeName => typeName

/-- The components of windows and of things with parts. -/
def components? : Object → Option (List Object)
  | .widget w => w.title.map fun t => [.widget t]
  | .thing t => t.parts.map (·.map .thing)
  | _ => none

/-- Puts components back. -/
def withComponents : Object → List Object → Object
  | .widget w, [.widget t] => .widget { w with title := some t }
  | .thing t, parts =>
    .thing { t with parts := some (parts.filterMap fun
      | .thing p => some p
      | _ => none) }
  | o, _ => o

/-- The nodes of trees, of nodes, and of things with nodes. -/
def nodes? : Object → Option (List (TreeNode Object))
  | .node n => some n.children
  | .widget w => if w.kind = .tree then some w.nodes else none
  | .thing t => t.nodes
  | _ => none

/-- Replaces the nodes. -/
def withNodes : Object → List (TreeNode Object) → Object
  | .node n, nodes => .node { n with children := nodes }
  | .widget w, nodes => .widget { w with nodes := nodes }
  | .thing t, nodes => .thing { t with nodes := some nodes }
  | o, _ => o

/-- Tooltips and clips attach themselves, and things that say so. -/
def isAttachable : Object → Bool
  | .tooltip _ => true
  | .clip _ => true
  | .thing t => t.attachable
  | _ => false

/-- A tooltip becomes the tooltip of a widget; a thing leaves a line on a
thing. -/
def attachTo : Object → Handler Object Unit
  | .tooltip text => do
    match ← Handler.get with
    | .widget w =>
      Handler.modify fun _ => .widget { w with tooltip := some text }
    | o => Handler.refuse ("a tooltip needs a widget, found " ++ o.typeName)
  | .thing child => do
    match ← Handler.get with
    | .thing t =>
      Handler.note ("attach " ++ child.typeName ++ " to " ++ t.typeName)
      let line := "attached " ++ child.typeName
      Handler.modify fun _ => .thing { t with lines := t.lines ++ [line] }
    | o =>
      Handler.refuse
        (child.typeName ++ " needs a thing, found " ++ o.typeName)
  | o => Entity.refuseAttaching typeName o

end Object

instance : Entity Object where
  typeName := Object.typeName
  components? := Object.components?
  withComponents := Object.withComponents
  nodes? := Object.nodes?
  withNodes := Object.withNodes
  textLeaf := .leaf
  asNode?
    | .node n => some n
    | _ => none
  isAttachable := Object.isAttachable
  attachTo := Object.attachTo

-- =============================================================== drafts

/-- A draft of an object. -/
inductive Sketch where
  /-- A style and a text. -/
  | styled (draft : StyleDraft)
  /-- The attributes seen so far, for the properties of a host's thing; if
  there is a text, finishing fails with it. -/
  | collected (seen : List (String × String)) (failure : Option String)

namespace Sketch

/-- What finishing a sketch does to the new object. -/
def finish : Handler (Sketch × Object) Unit := do
  match ← Handler.get with
  | (.styled _, _) => return
  | (.collected seen failure, o) =>
    Handler.note
      ("finish " ++ o.typeName ++ " (" ++ toString seen.length ++ " seen)")
    if let some text := failure then Handler.refuse text
    if let .thing t := o then
      let t := seen.foldl (fun t (name, value) => t.set name value) t
      Handler.modify fun _ => (.collected [] failure, .thing t)

end Sketch

instance : Draft Sketch Object where
  finish := Sketch.finish

/-- A building handler that needs a style draft. -/
def onStyled (handler : String → Handler StyleDraft Bool) :
    BuildingHandler Sketch := fun value => do
  match ← Handler.get with
  | .styled draft => Handler.within draft .styled (handler value)
  | .collected _ _ =>
    Handler.refuse "expected builder trellis_build::builder::EntityBuilder"

/-- A binding handler that needs a widget. -/
def onWidget (handler : String → Handler (Widget Object) Unit) :
    BindingHandler Object := fun _ value => do
  let b ← Handler.get
  match b.entity with
  | .widget w =>
    Handler.within w (fun w => { b with entity := .widget w }) (handler value)
  | o =>
    Handler.refuse
      ("expected trellis_build::scene::widget::Widget, found " ++ o.typeName)

end EntityMarkup.Scene
