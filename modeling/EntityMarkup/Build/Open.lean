/-
Opening a tag: from its attributes to an entity that is ready for its
body. Building handlers get the attributes and a draft; the kind makes
the entity from the draft; binding handlers get the attributes that are
left; then the hooks for creation run, those of the components first.

A composite entity is bound in three passes: the entity, each of its
components in turn, and the entity once more. Only the last pass judges
attributes that nobody took, so they are reported against the entity and
not against a component. An attribute that a handler took is not offered
again.
-/
import EntityMarkup.Build.Config
import EntityMarkup.Build.Run
import EntityMarkup.Markup.Element
import EntityMarkup.Registry.Basic

namespace EntityMarkup

/-- What building reads and does not change. -/
structure Setting (E D : Type) where
  registry : Registry E D
  config : Config
  actions : Actions E

/-- A tag whose entity exists: its kind, the entity, and the hooks of the
entity and of its components. -/
structure OpenedTag (E D : Type) where
  name : String
  kind : TagKind E D
  entity : E
  hooks : Hooks E
  partHooks : List (Hooks E)

/-- How errors name the making of an entity in place of an attribute. -/
def buildStep : String := "<build>"

/-- How errors name the close hook in place of an attribute. -/
def closeStep : String := "<close>"

namespace Build

variable {E D : Type} [Entity E] [Draft D E]

-- ============================================================= building

/-- Offers one attribute to the building handlers. The state is the draft
and the names of the attributes that are done with. -/
def buildAttribute (registry : Registry E D) (tag declared : String)
    (state : D × List String) (a : Attribute) : Run (D × List String) :=
  match registry.building? declared a.name with
  | none => pure state
  | some (owner, handler) => do
    let (draft, taken) := state
    Run.record .tag .trace
      ("<" ++ tag ++ "> building " ++ a.name ++ "=" ++ Text.quoted a.value)
    Run.step tag (.building owner a.name a.value)
    let (consumed, draft) ← Run.call (handler a.value) draft
      fun _ cause => .handlerFailure a.name declared .building cause
    return (draft, if consumed then taken ++ [a.name] else taken)

/-- Offers the attributes to the building handlers, in order. -/
def buildAttributes (registry : Registry E D) (tag declared : String)
    (draft : D) (attributes : List Attribute) : Run (D × List String) :=
  attributes.foldlM (buildAttribute registry tag declared) (draft, [])

/-- Makes the entity from a draft and finishes the draft. -/
def instantiate (tag : String) (kind : TagKind E D) (draft : D) :
    Run E := do
  Run.step tag .instantiate
  let (entity, draft) ← Run.call kind.instantiate draft
    fun _ cause =>
      .handlerFailure buildStep kind.declaredType .building cause
  Run.step tag .finish
  let (_, _, entity) ← Run.call Draft.finish (draft, entity)
    fun (_, entity) cause =>
      .handlerFailure buildStep (Entity.typeName entity) .building cause
  return entity

-- ============================================================== binding

/-- A binding under way: what is bound, its hooks so far, and the names
of the attributes that are done with. -/
structure Binding (E : Type) where
  target : E
  hooks : Hooks E
  taken : List String

/-- An attribute that nobody takes. -/
def rejectUnknown (config : Config) (tag owner name : String) : Run Unit :=
  if config.strict then Run.fail (.unknownAttribute name owner)
  else Run.ignore tag owner name

/-- Offers one attribute to the binding handlers of the target. Errors
name the owner, which is the type of the tag's entity. -/
def bindAttribute (setting : Setting E D) (tag owner : String)
    (slot : Slot) (judging : Bool) (b : Binding E) (a : Attribute) :
    Run (Binding E) :=
  if a.name ∈ b.taken then pure b
  else
    match setting.registry.binding? (Entity.typeName b.target) a.name with
    | none => do
      if judging then rejectUnknown setting.config tag owner a.name
      return b
    | some (declaredBy, handler) => do
      Run.record .tag .trace
        ("<" ++ tag ++ "> binding " ++ a.name ++ "=" ++ Text.quoted a.value
          ++ " on " ++ Entity.typeName b.target)
      Run.step tag (.binding slot declaredBy a.name a.value)
      let (_, bound) ← Run.call
        (handler ⟨tag, setting.actions⟩ a.value) ⟨b.target, .empty⟩
        fun _ cause => .handlerFailure a.name owner .binding cause
      return ⟨bound.entity, b.hooks.append bound.hooks, b.taken ++ [a.name]⟩

/-- One pass over the attributes. -/
def bindPass (setting : Setting E D) (tag owner : String) (slot : Slot)
    (judging : Bool) (attributes : List Attribute) (b : Binding E) :
    Run (Binding E) :=
  attributes.foldlM (bindAttribute setting tag owner slot judging) b

/-- One pass for each component, from the given index on. -/
def bindParts (setting : Setting E D) (tag owner : String)
    (attributes : List Attribute) (index : Nat) (taken : List String) :
    List E → Run (List E × List (Hooks E) × List String)
  | [] => pure ([], [], taken)
  | part :: parts => do
    let b ← bindPass setting tag owner (.component index) false attributes
      ⟨part, .empty, taken⟩
    let (parts, hooks, taken) ←
      bindParts setting tag owner attributes (index + 1) b.taken parts
    return (b.target :: parts, b.hooks :: hooks, taken)

/-- The two passes that a composite entity has before the last one. The
components are those that the first pass leaves it with. -/
def bindComposite (setting : Setting E D) (tag owner : String)
    (attributes : List Attribute) (b : Binding E) :
    Run (Binding E × List (Hooks E)) := do
  let b ← bindPass setting tag owner .whole false attributes b
  match Entity.components? b.target with
  | none => return (b, [])
  | some parts =>
    let (parts, hooks, taken) ←
      bindParts setting tag owner attributes 0 b.taken parts
    return (⟨Entity.withComponents b.target parts, b.hooks, taken⟩, hooks)

/-- Binds the attributes that are left to an entity and its components.
The answer holds the entity with its hooks, and the hooks of the
components. -/
def bindAttributes (setting : Setting E D) (tag : String)
    (attributes : List Attribute) (taken : List String) (entity : E) :
    Run (Binding E × List (Hooks E)) := do
  let owner := Entity.typeName entity
  let b : Binding E := ⟨entity, .empty, taken⟩
  let (b, partHooks) ← match Entity.components? entity with
    | none => pure (b, [])
    | some [] => Run.fail (.missingComponents owner)
    | some (_ :: _) => bindComposite setting tag owner attributes b
  let b ← bindPass setting tag owner .whole true attributes b
  return (b, partHooks)

-- ================================================================ hooks

/-- Runs the hooks from the given index on, in order. -/
def runActions (tag : String) (moment : Moment) (slot : Slot) :
    Nat → List (Action E) → E → Run E
  | _, [], e => pure e
  | index, action :: rest, e => do
    Run.step tag (.hook moment slot index)
    let e ← Run.act action e
    runActions tag moment slot (index + 1) rest e

/-- Runs the hooks of the components from the given index on; components
without hooks stay as they are. -/
def runPartHooks (tag : String) (moment : Moment) :
    Nat → List E → List (Hooks E) → Run (List E)
  | index, part :: parts, hooks :: rest => do
    let part ←
      runActions tag moment (.component index) 0 (hooks.actions moment) part
    let parts ← runPartHooks tag moment (index + 1) parts rest
    return part :: parts
  | _, parts, _ => pure parts

/-- Runs the hooks of the components and then those of the entity. -/
def runHooks (tag : String) (moment : Moment) (entity : E)
    (hooks : Hooks E) (partHooks : List (Hooks E)) : Run E := do
  let entity ← match Entity.components? entity with
    | none => pure entity
    | some parts =>
      Entity.withComponents entity
        <$> runPartHooks tag moment 0 parts partHooks
  runActions tag moment .whole 0 (hooks.actions moment) entity

-- ============================================================== opening

/-- What is reported when a tag is opened. -/
def openingText (tag declared : String) (parent : Option String)
    (line : Nat) : String :=
  "opening <" ++ tag ++ "> as " ++ declared
    ++ parent.elim "" (fun p => " inside <" ++ p ++ ">")
    ++ " (line " ++ toString line ++ ")"

/-- Opens a tag, inside the tag of the given name if there is one. -/
def openTag (setting : Setting E D) (parent : Option String)
    (name : String) (attributes : List Attribute) (line : Nat) :
    Run (OpenedTag E D) := do
  match setting.registry.kind? name with
  | none => Run.fail (.unknownTag name line)
  | some kind =>
    Run.record .tag .debug
      (openingText name kind.declaredType parent line)
    let (draft, taken) ← buildAttributes setting.registry name
      kind.declaredType kind.newDraft attributes
    let entity ← instantiate name kind draft
    let (b, partHooks) ← bindAttributes setting name attributes taken entity
    let entity ← runHooks name .create b.target b.hooks partHooks
    return ⟨name, kind, entity, b.hooks, partHooks⟩

end Build

end EntityMarkup
