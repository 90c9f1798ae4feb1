/-
Registries of tags, entity types and attribute handlers. A registry is
populated first (`Registrations`, where the last registration of a key
counts) and then finished, which settles every type's ancestry; from then
on it is only looked up.

A handler registered for a type serves all types below it, until one on
the way down registers the same attribute: looking up an attribute for a
type goes through the type's ancestry, and the first registration found
counts. `Registry.describe` lists all that can be found for a type.
-/
import EntityMarkup.Build.Phase
import EntityMarkup.Registry.Ancestry
import EntityMarkup.Registry.Kind
import Std.Data.TreeSet

namespace EntityMarkup

/-- Handlers by entity type and attribute name. -/
abbrev HandlerTable (H : Type) :=
  Std.TreeMap String (Std.TreeMap String H)

namespace HandlerTable

variable {H : Type}

/-- The handler registered for exactly this type and attribute. -/
def get? (table : HandlerTable H) (type name : String) : Option H :=
  table[type]? >>= fun handlers => handlers[name]?

/-- With a handler registered for a type and an attribute. -/
def insert (table : HandlerTable H) (type name : String) (handler : H) :
    HandlerTable H :=
  Std.TreeMap.insert table type
    ((table[type]?.getD ∅).insert name handler)

/-- The first registration of an attribute along a chain of types, and
the type it was made for. -/
def resolve (table : HandlerTable H) (chain : List String)
    (name : String) : Option (String × H) :=
  chain.findSome? fun type =>
    (table.get? type name).map fun handler => (type, handler)

/-- The attributes registered along a chain of types, each with the first
type of the chain that registers it: the types are gone through from the
last to the first, and a type's own registrations replace earlier
ones. -/
def visible (table : HandlerTable H) (chain : List String) :
    Std.TreeMap String String :=
  chain.foldr
    (fun type names =>
      ((table[type]?.getD ∅).keys).foldl
        (fun names name => names.insert name type) names)
    ∅

end HandlerTable

/-- A registry that is being populated. -/
structure Registrations (E D : Type) where
  parents : Parents
  kinds : Std.TreeMap String (TagKind E D)
  building : HandlerTable (BuildingHandler D)
  binding : HandlerTable (BindingHandler E)
  /-- What was reported so far, for registrations that were replaced. -/
  entries : List Entry

/-- A finished registry. -/
structure Registry (E D : Type) where
  ancestries : Ancestries
  kinds : Std.TreeMap String (TagKind E D)
  building : HandlerTable (BuildingHandler D)
  binding : HandlerTable (BindingHandler E)

/-- An attribute that a type accepts in a phase, and the type whose
handler takes it. -/
structure AttributeInfo where
  name : String
  phase : Phase
  declaredBy : String
deriving DecidableEq, Repr

-- ========================================================== populating

namespace Registrations

variable {E D : Type}

/-- With one more report, if the condition holds. -/
def reportIf (condition : Bool) (text : String)
    (r : Registrations E D) : Registrations E D :=
  if condition then
    { r with entries := r.entries ++ [.record .registry .debug text] }
  else r

/-- With a type declared to be below another. -/
def declare (r : Registrations E D) (type parent : String) :
    Registrations E D :=
  { r with parents := r.parents.insert type parent }

/-- With a kind for the tags of a name. -/
def tag (r : Registrations E D) (name : String) (kind : TagKind E D) :
    Registrations E D :=
  { r with kinds := r.kinds.insert name kind }
    |>.reportIf (r.kinds.contains name)
      ("tag <" ++ name ++ "> re-registered; keeping the latest kind")

/-- With a building handler for a type and an attribute. -/
def onBuilding (r : Registrations E D) (type name : String)
    (handler : BuildingHandler D) : Registrations E D :=
  { r with building := r.building.insert type name handler }
    |>.reportIf (r.building.get? type name).isSome
      ("building handler " ++ type ++ "." ++ name ++ " replaced")

/-- With a binding handler for a type and an attribute. -/
def onBinding (r : Registrations E D) (type name : String)
    (handler : BindingHandler E) : Registrations E D :=
  { r with binding := r.binding.insert type name handler }
    |>.reportIf (r.binding.get? type name).isSome
      ("binding handler " ++ type ++ "." ++ name ++ " replaced")

/-- What every registry starts with: two attributes of all entities that
name an action to run when the entity is created or closed. -/
def start : Registrations E D :=
  ({ parents := ∅, kinds := ∅, building := ∅, binding := ∅,
     entries := [] } : Registrations E D)
    |>.onBinding rootType "on_create" (BindingHandler.hookTrimmed .create)
    |>.onBinding rootType "on_close" (BindingHandler.hookTrimmed .close)

/-- The finished registry, the declared types being looked at in the
given order. -/
def finishIn (r : Registrations E D) (order : List String) :
    Except RegistryFault (Registry E D) := do
  let ancestries ← r.parents.ancestries? order
  return { ancestries, kinds := r.kinds, building := r.building,
           binding := r.binding }

/-- The finished registry. -/
def finish (r : Registrations E D) : Except RegistryFault (Registry E D) :=
  r.finishIn r.parents.keys

end Registrations

-- ============================================================= look-ups

namespace Registry

variable {E D : Type}

/-- What is reported when a registry is finished. -/
def readyEntry (registry : Registry E D) : Entry :=
  .record .registry .debug
    ("syntax ready: " ++ toString registry.kinds.size ++ " tags, "
      ++ toString registry.ancestries.size ++ " types")

/-- A type and its ancestors, the most specific first. -/
def ancestry (registry : Registry E D) (type : String) : List String :=
  registry.ancestries.of type

/-- The building handler for an attribute of a type, and the type it was
registered for. -/
def building? (registry : Registry E D) (type name : String) :
    Option (String × BuildingHandler D) :=
  registry.building.resolve (registry.ancestry type) name

/-- The binding handler for an attribute of a type, and the type it was
registered for. -/
def binding? (registry : Registry E D) (type name : String) :
    Option (String × BindingHandler E) :=
  registry.binding.resolve (registry.ancestry type) name

/-- The kind of the tags of that name. -/
def kind? (registry : Registry E D) (name : String) :
    Option (TagKind E D) :=
  registry.kinds[name]?

/-- The names of all tags, in the order of their code points. -/
def tagNames (registry : Registry E D) : List String :=
  registry.kinds.keys

/-- The attributes that a type accepts, by name and then by phase, with
the types whose handlers take them. -/
def describe (registry : Registry E D) (type : String) :
    List AttributeInfo :=
  let chain := registry.ancestry type
  let building := registry.building.visible chain
  let binding := registry.binding.visible chain
  let names := Std.TreeSet.ofList (building.keys ++ binding.keys)
  names.toList.flatMap fun name =>
    (building[name]?.toList.map (⟨name, .building, ·⟩))
      ++ (binding[name]?.toList.map (⟨name, .binding, ·⟩))

/-- The registry in short, for messages. -/
def summary (registry : Registry E D) : String :=
  "Syntax \x7b tags: " ++ Text.quotedList registry.tagNames ++ ", types: "
    ++ toString registry.ancestries.size ++ " \x7d"

end Registry

end EntityMarkup
