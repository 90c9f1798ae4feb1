/-
Registries that a host describes by data: described kinds and handlers,
by themselves or beside those of the standard scene.
-/
import EntityMarkup.Host.Described
import EntityMarkup.Scene.Standard

namespace EntityMarkup.Scene

/-- A described registry. -/
structure RegistryDescription where
  /-- Starts with the standard scene. -/
  standard : Bool
  /-- Types and their parents. -/
  declares : List (String × String)
  kinds : List (String × KindDescription)
  /-- Building handlers, and whether they need a draft that collects. -/
  building : List (HandlerDescription × Bool)
  /-- Binding handlers, and the type of object that they need. -/
  binding : List (HandlerDescription × Option HandlerDescription.Target)

/-- The described registrations, in order. -/
def RegistryDescription.registrations (d : RegistryDescription) :
    Registrations Object Sketch :=
  let r := if d.standard then Scene.registrations else .start
  let r := d.declares.foldl (fun r (type, parent) => r.declare type parent) r
  let r := d.kinds.foldl (fun r (name, k) => r.tag name k.tagKind) r
  let r := d.building.foldl
    (fun r (h, collected) =>
      r.onBuilding h.type h.name (h.building collected)) r
  d.binding.foldl
    (fun r (h, target) => r.onBinding h.type h.name (h.binding target)) r

end EntityMarkup.Scene
