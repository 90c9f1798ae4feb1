/-
How a build changes an entity, once it is made: binding handlers and
actions touch it and its components, nodes are added, lines and children
are placed by its kind, a child attaches itself to it, and its tag's close
hook runs. A build reaches an entity from the one it made by such changes
only.

Entities and components are values here, so a component is what stands
at its index. What a build relies on is that there are as many of them
after a change as before it (`FixedParts`): the hooks of a component are
kept by its index from the time it is bound until its tag closes.
-/
import EntityMarkup.Proofs.Build.Call
import Mathlib.Data.List.Forall2
import Mathlib.Logic.Relation

namespace EntityMarkup.Build

open Relation (ReflTransGen)

variable {E D : Type} [Entity E]

/-- How many components an entity has. -/
def partCount (e : E) : Nat := ((Entity.components? e).getD []).length

/-- The entities that attributes may be bound to: the components of an
entity and the entity itself, in the order in which their hooks run. -/
def slots (e : E) : List Slot :=
  (List.range (partCount e)).map .component ++ [.whole]

/-- What a binding handler that the registry has for its type makes of an
entity. -/
inductive Rebound (setting : Setting E D) : E → E → Prop
  | intro (tag : String) {owner name : String} (value : String)
      {handler : BindingHandler E} {e : E}
      (hfound : setting.registry.binding? (Entity.typeName e) name
        = some (owner, handler))
      (hok : (handler ⟨tag, setting.actions⟩ value ⟨e, .empty⟩).result
        = .ok ()) :
      Rebound setting e
        (handler ⟨tag, setting.actions⟩ value ⟨e, .empty⟩).state.entity

/-- The types of an entity's components. -/
def partTypes (e : E) : List String :=
  ((Entity.components? e).getD []).map Entity.typeName

/-- What binding attributes makes of an entity and its components. -/
inductive BindingChange (setting : Setting E D) : E → E → Prop
  | whole {e e' : E} (h : Rebound setting e e') :
      BindingChange setting e e'
  | parts {e : E} {parts parts' : List E}
      (hparts : Entity.components? e = some parts)
      (h : List.Forall₂ (ReflTransGen (Rebound setting)) parts parts') :
      BindingChange setting e (Entity.withComponents e parts')

/-- Binding attributes changes neither the type of the entity nor its
components' number, order and types. -/
structure Settled (setting : Setting E D) (e : E) : Prop where
  type_eq : ∀ e', ReflTransGen (BindingChange setting) e e' →
    Entity.typeName e' = Entity.typeName e
  partTypes_eq : ∀ e', ReflTransGen (BindingChange setting) e e' →
    partTypes e' = partTypes e
  partType_eq : ∀ e' parts, ReflTransGen (BindingChange setting) e e' →
    Entity.components? e' = some parts →
    ∀ part ∈ parts, ∀ part', ReflTransGen (Rebound setting) part part' →
      Entity.typeName part' = Entity.typeName part

theorem BindingChange.of_rebound {setting : Setting E D} {e e' : E}
    (h : ReflTransGen (Rebound setting) e e') :
    ReflTransGen (BindingChange setting) e e' :=
  ReflTransGen.mono (fun _ _ => .whole) _ _ h

variable [Draft D E]

/-- An action that some handler asks to have run. -/
def Asked (setting : Setting E D) (action : Action E) : Prop :=
  ∃ (c : Call E) (moment : Moment), c.Made setting
    ∧ action ∈ actionsAt moment c.asked

/-- What a handler or an action makes of an entity or a component. -/
inductive Touch (setting : Setting E D) : E → E → Prop
  | bound {e e' : E} (h : Rebound setting e e') : Touch setting e e'
  | acted {action : Action E} (e : E) (h : Asked setting action) :
      Touch setting e (action e).2

/-- What one step of a build makes of the entity of a tag of this
kind. -/
inductive Change (setting : Setting E D) (kind : TagKind E D) :
    E → E → Prop
  | touch {e e' : E} (h : Touch setting e e') : Change setting kind e e'
  | parts {e : E} {parts parts' : List E}
      (hparts : Entity.components? e = some parts)
      (h : List.Forall₂ (ReflTransGen (Touch setting)) parts parts') :
      Change setting kind e (Entity.withComponents e parts')
  | node {e : E} {nodes : List (TreeNode E)} (node : TreeNode E)
      (hnodes : Entity.nodes? e = some nodes) :
      Change setting kind e (Entity.withNodes e (nodes ++ [node]))
  | line {e : E} {line : String}
      (hok : (kind.placeLine line e).result = .ok ()) :
      Change setting kind e (kind.placeLine line e).state
  | child {e child : E}
      (hok : (kind.placeChild child e).result = .ok ()) :
      Change setting kind e (kind.placeChild child e).state
  | attached {e child : E} (hself : Entity.isAttachable child = true)
      (hok : (Entity.attachTo child e).result = .ok ()) :
      Change setting kind e (Entity.attachTo child e).state
  | closed {e : E} (hok : (kind.onClose e).result = .ok ()) :
      Change setting kind e (kind.onClose e).state

/-- The making of a tag's entity, before any attribute is bound to it. -/
def make (registry : Registry E D) (tag : String) (kind : TagKind E D)
    (attributes : List Attribute) : Run E := do
  let (draft, _) ← buildAttributes registry tag kind.declaredType
    kind.newDraft attributes
  instantiate tag kind draft

/-- The entity is one that a tag of this name and kind may have. -/
def Reached (setting : Setting E D) (tag : String) (kind : TagKind E D)
    (e : E) : Prop :=
  ∃ (attributes : List Attribute) (made : E),
    setting.registry.kind? tag = some kind
      ∧ (make setting.registry tag kind attributes).result = .ok made
      ∧ ReflTransGen (Change setting kind) made e

/-- No change takes components away from an entity or adds to them. -/
def FixedParts (setting : Setting E D) : Prop :=
  ∀ (tag : String) (kind : TagKind E D) (e e' : E),
    Reached setting tag kind e → Change setting kind e e' →
    partCount e' = partCount e

variable {setting : Setting E D} {tag : String} {kind : TagKind E D}
  {e e' : E}

/-- The entity that a tag is given is reached. -/
theorem Reached.of_make {draft : D} {taken : List String}
    {attributes : List Attribute}
    (hkind : setting.registry.kind? tag = some kind)
    (hbuilt : (buildAttributes setting.registry tag kind.declaredType
      kind.newDraft attributes).result = .ok (draft, taken))
    (hmade : (instantiate tag kind draft).result = .ok e) :
    Reached setting tag kind e := by
  refine ⟨attributes, e, hkind, ?_, .refl⟩
  rw [make, Run.bind_of_ok hbuilt]
  exact hmade

theorem Reached.kind_eq (he : Reached setting tag kind e) :
    setting.registry.kind? tag = some kind := by
  obtain ⟨_, _, hkind, -⟩ := he
  exact hkind

theorem Reached.change (he : Reached setting tag kind e)
    (h : Change setting kind e e') : Reached setting tag kind e' := by
  obtain ⟨attributes, made, hkind, hmade, hreach⟩ := he
  exact ⟨attributes, made, hkind, hmade, hreach.tail h⟩

/-- Changes lead from reached entities to reached entities, and keep the
number of components. -/
theorem Reached.changes (hfixed : FixedParts setting)
    (he : Reached setting tag kind e)
    (h : ReflTransGen (Change setting kind) e e') :
    Reached setting tag kind e' ∧ partCount e' = partCount e := by
  induction h with
  | refl => exact ⟨he, rfl⟩
  | tail _ hstep ih =>
      obtain ⟨hreached, hcount⟩ := ih
      exact ⟨hreached.change hstep,
        (hfixed _ _ _ _ hreached hstep).trans hcount⟩

/-- Touching an entity any number of times changes it. -/
theorem Change.touches (h : ReflTransGen (Touch setting) e e') :
    ReflTransGen (Change setting kind) e e' :=
  ReflTransGen.mono (fun _ _ => .touch) _ _ h

/-- An entity has the same components' slots as long as their number is
the same. -/
theorem slots_eq (h : partCount e' = partCount e) :
    slots e' = slots e := by
  unfold slots
  rw [h]

theorem mem_slots {slot : Slot} :
    slot ∈ slots e ↔ slot = .whole
      ∨ ∃ index, index < partCount e ∧ slot = .component index := by
  unfold slots
  rw [List.mem_append, List.mem_map, List.mem_singleton, or_comm]
  simp only [List.mem_range, eq_comm]

end EntityMarkup.Build
