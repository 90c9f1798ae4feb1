/-
What no build changes about a scenario object. Handlers, kinds and the
placing of children and lines all leave an object of the type that it is,
and the type settles how many components it has and of which types they
are. So builds with the scenario registry fix the components of their
entities, provided that the actions do not turn objects into others.
-/
import EntityMarkup.Proofs.Build.Change
import EntityMarkup.Proofs.Registry.Populated
import EntityMarkup.Scenario.Registry

namespace EntityMarkup.Scenario

open Build
open Relation (ReflTransGen)

-- ============================================================== handlers

/-- The handler leaves what it binds of the type that it is, and asks for
named actions only. -/
structure BindsKept (handler : BindingHandler Object) : Prop where
  type_eq : ∀ context value b,
    (handler context value b).state.entity.typeName = b.entity.typeName
  named : ∀ context value e moment action,
    action ∈ (handler context value ⟨e, .empty⟩).state.hooks.actions moment →
      ∃ name, context.actions.get? name = some action

/-- The kind leaves objects of the type that they are. -/
structure KindKept (kind : TagKind Object StyleDraft) : Prop where
  line_eq : ∀ line o, (kind.placeLine line o).state.typeName = o.typeName
  child_eq : ∀ child o,
    (kind.placeChild child o).state.typeName = o.typeName
  close_eq : ∀ o, (kind.onClose o).state.typeName = o.typeName

/-- A handler that asks for nothing. -/
theorem BindsKept.of_silent {handler : BindingHandler Object}
    (htype : ∀ context value b,
      (handler context value b).state.entity.typeName = b.entity.typeName)
    (hhooks : ∀ context value b,
      (handler context value b).state.hooks = b.hooks) :
    BindsKept handler := by
  refine ⟨htype, fun context value e moment action haction => ?_⟩
  rw [hhooks] at haction
  cases moment <;> cases haction

/-- A handler that asks for the action of a name asks for no other. -/
theorem hook_kept (moment : Moment) (name : String → String) :
    BindsKept fun context value =>
      BindingHandler.hook context moment (name value) := by
  refine ⟨fun context value b => ?_,
    fun context value e at_ action haction => ⟨name value, ?_⟩⟩
  · cases hget : context.actions.get? (name value) with
    | none => rw [BindingHandler.hook_of_missing hget]
    | some action => rw [BindingHandler.hook_of_found hget]
  · cases hget : context.actions.get? (name value) with
    | none =>
        simp only [BindingHandler.hook_of_missing hget,
          Hooks.actions_empty] at haction
        cases haction
    | some found =>
        simp only [BindingHandler.hook_of_found hget, Hooks.actions_push,
          Hooks.actions_empty, List.nil_append] at haction
        split at haction
        · rw [List.mem_singleton.mp haction]
        · cases haction

theorem hookPart_kept : BindsKept hookPart :=
  have h := hook_kept .create id
  ⟨fun context value b => h.type_eq context value b,
    fun context value e moment action haction =>
      h.named context value e moment action haction⟩

/-- A handler that puts values into objects of one type leaves their type
as it is, if what it puts them into does. -/
theorem bindNoted_kept (name type path : String)
    {put : String → Object → Option Object}
    (hput : ∀ value o o', put value o = some o' →
      o'.typeName = o.typeName) :
    BindsKept (bindNoted name type path put) := by
  have hstate : ∀ context value b,
      (bindNoted name type path put context value b).state
        = { b with entity := (put value b.entity).getD b.entity } := by
    intro context value b
    show (Handler.bind Handler.get _ b).state = _
    simp only [Handler.bind, Handler.get]
    cases put value b.entity <;> rfl
  refine .of_silent (fun context value b => ?_) fun context value b => ?_
  · rw [hstate]
    cases hp : put value b.entity with
    | none => rfl
    | some o => exact hput value b.entity o hp
  · rw [hstate]

theorem inWidget_kept (put : String → Widget Object → Widget Object)
    (value : String) (o o' : Object) (h : inWidget put value o = some o') :
    o'.typeName = o.typeName := by
  cases o <;> cases h
  rfl

theorem inPanel_kept (put : String → Panel Object → Panel Object)
    (value : String) (o o' : Object) (h : inPanel put value o = some o') :
    o'.typeName = o.typeName := by
  cases o <;> cases h
  rfl

theorem setWidth_kept : BindsKept setWidth := by
  have hstate : ∀ context value b,
      (setWidth context value b).state.entity.typeName = b.entity.typeName
        ∧ (setWidth context value b).state.hooks = b.hooks := by
    intro context value b
    show (Handler.bind Handler.get _ b).state.entity.typeName = _
      ∧ (Handler.bind Handler.get _ b).state.hooks = _
    simp only [Handler.bind, Handler.get]
    obtain ⟨o, hooks⟩ := b
    cases o with
    | widget w => cases Word.read value <;> exact ⟨rfl, rfl⟩
    | panel _ | hollow | holder _ | leaf _ _ | tip _ | text _ | node _ =>
        exact ⟨rfl, rfl⟩
  exact .of_silent (fun context value b => (hstate context value b).1)
    fun context value b => (hstate context value b).2

-- ================================================================ kinds

theorem plainTag_kept (type : String) (make : StyleDraft → Object) :
    KindKept (plainTag type make) :=
  ⟨fun _ _ => rfl, fun _ _ => rfl, fun _ => rfl⟩

theorem widgetTag_kept : KindKept widgetTag :=
  ⟨fun _ o => by cases o <;> rfl, fun _ o => by cases o <;> rfl,
    fun _ => rfl⟩

theorem panelTag_kept : KindKept panelTag :=
  ⟨fun _ _ => rfl, fun _ _ => rfl, fun o => by cases o <;> rfl⟩

theorem holderTag_kept : KindKept holderTag :=
  ⟨fun _ _ => rfl, fun _ o => by cases o <;> rfl, fun _ => rfl⟩

/-- All that is registered leaves objects of the type that they are. -/
theorem registrations_kept : registrations.Holds KindKept BindsKept := by
  have hstart : (Registrations.start : Registrations Object
      StyleDraft).Holds KindKept BindsKept :=
    .start fun moment => hook_kept moment Text.trim
  have hkinds := hstart.declare "widget" rootType
    |>.declare "panel" rootType |>.declare "hollow" rootType
    |>.declare "holder" rootType |>.declare "leaf" rootType
    |>.declare "tip" rootType
    |>.tag "widget" widgetTag_kept |>.tag "panel" panelTag_kept
    |>.tag "hollow" (plainTag_kept "hollow" fun _ => .hollow)
    |>.tag "holder" holderTag_kept
    |>.tag "leaf" (plainTag_kept "leaf" fun _ => .leaf "" none)
    |>.tag "tip" (plainTag_kept "tip" fun d => .tip (d.text.getD ""))
    |>.tag "node" (plainTag_kept "node" fun _ => .node (.leaf ""))
    |>.onBuilding "widget" "style" setStyle
    |>.onBuilding "widget" "tone" declineTone
  -- the goal names the handlers, so they are gone through from the last
  unfold registrations
  refine .onBuilding ?_ "tip" "text" _
  refine .onBinding ?_ "leaf" "text" (bindNoted_kept _ _ _ ?hleaf)
  refine .onBinding ?_ "holder" "label" (bindNoted_kept _ _ _ ?hholder)
  refine .onBinding ?_ "panel" "title" (bindNoted_kept _ _ _ (inPanel_kept _))
  refine .onBinding ?_ "panel" "text" (bindNoted_kept _ _ _ (inPanel_kept _))
  refine .onBinding ?_ "widget" "part_create" hookPart_kept
  refine .onBinding ?_ "widget" "part_close" (hook_kept .close id)
  refine .onBinding ?_ "widget" "width" setWidth_kept
  refine .onBinding ?_ "widget" "caption"
    (bindNoted_kept _ _ _ (inWidget_kept _))
  refine .onBinding ?_ "widget" "text"
    (bindNoted_kept _ _ _ (inWidget_kept _))
  refine .onBinding hkinds "widget" "tone"
    (bindNoted_kept _ _ _ (inWidget_kept _))
  all_goals
    intro value o o' h
    cases o <;> cases h
    rfl

-- ============================================================== builds

/-- The type of an object settles of which types its components are. -/
theorem components_types (o : Object) :
    (Entity.components? o).map (·.map Object.typeName)
      = if o.typeName = "panel" then some ["widget", "widget"]
        else if o.typeName = "hollow" then some [] else none := by
  cases o <;> rfl

/-- Putting components back leaves an object of the type that it is. -/
theorem withComponents_type (o : Object) (parts : List Object) :
    (Entity.withComponents o parts).typeName = o.typeName := by
  show (Object.withComponents o parts).typeName = _
  unfold Object.withComponents
  split <;> rfl

/-- Builds with the scenario registry. What the types' ancestries are
does not matter. -/
structure Uses (setting : Setting Object StyleDraft) : Prop where
  kinds_eq : setting.registry.kinds = registrations.kinds
  binding_eq : setting.registry.binding = registrations.binding

variable {setting : Setting Object StyleDraft}

/-- Binding an attribute leaves an object of the type that it is. -/
theorem rebound_type (huses : Uses setting) {o o' : Object}
    (h : Rebound setting o o') : o'.typeName = o.typeName := by
  obtain ⟨tag, value, hfound, hok⟩ := h
  rw [Registry.binding?, huses.binding_eq] at hfound
  exact (registrations_kept.binding.resolve hfound).type_eq ..

theorem rebounds_type (huses : Uses setting) {o o' : Object}
    (h : ReflTransGen (Rebound setting) o o') :
    o'.typeName = o.typeName := by
  induction h with
  | refl => rfl
  | tail _ hstep ih => exact (rebound_type huses hstep).trans ih

theorem bindingChange_type (huses : Uses setting) {o o' : Object}
    (h : ReflTransGen (BindingChange setting) o o') :
    o'.typeName = o.typeName := by
  induction h with
  | refl => rfl
  | tail _ hstep ih =>
      cases hstep with
      | whole h => exact (rebound_type huses h).trans ih
      | parts hparts h => exact (withComponents_type _ _).trans ih

/-- Binding attributes changes neither the type of an object nor the
number, order and types of its components. -/
theorem settled (huses : Uses setting) (o : Object) :
    Settled setting o where
  type_eq o' h := bindingChange_type huses h
  partTypes_eq o' h := by
    have htypes : ∀ o : Object, partTypes o
        = ((Entity.components? o).map (·.map Object.typeName)).getD [] := by
      intro o
      unfold partTypes
      cases Entity.components? o <;> rfl
    rw [htypes, htypes, components_types, components_types,
      bindingChange_type huses h]
  partType_eq o' parts _ _ part _ part' h := rebounds_type huses h

/-- The named actions leave objects of the type that they are. -/
def ActionsKept (actions : Actions Object) : Prop :=
  ∀ name action, actions.get? name = some action →
    ∀ o, (action o).2.typeName = o.typeName

theorem ActionsKept.empty : ActionsKept Actions.empty := by
  intro name action hget
  have hget : (∅ : Std.TreeMap String (Action Object))[name]?
      = some action := hget
  simp at hget

theorem ActionsKept.insert {actions : Actions Object}
    (h : ActionsKept actions) (name : String) {action : Action Object}
    (hkept : ∀ o, (action o).2.typeName = o.typeName) :
    ActionsKept (actions.insert name action) := by
  intro name' action' hget o
  have hget : (actions.named.insert name action)[name']?
      = some action' := hget
  rw [Std.TreeMap.getElem?_insert] at hget
  split at hget
  · cases hget
    exact hkept o
  · exact h name' action' hget o

/-- So does every action that a handler can ask for. -/
theorem asked_type (huses : Uses setting)
    (hactions : ActionsKept setting.actions) {action : Action Object}
    (h : Asked setting action) (o : Object) :
    (action o).2.typeName = o.typeName := by
  obtain ⟨c, moment, hmade, haction⟩ := h
  cases hmade with
  | binding tag slot value hfound =>
      rw [Registry.binding?, huses.binding_eq] at hfound
      rw [Call.ofBinding, Hooks.actionsAt_requests] at haction
      obtain ⟨name, hname⟩ :=
        (registrations_kept.binding.resolve hfound).named _ _ _ _ _ haction
      exact hactions name action hname o
  | building | instantiate | finish | hook | lineNode | line | childNode
  | child | attaching | close =>
      cases haction

/-- No step of a build changes the type of an object. -/
theorem change_type (huses : Uses setting)
    (hactions : ActionsKept setting.actions) {tag : String}
    {kind : TagKind Object StyleDraft}
    (hkind : setting.registry.kind? tag = some kind) {o o' : Object}
    (h : Change setting kind o o') : o'.typeName = o.typeName := by
  rw [Registry.kind?, huses.kinds_eq] at hkind
  have hkept := registrations_kept.kinds tag kind hkind
  cases h with
  | touch h =>
      cases h with
      | bound h => exact rebound_type huses h
      | acted o h => exact asked_type huses hactions h o
  | parts hparts h => exact withComponents_type o _
  | node node hnodes => cases o <;> rfl
  | line hok => exact hkept.line_eq _ o
  | child hok => exact hkept.child_eq _ o
  | @attached child hself hok =>
      cases child <;> cases o <;> rfl
  | closed hok => exact hkept.close_eq o

/-- Nor does it take components away, or add to them. -/
theorem fixedParts (huses : Uses setting)
    (hactions : ActionsKept setting.actions) : FixedParts setting := by
  intro tag kind o o' hreached hchange
  have htype := change_type huses hactions hreached.kind_eq hchange
  have hcount : ∀ o : Object, partCount o
      = (((Entity.components? o).map (·.map Object.typeName)).getD
          []).length := by
    intro o
    unfold partCount
    cases Entity.components? o <;> simp
  rw [hcount, hcount, components_types, components_types, htype]

-- ============================================================ a setting

/-- Strict builds with the scenario registry and one action, which leaves
the object as it is. All types are directly below the root type. -/
def markSetting : Setting Object StyleDraft where
  registry := ⟨∅, registrations.kinds, registrations.building,
    registrations.binding⟩
  config := {}
  actions := Actions.empty.insert "mark" (notingAction "mark")

theorem markSetting_uses : Uses markSetting :=
  ⟨by rw [markSetting], by rw [markSetting]⟩

/-- The same with two actions that can be told apart. -/
def twoMarks : Setting Object StyleDraft :=
  { markSetting with
    actions := Actions.empty.insert "first" (notingAction "first")
      |>.insert "second" (notingAction "second") }

theorem twoMarks_uses : Uses twoMarks :=
  ⟨markSetting_uses.kinds_eq, markSetting_uses.binding_eq⟩

theorem twoMarks_actions : ActionsKept twoMarks.actions :=
  ActionsKept.empty.insert "first" (fun _ => rfl)
    |>.insert "second" fun _ => rfl

end EntityMarkup.Scenario
