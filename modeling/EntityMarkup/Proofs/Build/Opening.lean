/-
What opening a tag does with its attributes (`openTag_offers`). A handler
gets every attribute that the registry has one for, none gets one twice
for binding, and the hooks behind the binding get none at all. What no
handler takes is passed over, or ends the opening when building is strict.
-/
import EntityMarkup.Proofs.Build.Offer
import EntityMarkup.Proofs.Build.Lifecycle

namespace EntityMarkup.Build

open Relation (ReflTransGen)
open Run (Offers bind_result_ok call_bind_result_ok)

variable {E D : Type} {registry : Registry E D} {tag : String} [Entity E]
  {setting : Setting E D}

-- ============================================================== opening

theorem instantiate_offers [Draft D E] {kind : TagKind E D} {draft : D}
    {e : E} (h : (instantiate tag kind draft).result = .ok e) :
    (instantiate tag kind draft).Offers [] [] := by
  unfold instantiate at h ⊢
  obtain ⟨made, hmade, hrest⟩ := call_bind_result_ok h
  obtain ⟨done, hdone, -⟩ := call_bind_result_ok hrest
  exact .step rfl (.call hmade (.step rfl (.call hdone (.pure _))))

omit [Entity E] in
theorem runActions_offers (moment : Moment) (slot : Slot) (index : Nat)
    (actions : List (Action E)) (e : E) :
    (runActions tag moment slot index actions e).Offers [] [] := by
  induction actions generalizing index e with
  | nil => exact .pure e
  | cons action rest ih =>
      unfold runActions
      exact .step rfl (.act (ih ..))

omit [Entity E] in
theorem runPartHooks_offers (moment : Moment) (index : Nat)
    (parts : List E) (hooks : List (Hooks E)) :
    (runPartHooks tag moment index parts hooks).Offers [] [] := by
  induction parts generalizing index hooks with
  | nil => cases hooks <;> exact .pure []
  | cons part parts ih =>
      cases hooks with
      | nil => exact .pure _
      | cons own rest =>
          unfold runPartHooks
          exact .none (runActions_offers ..) fun part' =>
            .none (ih ..) fun parts' => .pure _

theorem runHooks_offers (moment : Moment) (e : E) (hooks : Hooks E)
    (partHooks : List (Hooks E)) :
    (runHooks tag moment e hooks partHooks).Offers [] [] := by
  unfold runHooks
  split
  · exact .none (.pure e) fun e' => runActions_offers ..
  · rw [map_eq_pure_bind]
    exact .none (.none (runPartHooks_offers ..) fun parts => .pure _)
      fun e' => runActions_offers ..

/-- What a tag's attributes come to when it is opened. The attributes
that are left after building go to the entity's own type first, then to
its components' types in turn, and those that are left after that are
passed over, all against the entity's type. -/
structure TagOffers (setting : Setting E D) (tag : String)
    (kind : TagKind E D) (attributes : List Attribute) (e : E)
    (events : List Event) : Prop where
  offered_eq :
    let left := remaining attributes
      (consumed setting.registry kind.declaredType kind.newDraft attributes)
    events.filter Event.isOffer
      = buildingOffers setting.registry tag kind.declaredType attributes
        ++ bindingOffers setting.registry tag .whole (Entity.typeName e) left
        ++ partOffers setting.registry tag 0 [Entity.typeName e]
          (partTypes e) left
  passed_eq :
    let left := remaining attributes
      (consumed setting.registry kind.declaredType kind.newDraft attributes)
    events.filter Event.isIgnored
      = passedOver tag (Entity.typeName e)
        (free setting.registry (Entity.typeName e :: partTypes e) left)
  strict_eq : setting.config.strict = true →
    events.filter Event.isIgnored = []
  bound_once : (events.filterMap Event.boundName?).Nodup

omit [Entity E] in
/-- The names that are bound for a type are those it has a handler
for. -/
theorem boundNames_bindingOffers (slot : Slot) (type : String)
    (attributes : List Attribute) :
    (bindingOffers registry tag slot type attributes).filterMap
        Event.boundName?
      = (attributes.filter fun a =>
          (registry.binding? type a.name).isSome).map (·.name) := by
  induction attributes with
  | nil => rfl
  | cons a rest ih =>
      rw [bindingOffers_cons, List.filterMap_append, ih,
        List.filter_cons]
      cases registry.binding? type a.name <;> rfl

variable (registry tag) in
omit [Entity E] in
/-- What is bound for a type is bound once, if what is bound later is, and
is free of the type. -/
theorem boundNames_nodup {attributes : List Attribute}
    (hnodup : (attributes.map (·.name)).Nodup) (slot : Slot)
    (before : List String) (type : String) {later : List Event}
    (honce : (later.filterMap Event.boundName?).Nodup)
    (hfree : ∀ name ∈ later.filterMap Event.boundName?,
      name ∈ (free registry (before ++ [type]) attributes).map (·.name)) :
    let names := (bindingOffers registry tag slot type
      (free registry before attributes) ++ later).filterMap
        Event.boundName?
    names.Nodup
      ∧ ∀ name ∈ names,
        name ∈ (free registry before attributes).map (·.name) := by
  have hlater : ∀ name ∈ later.filterMap Event.boundName?,
      name ∈ (free registry before attributes).map (·.name)
        ∧ registry.binding? type name = none := by
    intro name hname
    obtain ⟨a, ha, rfl⟩ := List.mem_map.mp (hfree name hname)
    rw [free_append] at ha
    obtain ⟨ha, hnone⟩ := List.mem_filter.mp ha
    simp only [List.all_cons, List.all_nil, Bool.and_true,
      Option.isNone_iff_eq_none] at hnone
    exact ⟨List.mem_map.mpr ⟨a, ha, rfl⟩, hnone⟩
  intro names
  have hnames : names = ((free registry before attributes).filter fun a =>
        (registry.binding? type a.name).isSome).map (·.name)
      ++ later.filterMap Event.boundName? := by
    rw [← boundNames_bindingOffers slot, ← List.filterMap_append]
  rw [hnames]
  constructor
  · rw [List.nodup_append]
    refine ⟨?_, honce, ?_⟩
    · exact hnodup.sublist
        ((List.filter_sublist.trans List.filter_sublist).map _)
    · intro name hname name' hname' heq
      subst heq
      obtain ⟨a, ha, rfl⟩ := List.mem_map.mp hname
      have hsome := (List.mem_filter.mp ha).2
      rw [(hlater a.name hname').2] at hsome
      cases hsome
  · intro name hname
    rcases List.mem_append.mp hname with h | h
    · obtain ⟨a, ha, rfl⟩ := List.mem_map.mp h
      exact List.mem_map.mpr ⟨a, (List.mem_filter.mp ha).1, rfl⟩
    · exact (hlater name h).1

variable (registry tag) in
omit [Entity E] in
/-- The names that are bound to components are free of the types before,
and each is bound once. -/
theorem boundNames_partOffers {attributes : List Attribute}
    (hnodup : (attributes.map (·.name)).Nodup) (index : Nat)
    (before types : List String) :
    let names := (partOffers registry tag index before types
      attributes).filterMap Event.boundName?
    names.Nodup
      ∧ ∀ name ∈ names,
        name ∈ (free registry before attributes).map (·.name) := by
  induction types generalizing index before with
  | nil => exact ⟨List.nodup_nil, by simp [partOffers]⟩
  | cons type types ih =>
      obtain ⟨honce, hfree⟩ := ih (index + 1) (before ++ [type])
      exact boundNames_nodup registry tag hnodup (.component index) before
        type honce hfree

omit [Entity E] in
/-- What is bound to an entity and its components is bound once. -/
theorem boundNames_tag {attributes : List Attribute}
    (hnodup : (attributes.map (·.name)).Nodup) (type : String)
    (types : List String) :
    ((bindingOffers registry tag .whole type attributes
        ++ partOffers registry tag 0 [type] types attributes).filterMap
      Event.boundName?).Nodup := by
  have hall : free registry [] attributes = attributes :=
    List.filter_eq_self.mpr fun _ _ => rfl
  obtain ⟨honce, hfree⟩ :=
    boundNames_partOffers registry tag hnodup 0 [type] types
  have h :=
    (boundNames_nodup registry tag hnodup .whole [] type honce hfree).1
  rw [hall] at h
  exact h

theorem boundNames_filter (events : List Event) :
    (events.filter Event.isOffer).filterMap Event.boundName?
      = events.filterMap Event.boundName? := by
  rw [List.filterMap_filter]
  refine List.filterMap_congr fun event _ => ?_
  match event with
  | .entry _ | .ignored _ _ _ => rfl
  | .step _ step => cases step <;> rfl

/-- Opening a tag offers its attributes to building handlers, then those
that are not consumed to binding handlers, and passes the rest over. -/
theorem openTag_run_offers [Draft D E] {parent : Option String}
    {attributes : List Attribute} {line : Nat} {kind : TagKind E D} {e : E}
    {opened : OpenedTag E D} (hnodup : (attributes.map (·.name)).Nodup)
    (hkind : setting.registry.kind? tag = some kind)
    (hmade : (make setting.registry tag kind attributes).result = .ok e)
    (hsettled : Settled setting e)
    (hopened : (openTag setting parent tag attributes line).result
      = .ok opened) :
    let left := remaining attributes
      (consumed setting.registry kind.declaredType kind.newDraft attributes)
    let unknown := free setting.registry (Entity.typeName e :: partTypes e)
      left
    (openTag setting parent tag attributes line).Offers
        (buildingOffers setting.registry tag kind.declaredType attributes
          ++ (bindingOffers setting.registry tag .whole (Entity.typeName e)
              left
            ++ partOffers setting.registry tag 0 [Entity.typeName e]
              (partTypes e) left))
        (passedOver tag (Entity.typeName e) unknown)
      ∧ (setting.config.strict = true → unknown = []) := by
  intro left unknown
  unfold openTag at hopened ⊢
  rw [hkind] at hopened ⊢
  obtain ⟨_, -, hrest⟩ := bind_result_ok hopened
  obtain ⟨⟨draft, taken⟩, hbuilt, hrest⟩ := bind_result_ok hrest
  obtain ⟨made, hinstance, hrest⟩ := bind_result_ok hrest
  obtain ⟨⟨b, partHooks⟩, hbound, hrest⟩ := bind_result_ok hrest
  obtain ⟨created, hcreated, -⟩ := bind_result_ok hrest
  have hsame : made = e := by
    rw [make, Run.bind_of_ok hbuilt] at hmade
    exact Except.ok.inj (hinstance.symm.trans hmade)
  subst hsame
  obtain ⟨hbuilding, htaken⟩ := buildAttributes_offers hbuilt
  rw [List.nil_append] at htaken
  subst htaken
  obtain ⟨hbinding, hstrict⟩ :=
    bindAttributes_offers hnodup hsettled hbound
  refine ⟨?_, hstrict⟩
  refine .record (.next hbuilt hbuilding ?_)
  refine .next (s := []) hinstance (instantiate_offers hinstance) ?_
  exact .idle hbound hbinding
    (.idle hcreated (runHooks_offers ..) (.pure _))

section

variable [Draft D E]

/-- What is marked as a call when a tag is opened is a call that a build
can make, whatever the handlers do. -/
theorem bindComposite_told (owner : String) (attributes : List Attribute)
    (b : Binding E) :
    (bindComposite setting tag owner attributes b).Makes
      (Call.Made setting) (fun _ _ => True) fun _ => True := by
  unfold bindComposite
  refine (bindPass_makes ..).bind (fun b calls _ _ => ?_) fun _ _ => trivial
  split
  · exact .pure trivial
  · exact (bindParts_makes ..).bind (fun _ _ _ _ => .pure trivial)
      fun _ _ => trivial

theorem bindAttributes_told (attributes : List Attribute)
    (taken : List String) (e : E) :
    (bindAttributes setting tag attributes taken e).Makes
      (Call.Made setting) (fun _ _ => True) fun _ => True := by
  have hlast : ∀ r : Binding E × List (Hooks E),
      (bindPass setting tag (Entity.typeName e) .whole true attributes r.1
        >>= fun b => Pure.pure (b, r.2)).Makes (Call.Made setting)
        (fun _ _ => True) fun _ => True :=
    fun r => (bindPass_makes ..).bind (fun _ _ _ _ => .pure trivial)
      fun _ _ => trivial
  unfold bindAttributes
  split
  · exact hlast (⟨e, .empty, taken⟩, [])
  · exact Run.Makes.bind (P := fun _ _ => False) (.fail rfl trivial)
      (fun _ _ _ h => h.elim) fun _ h => h
  · exact (bindComposite_told ..).bind (fun r _ _ _ => hlast r)
      fun _ _ => trivial

theorem runHooks_told (moment : Moment) (e : E) (hooks : Hooks E)
    (partHooks : List (Hooks E)) :
    (runHooks tag moment e hooks partHooks).Makes (Call.Made setting)
      (fun _ _ => True) fun _ => True := by
  have hactions : ∀ slot actions (e : E),
      (runActions tag moment slot 0 actions e).Makes (Call.Made setting)
        (fun _ _ => True) fun _ => True :=
    fun slot actions e => (runActions_makes ..).mono
      (fun _ _ _ _ => trivial) fun _ _ => trivial
  have hparts : ∀ (parts : List E) (index : Nat) (hs : List (Hooks E)),
      (runPartHooks tag moment index parts hs).Makes (Call.Made setting)
        (fun _ _ => True) fun _ => True := by
    intro parts
    induction parts with
    | nil =>
        intro index hs
        cases hs <;> exact .pure trivial
    | cons part parts ih =>
        intro index hs
        cases hs with
        | nil => exact .pure trivial
        | cons own rest =>
            exact (hactions ..).bind (fun _ _ _ _ =>
              (ih ..).bind (fun _ _ _ _ => .pure trivial)
                fun _ _ => trivial) fun _ _ => trivial
  unfold runHooks
  split
  · exact hactions ..
  · rw [map_eq_pure_bind]
    exact Run.Makes.bind (P := fun _ _ => True) (Q := fun _ => True)
      ((hparts ..).bind (fun _ _ _ _ => .pure trivial) fun _ _ => trivial)
      (fun _ _ _ _ => hactions ..) fun _ _ => trivial

theorem openTag_told (setting : Setting E D) (parent : Option String)
    (tag : String) (attributes : List Attribute) (line : Nat) :
    (openTag setting parent tag attributes line).Makes (Call.Made setting)
      (fun _ _ => True) fun _ => True := by
  unfold openTag
  split
  · exact .fail rfl trivial
  · next kind hkind =>
    refine .record ?_
    refine (buildAttributes_makes hkind kind.newDraft attributes).bind
      (fun (draft, taken) _ _ _ => ?_) fun _ _ => trivial
    refine (instantiate_makes hkind draft).bind (fun e _ _ _ => ?_)
      fun _ _ => trivial
    exact (bindAttributes_told ..).bind (fun _ _ _ _ =>
      (runHooks_told ..).bind (fun _ _ _ _ => .pure trivial)
        fun _ _ => trivial) fun _ _ => trivial

end

/-- What opening a tag does with its attributes, if their names are
distinct and binding changes neither the type of the entity nor its
components' number, order and types. -/
theorem openTag_offers [Draft D E] (setting : Setting E D)
    (parent : Option String) (name : String) (attributes : List Attribute)
    (line : Nat) {kind : TagKind E D} {e : E} {opened : OpenedTag E D}
    (hnodup : (attributes.map (·.name)).Nodup)
    (hkind : setting.registry.kind? name = some kind)
    (hmade : (make setting.registry name kind attributes).result = .ok e)
    (hsettled : Settled setting e)
    (hopened : (openTag setting parent name attributes line).result
      = .ok opened) :
    TagOffers setting name kind attributes e
      (openTag setting parent name attributes line).events
      ∧ ∃ calls, Told calls
          (openTag setting parent name attributes line).events
        ∧ ∀ c ∈ calls, c.Made setting := by
  obtain ⟨calls, htold, hcalls, -⟩ :=
    (openTag_told setting parent name attributes line).exists_calls
  refine ⟨?_, calls, htold, hcalls⟩
  obtain ⟨hoffers, hstrict⟩ :=
    openTag_run_offers hnodup hkind hmade hsettled hopened
  refine ⟨?_, hoffers.passed_eq, fun hflag => ?_, ?_⟩
  · rw [hoffers.offered_eq]
    exact (List.append_assoc ..).symm
  · rw [hoffers.passed_eq, hstrict hflag]
    rfl
  · -- what building handlers get is not bound
    have hbuilding : ∀ l : List Attribute, (buildingOffers setting.registry
        name kind.declaredType l).filterMap Event.boundName? = [] := by
      intro l
      unfold buildingOffers
      rw [List.filterMap_filterMap, List.filterMap_eq_nil_iff]
      intro a _
      cases setting.registry.building? kind.declaredType a.name <;> rfl
    have hleft : ((remaining attributes (consumed setting.registry
        kind.declaredType kind.newDraft attributes)).map (·.name)).Nodup :=
      hnodup.sublist (List.filter_sublist.map _)
    rw [← boundNames_filter, hoffers.offered_eq, List.filterMap_append,
      hbuilding, List.nil_append]
    exact boundNames_tag hleft (Entity.typeName e) (partTypes e)

/-- A panel whose title and text are bound to itself, and whose caption is
bound to its first component. -/
theorem openTag_offers_panel :
    let attributes : List Attribute :=
      [⟨"caption", "c"⟩, ⟨"text", "t"⟩, ⟨"title", "x"⟩]
    let run := openTag Scenario.markSetting none "panel" attributes 1
    (attributes.map (·.name)).Nodup
      ∧ Scenario.markSetting.registry.kind? "panel" = some Scenario.panelTag
      ∧ (make Scenario.markSetting.registry "panel" Scenario.panelTag
          attributes).result = .ok (.panel .new)
      ∧ Settled Scenario.markSetting (Scenario.Object.panel .new)
      ∧ ∃ opened, run.result = .ok opened
        ∧ TagOffers Scenario.markSetting "panel" Scenario.panelTag
          attributes (.panel .new) run.events
        ∧ ∃ calls, Told calls run.events
          ∧ ∀ c ∈ calls, c.Made Scenario.markSetting := by
  intro attributes run
  have hnodup : (attributes.map (·.name)).Nodup := by decide
  have hkind : Scenario.markSetting.registry.kind? "panel"
      = some Scenario.panelTag := by cbv
  have hmade : (make Scenario.markSetting.registry "panel"
      Scenario.panelTag attributes).result = .ok (.panel .new) := by cbv
  have hsettled : Settled Scenario.markSetting
      (Scenario.Object.panel .new) :=
    Scenario.settled Scenario.markSetting_uses _
  have hok : run.result.isOk = true := by decide +kernel
  cases hopened : run.result with
  | error e =>
      rw [hopened] at hok
      cases hok
  | ok opened =>
      exact ⟨hnodup, hkind, hmade, hsettled, opened, rfl,
        openTag_offers _ none "panel" attributes 1 hnodup hkind hmade
          hsettled hopened⟩

end EntityMarkup.Build
