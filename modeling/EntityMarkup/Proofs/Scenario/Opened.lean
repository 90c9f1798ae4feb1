/-
Opening a tag of the scenario, where no actions are named. Attributes put
values into the object and change nothing else of it (`Dressed`): no
handler places anything, none that asks for an action has an answer, and
the second part of a panel is offered only what the first part does not
know, so nothing is bound to it. So the object of an opened tag has what
it was made with, which is nothing that the journal notes, and the journal
notes nothing of the opening.
-/
import EntityMarkup.Proofs.Scenario.Contents
import EntityMarkup.Proofs.Scenario.Kept

namespace EntityMarkup

namespace Run

open Scenario (Noted)

variable {α β σ : Type}

-- ========================================================== tacit runs

/-- The journal notes nothing of the run. -/
def Tacit (x : Run α) : Prop :=
  ∀ what : Noted, what.count x.events = 0

theorem Tacit.pure (a : α) : (Pure.pure a : Run α).Tacit :=
  fun _ => rfl

theorem Tacit.fail (e : BuildError) : (Run.fail e : Run α).Tacit :=
  fun _ => rfl

theorem Tacit.record (area : Area) (level : Level) (text : String) :
    (Run.record area level text).Tacit :=
  fun _ => rfl

theorem Tacit.step (tag : String) (step : Step) :
    (Run.step tag step).Tacit :=
  fun _ => rfl

theorem Tacit.ignore (tag owner name : String) :
    (Run.ignore tag owner name).Tacit :=
  fun _ => rfl

theorem Tacit.call {handler : Handler σ α} {state : σ}
    (h : Noted.Silent (handler state).entries)
    (blame : σ → Cause → BuildError) :
    (Run.call handler state blame).Tacit :=
  fun what => what.count_silent h

theorem Tacit.bind {x : Run α} {f : α → Run β} (hx : x.Tacit)
    (hf : ∀ a, (f a).Tacit) : (x >>= f).Tacit := by
  intro what
  cases hr : x.result with
  | ok a =>
      rw [bind_of_ok hr]
      show what.count (_ ++ _) = 0
      rw [what.count_append, hx what, hf a what]
  | error e =>
      rw [bind_of_error hr]
      exact hx what

theorem Tacit.foldlM {f : σ → α → Run σ} (hf : ∀ s a, (f s a).Tacit)
    (l : List α) (s : σ) : (l.foldlM f s).Tacit := by
  induction l generalizing s with
  | nil => exact .pure s
  | cons a l ih =>
      rw [List.foldlM_cons]
      exact (hf s a).bind ih

/-- What the journal notes of a joined run. -/
theorem count_bind {x : Run α} {a : α} (hx : x.result = .ok a)
    (f : α → Run β) (what : Noted) :
    what.count (x >>= f).events
      = what.count x.events + what.count (f a).events := by
  rw [bind_of_ok hx]
  exact what.count_append ..

end Run

namespace Scenario

open Run (Tacit bind_result_ok call_bind_result_ok)

-- ============================================================== handlers

/-- What putting values into an object leaves as it is. -/
inductive Dressed : Object → Object → Prop
  | same (o : Object) : Dressed o o
  | widget {w w' : Widget Object} (hlines : w'.lines = w.lines)
      (hchildren : w'.children = w.children) :
      Dressed (.widget w) (.widget w')
  | panel {p p' : Panel Object} (hclosed : p'.closed = p.closed)
      (hsecond : p'.second = p.second)
      (hlines : p'.first.lines = p.first.lines)
      (hchildren : p'.first.children = p.first.children) :
      Dressed (.panel p) (.panel p')
  | holder {h h' : Holder Object} (hnodes : h'.nodes = h.nodes)
      (hdirect : h'.direct = h.direct) : Dressed (.holder h) (.holder h')
  | leaf (text text' : String) (tip : Option String) :
      Dressed (.leaf text tip) (.leaf text' tip)

theorem Dressed.type_eq {o o' : Object} (h : Dressed o o') :
    o'.typeName = o.typeName := by
  cases h <;> rfl

theorem Dressed.of_widget {w : Widget Object} {o : Object}
    (h : Dressed (.widget w) o) : ∃ w', o = .widget w'
      ∧ w'.lines = w.lines ∧ w'.children = w.children := by
  cases h with
  | same => exact ⟨w, rfl, rfl, rfl⟩
  | widget hlines hchildren => exact ⟨_, rfl, hlines, hchildren⟩

theorem Dressed.of_panel {p : Panel Object} {o : Object}
    (h : Dressed (.panel p) o) : ∃ p', o = .panel p'
      ∧ p'.closed = p.closed ∧ p'.second = p.second
      ∧ p'.first.lines = p.first.lines
      ∧ p'.first.children = p.first.children := by
  cases h with
  | same => exact ⟨p, rfl, rfl, rfl, rfl, rfl⟩
  | panel hclosed hsecond hlines hchildren =>
      exact ⟨_, rfl, hclosed, hsecond, hlines, hchildren⟩

theorem Dressed.of_holder {h : Holder Object} {o : Object}
    (hdressed : Dressed (.holder h) o) : ∃ h', o = .holder h'
      ∧ h'.nodes = h.nodes ∧ h'.direct = h.direct := by
  cases hdressed with
  | same => exact ⟨h, rfl, rfl, rfl⟩
  | holder hnodes hdirect => exact ⟨_, rfl, hnodes, hdirect⟩

theorem Dressed.of_leaf {text : String} {tip : Option String} {o : Object}
    (h : Dressed (.leaf text tip) o) : ∃ text', o = .leaf text' tip := by
  cases h <;> exact ⟨_, rfl⟩

theorem Dressed.trans {o o' o'' : Object} (h : Dressed o o')
    (h' : Dressed o' o'') : Dressed o o'' := by
  cases h with
  | same => exact h'
  | widget hlines hchildren =>
      obtain ⟨w, rfl, hlines', hchildren'⟩ := h'.of_widget
      exact .widget (hlines'.trans hlines) (hchildren'.trans hchildren)
  | panel hclosed hsecond hlines hchildren =>
      obtain ⟨p, rfl, hclosed', hsecond', hlines', hchildren'⟩ := h'.of_panel
      exact .panel (hclosed'.trans hclosed) (hsecond'.trans hsecond)
        (hlines'.trans hlines) (hchildren'.trans hchildren)
  | holder hnodes hdirect =>
      obtain ⟨held, rfl, hnodes', hdirect'⟩ := h'.of_holder
      exact .holder (hnodes'.trans hnodes) (hdirect'.trans hdirect)
  | leaf text text' tip =>
      obtain ⟨text'', rfl⟩ := h'.of_leaf
      exact .leaf text text'' tip

/-- The handler puts values into objects and asks for nothing, where no
actions are named. Of what it does nothing is noted. -/
structure Dresses (handler : BindingHandler Object) : Prop where
  dressed : ∀ context value b, context.actions = .empty →
    (handler context value b).result = .ok () →
    Dressed b.entity (handler context value b).state.entity
      ∧ (handler context value b).state.hooks = b.hooks
  silent : ∀ context value b,
    Noted.Silent (handler context value b).entries

theorem silent_nil : Noted.Silent [] := fun _ h => nomatch h

theorem silent_journal {text : String}
    (h : text.toList.head? = some 'b') :
    Noted.Silent [.journal text] := by
  intro text' hmem what
  cases List.mem_singleton.mp hmem
  exact what.marks_of_head h

/-- Where no actions are named, none can be asked for. -/
theorem hook_dresses (moment : Moment) (name : String → String) :
    Dresses fun context value =>
      BindingHandler.hook context moment (name value) := by
  refine ⟨fun context value b hactions hok => ?_,
    fun context value b => ?_⟩
  · have hnone : context.actions.get? (name value) = none := by
      rw [hactions]
      simp [Actions.get?, Actions.empty]
    rw [BindingHandler.hook_of_missing hnone] at hok
    cases hok
  · cases hget : context.actions.get? (name value) with
    | none =>
        rw [BindingHandler.hook_of_missing hget]
        exact silent_nil
    | some action =>
        rw [BindingHandler.hook_of_found hget]
        exact silent_nil

theorem hookPart_dresses : Dresses hookPart := by
  have h := hook_dresses .create id
  refine ⟨fun context value b hactions hok =>
    h.dressed context value b hactions hok, fun context value b => ?_⟩
  have hentries : (hookPart context value b).entries
      = .journal ("bind part_create=" ++ value ++ " in <" ++ context.tag
          ++ ">")
        :: (BindingHandler.hook context .create value b).entries := rfl
  rw [hentries]
  intro text hmem what
  rcases List.mem_cons.mp hmem with heq | hmem
  · cases heq
    exact what.marks_of_head (by simp)
  · exact h.silent context value b text hmem what

/-- A handler that puts values into objects of one type, if that is what
it does. -/
theorem bindNoted_dresses (name type path : String)
    {put : String → Object → Option Object}
    (hput : ∀ value o o', put value o = some o' → Dressed o o') :
    Dresses (bindNoted name type path put) := by
  have hstate : ∀ context value b,
      (bindNoted name type path put context value b).state
        = { b with entity := (put value b.entity).getD b.entity } := by
    intro context value b
    show (Handler.bind Handler.get _ b).state = _
    simp only [Handler.bind, Handler.get]
    cases put value b.entity <;> rfl
  refine ⟨fun context value b _ _ => ?_, fun context value b => ?_⟩
  · rw [hstate]
    cases hp : put value b.entity with
    | none => exact ⟨.same _, rfl⟩
    | some o => exact ⟨hput value b.entity o hp, rfl⟩
  · show Noted.Silent (Handler.bind Handler.get _ b).entries
    simp only [Handler.bind, Handler.get]
    cases put value b.entity with
    | none => exact silent_nil
    | some o => exact silent_journal (by simp)

theorem setWidth_dresses : Dresses setWidth := by
  have hreply : ∀ context value b,
      (setWidth context value b).entries = []
        ∧ Dressed b.entity (setWidth context value b).state.entity
        ∧ (setWidth context value b).state.hooks = b.hooks := by
    intro context value b
    show (Handler.bind Handler.get _ b).entries = []
      ∧ Dressed _ (Handler.bind Handler.get _ b).state.entity
      ∧ (Handler.bind Handler.get _ b).state.hooks = _
    simp only [Handler.bind, Handler.get]
    obtain ⟨o, hooks⟩ := b
    cases o with
    | widget w =>
        cases Word.read value with
        | ok width => exact ⟨rfl, .widget rfl rfl, rfl⟩
        | error e => exact ⟨rfl, .same _, rfl⟩
    | panel | hollow | holder | leaf | tip | text | node =>
        exact ⟨rfl, .same _, rfl⟩
  refine ⟨fun context value b _ _ => (hreply context value b).2,
    fun context value b => ?_⟩
  rw [(hreply context value b).1]
  exact silent_nil

theorem inWidget_dressed {put : String → Widget Object → Widget Object}
    (hput : ∀ value w, (put value w).lines = w.lines
      ∧ (put value w).children = w.children) (value : String)
    (o o' : Object) (h : inWidget put value o = some o') :
    Dressed o o' := by
  cases o <;> cases h
  exact .widget (hput value _).1 (hput value _).2

theorem inPanel_dressed {put : String → Panel Object → Panel Object}
    (hput : ∀ value p, (put value p).closed = p.closed
      ∧ (put value p).second = p.second
      ∧ (put value p).first = p.first) (value : String)
    (o o' : Object) (h : inPanel put value o = some o') :
    Dressed o o' := by
  cases o <;> cases h
  obtain ⟨hclosed, hsecond, hfirst⟩ := hput value _
  exact .panel hclosed hsecond (by rw [hfirst]) (by rw [hfirst])

-- ================================================================= kinds

/-- Objects that tags make from drafts and that take no text and no
children by their kinds. -/
inductive Bare : Object → Prop
  | hollow : Bare .hollow
  | leaf (text : String) (tip : Option String) : Bare (.leaf text tip)
  | tip (text : String) : Bare (.tip text)
  | node (text : String) : Bare (.node (.leaf text))

/-- The kinds of the scenario. -/
inductive Kind : TagKind Object StyleDraft → Prop
  | widget : Kind widgetTag
  | panel : Kind panelTag
  | holder : Kind holderTag
  | plain (type : String) {make : StyleDraft → Object}
      (hmake : ∀ d, Bare (make d)) : Kind (plainTag type make)

/-- All that is registered is of these kinds, and puts values into
objects. -/
theorem registrations_dress : registrations.Holds Kind Dresses := by
  have hstart : (Registrations.start : Registrations Object
      StyleDraft).Holds Kind Dresses :=
    .start fun moment => hook_dresses moment Text.trim
  have hkinds := hstart.declare "widget" rootType
    |>.declare "panel" rootType |>.declare "hollow" rootType
    |>.declare "holder" rootType |>.declare "leaf" rootType
    |>.declare "tip" rootType
    |>.tag "widget" .widget |>.tag "panel" .panel
    |>.tag "hollow" (.plain "hollow" fun _ => .hollow)
    |>.tag "holder" .holder
    |>.tag "leaf" (.plain "leaf" fun _ => .leaf "" none)
    |>.tag "tip" (.plain "tip" fun d => .tip (d.text.getD ""))
    |>.tag "node" (.plain "node" fun _ => .node "")
    |>.onBuilding "widget" "style" setStyle
    |>.onBuilding "widget" "tone" declineTone
  have hwidget : ∀ {put : String → Widget Object → Widget Object} name,
      (∀ value w, (put value w).lines = w.lines
        ∧ (put value w).children = w.children) →
      Dresses (bindNoted name "widget" widgetPath (inWidget put)) :=
    fun name hput => bindNoted_dresses _ _ _ (inWidget_dressed hput)
  have hpanel : ∀ {put : String → Panel Object → Panel Object} name,
      (∀ value p, (put value p).closed = p.closed
        ∧ (put value p).second = p.second
        ∧ (put value p).first = p.first) →
      Dresses (bindNoted name "panel" panelPath (inPanel put)) :=
    fun name hput => bindNoted_dresses _ _ _ (inPanel_dressed hput)
  -- the goal names the handlers, so they are gone through from the last
  unfold registrations
  refine .onBuilding ?_ "tip" "text" _
  refine .onBinding ?_ "leaf" "text" (bindNoted_dresses _ _ _ ?hleaf)
  refine .onBinding ?_ "holder" "label" (bindNoted_dresses _ _ _ ?hholder)
  refine .onBinding ?_ "panel" "title"
    (hpanel _ fun _ _ => ⟨rfl, rfl, rfl⟩)
  refine .onBinding ?_ "panel" "text"
    (hpanel _ fun _ _ => ⟨rfl, rfl, rfl⟩)
  refine .onBinding ?_ "widget" "part_create" hookPart_dresses
  refine .onBinding ?_ "widget" "part_close" (hook_dresses .close id)
  refine .onBinding ?_ "widget" "width" setWidth_dresses
  refine .onBinding ?_ "widget" "caption"
    (hwidget _ fun _ _ => ⟨rfl, rfl⟩)
  refine .onBinding ?_ "widget" "text" (hwidget _ fun _ _ => ⟨rfl, rfl⟩)
  refine .onBinding hkinds "widget" "tone"
    (hwidget _ fun _ _ => ⟨rfl, rfl⟩)
  all_goals
    intro value o o' h
    cases o <;> cases h
  · exact .holder rfl rfl
  · exact .leaf _ _ _

/-- Building handlers note nothing of what is counted. -/
theorem building_silent :
    registrations.building.All fun handler =>
      ∀ value d, Noted.Silent (handler value d).entries := by
  have hstart : (Registrations.start : Registrations Object
      StyleDraft).building = ∅ := by
    rw [Registrations.start, (Registrations.onBinding_tables ..).2.1,
      (Registrations.onBinding_tables ..).2.1]
  have htable : registrations.building
      = ((HandlerTable.insert ∅ "widget" "style" setStyle).insert "widget"
        "tone" declineTone).insert "tip" "text" StyleDraft.setText := by
    simp [registrations, hstart]
  rw [htable]
  refine .insert (.insert (.insert .empty _ _ ?_) _ _ ?_) _ _ ?_
  · intro value d
    show Noted.Silent (Handler.bind (Handler.require _ _) _ d).entries
    unfold Handler.require
    by_cases hempty : value.isEmpty = true
    · simp only [hempty]
      exact silent_nil
    · simp only [hempty]
      exact silent_journal (by simp)
  · intro value d
    exact silent_journal (by simp)
  · intro value d
    exact silent_nil

-- =============================================================== binding

/-- Builds with the scenario registry where no actions are named. -/
structure Unassisted (setting : Setting Object StyleDraft) : Prop where
  uses : Uses setting
  building_eq : setting.registry.building = registrations.building
  actions_eq : setting.actions = .empty

theorem Unassisted.of_finished {registry : Registry Object StyleDraft}
    (h : registry? = .ok registry) (config : Config) :
    Unassisted ⟨registry, config, .empty⟩ := by
  obtain ⟨hkinds, hbuilding, hbinding⟩ := Registrations.finish_tables h
  exact ⟨⟨hkinds, hbinding⟩, hbuilding, rfl⟩

section

variable {setting : Setting Object StyleDraft}
  (hsetting : Unassisted setting) {tag owner : String} {slot : Slot}
  {judging : Bool}

include hsetting

theorem binding_dresses {type name found : String}
    {handler : BindingHandler Object}
    (hfound : setting.registry.binding? type name
      = some (found, handler)) : Dresses handler := by
  rw [Registry.binding?, hsetting.uses.binding_eq] at hfound
  exact registrations_dress.binding.resolve hfound

theorem kind_of_found {name : String} {kind : TagKind Object StyleDraft}
    (hfound : setting.registry.kind? name = some kind) : Kind kind := by
  rw [Registry.kind?, hsetting.uses.kinds_eq] at hfound
  exact registrations_dress.kinds name kind hfound

theorem bindAttribute_tacit (b : Build.Binding Object) (a : Attribute) :
    (Build.bindAttribute setting tag owner slot judging b a).Tacit := by
  unfold Build.bindAttribute
  by_cases hmem : a.name ∈ b.taken
  · rw [if_pos hmem]
    exact .pure b
  · rw [if_neg hmem]
    cases hfound : setting.registry.binding? (Entity.typeName b.target)
        a.name with
    | none =>
        cases judging with
        | false => exact .pure b
        | true =>
            simp only [if_true, Build.rejectUnknown]
            refine Tacit.bind ?_ fun _ => .pure b
            split
            · exact .fail _
            · exact .ignore _ _ _
    | some found =>
        obtain ⟨declaredBy, handler⟩ := found
        have hsilent := (binding_dresses hsetting hfound).silent
        exact (Tacit.record _ _ _).bind fun _ => (Tacit.step _ _).bind
          fun _ => (Tacit.call (hsilent _ _ _) _).bind fun _ => .pure _

theorem bindPass_tacit (attributes : List Attribute)
    (b : Build.Binding Object) :
    (Build.bindPass setting tag owner slot judging attributes b).Tacit :=
  Tacit.foldlM (bindAttribute_tacit hsetting) attributes b

theorem bindAttributes_tacit (attributes : List Attribute)
    (taken : List String) (o : Object) :
    (Build.bindAttributes setting tag attributes taken o).Tacit := by
  have hparts : ∀ index taken parts,
      (Build.bindParts setting tag o.typeName attributes index taken
        parts).Tacit := by
    intro index taken parts
    induction parts generalizing index taken with
    | nil => exact .pure _
    | cons part parts ih =>
        unfold Build.bindParts
        exact (bindPass_tacit hsetting _ _).bind fun _ =>
          (ih _ _).bind fun _ => .pure _
  have hlast : ∀ r : Build.Binding Object × List (Hooks Object),
      (Build.bindPass setting tag o.typeName .whole true attributes r.1
        >>= fun b => pure (b, r.2)).Tacit :=
    fun r => (bindPass_tacit hsetting _ _).bind fun _ => .pure _
  unfold Build.bindAttributes
  split
  · exact (Tacit.pure _).bind hlast
  · exact (Tacit.fail _).bind hlast
  · refine Tacit.bind ?_ hlast
    unfold Build.bindComposite
    refine (bindPass_tacit hsetting _ _).bind fun b => ?_
    cases Entity.components? b.target with
    | none => exact .pure _
    | some parts => exact (hparts _ _ _).bind fun _ => .pure _

/-- What a pass over the attributes does to a binding: it puts values
into the object, and afterwards each attribute is done with, or the
object's type has no handler for it. -/
structure Passed (setting : Setting Object StyleDraft)
    (attributes : List Attribute) (b b' : Build.Binding Object) : Prop where
  dressed : Dressed b.target b'.target
  hooks_eq : b'.hooks = b.hooks
  kept : b.taken ⊆ b'.taken
  all : ∀ a ∈ attributes, a.name ∈ b'.taken
    ∨ setting.registry.binding? b.target.typeName a.name = none

omit hsetting in
theorem Passed.refl {attributes : List Attribute}
    {b : Build.Binding Object}
    (h : ∀ a ∈ attributes, a.name ∈ b.taken
      ∨ setting.registry.binding? b.target.typeName a.name = none) :
    Passed setting attributes b b :=
  ⟨.same _, rfl, List.Subset.refl _, h⟩

theorem bindAttribute_passed {a : Attribute} {b b' : Build.Binding Object}
    (h : (Build.bindAttribute setting tag owner slot judging b a).result
      = .ok b') : Passed setting [a] b b' := by
  unfold Build.bindAttribute at h
  by_cases hmem : a.name ∈ b.taken
  · rw [if_pos hmem] at h
    cases h
    exact .refl (List.forall_mem_singleton.mpr (Or.inl hmem))
  · rw [if_neg hmem] at h
    cases hfound : setting.registry.binding? (Entity.typeName b.target)
        a.name with
    | none =>
        rw [hfound] at h
        obtain rfl : b' = b := by
          cases judging with
          | false =>
              cases h
              rfl
          | true =>
              obtain ⟨_, _, hpure⟩ := bind_result_ok h
              cases hpure
              rfl
        exact .refl (List.forall_mem_singleton.mpr (Or.inr hfound))
    | some found =>
        obtain ⟨declaredBy, handler⟩ := found
        rw [hfound] at h
        obtain ⟨_, hok, hpure⟩ := call_bind_result_ok h
        cases hpure
        obtain ⟨hdressed, hhooks⟩ :=
          (binding_dresses hsetting hfound).dressed _ _ _
            hsetting.actions_eq hok
        refine ⟨hdressed, ?_, by simp,
          List.forall_mem_singleton.mpr (Or.inl (by simp))⟩
        show b.hooks.append _ = b.hooks
        rw [hhooks]
        simp [Hooks.append, Hooks.empty]

theorem bindPass_passed {attributes : List Attribute}
    {b b' : Build.Binding Object}
    (h : (Build.bindPass setting tag owner slot judging attributes
      b).result = .ok b') : Passed setting attributes b b' := by
  induction attributes generalizing b with
  | nil =>
      cases h
      exact .refl (List.forall_mem_nil _)
  | cons a rest ih =>
      have hpass : Build.bindPass setting tag owner slot judging
            (a :: rest) b
          = Build.bindAttribute setting tag owner slot judging b a
            >>= Build.bindPass setting tag owner slot judging rest :=
        List.foldlM_cons
      rw [hpass] at h
      obtain ⟨b₁, hfirst, hrest⟩ := bind_result_ok h
      have hone := bindAttribute_passed hsetting hfirst
      have hothers := ih hrest
      refine ⟨hone.dressed.trans hothers.dressed,
        hothers.hooks_eq.trans hone.hooks_eq,
        List.Subset.trans hone.kept hothers.kept, List.forall_mem_cons.mpr ⟨?_, ?_⟩⟩
      · exact (hone.all a (List.mem_singleton.mpr rfl)).imp_left
          (hothers.kept ·)
      · rw [← hone.dressed.type_eq]
        exact hothers.all

omit hsetting in
/-- A pass that does not judge leaves alone what is offered nothing that
it knows. -/
theorem bindPass_idle {attributes : List Attribute}
    {b : Build.Binding Object}
    (h : ∀ a ∈ attributes, a.name ∈ b.taken
      ∨ setting.registry.binding? b.target.typeName a.name = none) :
    (Build.bindPass setting tag owner slot false attributes b).result
      = .ok b := by
  induction attributes with
  | nil => rfl
  | cons a rest ih =>
      obtain ⟨hfirst, hothers⟩ := List.forall_mem_cons.mp h
      have hpass : Build.bindPass setting tag owner slot false
            (a :: rest) b
          = Build.bindAttribute setting tag owner slot false b a
            >>= Build.bindPass setting tag owner slot false rest :=
        List.foldlM_cons
      have hone : Build.bindAttribute setting tag owner slot false b a
          = pure b := by
        unfold Build.bindAttribute
        by_cases hmem : a.name ∈ b.taken
        · rw [if_pos hmem]
        · have hnone : setting.registry.binding?
              (Entity.typeName b.target) a.name = none :=
            hfirst.resolve_left hmem
          rw [if_neg hmem, hnone]
          rfl
      rw [hpass, hone, pure_bind]
      exact ih hothers

/-- The passes over a panel and its parts put values into the panel and
its first part: the second knows no attribute that the first does not
know, which has been offered all of them. -/
theorem bindComposite_dressed {attributes : List Attribute}
    {p : Panel Object} {taken : List String}
    {r : Build.Binding Object × List (Hooks Object)}
    (h : (Build.bindComposite setting tag owner attributes
      ⟨.panel p, .empty, taken⟩).result = .ok r) :
    Dressed (.panel p) r.1.target ∧ r.1.hooks = .empty
      ∧ ∀ hooks ∈ r.2, hooks = .empty := by
  unfold Build.bindComposite at h
  obtain ⟨b, hpass, h⟩ := bind_result_ok h
  obtain ⟨hdressed, hhooks, -, -⟩ := bindPass_passed hsetting hpass
  obtain ⟨target, hooks, taken'⟩ := b
  obtain ⟨p', rfl, -⟩ := hdressed.of_panel
  obtain ⟨⟨parts, partHooks, done⟩, hparts, hpure⟩ := bind_result_ok h
  cases hpure
  unfold Build.bindParts at hparts
  obtain ⟨b₁, hfirst, hparts⟩ := bind_result_ok hparts
  obtain ⟨hdressed₁, hhooks₁, -, hall⟩ := bindPass_passed hsetting hfirst
  obtain ⟨⟨others, otherHooks, done'⟩, hothers, hpure⟩ :=
    bind_result_ok hparts
  cases hpure
  unfold Build.bindParts at hothers
  obtain ⟨b₂, hsecond, hothers⟩ := bind_result_ok hothers
  rw [bindPass_idle hall] at hsecond
  cases hsecond
  cases hothers
  obtain ⟨target₁, hooks₁, taken₁⟩ := b₁
  obtain ⟨w, rfl, hlines, hchildren⟩ := hdressed₁.of_widget
  have hback : Dressed (.panel p')
      (.panel { p' with first := w, second := p'.second }) :=
    .panel rfl rfl hlines hchildren
  refine ⟨hdressed.trans hback, hhooks, ?_⟩
  simpa using hhooks₁

/-- Binding its attributes puts values into an object, which is not
hollow then. -/
theorem bindAttributes_dressed {attributes : List Attribute}
    {taken : List String} {o : Object}
    {r : Build.Binding Object × List (Hooks Object)}
    (h : (Build.bindAttributes setting tag attributes taken o).result
      = .ok r) :
    o ≠ .hollow ∧ Dressed o r.1.target ∧ r.1.hooks = .empty
      ∧ ∀ hooks ∈ r.2, hooks = .empty := by
  -- the last pass comes after what the passes before have made of it
  have hlast : ∀ {b : Build.Binding Object}
      {partHooks : List (Hooks Object)}, Dressed o b.target →
      b.hooks = .empty → (∀ hooks ∈ partHooks, hooks = .empty) →
      (Build.bindPass setting tag o.typeName .whole true attributes b
        >>= fun b => pure (b, partHooks)).result = .ok r →
      Dressed o r.1.target ∧ r.1.hooks = .empty
        ∧ ∀ hooks ∈ r.2, hooks = .empty := by
    intro b partHooks hdressed hhooks hparts hok
    obtain ⟨b', hpass, hpure⟩ := bind_result_ok hok
    cases hpure
    obtain ⟨hdressed', hhooks', -, -⟩ := bindPass_passed hsetting hpass
    exact ⟨hdressed.trans hdressed', hhooks'.trans hhooks, hparts⟩
  unfold Build.bindAttributes at h
  cases o with
  | hollow =>
      obtain ⟨_, hfail, -⟩ := bind_result_ok h
      cases hfail
  | panel p =>
      obtain ⟨⟨b, partHooks⟩, hbefore, h⟩ := bind_result_ok h
      obtain ⟨hdressed, hhooks, hparts⟩ :=
        bindComposite_dressed hsetting hbefore
      exact ⟨fun h => (nomatch h), hlast hdressed hhooks hparts h⟩
  | widget | holder | leaf | tip | text | node =>
      obtain ⟨⟨b, partHooks⟩, hbefore, h⟩ := bind_result_ok h
      cases hbefore
      exact ⟨fun h => (nomatch h), hlast (.same _) rfl (by simp) h⟩

end

-- ================================================================= hooks

section

variable {tag : String} {moment : Moment}
  {partHooks : List (Hooks Object)}
  (hempty : ∀ hooks ∈ partHooks, hooks = .empty)

theorem actions_empty :
    (Hooks.empty : Hooks Object).actions moment = [] := by
  cases moment <;> rfl

include hempty

theorem runPartHooks_empty (index : Nat) (parts : List Object) :
    Build.runPartHooks tag moment index parts partHooks = pure parts := by
  induction parts generalizing index partHooks with
  | nil => cases partHooks <;> rfl
  | cons part parts ih =>
      cases partHooks with
      | nil => rfl
      | cons hooks rest =>
          obtain ⟨hfirst, hothers⟩ := List.forall_mem_cons.mp hempty
          rw [Build.runPartHooks, hfirst, actions_empty, Build.runActions,
            pure_bind, ih hothers, pure_bind]

/-- Without hooks, running them leaves an object as it is. -/
theorem runHooks_empty (o : Object) :
    Build.runHooks tag moment o .empty partHooks = pure o := by
  have hback : ∀ parts, Entity.components? o = some parts →
      Entity.withComponents o parts = o := by
    intro parts hparts
    cases o <;> cases hparts <;> rfl
  unfold Build.runHooks
  rw [actions_empty]
  cases hparts : Entity.components? o with
  | none => rfl
  | some parts =>
      dsimp only
      rw [runPartHooks_empty hempty, map_pure, pure_bind,
        hback parts hparts]
      rfl

end

-- =============================================================== opening

/-- What a kind makes of a draft. -/
inductive Fresh : TagKind Object StyleDraft → Object → Prop
  | widget (style : String) : Fresh widgetTag (.widget (.styled style))
  | panel : Fresh panelTag (.panel .new)
  | holder : Fresh holderTag (.holder .new)
  | plain (type : String) (make : StyleDraft → Object) {o : Object}
      (h : Bare o) : Fresh (plainTag type make) o

/-- The object of a tag that is still open. -/
inductive Growing : TagKind Object StyleDraft → Object → Prop
  | widget {w : Widget Object} (h : ∀ child ∈ w.children, child.Sound) :
      Growing widgetTag (.widget w)
  | panel {p : Panel Object} (hopen : p.closed = false)
      (hsecond : p.second = .styled "second") (hlines : p.first.lines = [])
      (hchildren : p.first.children = []) : Growing panelTag (.panel p)
  | holder {h : Holder Object} (hdirect : h.direct = [])
      (hnodes : ∀ n ∈ h.nodes, (Object.node n).Sound) :
      Growing holderTag (.holder h)
  | leaf (type : String) (make : StyleDraft → Object) (text : String)
      (tip : Option String) : Growing (plainTag type make) (.leaf text tip)
  | tip (type : String) (make : StyleDraft → Object) (text : String) :
      Growing (plainTag type make) (.tip text)
  | node (type : String) (make : StyleDraft → Object)
      {n : TreeNode Object} (h : (Object.node n).Sound) :
      Growing (plainTag type make) (.node n)

/-- An opened tag whose object is growing, with no hooks to run. -/
structure GrowingTag (tag : OpenedTag Object StyleDraft) : Prop where
  growing : Growing tag.kind tag.entity
  hooks_eq : tag.hooks = .empty
  partHooks_eq : ∀ hooks ∈ tag.partHooks, hooks = .empty

theorem GrowingTag.with {tag : OpenedTag Object StyleDraft}
    (h : GrowingTag tag) {o : Object} (ho : Growing tag.kind o) :
    GrowingTag { tag with entity := o } :=
  { h with growing := ho }

/-- A node that stands for a line is sound. -/
theorem leaf_sound (line : String) :
    (Object.node (TreeNode.leaf line)).Sound := by
  have htext : (Object.text line).Sound :=
    Object.sound_iff.mpr ⟨⟨trivial, fun _ h => nomatch h⟩,
      fun _ h => nomatch h⟩
  rw [Object.sound_iff]
  refine ⟨⟨?_, ?_⟩, List.forall_mem_singleton.mpr htext⟩
  · intro m h
    cases h
  · intro text h
    cases h

/-- A widget to which nothing was added comes to nothing. -/
theorem total_widget {w : Widget Object} (hlines : w.lines = [])
    (hchildren : w.children = []) (what : Noted) :
    what.total (.widget w) = 0 := by
  refine what.total_bare hchildren ?_
  cases what <;> simp [Noted.size, hlines, hchildren]

/-- Nor does a panel with such parts, until it is closed. -/
theorem total_panel {p : Panel Object} (hopen : p.closed = false)
    (hsecond : p.second = .styled "second") (hlines : p.first.lines = [])
    (hchildren : p.first.children = []) (what : Noted) :
    what.total (.panel p) = 0 := by
  have hsize : what.size (.panel p) = 0 := by
    cases what <;> simp [Noted.size, hopen]
  have hparts : what.total (.widget p.second) = 0 := by
    rw [hsecond]
    exact total_widget rfl rfl what
  rw [what.total_eq, hsize]
  simp [Object.parts, total_widget hlines hchildren, hparts]

/-- Objects that are not hollow start to grow when values are put into
them, and come to nothing yet. -/
theorem Fresh.growing {kind : TagKind Object StyleDraft} {o o' : Object}
    (h : Fresh kind o) (hhollow : o ≠ .hollow) (hdressed : Dressed o o') :
    Growing kind o' ∧ ∀ what : Noted, what.total o' = 0 := by
  cases h with
  | widget style =>
      obtain ⟨w, rfl, hlines, hchildren⟩ := hdressed.of_widget
      have hnone : ∀ child ∈ w.children, child.Sound := by
        rw [hchildren]
        exact List.forall_mem_nil _
      exact ⟨.widget hnone, total_widget hlines hchildren⟩
  | panel =>
      obtain ⟨p, rfl, hclosed, hsecond, hlines, hchildren⟩ :=
        hdressed.of_panel
      exact ⟨.panel hclosed hsecond hlines hchildren,
        total_panel hclosed hsecond hlines hchildren⟩
  | holder =>
      obtain ⟨h, rfl, hnodes, hdirect⟩ := hdressed.of_holder
      have hnodes : h.nodes = [] := hnodes
      have hdirect : h.direct = [] := hdirect
      refine ⟨.holder hdirect (by simp [hnodes]), fun what => ?_⟩
      refine what.total_bare (by simp [Object.parts, hnodes, hdirect]) ?_
      cases what <;> rfl
  | plain type make hbare =>
      cases hbare with
      | hollow => exact absurd rfl hhollow
      | leaf text tip =>
          obtain ⟨text', rfl⟩ := hdressed.of_leaf
          exact ⟨.leaf type make text' tip, fun what =>
            what.total_bare rfl (by cases what <;> rfl)⟩
      | tip text =>
          cases hdressed
          exact ⟨.tip type make text, fun what =>
            what.total_bare rfl (by cases what <;> rfl)⟩
      | node text =>
          cases hdressed
          exact ⟨.node type make (leaf_sound text), fun what =>
            what.total_leaf text⟩

section

variable {setting : Setting Object StyleDraft}
  (hsetting : Unassisted setting)

include hsetting

theorem buildAttributes_tacit (tag declared : String) (d : StyleDraft)
    (attributes : List Attribute) :
    (Build.buildAttributes setting.registry tag declared d
      attributes).Tacit := by
  refine Tacit.foldlM (fun state a => ?_) attributes _
  unfold Build.buildAttribute
  cases hfound : setting.registry.building? declared a.name with
  | none => exact .pure _
  | some found =>
      obtain ⟨owner, handler⟩ := found
      rw [Registry.building?, hsetting.building_eq] at hfound
      have hsilent := building_silent.resolve hfound
      exact (Tacit.record _ _ _).bind fun _ => (Tacit.step _ _).bind
        fun _ => (Tacit.call (hsilent _ _) _).bind fun _ => .pure _

omit hsetting in
/-- Making an object of a draft, of which nothing is noted. -/
theorem instantiate_fresh {kind : TagKind Object StyleDraft}
    (hkind : Kind kind) (tag : String) (d : StyleDraft) :
    ∃ o, (Build.instantiate tag kind d).result = .ok o ∧ Fresh kind o
      ∧ (Build.instantiate tag kind d).Tacit := by
  cases hkind with
  | widget => exact ⟨_, rfl, .widget d.style, fun _ => rfl⟩
  | panel => exact ⟨_, rfl, .panel, fun _ => rfl⟩
  | holder => exact ⟨_, rfl, .holder, fun _ => rfl⟩
  | plain type hmake => exact ⟨_, rfl, .plain type _ (hmake d), fun _ => rfl⟩

/-- The object of an opened tag is growing and comes to nothing yet, and
nothing is noted. -/
theorem openTag_growing {parent : Option String} {name : String}
    {attributes : List Attribute} {line : Nat}
    {tag : OpenedTag Object StyleDraft}
    (h : (Build.openTag setting parent name attributes line).result
      = .ok tag) :
    GrowingTag tag ∧ ∀ what : Noted, what.total tag.entity = 0
      ∧ what.count (Build.openTag setting parent name attributes
        line).events = 0 := by
  unfold Build.openTag at h ⊢
  cases hfound : setting.registry.kind? name with
  | none =>
      rw [hfound] at h
      cases h
  | some kind =>
      have hkind := kind_of_found hsetting hfound
      rw [hfound] at h
      dsimp only at h ⊢
      obtain ⟨-, hrecord, h⟩ := bind_result_ok h
      obtain ⟨⟨d, taken⟩, hbuild, h⟩ := bind_result_ok h
      obtain ⟨made, hmake, h⟩ := bind_result_ok h
      obtain ⟨⟨b, partHooks⟩, hbind, h⟩ := bind_result_ok h
      obtain ⟨o, hmade, hfresh, htacit⟩ := instantiate_fresh hkind name d
      cases hmade.symm.trans hmake
      obtain ⟨hhollow, hdressed, hhooks, hempty⟩ :=
        bindAttributes_dressed hsetting hbind
      obtain ⟨hgrowing, htotal⟩ := hfresh.growing hhollow hdressed
      dsimp only at h hhooks hempty
      rw [hhooks, runHooks_empty hempty, pure_bind] at h
      cases h
      refine ⟨⟨hgrowing, rfl, hempty⟩, fun what => ⟨htotal what, ?_⟩⟩
      rw [Run.count_bind rfl, Run.count_bind hbuild, Run.count_bind hmake,
        Run.count_bind hbind]
      dsimp only
      rw [hhooks, runHooks_empty hempty, pure_bind]
      rw [buildAttributes_tacit hsetting _ _ _ _ what, htacit what,
        bindAttributes_tacit hsetting _ _ _ what]
      rfl

end

end Scenario

end EntityMarkup
