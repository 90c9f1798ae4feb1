/-
What the standard registry of scenes finds. It has seven tags, and of each
the objects are of the type that the tag is named for, so the handlers of
an attribute are those along the ancestry of that type.

The building handlers are two, for style and text; both take what they
are given. The binding handlers that can succeed each put one value into
a widget (`Sets`), and which of them a type finds is decided by its kind
(`WidgetKind.binds`). All others name actions to run, and where there are
no actions they fail.
-/
import EntityMarkup.Proofs.Registry.Populated
import EntityMarkup.Proofs.Scene.Depicted
import Mathlib.Tactic.SplitIfs

namespace EntityMarkup.Scene

-- ============================================================ registered

namespace SceneTag

def tagKind : SceneTag → TagKind Object Sketch
  | .widget kind => widgetTag kind
  | .node => nodeTag
  | .tooltip => tooltipTag

/-- The type of the tag's objects and those above it. -/
def types : SceneTag → List String
  | .widget .label => ["label", "widget", rootType]
  | .widget .button => ["button", "label", "widget", rootType]
  | .widget .group => ["group", "widget", rootType]
  | .widget .window => ["window", "group", "widget", rootType]
  | .widget .tree => ["tree", "widget", rootType]
  | .node => ["node", rootType]
  | .tooltip => ["tooltip", rootType]

section

variable (kind : WidgetKind)

theorem widget_mem_types : "widget" ∈ (SceneTag.widget kind).types := by
  cases kind <;> decide

theorem label_mem_types :
    "label" ∈ (SceneTag.widget kind).types ↔ kind.takesText = true := by
  cases kind <;> decide

theorem button_mem_types :
    "button" ∈ (SceneTag.widget kind).types ↔ kind = .button := by
  cases kind <;> decide

theorem group_mem_types :
    "group" ∈ (SceneTag.widget kind).types ↔ kind.isContainer = true := by
  cases kind <;> decide

theorem window_mem_types :
    "window" ∈ (SceneTag.widget kind).types ↔ kind = .window := by
  cases kind <;> decide

end

end SceneTag

theorem kinds_get? (name : String) :
    registrations.kinds[name]?
      = if "tooltip" = name then some tooltipTag
        else if "node" = name then some nodeTag
        else if "tree" = name then some (widgetTag .tree)
        else if "window" = name then some (widgetTag .window)
        else if "group" = name then some (widgetTag .group)
        else if "button" = name then some (widgetTag .button)
        else if "label" = name then some (widgetTag .label)
        else none := by
  have hstart : (Registrations.start : Registrations Object Sketch).kinds
      = ∅ := by
    rw [Registrations.start, (Registrations.onBinding_tables ..).1,
      (Registrations.onBinding_tables ..).1]
  simp [registrations, register, WidgetKind.all, WidgetKind.name, hstart,
    Std.TreeMap.getElem?_insert]

theorem building_get? (type name : String) :
    registrations.building.get? type name
      = if "tooltip" = type ∧ "text" = name then
          some (onStyled StyleDraft.setText)
        else if "node" = type ∧ "text" = name then
          some (onStyled StyleDraft.setText)
        else if "label" = type ∧ "text" = name then
          some (onStyled StyleDraft.setText)
        else if "widget" = type ∧ "style" = name then
          some (onStyled setStyle)
        else none := by
  have hstart : (Registrations.start : Registrations Object Sketch).building
      = ∅ := by
    rw [Registrations.start, (Registrations.onBinding_tables ..).2.1,
      (Registrations.onBinding_tables ..).2.1]
  simp [registrations, register, WidgetKind.all, hstart,
    HandlerTable.get?_insert]

theorem binding_get? (type name : String) :
    registrations.binding.get? type name
      = if "window" = type ∧ "title" = name then
          some (put .ok Widget.setTitle)
        else if "group" = type ∧ "spacing" = name then
          some (put readSpacing fun w spacing => { w with spacing })
        else if "button" = type ∧ "on_click" = name then
          some (put (readName · "event name") fun w event =>
            { w with onClick := some event })
        else if "label" = type ∧ "align" = name then
          some (put Align.read fun w align => { w with align })
        else if "widget" = type ∧ "tooltip" = name then
          some (put .ok fun w tooltip => { w with tooltip := some tooltip })
        else if "widget" = type ∧ "visible" = name then
          some (put readFlag fun w visible => { w with visible })
        else if rootType = type ∧ "on_close" = name then
          some (BindingHandler.hookTrimmed .close)
        else if rootType = type ∧ "on_create" = name then
          some (BindingHandler.hookTrimmed .create)
        else none := by
  simp [registrations, register, WidgetKind.all, Registrations.start,
    HandlerTable.get?_insert]

-- ============================================================== kinds

section

variable {registry : Registry Object Sketch}
  (hregistry : registry? = .ok registry)

include hregistry

theorem ancestry_name (t : SceneTag) :
    registry.ancestry t.name = t.types := by
  have hall : (Except.toOption registry?).map (fun r =>
      SceneTag.all.map fun t => r.ancestry t.name)
      = some (SceneTag.all.map SceneTag.types) := by
    decide +kernel
  rw [hregistry] at hall
  exact List.map_inj_left.mp (Option.some.inj hall) t t.mem_all

/-- The tags that are found are those of a scene. -/
theorem exists_tag {name : String} {kind : TagKind Object Sketch}
    (hfound : registry.kind? name = some kind) :
    ∃ t : SceneTag, t.name = name ∧ t.tagKind = kind := by
  rw [Registry.kind?, (Registrations.finish_tables hregistry).1,
    kinds_get?] at hfound
  split_ifs at hfound with htooltip hnode htree hwindow hgroup hbutton
    hlabel <;> cases hfound
  · exact ⟨.tooltip, htooltip, rfl⟩
  · exact ⟨.node, hnode, rfl⟩
  · exact ⟨.widget .tree, htree, rfl⟩
  · exact ⟨.widget .window, hwindow, rfl⟩
  · exact ⟨.widget .group, hgroup, rfl⟩
  · exact ⟨.widget .button, hbutton, rfl⟩
  · exact ⟨.widget .label, hlabel, rfl⟩

end

-- ============================================================= building

/-- A name that is read is its value, trimmed. -/
theorem readName_eq {value what name : String}
    (h : readName value what = .ok name) : name = Text.trim value := by
  unfold readName at h
  split at h
  · cases h
  · cases h
    rfl

namespace SceneTag

/-- Takes a style. -/
def styled : SceneTag → Bool
  | .widget _ => true
  | .node => false
  | .tooltip => false

/-- Takes a text. -/
def worded : SceneTag → Bool
  | .widget kind => kind.takesText
  | .node => true
  | .tooltip => true

/-- The tag has a building handler for the attribute. -/
def drafts (t : SceneTag) (name : String) : Bool :=
  name == "style" && t.styled || name == "text" && t.worded

end SceneTag

/-- What an attribute does to the draft of a tag that has a building
handler for it. -/
inductive Drafts (t : SceneTag) :
    Attribute → StyleDraft → StyleDraft → Prop
  | style {value style : String} (d : StyleDraft) (ht : t.styled = true)
      (hread : readName value "style" = .ok style) :
      Drafts t ⟨"style", value⟩ d { d with style }
  | text (value : String) (d : StyleDraft) (ht : t.worded = true) :
      Drafts t ⟨"text", value⟩ d { d with text := some value }

theorem Drafts.drafts {t : SceneTag} {a : Attribute} {d d' : StyleDraft}
    (h : Drafts t a d d') : t.drafts a.name = true := by
  cases h with
  | style d ht hread => simp [SceneTag.drafts, ht]
  | text value d ht => simp [SceneTag.drafts, ht]

/-- A handler for the attribute of a tag puts its value into a draft and
is done with it. -/
def DraftsBy (t : SceneTag) (name : String)
    (handler : BuildingHandler Sketch) : Prop :=
  ∀ (value : String) (d : StyleDraft) (consumed : Bool),
    (handler value (.styled d)).result = .ok consumed →
    consumed = true ∧ ∃ d', Drafts t ⟨name, value⟩ d d'
      ∧ (handler value (.styled d)).state = .styled d'

theorem DraftsBy.setStyle {t : SceneTag} (ht : t.styled = true) :
    DraftsBy t "style" (onStyled setStyle) := by
  intro value d consumed hok
  change (Scene.setStyle value d).result = _ at hok
  change _ ∧ ∃ d', _ ∧ Sketch.styled (Scene.setStyle value d).state = _
  unfold Scene.setStyle at hok ⊢
  cases hread : readName value "style" with
  | ok style =>
      rw [hread] at hok
      cases hok
      exact ⟨rfl, _, .style d ht hread, rfl⟩
  | error cause =>
      rw [hread] at hok
      cases hok

theorem DraftsBy.setText {t : SceneTag} (ht : t.worded = true) :
    DraftsBy t "text" (onStyled StyleDraft.setText) := by
  intro value d consumed hok
  cases hok
  exact ⟨rfl, _, .text value d ht, rfl⟩

section

variable {registry : Registry Object Sketch}
  (hregistry : registry? = .ok registry) {t : SceneTag} {name : String}

include hregistry

theorem building_found {owner : String} {handler : BuildingHandler Sketch}
    (hfound : registry.building? t.name name = some (owner, handler)) :
    DraftsBy t name handler := by
  rw [Registry.building?, (Registrations.finish_tables hregistry).2.1,
    ancestry_name hregistry] at hfound
  obtain ⟨howner, hget⟩ := HandlerTable.get?_of_resolve hfound
  rw [building_get?] at hget
  -- each type that registers a text is above tags with texts only
  have hworded : owner = "tooltip" ∨ owner = "node" ∨ owner = "label" →
      t.worded = true := by
    rcases t with kind | _ | _
    · cases kind <;> rintro (rfl | rfl | rfl) <;>
        simp [SceneTag.types, rootType] at howner <;> rfl
    · exact fun _ => rfl
    · exact fun _ => rfl
  split_ifs at hget with htooltip hnode hlabel hwidget <;> cases hget
  · obtain ⟨rfl, rfl⟩ := htooltip
    exact .setText (hworded (by simp))
  · obtain ⟨rfl, rfl⟩ := hnode
    exact .setText (hworded (by simp))
  · obtain ⟨rfl, rfl⟩ := hlabel
    exact .setText (hworded (by simp))
  · obtain ⟨rfl, rfl⟩ := hwidget
    have hstyled : t.styled = true := by
      rcases t with kind | _ | _
      · rfl
      · simp [SceneTag.types, rootType] at howner
      · simp [SceneTag.types, rootType] at howner
    exact .setStyle hstyled

theorem building_none
    (hnone : registry.building? t.name name = none) :
    t.drafts name = false := by
  rw [Registry.building?, (Registrations.finish_tables hregistry).2.1,
    ancestry_name hregistry] at hnone
  have hget := HandlerTable.get?_of_resolve_none hnone
  have hstyle : name = "style" → t.styled = false := by
    rintro rfl
    rcases t with kind | _ | _
    · have hwidget := hget "widget" (SceneTag.widget_mem_types kind)
      simp [building_get?] at hwidget
    · rfl
    · rfl
  have htext : name = "text" → t.worded = false := by
    rintro rfl
    rcases t with (_ | _ | _ | _ | _) | _ | _
    · simpa [building_get?] using hget "label" (by simp [SceneTag.types])
    · simpa [building_get?] using hget "label" (by simp [SceneTag.types])
    · rfl
    · rfl
    · rfl
    · simpa [building_get?] using hget "node" (by simp [SceneTag.types])
    · simpa [building_get?] using hget "tooltip" (by simp [SceneTag.types])
  rw [SceneTag.drafts, Bool.or_eq_false_iff, Bool.and_eq_false_imp,
    Bool.and_eq_false_imp]
  exact ⟨fun h => hstyle (beq_iff_eq.mp h), fun h => htext (beq_iff_eq.mp h)⟩

end

-- ============================================================== binding

/-- The kind of widget has a handler for the attribute that can
succeed. -/
def WidgetKind.binds (kind : WidgetKind) (name : String) : Bool :=
  name == "visible" || name == "tooltip"
    || name == "align" && kind.takesText
    || name == "on_click" && kind == .button
    || name == "spacing" && kind.isContainer
    || name == "title" && kind == .window

/-- What an attribute does to a widget of a kind that has a handler for
it. -/
inductive Sets (kind : WidgetKind) :
    Attribute → Widget Object → Widget Object → Prop
  | visible {value : String} {visible : Bool} (w : Widget Object)
      (hread : readFlag value = .ok visible) :
      Sets kind ⟨"visible", value⟩ w { w with visible }
  | tooltip (value : String) (w : Widget Object) :
      Sets kind ⟨"tooltip", value⟩ w { w with tooltip := some value }
  | align {value : String} {align : Align} (w : Widget Object)
      (hkind : kind.takesText = true)
      (hread : Align.read value = .ok align) :
      Sets kind ⟨"align", value⟩ w { w with align }
  | onClick {value event : String} (w : Widget Object)
      (hkind : kind = .button)
      (hread : readName value "event name" = .ok event) :
      Sets kind ⟨"on_click", value⟩ w { w with onClick := some event }
  | spacing {value : String} {spacing : Single} (w : Widget Object)
      (hkind : kind.isContainer = true)
      (hread : readSpacing value = .ok spacing) :
      Sets kind ⟨"spacing", value⟩ w { w with spacing }
  | title (value : String) (w : Widget Object) (hkind : kind = .window) :
      Sets kind ⟨"title", value⟩ w (w.setTitle value)

theorem Sets.binds {kind : WidgetKind} {a : Attribute}
    {w w' : Widget Object} (h : Sets kind a w w') :
    kind.binds a.name = true := by
  cases h <;> simp_all [WidgetKind.binds]

theorem Sets.kind_eq {kind : WidgetKind} {a : Attribute}
    {w w' : Widget Object} (h : Sets kind a w w') : w'.kind = w.kind := by
  cases h <;> rfl

/-- A handler for the attribute of a kind of widget either fails or puts
its value into the widget, and asks for no hooks. -/
def SetsBy (kind : WidgetKind) (name : String)
    (handler : BindingHandler Object) : Prop :=
  ∀ (context : BindingContext Object) (value : String)
    (w : Widget Object) (hooks : Hooks Object),
    context.actions = .empty →
    (handler context value ⟨.widget w, hooks⟩).result = .ok () →
    ∃ w', Sets kind ⟨name, value⟩ w w'
      ∧ (handler context value ⟨.widget w, hooks⟩).state
        = ⟨.widget w', hooks⟩

theorem SetsBy.put {kind : WidgetKind} {name : String} {α : Type}
    {read : String → Except Cause α}
    {set : Widget Object → α → Widget Object}
    (hsets : ∀ value a w, read value = .ok a →
      Sets kind ⟨name, value⟩ w (set w a)) :
    SetsBy kind name (put read set) := by
  intro context value w hooks _ hok
  unfold Scene.put onWidget at hok ⊢
  cases hread : read value with
  | ok a =>
      refine ⟨set w a, hsets value a w hread, ?_⟩
      simp only [bind, Handler.bind, Handler.get, Handler.within,
        Handler.ofExcept, Handler.modify, hread]
  | error cause =>
      simp only [bind, Handler.bind, Handler.get, Handler.within,
        Handler.ofExcept, hread] at hok
      cases hok

/-- Without actions, no hook can be asked for. -/
theorem hookTrimmed_fails {context : BindingContext Object}
    (hactions : context.actions = .empty) (moment : Moment)
    (value : String) (b : Bound Object) :
    (BindingHandler.hookTrimmed moment context value b).result ≠ .ok () := by
  have hresolve : context.actions.resolve (Text.trim value)
      = .error (.unknownAction (Text.trim value)) := by
    rw [hactions]
    simp [Actions.resolve, Actions.get?, Actions.empty]
  unfold BindingHandler.hookTrimmed BindingHandler.hook
  rw [hresolve]
  exact fun h => nomatch h

theorem SetsBy.hook (kind : WidgetKind) (name : String)
    (moment : Moment) :
    SetsBy kind name (BindingHandler.hookTrimmed moment) :=
  fun _ _ _ _ hactions hok =>
    absurd hok (hookTrimmed_fails hactions moment _ _)

section

variable {registry : Registry Object Sketch}
  (hregistry : registry? = .ok registry) {name owner : String}
  {handler : BindingHandler Object}

include hregistry

theorem binding_found {kind : WidgetKind}
    (hfound : registry.binding? kind.name name = some (owner, handler)) :
    SetsBy kind name handler := by
  have hancestry : registry.ancestry kind.name
      = (SceneTag.widget kind).types :=
    ancestry_name hregistry (.widget kind)
  rw [Registry.binding?, (Registrations.finish_tables hregistry).2.2,
    hancestry] at hfound
  obtain ⟨howner, hget⟩ := HandlerTable.get?_of_resolve hfound
  rw [binding_get?] at hget
  split_ifs at hget with htitle hspacing honClick halign htooltip hvisible
    honClose honCreate <;> cases hget
  · obtain ⟨rfl, rfl⟩ := htitle
    have hkind := (SceneTag.window_mem_types kind).mp howner
    exact .put fun value title w hread => by
      cases hread
      exact .title value w hkind
  · obtain ⟨rfl, rfl⟩ := hspacing
    have hkind := (SceneTag.group_mem_types kind).mp howner
    exact .put fun value spacing w hread => .spacing w hkind hread
  · obtain ⟨rfl, rfl⟩ := honClick
    have hkind := (SceneTag.button_mem_types kind).mp howner
    exact .put fun value event w hread => .onClick w hkind hread
  · obtain ⟨rfl, rfl⟩ := halign
    have hkind := (SceneTag.label_mem_types kind).mp howner
    exact .put fun value align w hread => .align w hkind hread
  · obtain ⟨rfl, rfl⟩ := htooltip
    exact .put fun value tooltip w hread => by
      cases hread
      exact .tooltip value w
  · obtain ⟨rfl, rfl⟩ := hvisible
    exact .put fun value visible w hread => .visible w hread
  · exact .hook kind name .close
  · exact .hook kind name .create

theorem binding_none {kind : WidgetKind}
    (hnone : registry.binding? kind.name name = none) :
    kind.binds name = false := by
  have hancestry : registry.ancestry kind.name
      = (SceneTag.widget kind).types :=
    ancestry_name hregistry (.widget kind)
  rw [Registry.binding?, (Registrations.finish_tables hregistry).2.2,
    hancestry] at hnone
  have hget := HandlerTable.get?_of_resolve_none hnone
  have hwidget := hget "widget" (SceneTag.widget_mem_types kind)
  rw [Bool.eq_false_iff]
  intro hbinds
  simp only [WidgetKind.binds, Bool.or_eq_true, Bool.and_eq_true,
    beq_iff_eq] at hbinds
  obtain ((((rfl | rfl) | ⟨rfl, hkind⟩) | ⟨rfl, rfl⟩) | ⟨rfl, hkind⟩)
    | ⟨rfl, rfl⟩ := hbinds
  · simp [binding_get?] at hwidget
  · simp [binding_get?] at hwidget
  · have hlabel := hget "label" ((SceneTag.label_mem_types kind).mpr hkind)
    simp [binding_get?] at hlabel
  · have hbutton := hget "button" ((SceneTag.button_mem_types _).mpr rfl)
    simp [binding_get?] at hbutton
  · have hgroup := hget "group" ((SceneTag.group_mem_types kind).mpr hkind)
    simp [binding_get?] at hgroup
  · have hwindow := hget "window" ((SceneTag.window_mem_types _).mpr rfl)
    simp [binding_get?] at hwindow

/-- The handlers of what is no widget can only ask for hooks. -/
theorem binding_hook {t : SceneTag} (ht : ∀ kind, t ≠ .widget kind)
    (hfound : registry.binding? t.name name = some (owner, handler)) :
    ∃ moment, handler = BindingHandler.hookTrimmed moment := by
  rw [Registry.binding?, (Registrations.finish_tables hregistry).2.2,
    ancestry_name hregistry] at hfound
  obtain ⟨howner, hget⟩ := HandlerTable.get?_of_resolve hfound
  have howners : owner = "node" ∨ owner = "tooltip" ∨ owner = rootType := by
    rcases t with kind | _ | _
    · exact absurd rfl (ht kind)
    · have hnode : owner = "node" ∨ owner = rootType := by
        simpa [SceneTag.types] using howner
      exact hnode.imp_right Or.inr
    · have htooltip : owner = "tooltip" ∨ owner = rootType := by
        simpa [SceneTag.types] using howner
      exact Or.inr htooltip
  rcases howners with rfl | rfl | rfl
  · simp [binding_get?, rootType] at hget
  · simp [binding_get?, rootType] at hget
  · simp only [binding_get?, rootType, true_and, reduceIte, String.reduceEq,
      false_and] at hget
    split_ifs at hget with honClose honCreate
    · exact ⟨.close, (Option.some.inj hget).symm⟩
    · exact ⟨.create, (Option.some.inj hget).symm⟩

end

end EntityMarkup.Scene
