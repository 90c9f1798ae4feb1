/-
Tags of scenes as they are opened, where no actions are named. The object
that comes out is what the tag makes of its attributes and a body without
parts (`filled`), and there are no hooks.

A window goes through three passes. The first puts into it all that it
takes; the second offers its title bar the rest, of which that takes the
alignment; and the last finds nothing that is left and taken
(`bindComposite_made`). All other objects go through one.
-/
import EntityMarkup.Proofs.Scene.Dressed

namespace EntityMarkup.Scene

open Build (remaining)
open Run (bind_result_ok)

-- ============================================================ composite

/-- The object of a tag that is not closed yet. -/
def filled (get : String → Option String) (parts : List Part) :
    SceneTag → Object
  | .widget kind =>
    .widget { widgetShape kind get parts with packed := false }
  | .node => .node (nodeShape get parts)
  | .tooltip => .tooltip (tooltipShape get parts)

/-- What a pass leaves: what was left for it, without what it takes. -/
theorem valueOf_after (p : String → Bool) (attributes : List Attribute)
    (taken : List String) (name : String) :
    valueOf (remaining attributes
        (taken ++ ((remaining attributes taken).map (·.name)).filter p)) name
      = if p name then none
        else valueOf (remaining attributes taken) name := by
  rw [valueOf_remaining]
  by_cases hmem : name ∈ ((remaining attributes taken).map (·.name)).filter p
  · rw [if_pos (List.mem_append_right _ hmem),
      if_pos (List.mem_filter.mp hmem).2]
  · have hgone : p name = true →
        valueOf (remaining attributes taken) name = none := fun hp =>
      valueOf_eq_none fun hname => hmem (List.mem_filter.mpr ⟨hname, hp⟩)
    simp only [List.mem_append, hmem, or_false]
    rw [← valueOf_remaining]
    split_ifs with hp
    · exact hgone hp
    · rfl

theorem filled_ne_thing (get : String → Option String)
    (parts : List Part) (t : SceneTag) (thing : Thing Object) :
    filled get parts t ≠ .thing thing := by
  rcases t with kind | _ | _ <;> exact fun h => nomatch h

/-- A widget as it is made, with style and text only. -/
def made (kind : WidgetKind) (get : String → Option String) :
    Widget Object :=
  { Widget.new kind with
    style := (get "style").elim StyleDraft.defaultStyle Text.trim
    text := if kind.takesText then get "text" else none }

/-- A title bar that has its text only. -/
def titleMade (get : String → Option String) : Widget Object :=
  { Widget.bare .label with text := get "title" }

theorem titleMade_kind (get : String → Option String) :
    (titleMade get).kind = .label :=
  rfl

theorem made_kind (kind : WidgetKind) (get : String → Option String) :
    (made kind get).kind = kind :=
  rfl

section

variable (get : String → Option String)

/-- A widget that is dressed lacks only what goes to the title bar. -/
theorem dressed_made (kind : WidgetKind) :
    dressed kind get (made kind get)
      = { widgetShape kind get [] with
          packed := false
          title :=
            if kind = .window then some (titleMade get) else none } := by
  unfold dressed made widgetShape titleMade Widget.new Widget.bare
  by_cases hkind : kind = .window
  · simp [hkind]
  · simp [hkind]

theorem components_dressed_made (kind : WidgetKind) :
    Entity.components? (Object.widget (dressed kind get (made kind get)))
      = if kind = .window then some [.widget (titleMade get)]
        else none := by
  rw [dressed_made]
  by_cases hkind : kind = .window
  · simp [Entity.components?, Object.components?, hkind]
  · simp [Entity.components?, Object.components?, hkind]

theorem withComponents_dressed_made :
    Entity.withComponents
        (Object.widget (dressed .window get (made .window get)))
        [.widget (titleShape get)]
      = filled get [] (.widget .window) := by
  rw [dressed_made]
  rfl

theorem dressed_made_eq_filled {kind : WidgetKind} (hkind : kind ≠ .window) :
    Object.widget (dressed kind get (made kind get))
      = filled get [] (.widget kind) := by
  rw [dressed_made, if_neg hkind, filled, widgetShape]
  simp [hkind]

/-- The title bar takes from a window what the window left. -/
theorem dressed_title {left : String → Option String}
    (hleft : ∀ name, WidgetKind.binds .window name = true →
      left name = none)
    (halign : left "align" = get "align") :
    dressed .label left (titleMade get) = titleShape get := by
  have hvisible := hleft "visible" rfl
  have htooltip := hleft "tooltip" rfl
  simp [dressed, titleMade, titleShape, given, Widget.bare,
    WidgetKind.takesText, WidgetKind.isContainer, hvisible, htooltip, halign]

end

section

variable {setting : Setting Object Sketch}
  (hstandard : Standard setting) {tag owner : String}
  {attributes : List Attribute}
  (hnodup : (attributes.map (·.name)).Nodup) {taken : List String}
  (htaken : ∀ name ∈ taken, name = "style" ∨ name = "text")

include htaken in
/-- Building handlers take nothing that a widget binds. -/
theorem valueOf_remaining_binds {name : String}
    (hstyle : name ≠ "style") (htext : name ≠ "text") :
    valueOf (remaining attributes taken) name = valueOf attributes name := by
  rw [valueOf_remaining, if_neg]
  intro hmem
  exact (htaken name hmem).elim hstyle htext

include hstandard hnodup htaken

/-- The first pass over a widget puts all into it that it takes. -/
theorem bindPass_made {kind : WidgetKind} {judging : Bool}
    {b : Build.Binding Object}
    (h : (Build.bindPass setting tag owner .whole judging attributes
      ⟨.widget (made kind (valueOf attributes)), .empty,
        taken⟩).result = .ok b) :
    b = ⟨.widget (dressed kind (valueOf attributes)
          (made kind (valueOf attributes))), .empty,
      taken ++ ((remaining attributes taken).map (·.name)).filter
        kind.binds⟩ := by
  rw [bindPass_dressed hstandard hnodup (made_kind ..) h,
    dressed_congr]
  intro name hbinds
  apply valueOf_remaining_binds htaken
  · rintro rfl
    simp [WidgetKind.binds] at hbinds
  · rintro rfl
    simp [WidgetKind.binds] at hbinds

/-- The two passes before the last leave a window and its title bar with
all that is given, and nothing that the window takes. -/
theorem bindComposite_made {b : Build.Binding Object}
    {partHooks : List (Hooks Object)}
    (h : (Build.bindComposite setting tag owner attributes
      ⟨.widget (made .window (valueOf attributes)), .empty,
        taken⟩).result = .ok (b, partHooks)) :
    partHooks = [.empty] ∧ ∃ taken',
      b = ⟨filled (valueOf attributes) [] (.widget .window), .empty, taken'⟩
      ∧ ∀ name, WidgetKind.binds .window name = true →
        valueOf (remaining attributes taken') name = none := by
  unfold Build.bindComposite at h
  obtain ⟨b₁, hwhole, hrest⟩ := bind_result_ok h
  rw [bindPass_made hstandard hnodup htaken hwhole] at hrest
  dsimp only at hrest
  rw [components_dressed_made, if_pos rfl] at hrest
  obtain ⟨⟨parts, hooks, taken₂⟩, hparts, hpure⟩ := bind_result_ok hrest
  unfold Build.bindParts at hparts
  obtain ⟨b₂, htitle, hlast⟩ := bind_result_ok hparts
  cases hlast
  obtain rfl := bindPass_dressed hstandard hnodup
    (titleMade_kind _) htitle
  have hleft : ∀ name, WidgetKind.binds .window name = true →
      valueOf (remaining attributes (taken
        ++ ((remaining attributes taken).map (·.name)).filter
          (WidgetKind.binds .window))) name = none := by
    intro name hbinds
    rw [valueOf_after, if_pos hbinds]
  have halign : valueOf (remaining attributes (taken
        ++ ((remaining attributes taken).map (·.name)).filter
          (WidgetKind.binds .window))) "align"
      = valueOf attributes "align" := by
    rw [valueOf_after, if_neg (by decide)]
    exact valueOf_remaining_binds htaken (by decide) (by decide)
  have hbar := dressed_title (valueOf attributes) hleft halign
  dsimp only at hpure
  rw [hbar, withComponents_dressed_made] at hpure
  cases hpure
  refine ⟨rfl, _, rfl, fun name hbinds => ?_⟩
  rw [valueOf_after]
  split_ifs
  · rfl
  · exact hleft name hbinds

/-- A widget is bound to all that is given, and asks for no hooks. -/
theorem bindAttributes_made {kind : WidgetKind}
    {b : Build.Binding Object} {partHooks : List (Hooks Object)}
    (h : (Build.bindAttributes setting tag attributes taken
      (.widget (made kind (valueOf attributes)))).result
      = .ok (b, partHooks)) :
    b.target = filled (valueOf attributes) [] (.widget kind)
      ∧ b.hooks = .empty ∧ ∀ hooks ∈ partHooks, hooks = .empty := by
  unfold Build.bindAttributes at h
  by_cases hkind : kind = .window
  · subst hkind
    obtain ⟨⟨b₁, partHooks₁⟩, hcomposite, hrest⟩ := bind_result_ok h
    obtain ⟨rfl, taken', rfl, hleft⟩ :=
      bindComposite_made hstandard hnodup htaken hcomposite
    obtain ⟨b₂, hlast, hpure⟩ := bind_result_ok hrest
    have hwhole := bindPass_dressed hstandard hnodup rfl hlast
    cases hpure
    rw [hwhole]
    refine ⟨?_, rfl, by simp⟩
    exact congrArg Object.widget (dressed_none hleft _)
  · have hparts : Entity.components?
        (Object.widget (made kind (valueOf attributes))) = none := by
      simp [Entity.components?, Object.components?, made, Widget.new, hkind]
    dsimp only at h
    rw [hparts] at h
    obtain ⟨b₁, hnone, hrest⟩ := bind_result_ok h
    cases hnone
    obtain ⟨b₂, hlast, hpure⟩ := bind_result_ok hrest
    have hwhole := bindPass_made hstandard hnodup htaken hlast
    cases hpure
    rw [hwhole]
    exact ⟨dressed_made_eq_filled _ hkind, rfl, by simp⟩

end

-- ============================================================== hooks

/-- Components that are put back leave an object of a scene as it is. -/
theorem withComponents_components {o : Object} (ho : ∀ t, o ≠ .thing t)
    {parts : List Object} (hparts : Entity.components? o = some parts) :
    Entity.withComponents o parts = o := by
  cases o with
  | widget w =>
      obtain ⟨title, htitle, rfl⟩ := Option.map_eq_some_iff.mp hparts
      show Object.widget { w with title := some title } = .widget w
      rw [← htitle]
      cases w
      rfl
  | thing t => exact absurd rfl (ho t)
  | leaf text => cases hparts
  | node n => cases hparts
  | tooltip text => cases hparts
  | clip typeName => cases hparts

section

variable (tag : String) (moment : Moment)
  {partHooks : List (Hooks Object)}
  (hempty : ∀ hooks ∈ partHooks, hooks = .empty)

theorem actions_empty :
    (Hooks.empty : Hooks Object).actions moment = [] := by
  cases moment <;> rfl

include hempty

theorem runPartHooks_empty (index : Nat) (parts : List Object) :
    (Build.runPartHooks tag moment index parts partHooks).result
      = .ok parts := by
  induction parts generalizing index partHooks with
  | nil => rfl
  | cons part parts ih =>
      cases partHooks with
      | nil => rfl
      | cons hooks rest =>
          have hhooks := hempty hooks List.mem_cons_self
          have hrest := ih (fun hooks' hmem =>
            hempty hooks' (List.mem_cons_of_mem _ hmem)) (index + 1)
          rw [Build.runPartHooks, hhooks, actions_empty, Build.runActions,
            Run.bind_of_ok (Run.pure_result part), Run.bind_of_ok hrest]
          rfl

/-- Without hooks, running them leaves an object as it is. -/
theorem runHooks_empty {o : Object} (ho : ∀ t, o ≠ .thing t) :
    (Build.runHooks tag moment o .empty partHooks).result = .ok o := by
  unfold Build.runHooks
  rw [actions_empty]
  cases hparts : Entity.components? o with
  | none =>
      dsimp only
      rw [Run.bind_of_ok (Run.pure_result o)]
      rfl
  | some parts =>
      have hback : Entity.withComponents o parts = o :=
        withComponents_components ho hparts
      have hrun : (Entity.withComponents o
          <$> Build.runPartHooks tag moment 0 parts partHooks).result
          = .ok o := by
        rw [← bind_pure_comp,
          Run.bind_of_ok (runPartHooks_empty tag moment hempty 0 parts),
          hback]
        rfl
      dsimp only
      rw [Run.bind_of_ok hrun]
      rfl

end

-- ============================================================= opening

/-- What a tag makes of a draft. -/
def drawn (d : StyleDraft) : SceneTag → Object
  | .widget kind =>
    .widget { Widget.new kind with style := d.style, text := d.text }
  | .node => .node ⟨.leaf (d.text.getD ""), []⟩
  | .tooltip => .tooltip (d.text.getD "")

theorem SceneTag.declaredType_eq (t : SceneTag) :
    t.tagKind.declaredType = t.name := by
  rcases t with kind | _ | _ <;> rfl

theorem SceneTag.newDraft_eq (t : SceneTag) :
    t.tagKind.newDraft = .styled .start := by
  rcases t with kind | _ | _ <;> rfl

theorem instantiate_drawn (tag : String) (t : SceneTag) (d : StyleDraft) :
    (Build.instantiate tag t.tagKind (Sketch.styled d)).result
      = .ok (drawn d t) := by
  rcases t with kind | _ | _ <;> rfl

theorem drawn_widget (kind : WidgetKind) (get : String → Option String) :
    drawn (drafted (.widget kind) get .start) (.widget kind)
      = .widget (made kind get) := by
  simp [drawn, drafted, made, SceneTag.styled, SceneTag.worded,
    StyleDraft.start]

theorem drawn_plain {t : SceneTag} (ht : ∀ kind, t ≠ .widget kind)
    (get : String → Option String) :
    drawn (drafted t get .start) t = filled get [] t := by
  rcases t with kind | _ | _
  · exact absurd rfl (ht kind)
  · simp [drawn, drafted, filled, nodeShape, SceneTag.worded,
      StyleDraft.start]
  · cases htext : get "text" with
    | none =>
        simp [drawn, drafted, filled, tooltipShape, SceneTag.worded,
          StyleDraft.start, htext]
    | some text =>
        by_cases hempty : text = ""
        · simp [drawn, drafted, filled, tooltipShape, SceneTag.worded,
            StyleDraft.start, htext, hempty]
        · simp [drawn, drafted, filled, tooltipShape, SceneTag.worded,
            StyleDraft.start, htext, hempty]

/-- What is no widget is left as it is made. -/
theorem bindAttributes_plain {setting : Setting Object Sketch}
    (hstandard : Standard setting) {tag : String} {t : SceneTag}
    (ht : ∀ kind, t ≠ .widget kind) {attributes : List Attribute}
    {taken : List String} {o : Object} (htype : Entity.typeName o = t.name)
    (hwhole : Entity.components? o = none)
    {b : Build.Binding Object} {partHooks : List (Hooks Object)}
    (h : (Build.bindAttributes setting tag attributes taken o).result
      = .ok (b, partHooks)) :
    b = ⟨o, .empty, taken⟩ ∧ partHooks = [] := by
  unfold Build.bindAttributes at h
  dsimp only at h
  rw [hwhole] at h
  obtain ⟨b₁, hnone, hrest⟩ := bind_result_ok h
  cases hnone
  obtain ⟨b₂, hlast, hpure⟩ := bind_result_ok hrest
  have hsame := bindPass_plain hstandard ht htype hlast
  cases hpure
  exact ⟨hsame, rfl⟩

section

variable {setting : Setting Object Sketch}
  (hstandard : Standard setting)

include hstandard

/-- The object of a tag is bound to all that is given. -/
theorem bindAttributes_filled {tag : String} {t : SceneTag}
    {attributes : List Attribute}
    (hnodup : (attributes.map (·.name)).Nodup) {taken : List String}
    (htaken : ∀ name ∈ taken, name = "style" ∨ name = "text")
    {b : Build.Binding Object} {partHooks : List (Hooks Object)}
    (h : (Build.bindAttributes setting tag attributes taken
      (drawn (drafted t (valueOf attributes) .start) t)).result
      = .ok (b, partHooks)) :
    b.target = filled (valueOf attributes) [] t
      ∧ b.hooks = .empty ∧ ∀ hooks ∈ partHooks, hooks = .empty := by
  rcases t with kind | _ | _
  · rw [drawn_widget] at h
    exact bindAttributes_made hstandard hnodup htaken h
  · have hnode : ∀ kind, SceneTag.node ≠ .widget kind := by simp
    obtain ⟨rfl, rfl⟩ :=
      bindAttributes_plain hstandard hnode rfl rfl h
    exact ⟨drawn_plain hnode _, rfl, by simp⟩
  · have htooltip : ∀ kind, SceneTag.tooltip ≠ .widget kind := by simp
    obtain ⟨rfl, rfl⟩ :=
      bindAttributes_plain hstandard htooltip rfl rfl h
    exact ⟨drawn_plain htooltip _, rfl, by simp⟩

/-- A tag that is opened is one of a scene, and its object has all that
the attributes give. -/
theorem openTag_filled {parent : Option String} {name : String}
    {attributes : List Attribute}
    (hnodup : (attributes.map (·.name)).Nodup) {line : Nat}
    {tag : OpenedTag Object Sketch}
    (h : (Build.openTag setting parent name attributes line).result
      = .ok tag) :
    ∃ (t : SceneTag) (partHooks : List (Hooks Object)), t.name = name
      ∧ (∀ hooks ∈ partHooks, hooks = .empty)
      ∧ tag = ⟨name, t.tagKind, filled (valueOf attributes) [] t, .empty,
        partHooks⟩ := by
  unfold Build.openTag at h
  cases hfound : setting.registry.kind? name with
  | none =>
      rw [hfound] at h
      cases h
  | some kind =>
      rw [hfound] at h
      obtain ⟨t, rfl, rfl⟩ := exists_tag hstandard.registry_eq hfound
      obtain ⟨-, -, h⟩ := bind_result_ok h
      obtain ⟨⟨draft, taken⟩, hbuild, h⟩ := bind_result_ok h
      rw [t.declaredType_eq, t.newDraft_eq] at hbuild
      obtain ⟨rfl, rfl⟩ :=
        buildAttributes_drafted hstandard.registry_eq hnodup hbuild
      obtain ⟨entity, hmake, h⟩ := bind_result_ok h
      rw [instantiate_drawn] at hmake
      cases hmake
      obtain ⟨⟨b, partHooks⟩, hbind, h⟩ := bind_result_ok h
      have htaken : ∀ name ∈ [] ++ (attributes.map (·.name)).filter t.drafts,
          name = "style" ∨ name = "text" := by
        intro name hmem
        have hdrafts := (List.mem_filter.mp hmem).2
        simp only [SceneTag.drafts, Bool.or_eq_true, Bool.and_eq_true,
          beq_iff_eq] at hdrafts
        exact hdrafts.imp And.left And.left
      obtain ⟨htarget, hhooks, hempty⟩ :=
        bindAttributes_filled hstandard hnodup htaken hbind
      obtain ⟨entity, hcreate, h⟩ := bind_result_ok h
      rw [hhooks, htarget, runHooks_empty _ _ hempty
        (filled_ne_thing _ _ t)] at hcreate
      cases hcreate
      cases h
      rw [hhooks]
      exact ⟨t, partHooks, rfl, hempty, rfl⟩

end

end EntityMarkup.Scene