/-
Objects of scenes whose tags are still open, where no actions are named.
Such an object is as its tag allows (`Growing`), also if attributes are
given twice: the draft is (`buildAttributes_keeps`), so is what is made of
it, and an attribute that is put into a widget keeps this
(`Sets.growing`), so each pass does. The title bar of a window is offered
only what the window did not take, and of that a label takes the alignment
alone.
-/
import EntityMarkup.Proofs.Scene.Fit
import EntityMarkup.Proofs.Scene.Opened

namespace EntityMarkup.Scene

open Run (bind_result_ok call_bind_result_ok)

-- ============================================================== drafts

/-- A name that is read is tidy. -/
theorem readName_tidy {value what name : String}
    (h : readName value what = .ok name) : Tidy name := by
  have hname := readName_eq h
  unfold readName at h
  split at h
  · cases h
  · next hblank =>
    subst hname
    refine ⟨?_, Text.trim_trim value⟩
    rw [Ne, Text.trim_eq_empty]
    exact hblank

/-- A draft of the tag: its style is tidy, and it has a text only if the
tag takes one. -/
structure SceneTag.Drafted (t : SceneTag) (d : StyleDraft) : Prop where
  style : Tidy d.style
  worded : d.text ≠ none → t.worded = true

theorem Drafts.drafted {t : SceneTag} {a : Attribute} {d d' : StyleDraft}
    (h : Drafts t a d d') (hd : t.Drafted d) : t.Drafted d' := by
  cases h with
  | style d ht hread => exact ⟨readName_tidy hread, hd.worded⟩
  | text value d ht => exact ⟨hd.style, fun _ => ht⟩

theorem buildAttributes_keeps {registry : Registry Object Sketch}
    (hregistry : registry? = .ok registry) {tag : String} {t : SceneTag}
    {attributes : List Attribute} {d : StyleDraft} (hd : t.Drafted d)
    {draft : Sketch} {taken taken' : List String}
    (h : (attributes.foldlM (Build.buildAttribute registry tag t.name)
      (Sketch.styled d, taken)).result = .ok (draft, taken')) :
    ∃ d', draft = .styled d' ∧ t.Drafted d' := by
  induction attributes generalizing d taken with
  | nil =>
      cases h
      exact ⟨d, rfl, hd⟩
  | cons a rest ih =>
      rw [List.foldlM_cons] at h
      obtain ⟨⟨draft₁, taken₁⟩, hfirst, hrest⟩ := bind_result_ok h
      unfold Build.buildAttribute at hfirst
      cases hfound : registry.building? t.name a.name with
      | none =>
          rw [hfound] at hfirst
          cases hfirst
          exact ih hd hrest
      | some found =>
          obtain ⟨owner, handler⟩ := found
          rw [hfound] at hfirst
          obtain ⟨consumed, hok, hpure⟩ := call_bind_result_ok hfirst
          obtain ⟨-, d', hdrafts, hstate⟩ :=
            building_found hregistry hfound a.value d consumed hok
          rw [hstate] at hpure
          cases hpure
          exact ih (hdrafts.drafted hd) hrest

-- ============================================================== binding

theorem Sets.growing {kind : WidgetKind} {a : Attribute}
    {w w' : Widget Object} (h : Sets kind a w w') (hkind : w.kind = kind)
    (hw : w.Growing) : w'.Growing := by
  subst hkind
  cases h with
  | visible w hread => exact { hw with }
  | tooltip value w => exact { hw with }
  | align w hkind hread =>
      have hworded := WidgetKind.takesText_iff.mp hkind
      exact { hw with aligned := fun _ => hworded }
  | @onClick value event w hkind hread =>
      have hevent : ∀ name, some event = some name → Tidy name := by
        intro name hname
        cases hname
        exact readName_tidy hread
      exact { hw with clickable := fun _ => hkind, event := hevent }
  | spacing w hkind hread =>
      have hcontainer := WidgetKind.isContainer_iff.mp hkind
      exact { hw with spaced := fun _ => hcontainer }
  | title value w hkind =>
      obtain ⟨t, htitle⟩ :=
        Option.isSome_iff_exists.mp (hw.titled.mpr hkind)
      obtain ⟨text, align, rfl⟩ := hw.titleBar t htitle
      unfold Widget.setTitle
      rw [htitle]
      exact hw.withTitle hkind ⟨some value, align, rfl⟩

section

variable {setting : Setting Object Sketch}
  (hstandard : Standard setting) {tag owner : String} {slot : Slot}
  {judging : Bool} {attributes : List Attribute}

include hstandard

/-- What each attribute keeps that is put into a widget, a pass keeps;
and the pass leaves no attribute that the widget binds. -/
theorem bindPass_keeps {kind : WidgetKind}
    {P : Widget Object → List String → Prop}
    (hP : ∀ w taken, P w taken → w.kind = kind)
    (hsets : ∀ a ∈ attributes, ∀ w w' taken, P w taken → a.name ∉ taken →
      Sets kind a w w' → P w' (taken ++ [a.name]))
    {w : Widget Object} {taken : List String} (hw : P w taken)
    {b : Build.Binding Object}
    (h : (Build.bindPass setting tag owner slot judging attributes
      ⟨.widget w, .empty, taken⟩).result = .ok b) :
    ∃ w' taken', b = ⟨.widget w', .empty, taken'⟩ ∧ P w' taken'
      ∧ taken ⊆ taken'
      ∧ ∀ a ∈ attributes, kind.binds a.name = true → a.name ∈ taken' := by
  induction attributes generalizing w taken with
  | nil =>
      cases h
      exact ⟨w, taken, rfl, hw, List.Subset.refl taken, by simp⟩
  | cons a rest ih =>
      have hbind : Build.bindPass setting tag owner slot judging (a :: rest)
            ⟨.widget w, .empty, taken⟩
          = Build.bindAttribute setting tag owner slot judging
              ⟨.widget w, .empty, taken⟩ a
            >>= Build.bindPass setting tag owner slot judging rest :=
        List.foldlM_cons
      rw [hbind] at h
      obtain ⟨b₁, hfirst, hrest⟩ := bind_result_ok h
      have hkind := hP w taken hw
      have ih := @ih fun a' ha' => hsets a' (List.mem_cons_of_mem _ ha')
      rcases bindAttribute_widget hstandard hfirst with
        ⟨hmem, rfl⟩ | ⟨hmem, hskip, rfl⟩ | ⟨hmem, w₁, hset, rfl⟩
      · obtain ⟨w', taken', hb, hw', hsub, hall⟩ := ih hw hrest
        refine ⟨w', taken', hb, hw', hsub, fun a' ha' hbinds => ?_⟩
        rcases List.mem_cons.mp ha' with rfl | ha'
        · exact hsub hmem
        · exact hall a' ha' hbinds
      · obtain ⟨w', taken', hb, hw', hsub, hall⟩ := ih hw hrest
        refine ⟨w', taken', hb, hw', hsub, fun a' ha' hbinds => ?_⟩
        rcases List.mem_cons.mp ha' with rfl | ha'
        · rw [hkind, hbinds] at hskip
          cases hskip
        · exact hall a' ha' hbinds
      · rw [hkind] at hset
        obtain ⟨w', taken', hb, hw', hsub, hall⟩ :=
          ih (hsets a List.mem_cons_self w w₁ taken hw hmem hset) hrest
        have hname : a.name ∈ taken' :=
          hsub (List.mem_append_right _ List.mem_cons_self)
        refine ⟨w', taken', hb, hw', fun name hmem' =>
          hsub (List.mem_append_left _ hmem'), fun a' ha' hbinds => ?_⟩
        rcases List.mem_cons.mp ha' with rfl | ha'
        · exact hname
        · exact hall a' ha' hbinds

/-- A pass over a growing widget. -/
theorem bindPass_growing {w : Widget Object} (hw : w.Growing)
    {taken : List String} {b : Build.Binding Object}
    (h : (Build.bindPass setting tag owner slot judging attributes
      ⟨.widget w, .empty, taken⟩).result = .ok b) :
    ∃ w' taken', b = ⟨.widget w', .empty, taken'⟩
      ∧ w'.kind = w.kind ∧ w'.Growing
      ∧ ∀ a ∈ attributes, w.kind.binds a.name = true →
        a.name ∈ taken' := by
  obtain ⟨w', taken', hb, ⟨hkind, hw'⟩, -, hall⟩ :=
    bindPass_keeps hstandard
      (P := fun w' _ => w'.kind = w.kind ∧ w'.Growing)
      (fun _ _ hP => hP.1)
      (fun a _ w₁ w₂ _ hP _ hset =>
        ⟨hset.kind_eq.trans hP.1, hset.growing hP.1 hP.2⟩)
      ⟨rfl, hw⟩ h
  exact ⟨w', taken', hb, hkind, hw', hall⟩

/-- A pass over a title bar that is offered nothing that the window
takes. -/
theorem bindPass_titleBar {t : Widget Object} (ht : TitleBar t)
    {taken : List String}
    (htaken : ∀ a ∈ attributes, WidgetKind.binds .window a.name = true →
      a.name ∈ taken)
    {b : Build.Binding Object}
    (h : (Build.bindPass setting tag owner slot judging attributes
      ⟨.widget t, .empty, taken⟩).result = .ok b) :
    ∃ t' taken', b = ⟨.widget t', .empty, taken'⟩ ∧ TitleBar t' := by
  let P (t : Widget Object) (taken : List String) : Prop :=
    TitleBar t ∧ ∀ a ∈ attributes,
      WidgetKind.binds .window a.name = true → a.name ∈ taken
  have hlabel : ∀ t taken, P t taken → t.kind = .label := by
    rintro _ taken ⟨⟨text, align, rfl⟩, -⟩
    rfl
  have hsets : ∀ a ∈ attributes, ∀ t t' taken, P t taken →
      a.name ∉ taken → Sets .label a t t' → P t' (taken ++ [a.name]) := by
    rintro a ha t t' taken ⟨⟨text, align, rfl⟩, hall⟩ hmem hset
    have hleft : WidgetKind.binds .window a.name ≠ true :=
      fun hbinds => hmem (hall a ha hbinds)
    refine ⟨?_, fun a' ha' hbinds =>
      List.mem_append_left _ (hall a' ha' hbinds)⟩
    cases hset with
    | visible w hread => exact absurd rfl hleft
    | tooltip value w => exact absurd rfl hleft
    | align w hkind hread => exact ⟨text, _, rfl⟩
    | onClick w hkind hread => cases hkind
    | spacing w hkind hread => cases hkind
    | title value w hkind => cases hkind
  obtain ⟨t', taken', hb, ⟨ht', -⟩, -, -⟩ :=
    bindPass_keeps hstandard hlabel hsets ⟨ht, htaken⟩ h
  exact ⟨t', taken', hb, ht'⟩

/-- The two passes before the last keep a growing window, and ask for no
hooks. -/
theorem bindComposite_growing {w : Widget Object} (hw : w.Growing)
    (hkind : w.kind = .window) {taken : List String}
    {b : Build.Binding Object} {partHooks : List (Hooks Object)}
    (h : (Build.bindComposite setting tag owner attributes
      ⟨.widget w, .empty, taken⟩).result = .ok (b, partHooks)) :
    partHooks = [.empty] ∧ ∃ w' taken', b = ⟨.widget w', .empty, taken'⟩
      ∧ w'.kind = .window ∧ w'.Growing := by
  unfold Build.bindComposite at h
  obtain ⟨b₁, hwhole, hrest⟩ := bind_result_ok h
  obtain ⟨w₁, taken₁, rfl, hkind₁, hw₁, hall⟩ :=
    bindPass_growing hstandard hw hwhole
  rw [hkind] at hkind₁ hall
  obtain ⟨t, ht, hparts⟩ := hw₁.components_window hkind₁
  dsimp only at hrest
  rw [hparts] at hrest
  obtain ⟨⟨parts, hooks, taken₂⟩, hpart, hpure⟩ := bind_result_ok hrest
  unfold Build.bindParts at hpart
  obtain ⟨b₂, hbar, hlast⟩ := bind_result_ok hpart
  cases hlast
  obtain ⟨t', taken', rfl, ht'⟩ :=
    bindPass_titleBar hstandard ht hall hbar
  cases hpure
  exact ⟨rfl, _, taken', rfl, hkind₁, hw₁.withTitle hkind₁ ht'⟩

/-- The last pass. -/
theorem bindLast_growing {w : Widget Object} (hw : w.Growing)
    {taken : List String} {partHooks partHooks' : List (Hooks Object)}
    {b : Build.Binding Object}
    (h : (Build.bindPass setting tag owner slot judging attributes
        ⟨.widget w, .empty, taken⟩ >>= fun b => pure (b, partHooks)).result
      = .ok (b, partHooks')) :
    (∃ w', b.target = .widget w' ∧ w'.kind = w.kind ∧ w'.Growing)
      ∧ b.hooks = .empty ∧ partHooks' = partHooks := by
  obtain ⟨b', hpass, hpure⟩ := bind_result_ok h
  obtain ⟨w', taken', rfl, hkind, hw', -⟩ :=
    bindPass_growing hstandard hw hpass
  cases hpure
  exact ⟨⟨w', rfl, hkind, hw'⟩, rfl, rfl⟩

/-- A growing widget stays one when it is bound to its attributes, and
asks for no hooks. -/
theorem bindAttributes_growing {w : Widget Object} (hw : w.Growing)
    {taken : List String} {b : Build.Binding Object}
    {partHooks : List (Hooks Object)}
    (h : (Build.bindAttributes setting tag attributes taken
      (.widget w)).result = .ok (b, partHooks)) :
    (∃ w', b.target = .widget w' ∧ w'.kind = w.kind ∧ w'.Growing)
      ∧ b.hooks = .empty ∧ ∀ hooks ∈ partHooks, hooks = .empty := by
  unfold Build.bindAttributes at h
  dsimp only at h
  by_cases hkind : w.kind = .window
  · obtain ⟨t, -, hparts⟩ := hw.components_window hkind
    rw [hparts] at h
    obtain ⟨⟨b₁, partHooks₁⟩, hcomposite, hlast⟩ := bind_result_ok h
    obtain ⟨rfl, w₁, taken₁, rfl, hkind₁, hw₁⟩ :=
      bindComposite_growing hstandard hw hkind hcomposite
    obtain ⟨htarget, hhooks, rfl⟩ := bindLast_growing hstandard hw₁ hlast
    rw [hkind₁, ← hkind] at htarget
    exact ⟨htarget, hhooks, by simp⟩
  · rw [hw.components_other hkind] at h
    obtain ⟨⟨b₁, partHooks₁⟩, hnone, hlast⟩ := bind_result_ok h
    cases hnone
    obtain ⟨htarget, hhooks, rfl⟩ := bindLast_growing hstandard hw hlast
    exact ⟨htarget, hhooks, by simp⟩

end

-- ============================================================== opening

/-- The object of a tag that is still open. -/
inductive Growing : SceneTag → Object → Prop
  | widget {kind : WidgetKind} {w : Widget Object} (hkind : w.kind = kind)
      (hw : w.Growing) : Growing (.widget kind) (.widget w)
  | node {n : TreeNode Object} (hn : (Object.node n).Sound) :
      Growing .node (.node n)
  | tooltip (text : String) : Growing .tooltip (.tooltip text)

/-- What a tag makes of its draft. -/
theorem drawn_growing {t : SceneTag} {d : StyleDraft} (hd : t.Drafted d) :
    Growing t (drawn d t) := by
  rcases t with kind | _ | _
  · refine .widget rfl {
      titled := by
        by_cases hkind : kind = .window <;>
          simp [Widget.new, Widget.bare, hkind]
      titleBar := ?_
      parent := fun h => absurd rfl h
      children := fun child h => absurd h List.not_mem_nil
      hierarchy := fun h => absurd rfl h
      worded := fun h => WidgetKind.takesText_iff.mp (hd.worded h)
      clickable := fun h => absurd rfl h
      event := fun name h => by cases h
      aligned := fun h => absurd rfl h
      spaced := fun h => absurd rfl h
      style := hd.style
      unpacked := rfl
      children_sound := fun child h => absurd h List.not_mem_nil
      nodes_sound := fun n h => absurd h List.not_mem_nil }
    intro t ht
    have htitle : (if kind = .window then some (Widget.bare .label)
        else none) = some t := ht
    split at htitle
    · cases htitle
      exact ⟨none, .start, rfl⟩
    · cases htitle
  · refine .node (node_sound (Or.inl ⟨_, rfl⟩) (leaf_sound _) ?_)
    exact fun m h => absurd h List.not_mem_nil
  · exact .tooltip _

/-- An opened tag of a scene, with no hooks to run. -/
structure GrowingTag (t : SceneTag) (tag : OpenedTag Object Sketch) :
    Prop where
  kind_eq : tag.kind = t.tagKind
  hooks_eq : tag.hooks = .empty
  partHooks_eq : ∀ hooks ∈ tag.partHooks, hooks = .empty
  growing : Growing t tag.entity

theorem GrowingTag.with {t : SceneTag} {tag : OpenedTag Object Sketch}
    (h : GrowingTag t tag) {o : Object} (ho : Growing t o) :
    GrowingTag t { tag with entity := o } :=
  { h with growing := ho }

theorem Growing.ne_thing {t : SceneTag} {o : Object} (h : Growing t o)
    (thing : Thing Object) : o ≠ .thing thing := by
  cases h <;> exact fun h => nomatch h

section

variable {setting : Setting Object Sketch}
  (hstandard : Standard setting)

include hstandard

theorem openTag_growing {parent : Option String} {name : String}
    {attributes : List Attribute} {line : Nat}
    {tag : OpenedTag Object Sketch}
    (h : (Build.openTag setting parent name attributes line).result
      = .ok tag) : ∃ t, GrowingTag t tag := by
  unfold Build.openTag at h
  cases hfound : setting.registry.kind? name with
  | none =>
      rw [hfound] at h
      cases h
  | some kind =>
      rw [hfound] at h
      obtain ⟨t, rfl, rfl⟩ := exists_tag hstandard.registry_eq hfound
      obtain ⟨-, -, h⟩ := bind_result_ok h
      obtain ⟨⟨draft, taken⟩, hbuild, h⟩ := bind_result_ok h
      rw [t.declaredType_eq, t.newDraft_eq] at hbuild
      have hstart : t.Drafted .start :=
        ⟨defaultStyle_tidy, fun h => absurd rfl h⟩
      obtain ⟨d, rfl, hd⟩ :=
        buildAttributes_keeps hstandard.registry_eq hstart hbuild
      obtain ⟨entity, hmake, h⟩ := bind_result_ok h
      rw [instantiate_drawn] at hmake
      cases hmake
      obtain ⟨⟨b, partHooks⟩, hbind, h⟩ := bind_result_ok h
      have hbound : Growing t b.target ∧ b.hooks = .empty
          ∧ ∀ hooks ∈ partHooks, hooks = .empty := by
        have hdrawn := drawn_growing hd
        rcases t with kind | _ | _
        · cases hdrawn with
          | widget hkind hw =>
              obtain ⟨⟨w', htarget, hkind', hw'⟩, hhooks, hempty⟩ :=
                bindAttributes_growing hstandard hw hbind
              rw [htarget]
              exact ⟨.widget (hkind'.trans hkind) hw', hhooks, hempty⟩
        · have hnode : ∀ kind, SceneTag.node ≠ .widget kind := by simp
          obtain ⟨rfl, rfl⟩ :=
            bindAttributes_plain hstandard hnode rfl rfl hbind
          exact ⟨hdrawn, rfl, by simp⟩
        · have htooltip : ∀ kind, SceneTag.tooltip ≠ .widget kind := by simp
          obtain ⟨rfl, rfl⟩ :=
            bindAttributes_plain hstandard htooltip rfl rfl hbind
          exact ⟨hdrawn, rfl, by simp⟩
      obtain ⟨hgrowing, hhooks, hempty⟩ := hbound
      obtain ⟨entity, hcreate, h⟩ := bind_result_ok h
      rw [hhooks, runHooks_empty _ _ hempty hgrowing.ne_thing] at hcreate
      cases hcreate
      cases h
      exact ⟨t, rfl, hhooks, hempty, hgrowing⟩

end

end EntityMarkup.Scene
