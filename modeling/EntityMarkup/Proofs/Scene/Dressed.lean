/-
What attributes do to drafts and widgets of a scene, where no actions are
named. The attributes that are left decide what is still to be put in
(`drafted`, `dressed`): one that is taken puts its value in and leaves the
rest (`drafted_cons`, `dressed_cons`), and one that is not taken makes no
difference. So the passes over attributes, by induction over these, put
in all that they find, each value at most once since the names are
distinct.
-/
import EntityMarkup.Proofs.Build.Offer
import EntityMarkup.Proofs.Scene.Lookup

namespace EntityMarkup.Scene

open Build (remaining)
open Run (bind_result_ok call_bind_result_ok)

-- ================================================================ values

/-- Only attributes that are not done with have values. -/
theorem valueOf_remaining (attributes : List Attribute)
    (taken : List String) (name : String) :
    valueOf (remaining attributes taken) name
      = if name ∈ taken then none else valueOf attributes name := by
  induction attributes with
  | nil => exact (ite_self _).symm
  | cons a rest ih =>
      unfold remaining at ih ⊢
      by_cases ha : a.name ∈ taken
      · rw [List.filter_cons_of_neg (by simpa using ha), ih, valueOf_cons]
        split_ifs with hname hsame
        · rfl
        · rw [hsame] at ha
          exact absurd ha hname
        · rfl
      · rw [List.filter_cons_of_pos (by simpa using ha), valueOf_cons, ih,
          valueOf_cons]
        split_ifs with hsame hname
        · rw [hsame] at ha
          exact absurd hname ha
        · rfl
        · rfl
        · rfl

-- ============================================================== drafts

/-- The draft with the values put into it that the tag takes. -/
def drafted (t : SceneTag) (get : String → Option String)
    (d : StyleDraft) : StyleDraft :=
  ⟨if t.styled then (get "style").elim d.style Text.trim else d.style,
    if t.worded then (get "text").or d.text else d.text⟩

section

variable {t : SceneTag} {a : Attribute} {rest : List Attribute}
  {d d' : StyleDraft}

theorem drafted_cons (hfresh : a.name ∉ rest.map (·.name))
    (h : Drafts t a d d') :
    drafted t (valueOf rest) d' = drafted t (valueOf (a :: rest)) d := by
  have hnone := valueOf_eq_none hfresh
  cases h with
  | style d ht hread =>
      simp [drafted, valueOf_cons, hnone, ht, readName_eq hread]
  | text value d ht => simp [drafted, valueOf_cons, hnone, ht]

theorem drafted_nil (t : SceneTag) (d : StyleDraft) :
    drafted t (valueOf []) d = d := by
  simp [drafted, valueOf]

/-- What a tag does not take makes no difference. -/
theorem drafted_congr {get get' : String → Option String}
    (h : ∀ name, t.drafts name = true → get name = get' name)
    (d : StyleDraft) : drafted t get d = drafted t get' d := by
  have hstyle : t.styled = true → get "style" = get' "style" :=
    fun ht => h _ (by simp [SceneTag.drafts, ht])
  have htext : t.worded = true → get "text" = get' "text" :=
    fun ht => h _ (by simp [SceneTag.drafts, ht])
  unfold drafted
  congr 1
  · split_ifs with ht
    · rw [hstyle ht]
    · rfl
  · split_ifs with ht
    · rw [htext ht]
    · rfl

end

-- ============================================================== dressing

/-- The widget with the values put into it that its kind takes. -/
def dressed (kind : WidgetKind) (get : String → Option String)
    (w : Widget Object) : Widget Object :=
  { w with
    visible := given readFlag w.visible (get "visible")
    tooltip := (get "tooltip").or w.tooltip
    align :=
      if kind.takesText then given Align.read w.align (get "align")
      else w.align
    onClick :=
      if kind = .button then ((get "on_click").map Text.trim).or w.onClick
      else w.onClick
    spacing :=
      if kind.isContainer then given readSpacing w.spacing (get "spacing")
      else w.spacing
    title :=
      if kind = .window then
        w.title.map fun t => { t with text := (get "title").or t.text }
      else w.title }

section

variable {kind : WidgetKind} {a : Attribute} {rest : List Attribute}
  {w w' : Widget Object}

theorem dressed_cons (hfresh : a.name ∉ rest.map (·.name))
    (h : Sets kind a w w') :
    dressed kind (valueOf rest) w'
      = dressed kind (valueOf (a :: rest)) w := by
  have hnone := valueOf_eq_none hfresh
  cases h with
  | visible w hread =>
      simp [dressed, valueOf_cons, hnone, given, hread]
  | tooltip value w => simp [dressed, valueOf_cons, hnone]
  | align w hkind hread =>
      simp [dressed, valueOf_cons, hnone, hkind, given, hread]
  | onClick w hkind hread =>
      simp [dressed, valueOf_cons, hnone, hkind, readName_eq hread]
  | spacing w hkind hread =>
      simp [dressed, valueOf_cons, hnone, hkind, given, hread]
  | title value w hkind =>
      simp [dressed, valueOf_cons, hnone, hkind, Widget.setTitle]
      rfl

/-- What a kind does not take makes no difference. -/
theorem dressed_congr {get get' : String → Option String}
    (h : ∀ name, kind.binds name = true → get name = get' name)
    (w : Widget Object) : dressed kind get w = dressed kind get' w := by
  have hvisible : get "visible" = get' "visible" :=
    h _ (by simp [WidgetKind.binds])
  have htooltip : get "tooltip" = get' "tooltip" :=
    h _ (by simp [WidgetKind.binds])
  have halign : kind.takesText = true → get "align" = get' "align" :=
    fun hkind => h _ (by simp [WidgetKind.binds, hkind])
  have honClick : kind = .button → get "on_click" = get' "on_click" :=
    fun hkind => h _ (by simp [WidgetKind.binds, hkind])
  have hspacing : kind.isContainer = true →
      get "spacing" = get' "spacing" :=
    fun hkind => h _ (by simp [WidgetKind.binds, hkind])
  have htitle : kind = .window → get "title" = get' "title" :=
    fun hkind => h _ (by simp [WidgetKind.binds, hkind])
  unfold dressed
  rw [hvisible, htooltip]
  congr 1
  · split_ifs with hkind
    · rw [hspacing hkind]
    · rfl
  · split_ifs with hkind
    · rw [halign hkind]
    · rfl
  · split_ifs with hkind
    · rw [honClick hkind]
    · rfl
  · split_ifs with hkind
    · rw [htitle hkind]
    · rfl

/-- Nothing to put in leaves a widget as it is. -/
theorem dressed_none {get : String → Option String}
    (h : ∀ name, kind.binds name = true → get name = none)
    (w : Widget Object) : dressed kind get w = w := by
  rw [dressed_congr h]
  simp only [dressed, given, Option.none_or, Option.map_none, ite_self]
  obtain ⟨_, _, _, _, _, _, _, _, _, _, title, _⟩ := w
  cases title with
  | none => simp
  | some title =>
      cases title
      simp

end

-- ============================================================= building

section

variable {registry : Registry Object Sketch}
  (hregistry : registry? = .ok registry) {tag : String} {t : SceneTag}

include hregistry

/-- The building handlers make of a style draft what the attributes say,
and are done with those that the tag drafts. -/
theorem buildAttributes_drafted {attributes : List Attribute}
    (hnodup : (attributes.map (·.name)).Nodup) {d : StyleDraft}
    {draft : Sketch} {taken taken' : List String}
    (h : (attributes.foldlM (Build.buildAttribute registry tag t.name)
      (Sketch.styled d, taken)).result = .ok (draft, taken')) :
    draft = .styled (drafted t (valueOf attributes) d)
      ∧ taken' = taken ++ (attributes.map (·.name)).filter t.drafts := by
  induction attributes generalizing d taken with
  | nil =>
      cases h
      exact ⟨by rw [drafted_nil], (List.append_nil _).symm⟩
  | cons a rest ih =>
      rw [List.foldlM_cons] at h
      obtain ⟨⟨draft₁, taken₁⟩, hfirst, hrest⟩ := bind_result_ok h
      rw [List.map_cons, List.nodup_cons] at hnodup
      obtain ⟨hfresh, hnodup⟩ := hnodup
      unfold Build.buildAttribute at hfirst
      cases hfound : registry.building? t.name a.name with
      | none =>
          rw [hfound] at hfirst
          cases hfirst
          have hskip := building_none hregistry hfound
          obtain ⟨hdraft, htaken⟩ := ih hnodup hrest
          refine ⟨?_, ?_⟩
          · rw [hdraft, drafted_congr fun _ => valueOf_cons_skip hskip rest]
          · rw [htaken, List.map_cons, List.filter_cons_of_neg]
            rw [hskip]
            exact Bool.false_ne_true
      | some found =>
          obtain ⟨owner, handler⟩ := found
          rw [hfound] at hfirst
          obtain ⟨consumed, hok, hpure⟩ := call_bind_result_ok hfirst
          obtain ⟨rfl, d', hdrafts, hstate⟩ :=
            building_found hregistry hfound a.value d consumed hok
          rw [hstate] at hpure
          cases hpure
          obtain ⟨hdraft, htaken⟩ := ih hnodup hrest
          refine ⟨?_, ?_⟩
          · rw [hdraft, drafted_cons hfresh hdrafts]
          · rw [htaken, List.map_cons,
              List.filter_cons_of_pos hdrafts.drafts, if_pos rfl,
              List.append_assoc]
            rfl

end

-- ============================================================== binding

/-- Scenes are built with the standard registry and without actions. -/
structure Standard (setting : Setting Object Sketch) : Prop where
  registry_eq : registry? = .ok setting.registry
  actions_eq : setting.actions = .empty

/-- An attribute without a handler leaves the entity as it is, unless it
is an error. -/
theorem bindAttribute_unknown {setting : Setting Object Sketch}
    {tag owner : String} {slot : Slot} {judging : Bool}
    {b b' : Build.Binding Object} {a : Attribute}
    (hfound : setting.registry.binding? (Entity.typeName b.target) a.name
      = none)
    (h : (Build.bindAttribute setting tag owner slot judging b a).result
      = .ok b') : b' = b := by
  unfold Build.bindAttribute at h
  split at h
  · cases h
    rfl
  · rw [hfound] at h
    cases judging with
    | false =>
        cases h
        rfl
    | true =>
        change (Build.rejectUnknown setting.config tag owner a.name
          >>= fun _ => pure b).result = _ at h
        obtain ⟨-, -, hpure⟩ := bind_result_ok h
        cases hpure
        rfl

section

variable {setting : Setting Object Sketch}
  (hstandard : Standard setting) {tag owner : String} {slot : Slot}
  {judging : Bool}

include hstandard

/-- An attribute leaves a widget as it is, or is put into it. -/
theorem bindAttribute_widget {w : Widget Object} {taken : List String}
    {a : Attribute} {b : Build.Binding Object}
    (h : (Build.bindAttribute setting tag owner slot judging
      ⟨.widget w, .empty, taken⟩ a).result = .ok b) :
    a.name ∈ taken ∧ b = ⟨.widget w, .empty, taken⟩
      ∨ a.name ∉ taken ∧ w.kind.binds a.name = false
        ∧ b = ⟨.widget w, .empty, taken⟩
      ∨ a.name ∉ taken ∧ ∃ w', Sets w.kind a w w'
        ∧ b = ⟨.widget w', .empty, taken ++ [a.name]⟩ := by
  have htype : Entity.typeName (Object.widget w) = w.kind.name := rfl
  by_cases hmem : a.name ∈ taken
  · unfold Build.bindAttribute at h
    rw [if_pos hmem] at h
    cases h
    exact Or.inl ⟨hmem, rfl⟩
  · cases hfound : setting.registry.binding? w.kind.name a.name with
    | none =>
        have hskip := binding_none hstandard.registry_eq hfound
        exact Or.inr (Or.inl ⟨hmem, hskip, bindAttribute_unknown hfound h⟩)
    | some found =>
        obtain ⟨declaredBy, handler⟩ := found
        unfold Build.bindAttribute at h
        rw [if_neg hmem, htype, hfound] at h
        obtain ⟨answer, hok, hpure⟩ := call_bind_result_ok h
        obtain ⟨w', hsets, hstate⟩ :=
          binding_found hstandard.registry_eq hfound _ a.value w .empty
            hstandard.actions_eq hok
        rw [hstate] at hpure
        cases hpure
        exact Or.inr (Or.inr ⟨hmem, w', hsets, rfl⟩)

/-- A pass over a widget puts into it what is left for it. -/
theorem bindPass_dressed {attributes : List Attribute}
    (hnodup : (attributes.map (·.name)).Nodup) {kind : WidgetKind}
    {w : Widget Object} (hkind : w.kind = kind) {taken : List String}
    {b : Build.Binding Object}
    (h : (Build.bindPass setting tag owner slot judging attributes
      ⟨.widget w, .empty, taken⟩).result = .ok b) :
    b = ⟨.widget (dressed kind (valueOf (remaining attributes taken)) w),
      .empty,
      taken ++ ((remaining attributes taken).map (·.name)).filter
        kind.binds⟩ := by
  induction attributes generalizing w taken with
  | nil =>
      cases h
      have hnone : dressed kind (valueOf []) w = w :=
        dressed_none (fun _ _ => rfl) w
      rw [remaining, List.filter_nil, hnone, List.map_nil, List.filter_nil,
        List.append_nil]
  | cons a rest ih =>
      have hbind : Build.bindPass setting tag owner slot judging (a :: rest)
            ⟨.widget w, .empty, taken⟩
          = Build.bindAttribute setting tag owner slot judging
              ⟨.widget w, .empty, taken⟩ a
            >>= Build.bindPass setting tag owner slot judging rest :=
        List.foldlM_cons
      rw [hbind] at h
      obtain ⟨b₁, hfirst, hrest⟩ := bind_result_ok h
      rw [List.map_cons, List.nodup_cons] at hnodup
      obtain ⟨hfresh, hnodup⟩ := hnodup
      have hhead : a.name ∉ taken → remaining (a :: rest) taken
          = a :: remaining rest taken := fun hmem =>
        List.filter_cons_of_pos (decide_eq_true hmem)
      rcases bindAttribute_widget hstandard hfirst with
        ⟨hmem, rfl⟩ | ⟨hmem, hskip, rfl⟩ | ⟨hmem, w', hsets, rfl⟩
      · have hdrop : remaining (a :: rest) taken = remaining rest taken :=
          List.filter_cons_of_neg (by simpa using hmem)
        rw [hdrop]
        exact ih hnodup hkind hrest
      · rw [hkind] at hskip
        have hsame : dressed kind (valueOf (a :: remaining rest taken)) w
            = dressed kind (valueOf (remaining rest taken)) w :=
          dressed_congr (fun _ => valueOf_cons_skip hskip _) w
        rw [hhead hmem, hsame, List.map_cons,
          List.filter_cons_of_neg (by rw [hskip]; exact Bool.false_ne_true)]
        exact ih hnodup hkind hrest
      · rw [hkind] at hsets
        have hsame : remaining rest (taken ++ [a.name])
            = remaining rest taken := by
          refine Build.remaining_eq fun name hname => ?_
          rw [List.mem_append, List.mem_singleton, or_iff_left]
          rintro rfl
          exact hfresh hname
        have hleft : a.name ∉ (remaining rest taken).map (·.name) :=
          fun hname => hfresh
            ((List.filter_sublist.map _).subset hname)
        rw [ih hnodup (hsets.kind_eq.trans hkind) hrest, hsame,
          dressed_cons hleft hsets, hhead hmem, List.map_cons,
          List.filter_cons_of_pos hsets.binds, List.append_assoc]
        rfl

/-- A pass over what is no widget can only leave it as it is. -/
theorem bindPass_plain {t : SceneTag} (ht : ∀ kind, t ≠ .widget kind)
    {attributes : List Attribute} {b b' : Build.Binding Object}
    (htype : Entity.typeName b.target = t.name)
    (h : (Build.bindPass setting tag owner slot judging attributes
      b).result = .ok b') : b' = b := by
  induction attributes with
  | nil =>
      cases h
      rfl
  | cons a rest ih =>
      have hbind : Build.bindPass setting tag owner slot judging
            (a :: rest) b
          = Build.bindAttribute setting tag owner slot judging b a
            >>= Build.bindPass setting tag owner slot judging rest :=
        List.foldlM_cons
      rw [hbind] at h
      obtain ⟨b₁, hfirst, hrest⟩ := bind_result_ok h
      have hsame : b₁ = b := by
        by_cases hmem : a.name ∈ b.taken
        · unfold Build.bindAttribute at hfirst
          rw [if_pos hmem] at hfirst
          cases hfirst
          rfl
        · cases hfound : setting.registry.binding? t.name a.name with
          | none =>
              rw [← htype] at hfound
              exact bindAttribute_unknown hfound hfirst
          | some found =>
              obtain ⟨declaredBy, handler⟩ := found
              unfold Build.bindAttribute at hfirst
              rw [if_neg hmem, htype, hfound] at hfirst
              obtain ⟨answer, hok, -⟩ := call_bind_result_ok hfirst
              obtain ⟨moment, rfl⟩ :=
                binding_hook hstandard.registry_eq ht hfound
              exact absurd hok
                (hookTrimmed_fails hstandard.actions_eq moment _ _)
      rw [hsame] at hrest
      exact ih hrest

end

end EntityMarkup.Scene
