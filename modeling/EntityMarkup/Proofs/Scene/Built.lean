/-
Scenes are built as they are depicted, where no actions are named. An
opened tag holds what its tag makes of no parts, each line and each child
adds one, and closing it leaves what the tag makes of all of them. So, by
induction over the element, its body and the items of this, the object of
an element that is built is the one that it depicts, and no child is where
nothing can place it.
-/
import EntityMarkup.Proofs.Markup.Found
import EntityMarkup.Proofs.Scene.Filled

namespace EntityMarkup.Scene

open Run (bind_result_ok)

-- ============================================================== bodies

/-- The lines of a text are not empty. -/
theorem lines_ne_empty {run line : String} (h : line ∈ Text.lines run) :
    line ≠ "" := by
  obtain ⟨chars, hmem, rfl⟩ := List.mem_map.mp h
  have hchars : chars ≠ [] := by
    rintro rfl
    exact absurd (List.mem_filter.mp hmem).2 (by decide)
  intro hnil
  exact hchars (String.ofList_inj.mp (hnil.trans String.ofList_nil.symm))

/-- The children of an element are where their tags have a place. -/
def Placed (e : Element) : Prop :=
  ∀ child ∈ Element.children e,
    (child.name = "tooltip" →
      e.name ∈ ["label", "button", "group", "window", "tree"])
    ∧ (child.name ≠ "tooltip" → e.name ∈ ["group", "window", "tree", "node"])

theorem mem_of_child {e child : Element}
    (h : child ∈ Element.children e) : .element child ∈ e.body := by
  obtain ⟨c, hmem, hc⟩ := List.mem_filterMap.mp h
  cases c with
  | text run => cases hc
  | element e' =>
      cases hc
      exact hmem

/-- What has a place by the tags has one by their names. -/
theorem placed_of_admits {t t' : SceneTag} (h : t.admits t' = true) :
    (t'.name = "tooltip" →
      t.name ∈ ["label", "button", "group", "window", "tree"])
    ∧ (t'.name ≠ "tooltip" →
      t.name ∈ ["group", "window", "tree", "node"]) := by
  by_cases ht' : t' = .tooltip
  · subst ht'
    rcases t with kind | _ | _
    · refine ⟨fun _ => ?_, fun hname => absurd rfl hname⟩
      cases kind <;> decide
    · cases h
    · cases h
  · refine ⟨fun hname => absurd (SceneTag.name_injective hname) ht',
      fun _ => ?_⟩
    rw [SceneTag.admits_other ht'] at h
    rcases t with (_ | _ | _ | _ | _) | _ | _ <;>
      first | decide | cases h

section

variable {name : String} {t : SceneTag} {get : String → Option String}
  {partHooks : List (Hooks Object)} {tag : OpenedTag Object Sketch}

theorem placeLines_holding {parts : List Part} {lines : List String}
    (hlines : ∀ line ∈ lines, line ≠ "")
    (h : (lines.foldlM Build.placeLine
      (holding name t get parts partHooks)).result = .ok tag) :
    tag = holding name t get (parts ++ lines.map .line) partHooks := by
  induction lines generalizing parts with
  | nil =>
      cases h
      rw [List.map_nil, List.append_nil]
  | cons line rest ih =>
      rw [List.foldlM_cons] at h
      obtain ⟨tag₁, hfirst, hrest⟩ := bind_result_ok h
      obtain rfl := placeLine_holding (hlines line List.mem_cons_self) hfirst
      have hothers := ih
        (fun line' hmem => hlines line' (List.mem_cons_of_mem _ hmem)) hrest
      rw [hothers, List.append_assoc]
      rfl

end

-- ============================================================ elements

section

variable {setting : Setting Object Sketch}

mutual

/-- The object of an element that is built is the one it depicts. -/
theorem element_depicted (hstandard : Standard setting) :
    (e : ElementOf Content) →
    {parent : Option String} → {o : Object} →
    (hdistinct : ∀ e' ∈ Element.all e,
      (e'.attributes.map (·.name)).Nodup) →
    (h : (Build.element setting parent e).result = .ok o) →
    depicted e = some o ∧ (∀ e' ∈ Element.all e, Placed e')
      ∧ ∃ (t : SceneTag) (get : String → Option String) (parts : List Part),
        t.name = e.name ∧ o = shape get parts t
  | ⟨name, attributes, content, line⟩, parent, o, hdistinct, h => by
    unfold Build.element at h
    obtain ⟨tag, hopen, h⟩ := bind_result_ok h
    obtain ⟨filledTag, hbody, hclose⟩ := bind_result_ok h
    rw [Element.all] at hdistinct ⊢
    have hnodup := hdistinct _ List.mem_cons_self
    obtain ⟨t, partHooks, rfl, hempty, rfl⟩ :=
      openTag_filled hstandard hnodup hopen
    have hfill : (Build.body setting content (holding t.name t
        (valueOf attributes) [] partHooks)).result = .ok filledTag := hbody
    obtain ⟨parts, hparts, rfl, hplaced, hadmits⟩ :=
      body_depicted hstandard content
        (fun e he => hdistinct e (List.mem_cons_of_mem _ he)) hfill
    rw [List.nil_append] at hclose
    obtain rfl := closeTag_holding hempty hclose
    refine ⟨?_, ?_, t, valueOf attributes, parts, rfl, rfl⟩
    · rw [depicted, hparts, SceneTag.ofName?_name]
      rfl
    · intro e he
      rcases List.mem_cons.mp he with rfl | he
      · intro child hchild
        obtain ⟨t', ht', hadmits⟩ := hadmits child (mem_of_child hchild)
        have hplaces := placed_of_admits hadmits
        rw [ht'] at hplaces
        exact hplaces
      · exact hplaced e he

/-- A body that is built adds the parts it comes down to. -/
theorem body_depicted (hstandard : Standard setting) :
    (content : List Content) → {name : String} →
    {t : SceneTag} → {get : String → Option String} →
    {parts : List Part} → {partHooks : List (Hooks Object)} →
    {tag : OpenedTag Object Sketch} →
    (hdistinct : ∀ e ∈ Content.elementsAll content,
      (e.attributes.map (·.name)).Nodup) →
    (h : (Build.body setting content
      (holding name t get parts partHooks)).result = .ok tag) →
    ∃ more, bodyParts content = some more
      ∧ tag = holding name t get (parts ++ more) partHooks
      ∧ (∀ e ∈ Content.elementsAll content, Placed e)
      ∧ ∀ child, .element child ∈ content →
        ∃ t' : SceneTag, t'.name = child.name ∧ t.admits t' = true
  | [], name, t, get, parts, partHooks, tag, _, h => by
    cases h
    refine ⟨[], rfl, by rw [List.append_nil], fun e he => ?_, fun _ he => ?_⟩
    · cases he
    · cases he
  | c :: rest, name, t, get, parts, partHooks, tag, hdistinct, h => by
    unfold Build.body at h
    obtain ⟨tag₁, hitem, hrest⟩ := bind_result_ok h
    rw [Content.elementsAll] at hdistinct ⊢
    obtain ⟨first, hfirst, rfl, hplaced, hadmits⟩ :=
      item_depicted hstandard c
        (fun e he => hdistinct e (List.mem_append_left _ he)) hitem
    obtain ⟨others, hothers, rfl, hplaced', hadmits'⟩ :=
      body_depicted hstandard rest
        (fun e he => hdistinct e (List.mem_append_right _ he)) hrest
    refine ⟨first ++ others, ?_, by rw [List.append_assoc], ?_, ?_⟩
    · rw [bodyParts, hfirst, hothers]
      rfl
    · intro e he
      rcases List.mem_append.mp he with he | he
      · exact hplaced e he
      · exact hplaced' e he
    · intro child hchild
      rcases List.mem_cons.mp hchild with hc | hrest
      · exact hadmits child hc.symm
      · exact hadmits' child hrest

/-- So does one item of it. -/
theorem item_depicted (hstandard : Standard setting) :
    (c : Content) → {name : String} →
    {t : SceneTag} → {get : String → Option String} →
    {parts : List Part} → {partHooks : List (Hooks Object)} →
    {tag : OpenedTag Object Sketch} →
    (hdistinct : ∀ e ∈ Content.elements c,
      (e.attributes.map (·.name)).Nodup) →
    (h : (Build.item setting c
      (holding name t get parts partHooks)).result = .ok tag) →
    ∃ more, itemParts c = some more
      ∧ tag = holding name t get (parts ++ more) partHooks
      ∧ (∀ e ∈ Content.elements c, Placed e)
      ∧ ∀ child, c = .element child →
        ∃ t' : SceneTag, t'.name = child.name ∧ t.admits t' = true
  | .text run, name, t, get, parts, partHooks, tag, _, h => by
    unfold Build.item at h
    refine ⟨_, rfl, placeLines_holding (fun _ => lines_ne_empty) h,
      fun e he => ?_, fun _ hc => ?_⟩
    · cases he
    · cases hc
  | .element e, name, t, get, parts, partHooks, tag, hdistinct, h => by
    unfold Build.item at h
    obtain ⟨child, hchild, hplace⟩ := bind_result_ok h
    obtain ⟨name', attributes, content, line⟩ := e
    obtain ⟨hdepicted, hplaced, t', get', parts', ht', rfl⟩ :=
      element_depicted hstandard ⟨name', attributes, content, line⟩
        hdistinct hchild
    obtain ⟨hadmits, rfl⟩ := placeChild_holding hplace
    refine ⟨[.child (shape get' parts' t')], ?_, rfl, hplaced, ?_⟩
    · rw [itemParts, hdepicted]
      rfl
    · intro child hc
      cases hc
      exact ⟨t', ht', hadmits⟩

end

/-- So the objects of elements in a row are those that they depict. -/
theorem roots_depicted (hstandard : Standard setting) {roots : List Element}
    {objects : List Object}
    (hdistinct : ∀ e ∈ Content.elementsAll (roots.map .element),
      (e.attributes.map (·.name)).Nodup)
    (h : (roots.mapM (Build.element setting none)).result = .ok objects) :
    roots.mapM depicted = some objects
      ∧ ∀ e ∈ Content.elementsAll (roots.map .element), Placed e := by
  induction roots generalizing objects with
  | nil =>
      cases h
      exact ⟨rfl, fun e he => by cases he⟩
  | cons root rest ih =>
      rw [List.mapM_cons] at h ⊢
      rw [List.map_cons, Content.elementsAll, Content.elements]
        at hdistinct ⊢
      obtain ⟨o, hroot, h⟩ := bind_result_ok h
      obtain ⟨others, hrest, hpure⟩ := bind_result_ok h
      cases hpure
      obtain ⟨hfirst, hplaced, -⟩ := element_depicted hstandard root
        (fun e he => hdistinct e (List.mem_append_left _ he)) hroot
      obtain ⟨hothers, hplaced'⟩ := ih
        (fun e he => hdistinct e (List.mem_append_right _ he)) hrest
      refine ⟨by rw [hfirst, hothers]; rfl, fun e he => ?_⟩
      rcases List.mem_append.mp he with he | he
      · exact hplaced e he
      · exact hplaced' e he

end

/-- What a document comes to that is built with the standard registry and
without actions: the objects that its outermost elements depict, strict
or not. Its elements have their children only where these have a
place. -/
theorem document_depicted {registry : Registry Object Sketch}
    (hregistry : registry? = .ok registry) (config : Config)
    {d : Document} {objects : List Object}
    (hdistinct : ∀ e ∈ d.elements, (e.attributes.map (·.name)).Nodup)
    (h : (Build.document ⟨registry, config, .empty⟩ d).result
      = .ok objects) :
    d.roots.mapM depicted = some objects ∧ ∀ e ∈ d.elements, Placed e := by
  have hstandard : Standard ⟨registry, config, .empty⟩ := ⟨hregistry, rfl⟩
  exact roots_depicted hstandard hdistinct h

/-- A window with a title, lines and a tooltip, a button whose text goes
on in its body, and a tree with a node. -/
def windowSample : Document :=
  ⟨[⟨"window", [⟨"title", "Tools"⟩, ⟨"align", "center"⟩],
    [.text "\n one \n\n two",
      .element ⟨"button", [⟨"text", "Save"⟩, ⟨"on_click", "save"⟩],
        [.text " all "], 3⟩,
      .element ⟨"tooltip", [], [.text "hint\nmore"], 4⟩,
      .element ⟨"tree", [],
        [.text "leaf", .element ⟨"node", [⟨"text", "branch"⟩],
          [.element ⟨"label", [], [.text "tip"], 6⟩], 5⟩], 5⟩], 1⟩]⟩

theorem document_depicted_window :
    ∃ (registry : Registry Object Sketch) (objects : List Object),
      registry? = .ok registry
      ∧ (Build.document ⟨registry, {}, .empty⟩ windowSample).result
        = .ok objects
      ∧ windowSample.roots.mapM depicted = some objects
      ∧ ∀ e ∈ windowSample.elements, Placed e := by
  have hdistinct : ∀ e ∈ windowSample.elements,
      (e.attributes.map (·.name)).Nodup := by
    decide
  have hbuilt : (Except.toOption registry?).map (fun registry =>
      (Build.document ⟨registry, {}, .empty⟩ windowSample).result.isOk)
      = some true := by
    decide +kernel
  obtain ⟨registry, objects, hregistry, h⟩ := Run.exists_ok hbuilt
  exact ⟨registry, objects, hregistry, h,
    document_depicted hregistry {} hdistinct h⟩

end EntityMarkup.Scene
