/-
What is built of a scene is sound, where no actions are named: whatever
the document, strict or not. Lines and children keep the object of an
open tag as its tag allows, and closing the tag lays out windows. The
theorem follows by induction over elements, with one statement each for
elements, bodies and items.
-/
import EntityMarkup.Proofs.Build.Placement
import EntityMarkup.Proofs.Scene.Filled
import EntityMarkup.Proofs.Scene.Growing

namespace EntityMarkup.Scene

open Build (placeLine_node placeLine_byKind placeChild_attached
  placeChild_node placeChild_byKind)
open Run (bind_result_ok call_bind_result_ok)

-- ============================================================== placing

/-- The object of a tag that is closed. -/
inductive Finished : Object → Prop
  | widget {w : Widget Object} (h : (Object.widget w).Sound) :
      Finished (.widget w)
  | node {n : TreeNode Object} (h : (Object.node n).Sound) :
      Finished (.node n)
  | tooltip (text : String) : Finished (.tooltip text)

namespace Finished

variable {o : Object}

theorem sound (h : Finished o) : o.Sound := by
  cases h with
  | widget h => exact h
  | node h => exact h
  | tooltip text => exact tooltip_sound text

/-- As a child it is a tooltip, or it can stand in containers and in
hierarchies. -/
theorem cases_child (h : Finished o) :
    (∃ text, o = .tooltip text)
      ∨ (∀ text, o ≠ .tooltip text) ∧ Entity.isAttachable o = false
        ∧ ((∃ w, o = .widget w) ∨ ∃ n, o = .node n)
        ∧ (Object.node (TreeNode.wrap o)).Sound := by
  cases h with
  | @widget w h =>
      have hwrap : (Object.node ⟨.widget w, []⟩).Sound :=
        node_sound (Or.inr ⟨w, rfl⟩) h fun m hm => nomatch hm
      exact Or.inr ⟨by simp, rfl, Or.inl ⟨w, rfl⟩, hwrap⟩
  | @node n h => exact Or.inr ⟨by simp, rfl, Or.inr ⟨n, rfl⟩, h⟩
  | tooltip text => exact Or.inl ⟨text, rfl⟩

end Finished

/-- A growing object is a hierarchy, which takes any sound node, or a
widget that is no tree, or a tooltip. -/
theorem Growing.cases_nodes {t : SceneTag} {o : Object} (h : Growing t o) :
    (∃ nodes, Entity.nodes? o = some nodes
      ∧ ∀ n, (Object.node n).Sound →
        Growing t (Entity.withNodes o (nodes ++ [n])))
    ∨ Entity.nodes? o = none
      ∧ ((∃ kind w, t = .widget kind ∧ o = .widget w ∧ kind ≠ .tree
          ∧ w.kind = kind ∧ w.Growing)
        ∨ ∃ text, t = .tooltip ∧ o = .tooltip text) := by
  cases h with
  | @widget kind w hkind hw =>
      by_cases htree : w.kind = .tree
      · refine Or.inl ⟨w.nodes, if_pos htree, fun n hn => ?_⟩
        exact .widget hkind (hw.pushNode htree hn)
      · refine Or.inr ⟨if_neg htree, Or.inl ⟨kind, w, rfl, rfl, ?_⟩⟩
        rw [← hkind]
        exact ⟨htree, rfl, hw⟩
  | @node n hn =>
      exact Or.inl ⟨n.children, rfl, fun m hm => .node (hn.node_snoc hm)⟩
  | tooltip text => exact Or.inr ⟨rfl, Or.inr ⟨text, rfl, rfl⟩⟩

section

variable {t : SceneTag} {tag tag' : OpenedTag Object Sketch}

theorem placeLine_growing (htag : GrowingTag t tag) {line : String}
    (h : (Build.placeLine tag line).result = .ok tag') :
    GrowingTag t tag' := by
  rcases htag.growing.cases_nodes with
    ⟨nodes, hnodes, hpush⟩ | ⟨hnodes, hother⟩
  · rw [placeLine_node hnodes h]
    have hleaf : (Object.node (TreeNode.leaf line)).Sound :=
      node_sound (Or.inl ⟨line, rfl⟩) (leaf_sound line)
        fun m hm => nomatch hm
    exact htag.with (hpush _ hleaf)
  · obtain ⟨-, rfl⟩ := placeLine_byKind hnodes h
    apply htag.with
    rw [htag.kind_eq]
    rcases hother with
      ⟨kind, w, rfl, hentity, htree, hkind, hw⟩ | ⟨text, rfl, hentity⟩
    · rw [hentity]
      show Growing _ ((widgetTag kind).placeLine line (.widget w)).state
      by_cases htext : kind.takesText = true
      · rw [widgetTag_line_text w htext]
        rw [WidgetKind.takesText_iff, ← hkind] at htext
        exact .widget hkind (hw.pushText htext line)
      · have hcontainer : kind.isContainer = true := by
          cases kind <;> first
            | rfl
            | exact absurd rfl htext
            | exact absurd rfl htree
        rw [widgetTag_line_container w hcontainer]
        rw [WidgetKind.isContainer_iff, ← hkind] at hcontainer
        exact .widget hkind (hw.pushChild hcontainer (Or.inl ⟨_, rfl⟩)
          (label_sound (some line) .start))
    · rw [hentity]
      exact .tooltip _

theorem placeChild_growing (htag : GrowingTag t tag) {child : Object}
    (hchild : Finished child) {childTag : String}
    (h : (Build.placeChild tag childTag child).result = .ok tag') :
    GrowingTag t tag' := by
  rcases hchild.cases_child with
    ⟨text, rfl⟩ | ⟨htooltip, hattach, hstands, hwrap⟩
  · obtain ⟨hok, rfl⟩ := placeChild_attached rfl h
    apply htag.with
    have hgrowing := htag.growing
    generalize tag.entity = o at hok hgrowing
    cases hgrowing with
    | widget hkind hw =>
        exact .widget hkind { hw with }
    | node hn => cases hok
    | tooltip text' => cases hok
  · rcases htag.growing.cases_nodes with
      ⟨nodes, hnodes, hpush⟩ | ⟨hnodes, hother⟩
    · rw [placeChild_node hattach hnodes h]
      exact htag.with (hpush _ hwrap)
    · obtain ⟨hok, rfl⟩ := placeChild_byKind hattach hnodes h
      apply htag.with
      rw [htag.kind_eq] at hok ⊢
      rcases hother with
        ⟨kind, w, rfl, hentity, htree, hkind, hw⟩ | ⟨text, rfl, hentity⟩
      · rw [hentity] at hok ⊢
        cases hcontainer : kind.isContainer with
        | false => exact absurd hok (widgetTag_child_refused w hcontainer _)
        | true =>
            show Growing _
              ((widgetTag kind).placeChild child (.widget w)).state
            rw [widgetTag_child w hcontainer]
            rw [WidgetKind.isContainer_iff, ← hkind] at hcontainer
            exact .widget hkind
              (hw.pushChild hcontainer hstands hchild.sound)
      · cases hok

theorem widgetTag_close {w : Widget Object} (hpacked : w.packed = false) :
    ((widgetTag w.kind).onClose (.widget w)).state
      = .widget { w with packed := w.kind = .window } := by
  rcases w with ⟨kind, style, text, visible, tooltip, spacing, align,
    onClick, packed, children, title, nodes⟩
  cases hpacked
  cases kind <;> rfl

/-- Closing a tag lays out windows and leaves other objects as they
are. -/
theorem closeTag_finished (htag : GrowingTag t tag) {o : Object}
    (h : (Build.closeTag tag).result = .ok o) : Finished o := by
  have hclosed : ∀ {o : Object}, Growing t o →
      Finished (t.tagKind.onClose o).state := by
    intro o hgrowing
    cases hgrowing with
    | @widget kind w hkind hw =>
        have hsound := hw.sound
        show Finished ((widgetTag kind).onClose (.widget w)).state
        rw [← hkind, widgetTag_close hw.unpacked]
        exact .widget hsound
    | node hn => exact .node hn
    | tooltip text => exact .tooltip text
  obtain ⟨-, -, h⟩ := bind_result_ok h
  obtain ⟨-, -, h⟩ := bind_result_ok h
  obtain ⟨_, -, hhooks⟩ := call_bind_result_ok h
  dsimp only at hhooks
  have hfinished := hclosed htag.growing
  rw [htag.kind_eq] at hhooks
  have hthing : ∀ thing, (t.tagKind.onClose tag.entity).state
      ≠ .thing thing := by
    intro thing hthing
    rw [hthing] at hfinished
    cases hfinished
  rw [htag.hooks_eq, runHooks_empty _ _ htag.partHooks_eq hthing] at hhooks
  cases hhooks
  exact hfinished

theorem placeLines_growing {lines : List String} (htag : GrowingTag t tag)
    (h : (lines.foldlM Build.placeLine tag).result = .ok tag') :
    GrowingTag t tag' := by
  induction lines generalizing tag with
  | nil =>
      cases h
      exact htag
  | cons line rest ih =>
      rw [List.foldlM_cons] at h
      obtain ⟨tag₁, hfirst, hrest⟩ := bind_result_ok h
      exact ih (placeLine_growing htag hfirst) hrest

end

-- ============================================================= elements

section

variable {setting : Setting Object Sketch}

mutual

theorem element_finished (hstandard : Standard setting) :
    (e : ElementOf Content) → {parent : Option String} → {o : Object} →
    (h : (Build.element setting parent e).result = .ok o) → Finished o
  | ⟨name, attributes, content, line⟩, parent, o, h => by
    unfold Build.element at h
    obtain ⟨tag, hopen, h⟩ := bind_result_ok h
    obtain ⟨filledTag, hbody, hclose⟩ := bind_result_ok h
    obtain ⟨t, htag⟩ := openTag_growing hstandard hopen
    exact closeTag_finished (body_growing hstandard content htag hbody)
      hclose

theorem body_growing (hstandard : Standard setting) :
    (content : List Content) → {t : SceneTag} →
    {tag tag' : OpenedTag Object Sketch} → (htag : GrowingTag t tag) →
    (h : (Build.body setting content tag).result = .ok tag') →
    GrowingTag t tag'
  | [], t, tag, tag', htag, h => by
    cases h
    exact htag
  | c :: rest, t, tag, tag', htag, h => by
    unfold Build.body at h
    obtain ⟨tag₁, hitem, hrest⟩ := bind_result_ok h
    exact body_growing hstandard rest (item_growing hstandard c htag hitem)
      hrest

theorem item_growing (hstandard : Standard setting) :
    (c : Content) → {t : SceneTag} →
    {tag tag' : OpenedTag Object Sketch} → (htag : GrowingTag t tag) →
    (h : (Build.item setting c tag).result = .ok tag') → GrowingTag t tag'
  | .text run, t, tag, tag', htag, h => by
    unfold Build.item at h
    exact placeLines_growing htag h
  | .element e, t, tag, tag', htag, h => by
    unfold Build.item at h
    obtain ⟨child, hchild, hplace⟩ := bind_result_ok h
    obtain ⟨name, attributes, content, line⟩ := e
    exact placeChild_growing htag
      (element_finished hstandard ⟨name, attributes, content, line⟩ hchild)
      hplace

end

/-- The objects of a document are finished. -/
theorem document_finished (hstandard : Standard setting) {d : Document}
    {objects : List Object}
    (h : (Build.document setting d).result = .ok objects) :
    ∀ o ∈ objects, Finished o := by
  unfold Build.document at h
  generalize d.roots = roots at h
  induction roots generalizing objects with
  | nil =>
      cases h
      exact fun o ho => nomatch ho
  | cons root rest ih =>
      rw [List.mapM_cons] at h
      obtain ⟨o, hroot, h⟩ := bind_result_ok h
      obtain ⟨others, hrest, hpure⟩ := bind_result_ok h
      cases hpure
      intro o' ho'
      rcases List.mem_cons.mp ho' with rfl | ho'
      · exact element_finished hstandard root hroot
      · exact ih hrest o' ho'

end

/-- A document that builds with the standard registry, as can be
computed. -/
theorem exists_built {d : Document}
    (h : (Except.toOption registry?).map (fun registry =>
      (Build.document ⟨registry, {}, .empty⟩ d).result.isOk) = some true) :
    ∃ (registry : Registry Object Sketch) (objects : List Object),
      registry? = .ok registry
      ∧ (Build.document ⟨registry, {}, .empty⟩ d).result = .ok objects :=
  Run.exists_ok h

/-- What a document comes to that is built with the standard registry and
without actions. Everything at any depth is fit for its place, so there
are no tooltips below the root. -/
theorem document_sound {registry : Registry Object Sketch}
    (hregistry : registry? = .ok registry) (config : Config)
    {d : Document} {objects : List Object}
    (h : (Build.document ⟨registry, config, .empty⟩ d).result
      = .ok objects) :
    ∀ o ∈ objects,
      (∀ x, Relation.ReflTransGen Object.Holds o x → x.Fit)
      ∧ ∀ x, Relation.TransGen Object.Holds o x →
        ∀ text, x ≠ .tooltip text := by
  intro o ho
  have hsound := (document_finished ⟨hregistry, rfl⟩ h o ho).sound
  refine ⟨hsound, fun x hx => ?_⟩
  obtain ⟨y, hy, hyx⟩ := Relation.TransGen.tail'_iff.mp hx
  have hinner : y.Sound := fun z hz => hsound z (hy.trans hz)
  exact hinner.not_tooltip hyx

/-- A window with style and title given twice, whose title bar takes the
alignment, and with a button, a tooltip and a hierarchy in it. -/
def twiceSample : Document :=
  ⟨[⟨"window", [⟨"style", " dark "⟩, ⟨"style", "light"⟩,
      ⟨"title", "Tools"⟩, ⟨"title", "more"⟩, ⟨"align", "end"⟩],
    [.text "one\n",
      .element ⟨"button", [⟨"on_click", " save "⟩],
        [.element ⟨"tooltip", [], [.text "hint"], 2⟩], 2⟩,
      .element ⟨"tree", [],
        [.text "leaf", .element ⟨"node", [⟨"text", "branch"⟩],
          [.element ⟨"label", [], [], 3⟩], 3⟩], 3⟩], 1⟩]⟩

theorem twiceSample_builds :
    ∃ (registry : Registry Object Sketch) (objects : List Object),
      registry? = .ok registry
      ∧ (Build.document ⟨registry, {}, .empty⟩ twiceSample).result
        = .ok objects :=
  exists_built (by decide +kernel)

theorem document_sound_twice :
    ∃ (registry : Registry Object Sketch) (objects : List Object),
      registry? = .ok registry
      ∧ (Build.document ⟨registry, {}, .empty⟩ twiceSample).result
        = .ok objects
      ∧ ∀ o ∈ objects,
        (∀ x, Relation.ReflTransGen Object.Holds o x → x.Fit)
        ∧ ∀ x, Relation.TransGen Object.Holds o x →
          ∀ text, x ≠ .tooltip text := by
  obtain ⟨registry, objects, hregistry, h⟩ := twiceSample_builds
  exact ⟨registry, objects, hregistry, h, document_sound hregistry {} h⟩

end EntityMarkup.Scene
