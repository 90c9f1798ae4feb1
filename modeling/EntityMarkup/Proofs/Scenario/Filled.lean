/-
What documents of the scenario come to, where no actions are named: the
objects are as they should be at every depth, and the journal notes every
child and every line that a widget takes, and every panel, once.

The journal is tied to the objects by one equation, kept by every step
from the opening of a tag to its closing: what is noted of the step, and
what the object came to before it, make what it comes to afterwards
(`Grows`). A child is complete before it is placed, so what was noted of
it is what it comes to, and goes over into its parent.
-/
import EntityMarkup.Proofs.Scenario.Opened

namespace EntityMarkup.Scenario

open Run (bind_result_ok)

-- =============================================================== placing

/-- The object of a tag that is closed. -/
def Finished (o : Object) : Prop := o.Sound ∨ ∃ text, o = .tip text

/-- The run makes of a growing tag another, and what is noted of it is
what the tag's object comes to beyond what it came to before and what is
added. -/
def Grows (tag : OpenedTag Object StyleDraft) (added : Noted → Nat)
    (x : Run (OpenedTag Object StyleDraft)) : Prop :=
  ∀ tag', x.result = .ok tag' → GrowingTag tag' ∧ ∀ what : Noted,
    what.count x.events + what.total tag.entity + added what
      = what.total tag'.entity

section

variable {tag : OpenedTag Object StyleDraft}

theorem Grows.refl (htag : GrowingTag tag) :
    Grows tag (fun _ => 0) (pure tag) := by
  intro tag' h
  cases h
  refine ⟨htag, fun what => ?_⟩
  show 0 + _ + 0 = _
  omega

theorem Grows.bind {x : Run (OpenedTag Object StyleDraft)}
    {f : OpenedTag Object StyleDraft → Run (OpenedTag Object StyleDraft)}
    (hx : Grows tag (fun _ => 0) x)
    (hf : ∀ tag', GrowingTag tag' → Grows tag' (fun _ => 0) (f tag')) :
    Grows tag (fun _ => 0) (x >>= f) := by
  intro tag' h
  obtain ⟨mid, hmid, h⟩ := bind_result_ok h
  obtain ⟨hgrowing, hcount⟩ := hx mid hmid
  obtain ⟨hgrowing', hcount'⟩ := hf mid hgrowing tag' h
  refine ⟨hgrowing', fun what => ?_⟩
  have hfirst : what.count x.events + what.total tag.entity + 0
      = what.total mid.entity := hcount what
  have hrest : what.count (f mid).events + what.total mid.entity + 0
      = what.total tag'.entity := hcount' what
  show what.count (x >>= f).events + _ + 0 = _
  rw [Run.count_bind hmid]
  omega

/-- A node is sound with one more sound node. -/
theorem sound_node {m n : TreeNode Object} (hm : (Object.node m).Sound)
    (hn : (Object.node n).Sound) :
    (Object.node { m with children := m.children ++ [n] }).Sound := by
  rw [Object.sound_iff] at hm ⊢
  obtain ⟨⟨hproper, -⟩, hparts⟩ := hm
  refine ⟨⟨hproper, fun text h => nomatch h⟩, ?_⟩
  intro x hx
  simp only [Object.parts, List.map_append, List.mem_cons,
    List.mem_append] at hx
  rcases hx with rfl | hx | hx
  · exact hparts _ (List.mem_cons_self ..)
  · exact hparts x (List.mem_cons_of_mem _ hx)
  · cases List.mem_singleton.mp hx
    exact hn

/-- So is the node that a sound object becomes. -/
theorem wrap_sound {o : Object} (h : o.Sound) :
    (Object.node (TreeNode.wrap o)).Sound := by
  have hnode : (∀ m, o ≠ .node m) → (Object.node ⟨o, []⟩).Sound := by
    intro hne
    rw [Object.sound_iff]
    exact ⟨⟨hne, fun text h => nomatch h⟩, List.forall_mem_singleton.mpr h⟩
  cases o with
  | node n => exact h
  | widget | panel | hollow | holder | leaf | tip | text =>
      exact hnode fun m h => nomatch h

/-- A node goes into the hierarchy that the tag's object is. -/
theorem Growing.withNode {kind : TagKind Object StyleDraft} {o : Object}
    {nodes : List (TreeNode Object)} {n : TreeNode Object}
    (h : Growing kind o) (hnodes : Entity.nodes? o = some nodes)
    (hn : (Object.node n).Sound) :
    Growing kind (Entity.withNodes o (nodes ++ [n]))
      ∧ ∀ what : Noted, what.total (Entity.withNodes o (nodes ++ [n]))
        = what.total o + what.total (.node n) := by
  cases h with
  | widget | panel | leaf | tip => cases hnodes
  | @holder h hdirect hsound =>
      cases hnodes
      refine ⟨.holder hdirect ?_, fun what => what.total_holder h n⟩
      exact List.forall_mem_append.mpr
        ⟨hsound, List.forall_mem_singleton.mpr hn⟩
  | node type make hm =>
      cases hnodes
      exact ⟨.node type make (sound_node hm hn),
        fun what => what.total_node _ n⟩

theorem placeLine_grows (htag : GrowingTag tag) (line : String) :
    Grows tag (fun _ => 0) (Build.placeLine tag line) := by
  intro tag' h
  obtain ⟨name, kind, o, hooks, partHooks⟩ := tag
  have hgrowing : Growing kind o := htag.growing
  unfold Build.placeLine at h ⊢
  cases hnodes : Entity.nodes? o with
  | some nodes =>
      rw [hnodes] at h
      cases h
      obtain ⟨hmore, htotal⟩ := hgrowing.withNode hnodes (leaf_sound line)
      refine ⟨htag.with hmore, fun what => ?_⟩
      show 0 + what.total o + 0 = _
      rw [htotal, what.total_leaf]
      omega
  | none =>
      cases hgrowing with
      | holder | node => cases hnodes
      | panel | leaf | tip => cases h
      | @widget w hchildren =>
          cases h
          refine ⟨htag.with (.widget hchildren), fun what => ?_⟩
          show what.count [.entry (.journal ("text " ++ line))]
            + what.total (.widget w) + 0
              = what.total (.widget { w with lines := w.lines ++ [line] })
          rw [what.count_line, what.total_line]
          omega

/-- A child that is no tip goes where it fits. -/
theorem placeChild_sound (htag : GrowingTag tag) {child : Object}
    (hchild : child.Sound) (childTag : String) :
    Grows tag (fun what => what.total child)
      (Build.placeChild tag childTag child) := by
  have hattach : Entity.isAttachable child = false := by
    have htip := (Object.sound_iff.mp hchild).1.2
    cases child with
    | tip text => exact absurd rfl (htip text)
    | widget | panel | hollow | holder | leaf | text | node => rfl
  intro tag' h
  obtain ⟨name, kind, o, hooks, partHooks⟩ := tag
  have hgrowing : Growing kind o := htag.growing
  unfold Build.placeChild at h ⊢
  simp only [hattach, Bool.false_eq_true, if_false] at h ⊢
  cases hnodes : Entity.nodes? o with
  | some nodes =>
      rw [hnodes] at h
      cases h
      obtain ⟨hmore, htotal⟩ :=
        hgrowing.withNode hnodes (wrap_sound hchild)
      refine ⟨htag.with hmore, fun what => ?_⟩
      show 0 + what.total o + what.total child = _
      rw [htotal, what.total_wrap]
      omega
  | none =>
      cases hgrowing with
      | holder | node => cases hnodes
      | panel | leaf | tip => cases h
      | @widget w hchildren =>
          cases h
          have hall : ∀ x ∈ w.children ++ [child], x.Sound :=
            List.forall_mem_append.mpr
              ⟨hchildren, List.forall_mem_singleton.mpr hchild⟩
          refine ⟨htag.with (.widget hall), fun what => ?_⟩
          show what.count
              [.entry (.journal ("valid child " ++ child.typeName))]
            + what.total (.widget w) + what.total child
              = what.total (.widget
                { w with children := w.children ++ [child] })
          rw [what.count_child, what.total_child]
          omega

/-- A tip becomes the tip of a leaf, and comes to nothing. -/
theorem placeChild_tip (htag : GrowingTag tag) (text childTag : String) :
    Grows tag (fun what => what.total (.tip text))
      (Build.placeChild tag childTag (.tip text)) := by
  intro tag' h
  obtain ⟨name, kind, o, hooks, partHooks⟩ := tag
  have hgrowing : Growing kind o := htag.growing
  cases hgrowing with
  | widget | panel | holder | tip | node => cases h
  | leaf type make shown tip =>
      cases h
      refine ⟨htag.with (.leaf type make shown (some text)), ?_⟩
      intro what
      have hbare : ∀ o : Object, o.parts = [] → what.size o = 0 →
          what.total o = 0 := fun o => what.total_bare
      show 0 + what.total (.leaf shown tip) + what.total (.tip text)
        = what.total (.leaf shown (some text))
      rw [hbare (.leaf shown tip) rfl (by cases what <;> rfl),
        hbare (.tip text) rfl (by cases what <;> rfl),
        hbare (.leaf shown (some text)) rfl (by cases what <;> rfl)]

theorem placeChild_grows (htag : GrowingTag tag) {child : Object}
    (hchild : Finished child) (childTag : String) :
    Grows tag (fun what => what.total child)
      (Build.placeChild tag childTag child) := by
  rcases hchild with hsound | ⟨text, rfl⟩
  · exact placeChild_sound htag hsound childTag
  · exact placeChild_tip htag text childTag

/-- A part of a panel to which nothing was added is sound. -/
theorem part_sound {w : Widget Object} (h : w.children = []) :
    (Object.widget w).Sound := by
  rw [Object.sound_iff]
  refine ⟨⟨trivial, fun text h => nomatch h⟩, ?_⟩
  show ∀ x ∈ w.children, x.Sound
  rw [h]
  exact List.forall_mem_nil _

/-- The object of a tag when the tag closes: panels are marked, and that
is noted. -/
theorem closeTag_finished (htag : GrowingTag tag) {o : Object}
    (h : (Build.closeTag tag).result = .ok o) :
    Finished o ∧ ∀ what : Noted,
      what.count (Build.closeTag tag).events + what.total tag.entity
        = what.total o := by
  obtain ⟨name, kind, entity, hooks, partHooks⟩ := tag
  obtain ⟨hgrowing, hhooks, hempty⟩ := htag
  dsimp only at hgrowing hhooks hempty
  subst hhooks
  unfold Build.closeTag at h ⊢
  simp only [runHooks_empty hempty] at h ⊢
  have hquiet : ∀ {o' : Object}, o' = o → Finished o' →
      Finished o ∧ ∀ what : Noted, 0 + what.total o' = what.total o := by
    rintro o' rfl hfinished
    exact ⟨hfinished, fun what => Nat.zero_add _⟩
  cases hgrowing with
  | @panel p hopen hsecond hlines hchildren =>
      cases h
      constructor
      · left
        rw [Object.sound_iff]
        refine ⟨⟨⟨rfl, hsecond, hlines, hchildren⟩, fun text h => by cases h⟩,
          ?_⟩
        have hpart : p.second.children = [] := by
          rw [hsecond]
          rfl
        exact List.forall_mem_cons.mpr ⟨part_sound hchildren,
          List.forall_mem_singleton.mpr (part_sound hpart)⟩
      · intro what
        show what.count [.entry (.journal "panel hook")]
          + what.total (.panel p) = what.total (.panel
            { p with closed := true })
        rw [what.count_closing, what.total_closed hopen]
        omega
  | widget hchildren =>
      cases h
      refine hquiet rfl (Or.inl (Object.sound_iff.mpr ⟨?_, hchildren⟩))
      exact ⟨trivial, fun text h => by cases h⟩
  | @holder held hdirect hnodes =>
      cases h
      refine hquiet rfl (Or.inl (Object.sound_iff.mpr ⟨?_, ?_⟩))
      · exact ⟨hdirect, fun text h => by cases h⟩
      · intro x hx
        rw [Object.parts, hdirect, List.append_nil] at hx
        obtain ⟨n, hn, rfl⟩ := List.mem_map.mp hx
        exact hnodes n hn
  | leaf type make text tip =>
      cases h
      refine hquiet rfl (Or.inl (Object.sound_iff.mpr ⟨?_, ?_⟩))
      · exact ⟨trivial, fun text h => by cases h⟩
      · intro x hx
        cases hx
  | tip type make text =>
      cases h
      exact hquiet rfl (Or.inr ⟨text, rfl⟩)
  | node type make hn =>
      cases h
      exact hquiet rfl (Or.inl hn)

theorem placeText_grows (htag : GrowingTag tag) (run : String) :
    Grows tag (fun _ => 0) (Build.placeText tag run) := by
  unfold Build.placeText
  induction Text.lines run generalizing tag with
  | nil => exact .refl htag
  | cons line rest ih =>
      rw [List.foldlM_cons]
      exact (placeLine_grows htag line).bind fun tag' htag' => ih htag'

end

-- ============================================================= elements

section

variable {setting : Setting Object StyleDraft}
  (hsetting : Unassisted setting)

mutual

/-- An element is finished, and what is noted of it is what it comes
to. -/
theorem element_finished (hsetting : Unassisted setting)
    (parent : Option String) : (x : ElementOf Content) → {o : Object} →
    (h : (Build.element setting parent x).result = .ok o) →
    Finished o ∧ ∀ what : Noted,
      what.count (Build.element setting parent x).events = what.total o
  | ⟨name, attributes, content, line⟩, o, h => by
    unfold Build.element at h ⊢
    obtain ⟨tag, hopened, h⟩ := bind_result_ok h
    obtain ⟨filled, hfilled, hclosed⟩ := bind_result_ok h
    obtain ⟨htag, hfresh⟩ := openTag_growing hsetting hopened
    obtain ⟨htag', hbody⟩ := body_grows hsetting content htag filled hfilled
    obtain ⟨hfinished, hclose⟩ := closeTag_finished htag' hclosed
    refine ⟨hfinished, fun what => ?_⟩
    obtain ⟨hstart, hopening⟩ := hfresh what
    have hbody : what.count (Build.body setting content tag).events
      + what.total tag.entity + 0 = what.total filled.entity := hbody what
    have hclose := hclose what
    rw [Run.count_bind hopened, Run.count_bind hfilled]
    omega

theorem body_grows (hsetting : Unassisted setting) :
    (content : List Content) → {tag : OpenedTag Object StyleDraft} →
    (htag : GrowingTag tag) →
    Grows tag (fun _ => 0) (Build.body setting content tag)
  | [], tag, htag => by
    unfold Build.body
    exact .refl htag
  | c :: rest, tag, htag => by
    unfold Build.body
    exact (item_grows hsetting c htag).bind fun tag' htag' =>
      body_grows hsetting rest htag'

theorem item_grows (hsetting : Unassisted setting) : (c : Content) →
    {tag : OpenedTag Object StyleDraft} → (htag : GrowingTag tag) →
    Grows tag (fun _ => 0) (Build.item setting c tag)
  | .text run, tag, htag => by
    unfold Build.item
    exact placeText_grows htag run
  | .element x, tag, htag => by
    unfold Build.item
    intro tag' h
    obtain ⟨child, hchild, hplaced⟩ := bind_result_ok h
    obtain ⟨hfinished, hcount⟩ :=
      element_finished hsetting (some tag.name) x hchild
    obtain ⟨htag', hplace⟩ :=
      placeChild_grows htag hfinished x.name tag' hplaced
    refine ⟨htag', fun what => ?_⟩
    have hplace : what.count (Build.placeChild tag x.name child).events
      + what.total tag.entity + what.total child
        = what.total tag'.entity := hplace what
    have hcount := hcount what
    show what.count (Build.element setting (some tag.name) x >>= _).events
      + what.total tag.entity + 0 = _
    rw [Run.count_bind hchild]
    omega

end

theorem document_finished (hsetting : Unassisted setting) {d : Document}
    {objects : List Object}
    (h : (Build.document setting d).result = .ok objects) :
    (∀ o ∈ objects, Finished o) ∧ ∀ what : Noted,
      what.count (Build.document setting d).events
        = (objects.map what.total).sum := by
  unfold Build.document at h ⊢
  generalize d.roots = roots at h ⊢
  induction roots generalizing objects with
  | nil =>
      cases h
      exact ⟨List.forall_mem_nil _, fun what => rfl⟩
  | cons x roots ih =>
      rw [List.mapM_cons] at h ⊢
      obtain ⟨o, hfirst, h⟩ := bind_result_ok h
      obtain ⟨others, hothers, hpure⟩ := bind_result_ok h
      cases hpure
      obtain ⟨hfinished, hcount⟩ := element_finished hsetting none x hfirst
      obtain ⟨hall, hcounts⟩ := ih hothers
      refine ⟨List.forall_mem_cons.mpr ⟨hfinished, hall⟩, fun what => ?_⟩
      rw [Run.count_bind hfirst, Run.count_bind hothers, hcount, hcounts,
        List.map_cons, List.sum_cons]
      rfl

end

-- ============================================================ documents

/-- What finished objects hold is as it should be, and no tip is below
another object. -/
theorem Finished.proper {o : Object} (h : Finished o) :
    (∀ x ∈ o.all, x.Proper) ∧ ∀ x ∈ o.within, ∀ text, x ≠ .tip text := by
  rcases h with hsound | ⟨text, rfl⟩
  · refine ⟨fun x hx => (hsound x hx).1, fun x hx => (hsound x ?_).2⟩
    rw [Object.all_eq]
    exact List.mem_cons_of_mem o hx
  · have hall : (Object.tip text).all = [.tip text] := by
      rw [Object.all_eq]
      rfl
    rw [hall]
    exact ⟨List.forall_mem_singleton.mpr trivial, fun x hx => nomatch hx⟩

/-- A sum over the objects at every depth is one over their roots. -/
theorem total_flatMap (what : Noted) (objects : List Object) :
    ((objects.flatMap Object.all).map what.size).sum
      = (objects.map what.total).sum := by
  induction objects with
  | nil => rfl
  | cons o rest ih =>
      rw [List.flatMap_cons, List.map_append, List.sum_append, ih]
      rfl

/-- The children of widgets, their lines, and the panels, where all
panels are closed. -/
theorem sizes_eq {all : List Object} (h : ∀ x ∈ all, x.Proper) :
    (all.map Noted.child.size).sum
        = ((all.filterMap Object.widget?).map (·.children.length)).sum
      ∧ (all.map Noted.line.size).sum
        = ((all.filterMap Object.widget?).map (·.lines.length)).sum
      ∧ (all.map Noted.closing.size).sum = all.countP Object.isPanel := by
  induction all with
  | nil => exact ⟨rfl, rfl, rfl⟩
  | cons o rest ih =>
      obtain ⟨hfirst, hothers⟩ := List.forall_mem_cons.mp h
      obtain ⟨hchild, hline, hclosing⟩ := ih hothers
      simp only [List.map_cons, List.sum_cons, List.filterMap_cons,
        List.countP_cons, hchild, hline, hclosing]
      cases o with
      | widget w =>
          refine ⟨rfl, rfl, ?_⟩
          simp [Noted.size, Object.isPanel]
      | panel p =>
          obtain ⟨hclosed, -⟩ := hfirst
          simp [Noted.size, Object.widget?, Object.isPanel, hclosed,
            Nat.add_comm]
      | hollow | holder | leaf | tip | text | node =>
          simp [Noted.size, Object.widget?, Object.isPanel]

/-- What a document comes to that is built with the scenario registry and
without actions, strictly or not. At every depth objects are as they
should be, and no tip is below another object. The journal has one entry
for each child in the children lists of all widgets, one for each of
their lines, and one for each panel. -/
theorem document_noted {registry : Registry Object StyleDraft}
    (hregistry : registry? = .ok registry) (config : Config)
    {d : Document} {objects : List Object}
    (h : (Build.document ⟨registry, config, .empty⟩ d).result
      = .ok objects) :
    let all := objects.flatMap Object.all
    let widgets := all.filterMap Object.widget?
    let journal := journalLines
      (Build.document ⟨registry, config, .empty⟩ d).events
    (∀ x ∈ all, x.Proper)
      ∧ (∀ o ∈ objects, ∀ x ∈ o.within, ∀ text, x ≠ .tip text)
      ∧ journal.countP Noted.child.marks
        = (widgets.map (·.children.length)).sum
      ∧ journal.countP Noted.line.marks = (widgets.map (·.lines.length)).sum
      ∧ journal.countP Noted.closing.marks = all.countP Object.isPanel := by
  intro all widgets journal
  obtain ⟨hfinished, hcount⟩ :=
    document_finished (.of_finished hregistry config) h
  have hproper : ∀ x ∈ all, x.Proper := by
    intro x hx
    obtain ⟨o, ho, hx⟩ := List.mem_flatMap.mp hx
    exact (hfinished o ho).proper.1 x hx
  have htotal : ∀ what : Noted,
      journal.countP what.marks = (all.map what.size).sum := by
    intro what
    rw [total_flatMap]
    exact hcount what
  obtain ⟨hchild, hline, hclosing⟩ := sizes_eq hproper
  refine ⟨hproper, fun o ho => (hfinished o ho).proper.2, ?_, ?_, ?_⟩
  · exact (htotal .child).trans hchild
  · exact (htotal .line).trans hline
  · exact (htotal .closing).trans hclosing

/-- A panel with a title given twice, whose width goes to its first part;
a holder with a line, a leaf with a tip, and a node; all in a widget. -/
def notedSample : Document :=
  ⟨[⟨"widget", [⟨"style", "a"⟩],
    [.text "one\ntwo",
      .element ⟨"panel", [⟨"title", "p"⟩, ⟨"title", "q"⟩, ⟨"width", "5"⟩],
        [], 2⟩,
      .element ⟨"holder", [],
        [.text "three", .element ⟨"leaf", [],
          [.element ⟨"tip", [⟨"text", "t"⟩], [], 3⟩], 3⟩,
          .element ⟨"node", [], [.element ⟨"panel", [], [], 4⟩], 4⟩], 3⟩],
      1⟩]⟩

theorem document_noted_sample :
    ∃ (registry : Registry Object StyleDraft) (objects : List Object),
      registry? = .ok registry
      ∧ (Build.document ⟨registry, {}, .empty⟩ notedSample).result
        = .ok objects
      ∧ (∀ x ∈ objects.flatMap Object.all, x.Proper)
      ∧ (journalLines (Build.document ⟨registry, {}, .empty⟩
          notedSample).events).countP Noted.closing.marks
        = (objects.flatMap Object.all).countP Object.isPanel := by
  have hbuilds : (Except.toOption registry?).map (fun registry =>
      (Build.document ⟨registry, {}, .empty⟩ notedSample).result.isOk)
      = some true := by decide +kernel
  obtain ⟨registry, objects, hregistry, h⟩ := Run.exists_ok hbuilds
  obtain ⟨hproper, -, -, -, hclosing⟩ := document_noted hregistry {} h
  exact ⟨registry, objects, hregistry, h, hproper, hclosing⟩

end EntityMarkup.Scenario
