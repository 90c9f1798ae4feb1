/-
Scenes that are fit. What an object holds is given by a relation
(`Object.Holds`); an object is sound if everything at any depth of it is
fit for its place (`Object.Sound`). Which fields of a widget may differ
from the default, and what it may hold, depends on its kind.
-/
import EntityMarkup.Proofs.Text.Trimmed
import EntityMarkup.Scene.Object
import Mathlib.Logic.Relation

namespace EntityMarkup.Scene

namespace WidgetKind

variable {kind : WidgetKind}

theorem isContainer_iff :
    kind.isContainer = true ↔ kind = .group ∨ kind = .window := by
  cases kind <;> decide

theorem takesText_iff :
    kind.takesText = true ↔ kind = .label ∨ kind = .button := by
  cases kind <;> decide

end WidgetKind

-- ============================================================== holding

/-- The second object stands directly in the first. Objects of described
kinds are passed over: no tag of a scene makes them. -/
inductive Object.Holds : Object → Object → Prop
  | title {w t : Widget Object} (h : w.title = some t) :
      Holds (.widget w) (.widget t)
  | child {w : Widget Object} {o : Object} (h : o ∈ w.children) :
      Holds (.widget w) o
  | root {w : Widget Object} {n : TreeNode Object} (h : n ∈ w.nodes) :
      Holds (.widget w) (.node n)
  | entity (n : TreeNode Object) : Holds (.node n) n.entity
  | below {n m : TreeNode Object} (h : m ∈ n.children) :
      Holds (.node n) (.node m)

-- ============================================================== fitting

/-- A text with something in it, and no white space around that. -/
structure Tidy (text : String) : Prop where
  nonempty : text ≠ ""
  trimmed : Text.trim text = text

/-- A label that differs from a bare one in its text and alignment
only. -/
def TitleBar (t : Widget Object) : Prop :=
  ∃ text align, t = { Widget.bare .label with text, align }

/-- The fields of a widget are as its kind allows, but for `packed`. -/
structure Widget.Shaped (w : Widget Object) : Prop where
  titled : w.title.isSome = true ↔ w.kind = .window
  titleBar : ∀ t, w.title = some t → TitleBar t
  parent : w.children ≠ [] → w.kind = .group ∨ w.kind = .window
  children : ∀ child ∈ w.children,
    (∃ w', child = .widget w') ∨ ∃ n, child = .node n
  hierarchy : w.nodes ≠ [] → w.kind = .tree
  worded : w.text ≠ none → w.kind = .label ∨ w.kind = .button
  clickable : w.onClick ≠ none → w.kind = .button
  event : ∀ name, w.onClick = some name → Tidy name
  aligned : w.align ≠ .start → w.kind = .label ∨ w.kind = .button
  spaced : w.spacing ≠ .zero → w.kind = .group ∨ w.kind = .window
  style : Tidy w.style

namespace Widget.Shaped

variable {w : Widget Object}

/-- The one component of a window is its title bar. -/
theorem components_window (h : w.Shaped) (hkind : w.kind = .window) :
    ∃ t, TitleBar t
      ∧ Entity.components? (Object.widget w) = some [.widget t] := by
  obtain ⟨t, htitle⟩ := Option.isSome_iff_exists.mp (h.titled.mpr hkind)
  refine ⟨t, h.titleBar t htitle, ?_⟩
  show w.title.map (fun t => [Object.widget t]) = _
  rw [htitle]
  rfl

theorem components_other (h : w.Shaped) (hkind : w.kind ≠ .window) :
    Entity.components? (Object.widget w) = none := by
  have htitle : w.title = none := by
    rw [← Option.not_isSome_iff_eq_none, h.titled]
    exact hkind
  show w.title.map (fun t => [Object.widget t]) = _
  rw [htitle]
  rfl

end Widget.Shaped

/-- The fields of a widget are as its kind allows, and it is laid out
exactly if it is a window. -/
structure Widget.Fit (w : Widget Object) : Prop extends w.Shaped where
  packed : w.packed = true ↔ w.kind = .window

/-- Is as scenes have it: a widget that is fit, a node around a leaf or a
widget, a leaf or a tooltip. -/
def Object.Fit : Object → Prop
  | .widget w => w.Fit
  | .node n => (∃ text, n.entity = .leaf text) ∨ ∃ w, n.entity = .widget w
  | .leaf _ => True
  | .tooltip _ => True
  | .thing _ => False
  | .clip _ => False

/-- Everything at any depth of the object is fit. -/
def Object.Sound (o : Object) : Prop :=
  ∀ x, Relation.ReflTransGen Object.Holds o x → x.Fit

namespace Object.Sound

variable {o x : Object}

theorem fit (h : o.Sound) : o.Fit :=
  h o .refl

theorem held (h : o.Sound) (hx : o.Holds x) : x.Sound :=
  fun y hy => h y (.head hx hy)

theorem of_held (hfit : o.Fit) (h : ∀ x, o.Holds x → x.Sound) :
    o.Sound := by
  intro y hy
  rcases hy.cases_head with rfl | ⟨x, hx, hy⟩
  · exact hfit
  · exact h x hx y hy

/-- What a sound object holds is no tooltip. -/
theorem not_tooltip (h : o.Sound) (hx : o.Holds x) (text : String) :
    x ≠ .tooltip text := by
  have hfit := h.fit
  rintro rfl
  generalize hy : Object.tooltip text = y at hx
  cases hx with
  | title htitle => cases hy
  | child hchild =>
      rcases Widget.Shaped.children hfit.toShaped _ hchild with
        ⟨w', rfl⟩ | ⟨n, rfl⟩
      · cases hy
      · cases hy
  | root hnode => cases hy
  | entity n =>
      rcases hfit with ⟨text', hentity⟩ | ⟨w, hentity⟩
      · rw [hentity] at hy
        cases hy
      · rw [hentity] at hy
        cases hy
  | below hnode => cases hy

end Object.Sound

-- =============================================================== pieces

theorem leaf_sound (text : String) : (Object.leaf text).Sound :=
  .of_held trivial fun _ hx => nomatch hx

theorem tooltip_sound (text : String) : (Object.tooltip text).Sound :=
  .of_held trivial fun _ hx => nomatch hx

theorem defaultStyle_tidy : Tidy StyleDraft.defaultStyle :=
  ⟨by decide, by decide +kernel⟩

/-- A bare label with a text and an alignment is sound. -/
theorem label_sound (text : Option String) (align : Align) :
    (Object.widget { Widget.bare .label with text, align }).Sound := by
  apply Object.Sound.of_held
  · exact {
      titled := by simp [Widget.bare]
      titleBar := fun t h => nomatch h
      parent := fun h => absurd rfl h
      children := fun child h => nomatch h
      hierarchy := fun h => absurd rfl h
      worded := fun _ => Or.inl rfl
      clickable := fun h => absurd rfl h
      event := fun name h => nomatch h
      aligned := fun _ => Or.inl rfl
      spaced := fun h => absurd rfl h
      style := defaultStyle_tidy
      packed := by simp [Widget.bare] }
  · intro x hx
    cases hx with
    | title h => cases h
    | child h => cases h
    | root h => cases h

theorem TitleBar.sound {t : Widget Object} (h : TitleBar t) :
    (Object.widget t).Sound := by
  obtain ⟨text, align, rfl⟩ := h
  exact label_sound text align

section

variable {n : TreeNode Object}

/-- A node is sound around a sound leaf or widget and with sound nodes
below it. -/
theorem node_sound
    (hentity : (∃ text, n.entity = .leaf text) ∨ ∃ w, n.entity = .widget w)
    (hsound : n.entity.Sound)
    (hchildren : ∀ m ∈ n.children, (Object.node m).Sound) :
    (Object.node n).Sound := by
  have hfit : (Object.node n).Fit := hentity
  apply Object.Sound.of_held hfit
  intro x hx
  cases hx with
  | entity => exact hsound
  | below h => exact hchildren _ h

/-- One more sound node below a sound one. -/
theorem Object.Sound.node_snoc (h : (Object.node n).Sound)
    {m : TreeNode Object} (hm : (Object.node m).Sound) :
    (Object.node { n with children := n.children ++ [m] }).Sound := by
  have hchildren : ∀ m' ∈ n.children ++ [m], (Object.node m').Sound := by
    intro m' hmem
    rcases List.mem_append.mp hmem with hmem | hmem
    · exact h.held (.below hmem)
    · rw [List.mem_singleton.mp hmem]
      exact hm
  exact node_sound h.fit (h.held (.entity n)) hchildren

end

-- ============================================================== growing

/-- A widget whose tag is still open: its fields are as its kind allows,
and what it holds is sound. -/
structure Widget.Growing (w : Widget Object) : Prop extends w.Shaped where
  unpacked : w.packed = false
  children_sound : ∀ child ∈ w.children, child.Sound
  nodes_sound : ∀ n ∈ w.nodes, (Object.node n).Sound

namespace Widget.Growing

variable {w : Widget Object}

/-- Laid out if it is a window, it is sound. -/
theorem sound (h : w.Growing) :
    (Object.widget { w with packed := w.kind = .window }).Sound := by
  apply Object.Sound.of_held
  · exact { h.toShaped with packed := decide_eq_true_iff }
  · intro x hx
    cases hx with
    | title htitle => exact (h.titleBar _ htitle).sound
    | child hchild => exact h.children_sound _ hchild
    | root hnode => exact h.nodes_sound _ hnode

/-- One more line of its own text. -/
theorem pushText (h : w.Growing) (hkind : w.kind = .label ∨ w.kind = .button)
    (line : String) : (w.pushText line).Growing :=
  { h with worded := fun _ => hkind }

/-- One more child. -/
theorem pushChild (h : w.Growing)
    (hkind : w.kind = .group ∨ w.kind = .window) {child : Object}
    (hchild : (∃ w', child = .widget w') ∨ ∃ n, child = .node n)
    (hsound : child.Sound) : (w.pushChild child).Growing :=
  { h with
    parent := fun _ => hkind
    children := by
      intro o hmem
      rcases List.mem_append.mp hmem with hmem | hmem
      · exact h.children o hmem
      · rw [List.mem_singleton.mp hmem]
        exact hchild
    children_sound := by
      intro o hmem
      rcases List.mem_append.mp hmem with hmem | hmem
      · exact h.children_sound o hmem
      · rw [List.mem_singleton.mp hmem]
        exact hsound }

/-- One more node. -/
theorem pushNode (h : w.Growing) (hkind : w.kind = .tree)
    {n : TreeNode Object} (hsound : (Object.node n).Sound) :
    ({ w with nodes := w.nodes ++ [n] } : Widget Object).Growing :=
  { h with
    hierarchy := fun _ => hkind
    nodes_sound := by
      intro m hmem
      rcases List.mem_append.mp hmem with hmem | hmem
      · exact h.nodes_sound m hmem
      · rw [List.mem_singleton.mp hmem]
        exact hsound }

/-- Another title bar, of a window. -/
theorem withTitle (h : w.Growing) (hkind : w.kind = .window)
    {t : Widget Object} (ht : TitleBar t) :
    ({ w with title := some t } : Widget Object).Growing :=
  { h with
    titled := ⟨fun _ => hkind, fun _ => rfl⟩
    titleBar := by
      intro t' ht'
      cases ht'
      exact ht }

end Widget.Growing

end EntityMarkup.Scene
