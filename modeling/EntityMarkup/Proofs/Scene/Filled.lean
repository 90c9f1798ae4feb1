/-
Lines and children of scenes, as they are placed. A line or a child that
is placed in what a tag makes of some parts leaves what it makes of these
and one more (`placeLine_holding`, `placeChild_holding`), and a child that
the tag has no place for is refused. Which of the three ways is taken is
a matter of the tag alone: trees and nodes are containers of nodes, and
only tooltips attach themselves.
-/
import EntityMarkup.Proofs.Build.Placement
import EntityMarkup.Proofs.Scene.Opened

namespace EntityMarkup.Scene

open Build (placeLine_node placeLine_byKind placeChild_attached
  placeChild_node placeChild_byKind)
open Run (call_bind_result_ok)

-- ============================================================== places

namespace SceneTag

/-- Children other than tooltips have a place in the tag. -/
def admitsOther : SceneTag → Bool
  | .widget kind => kind.isContainer || kind == .tree
  | .node => true
  | .tooltip => false

/-- Children of the other tag have a place in the tag. -/
def admits (t : SceneTag) : SceneTag → Bool
  | .tooltip => (t matches .widget _)
  | .widget _ => t.admitsOther
  | .node => t.admitsOther

theorem admits_other {t t' : SceneTag} (ht : t' ≠ .tooltip) :
    t.admits t' = t.admitsOther := by
  rcases t' with kind | _ | _
  · rfl
  · rfl
  · exact absurd rfl ht

end SceneTag

-- ============================================================= kinds

section

variable {kind : WidgetKind} (w : Widget Object)

theorem widgetTag_line_text (hkind : kind.takesText = true)
    (line : String) :
    (widgetTag kind).placeLine line (.widget w)
      = ⟨[], .widget (w.pushText line), .ok ()⟩ := by
  cases kind <;> first | rfl | cases hkind

theorem widgetTag_line_container (hkind : kind.isContainer = true)
    (line : String) :
    (widgetTag kind).placeLine line (.widget w)
      = ⟨[], .widget (w.pushChild (.widget
          { (.new .label : Widget Object) with text := some line })),
        .ok ()⟩ := by
  cases kind <;> first | rfl | cases hkind

theorem widgetTag_child (hkind : kind.isContainer = true)
    (child : Object) :
    (widgetTag kind).placeChild child (.widget w)
      = ⟨[], .widget (w.pushChild child), .ok ()⟩ := by
  cases kind <;> first | rfl | cases hkind

theorem widgetTag_child_refused (hkind : kind.isContainer = false)
    (child : Object) :
    ((widgetTag kind).placeChild child (.widget w)).result ≠ .ok () := by
  unfold widgetTag Handler.require
  rw [hkind]
  exact fun h => nomatch h

end

section

variable {get : String → Option String} {parts : List Part} {t : SceneTag}

/-- Trees and nodes are containers of nodes, and hold one for each part
that has one. -/
theorem nodes?_filled :
    Entity.nodes? (filled get parts t)
      = if t = .widget .tree ∨ t = .node then
          some (parts.filterMap Part.node?)
        else none := by
  rcases t with (_ | _ | _ | _ | _) | _ | _ <;> rfl

/-- A part of a hierarchy is placed as a node. -/
theorem withNodes_filled (ht : t = .widget .tree ∨ t = .node) {part : Part}
    {n : TreeNode Object} (hn : part.node? = some n)
    (htooltip : part.tooltip? = none) :
    Entity.withNodes (filled get parts t) (parts.filterMap Part.node? ++ [n])
      = filled get (parts ++ [part]) t := by
  rcases ht with rfl | rfl
  · simp [filled, widgetShape, Entity.withNodes, Object.withNodes,
      WidgetKind.takesText, WidgetKind.isContainer, hn, htooltip]
  · simp [filled, nodeShape, Entity.withNodes, Object.withNodes, hn]

/-- A line that the kind places adds a part. -/
theorem tagKind_line (ht : ¬ (t = .widget .tree ∨ t = .node))
    {line : String} (hline : line ≠ "") :
    (t.tagKind.placeLine line (filled get parts t)).state
      = filled get (parts ++ [.line line]) t := by
  rcases t with kind | _ | _
  · by_cases htext : kind.takesText = true
    · show ((widgetTag kind).placeLine line (.widget _)).state = _
      rw [widgetTag_line_text _ htext, filled,
        widgetShape_line get parts htext]
      rfl
    · have hcontainer : kind.isContainer = true := by
        cases kind <;> first
          | rfl
          | exact absurd rfl htext
          | exact absurd (Or.inl rfl) ht
      show ((widgetTag kind).placeLine line (.widget _)).state = _
      rw [widgetTag_line_container _ hcontainer, filled,
        widgetShape_child get parts hcontainer rfl rfl]
      rfl
  · exact absurd (Or.inr rfl) ht
  · show Object.tooltip _ = .tooltip _
    rw [tooltipShape_line get parts hline]

/-- A child that the kind places adds a part, to a container only. -/
theorem tagKind_child (ht : ¬ (t = .widget .tree ∨ t = .node))
    {o : Object} (ho : ∀ text, o ≠ .tooltip text)
    (hok : (t.tagKind.placeChild o (filled get parts t)).result = .ok ()) :
    t.admitsOther = true
      ∧ (t.tagKind.placeChild o (filled get parts t)).state
        = filled get (parts ++ [.child o]) t := by
  rcases t with kind | _ | _
  · cases hcontainer : kind.isContainer with
    | false => exact absurd hok (widgetTag_child_refused _ hcontainer o)
    | true =>
        obtain ⟨htooltip, hobject, -⟩ := child_other ho
        refine ⟨by simp [SceneTag.admitsOther, hcontainer], ?_⟩
        show ((widgetTag kind).placeChild o (.widget _)).state = _
        rw [widgetTag_child _ hcontainer, filled,
          widgetShape_child get parts hcontainer hobject htooltip]
        rfl
  · exact absurd (Or.inr rfl) ht
  · cases hok

/-- A tooltip that attaches itself adds a part, to a widget only. -/
theorem attachTo_tooltip {text : String}
    (hok : (Entity.attachTo (Object.tooltip text)
      (filled get parts t)).result = .ok ()) :
    t.admits .tooltip = true
      ∧ (Entity.attachTo (Object.tooltip text) (filled get parts t)).state
        = filled get (parts ++ [.child (.tooltip text)]) t := by
  rcases t with kind | _ | _
  · refine ⟨rfl, ?_⟩
    rw [filled, filled, widgetShape_tooltip]
    rfl
  · cases hok
  · cases hok

/-- The kind closes what its tag holds to what the tag makes of it. -/
theorem tagKind_close :
    (t.tagKind.onClose (filled get parts t)).state = shape get parts t := by
  rcases t with kind | _ | _
  · cases kind <;> rfl
  · rfl
  · rfl

end

-- ================================================================ tags

/-- The opened tag that holds these values and parts. -/
def holding (name : String) (t : SceneTag) (get : String → Option String)
    (parts : List Part) (partHooks : List (Hooks Object)) :
    OpenedTag Object Sketch :=
  ⟨name, t.tagKind, filled get parts t, .empty, partHooks⟩

section

variable {name : String} {t : SceneTag} {get : String → Option String}
  {parts more : List Part} {partHooks : List (Hooks Object)}
  {tag : OpenedTag Object Sketch}

theorem holding_with {o : Object} (ho : o = filled get more t) :
    { holding name t get parts partHooks with entity := o }
      = holding name t get more partHooks := by
  rw [ho]
  rfl

theorem placeLine_holding {line : String} (hline : line ≠ "")
    (h : (Build.placeLine (holding name t get parts partHooks) line).result
      = .ok tag) :
    tag = holding name t get (parts ++ [.line line]) partHooks := by
  by_cases ht : t = .widget .tree ∨ t = .node
  · rw [placeLine_node (nodes?_filled.trans (if_pos ht)) h]
    exact holding_with (withNodes_filled ht rfl rfl)
  · obtain ⟨-, rfl⟩ :=
      placeLine_byKind (nodes?_filled.trans (if_neg ht)) h
    exact holding_with (tagKind_line ht hline)

/-- What is no tooltip does not attach itself. -/
theorem shape_other {t : SceneTag} (ht : t ≠ .tooltip)
    (get : String → Option String) (parts : List Part) :
    (∀ text, shape get parts t ≠ .tooltip text)
      ∧ Entity.isAttachable (shape get parts t) = false := by
  rcases t with kind | _ | _
  · exact ⟨fun text h => (nomatch h), rfl⟩
  · exact ⟨fun text h => (nomatch h), rfl⟩
  · exact absurd rfl ht

theorem placeChild_holding {t' : SceneTag} {get' : String → Option String}
    {parts' : List Part} {childTag : String}
    (h : (Build.placeChild (holding name t get parts partHooks) childTag
      (shape get' parts' t')).result = .ok tag) :
    t.admits t' = true
      ∧ tag = holding name t get (parts ++ [.child (shape get' parts' t')])
        partHooks := by
  by_cases ht' : t' = .tooltip
  · subst ht'
    obtain ⟨hok, rfl⟩ := placeChild_attached rfl h
    obtain ⟨hadmits, hstate⟩ := attachTo_tooltip hok
    exact ⟨hadmits, holding_with hstate⟩
  · obtain ⟨ho, hattach⟩ := shape_other ht' get' parts'
    rw [SceneTag.admits_other ht']
    by_cases ht : t = .widget .tree ∨ t = .node
    · obtain ⟨htooltip, -, hnode⟩ := child_other ho
      rw [placeChild_node hattach (nodes?_filled.trans (if_pos ht)) h]
      refine ⟨?_, holding_with (withNodes_filled ht hnode htooltip)⟩
      rcases ht with rfl | rfl <;> rfl
    · obtain ⟨hok, rfl⟩ := placeChild_byKind hattach
        (nodes?_filled.trans (if_neg ht)) h
      obtain ⟨hadmits, hstate⟩ := tagKind_child ht ho hok
      exact ⟨hadmits, holding_with hstate⟩

/-- Closing a tag leaves what it makes of all its parts. -/
theorem closeTag_holding (hempty : ∀ hooks ∈ partHooks, hooks = .empty)
    {o : Object}
    (h : (Build.closeTag (holding name t get parts partHooks)).result
      = .ok o) : o = shape get parts t := by
  obtain ⟨_, -, hhooks⟩ := call_bind_result_ok h
  have hclosed : ((holding name t get parts partHooks).kind.onClose
      (holding name t get parts partHooks).entity).state
      = shape get parts t := tagKind_close
  have hthing : ∀ thing, shape get parts t ≠ .thing thing := by
    rcases t with kind | _ | _ <;> exact fun _ h => nomatch h
  dsimp only at hhooks
  rw [hclosed] at hhooks
  have hrun := runHooks_empty name .close hempty hthing
  exact Except.ok.inj (hhooks.symm.trans hrun)

end

end EntityMarkup.Scene
