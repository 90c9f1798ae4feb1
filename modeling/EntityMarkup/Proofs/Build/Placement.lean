/-
Where lines and children go. A line becomes a node of a container of
nodes, and is placed as the kind says otherwise; a child attaches itself,
if it can, and is placed like a line if it cannot. A build that goes on
has changed the tag in nothing but its entity.
-/
import EntityMarkup.Build.Assemble
import EntityMarkup.Proofs.Build.Run

namespace EntityMarkup.Build

open Run (call_bind_result_ok)

variable {E D : Type} [Entity E] {tag tag' : OpenedTag E D}

/-- A line for a container of nodes becomes one. -/
theorem placeLine_node {nodes : List (TreeNode E)}
    (hnodes : Entity.nodes? tag.entity = some nodes) {line : String}
    (h : (placeLine tag line).result = .ok tag') :
    tag' = { tag with
      entity := Entity.withNodes tag.entity
        (nodes ++ [TreeNode.leaf line]) } := by
  unfold placeLine at h
  rw [hnodes] at h
  cases h
  rfl

/-- Another line is placed as the kind says. -/
theorem placeLine_byKind (hnodes : Entity.nodes? tag.entity = none)
    {line : String} (h : (placeLine tag line).result = .ok tag') :
    (tag.kind.placeLine line tag.entity).result = .ok ()
      ∧ tag' = { tag with
        entity := (tag.kind.placeLine line tag.entity).state } := by
  unfold placeLine at h
  rw [hnodes] at h
  obtain ⟨_, hok, hpure⟩ := call_bind_result_ok h
  cases hpure
  exact ⟨hok, rfl⟩

variable {childTag : String} {child : E}

/-- A child that attaches itself is not placed otherwise. -/
theorem placeChild_attached (hattach : Entity.isAttachable child = true)
    (h : (placeChild tag childTag child).result = .ok tag') :
    (Entity.attachTo child tag.entity).result = .ok ()
      ∧ tag' = { tag with
        entity := (Entity.attachTo child tag.entity).state } := by
  unfold placeChild at h
  rw [if_pos hattach] at h
  obtain ⟨_, hok, hpure⟩ := call_bind_result_ok h
  cases hpure
  exact ⟨hok, rfl⟩

/-- Another child of a container of nodes becomes one. -/
theorem placeChild_node (hattach : Entity.isAttachable child = false)
    {nodes : List (TreeNode E)}
    (hnodes : Entity.nodes? tag.entity = some nodes)
    (h : (placeChild tag childTag child).result = .ok tag') :
    tag' = { tag with
      entity := Entity.withNodes tag.entity
        (nodes ++ [TreeNode.wrap child]) } := by
  unfold placeChild at h
  rw [if_neg (by rw [hattach]; exact Bool.false_ne_true), hnodes] at h
  cases h
  rfl

/-- Any other child is placed as the kind says. -/
theorem placeChild_byKind (hattach : Entity.isAttachable child = false)
    (hnodes : Entity.nodes? tag.entity = none)
    (h : (placeChild tag childTag child).result = .ok tag') :
    (tag.kind.placeChild child tag.entity).result = .ok ()
      ∧ tag' = { tag with
        entity := (tag.kind.placeChild child tag.entity).state } := by
  unfold placeChild at h
  rw [if_neg (by rw [hattach]; exact Bool.false_ne_true), hnodes] at h
  obtain ⟨_, hok, hpure⟩ := call_bind_result_ok h
  cases hpure
  exact ⟨hok, rfl⟩

end EntityMarkup.Build
