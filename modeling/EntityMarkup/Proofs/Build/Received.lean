/-
What the entity of a tag receives between its opening and its closing.
The body is a list of items, the lines of its text and its elements in
written order, and each of them reaches the entity once (`Received`), in
this order: a line as a leaf or as the kind says, and an element as the
entity that building it alone gives, which attaches itself, becomes a
node, or is placed as the kind says (`Receives`).

Each receipt has its events: what the element does by itself comes first,
then the report and the mark of the placement, then what the handler
reports. Joined in order these are all events between the opening and the
closing. If a container of nodes is left alone otherwise, its nodes grow
by one for each line and each element that does not attach itself
(`Received.nodes_eq`).
-/
import EntityMarkup.Proofs.Build.Alike
import EntityMarkup.Proofs.Build.Placement

namespace EntityMarkup

namespace Build

open Run (bind_result_ok bind_of_ok call_of_ok)

variable {E D : Type} [Entity E] [Draft D E] {setting : Setting E D}
  {tag tag' : OpenedTag E D} {text childTag : String} {child : E}
  {x : Element} {item : Item} {items : List Item} {events : List Event}

/-- The tag around an element is reported, and nothing else is done with
it. -/
theorem element_result_eq (setting : Setting E D)
    (parent parent' : Option String) (x : Element) :
    (element setting parent x).result
      = (element setting parent' x).result := by
  obtain ⟨name, attributes, content, line⟩ := x
  unfold element
  refine Run.bind_result_congr ?_ _
  unfold openTag
  cases setting.registry.kind? name with
  | none | some => rfl

-- ============================================================= receipts

/-- The report and the mark of a child's placement. -/
def placing (tag : String) (way : Placement) (childTag : String)
    (child : E) : List Event :=
  let described :=
    "<" ++ childTag ++ "> (" ++ Entity.typeName child ++ ")"
  let text := match way with
    | .attached => "attaching " ++ described ++ " to <" ++ tag ++ ">"
    | .node => "wrapping " ++ described ++ " as a node of <" ++ tag ++ ">"
    | .byKind => "adding " ++ described ++ " as a child of <" ++ tag ++ ">"
  [.entry (.record .placement .debug text),
    .step tag (.child way childTag)]

/-- The entity of a tag receives one item, with these events, and becomes
another entity. -/
inductive Receives (setting : Setting E D) (tag : OpenedTag E D) :
    Item → List Event → E → Prop
  | lineNode {nodes : List (TreeNode E)} (text : String)
      (hnodes : Entity.nodes? tag.entity = some nodes) :
      Receives setting tag (.line text)
        [.step tag.name (.line .node text)]
        (Entity.withNodes tag.entity (nodes ++ [TreeNode.leaf text]))
  | line {text : String} (hnodes : Entity.nodes? tag.entity = none)
      (hok : (tag.kind.placeLine text tag.entity).result = .ok ()) :
      Receives setting tag (.line text)
        (.step tag.name (.line .byKind text)
          :: (tag.kind.placeLine text tag.entity).entries.map .entry)
        (tag.kind.placeLine text tag.entity).state
  | attached {x : Element} {child : E}
      (hbuilt : (element setting none x).result = .ok child)
      (hattach : Entity.isAttachable child = true)
      (hok : (Entity.attachTo child tag.entity).result = .ok ()) :
      Receives setting tag (.element x)
        ((element setting (some tag.name) x).events
          ++ (placing tag.name .attached x.name child
            ++ (Entity.attachTo child tag.entity).entries.map .entry))
        (Entity.attachTo child tag.entity).state
  | childNode {x : Element} {child : E} {nodes : List (TreeNode E)}
      (hbuilt : (element setting none x).result = .ok child)
      (hattach : Entity.isAttachable child = false)
      (hnodes : Entity.nodes? tag.entity = some nodes) :
      Receives setting tag (.element x)
        ((element setting (some tag.name) x).events
          ++ placing tag.name .node x.name child)
        (Entity.withNodes tag.entity (nodes ++ [TreeNode.wrap child]))
  | child {x : Element} {child : E}
      (hbuilt : (element setting none x).result = .ok child)
      (hattach : Entity.isAttachable child = false)
      (hnodes : Entity.nodes? tag.entity = none)
      (hok : (tag.kind.placeChild child tag.entity).result = .ok ()) :
      Receives setting tag (.element x)
        ((element setting (some tag.name) x).events
          ++ (placing tag.name .byKind x.name child
            ++ (tag.kind.placeChild child tag.entity).entries.map .entry))
        (tag.kind.placeChild child tag.entity).state

/-- The entity of a tag receives the items one after the other; nothing
else about the tag changes. -/
inductive Received (setting : Setting E D) :
    OpenedTag E D → List Item → List Event → OpenedTag E D → Prop
  | nil (tag : OpenedTag E D) : Received setting tag [] [] tag
  | cons {tag tag' : OpenedTag E D} {item : Item} {items : List Item}
      {events later : List Event} {e : E}
      (hitem : Receives setting tag item events e)
      (hrest : Received setting { tag with entity := e } items later
        tag') :
      Received setting tag (item :: items) (events ++ later) tag'

/-- Placing a line is a receipt of it. -/
theorem placeLine_receives (h : (placeLine tag text).result = .ok tag') :
    ∃ e, tag' = { tag with entity := e }
      ∧ Receives setting tag (.line text) (placeLine tag text).events e := by
  cases hnodes : Entity.nodes? tag.entity with
  | some nodes =>
      have hevents : (placeLine tag text).events
          = [.step tag.name (.line .node text)] := by
        rw [placeLine, hnodes]
        rfl
      rw [hevents]
      exact ⟨_, placeLine_node hnodes h, .lineNode text hnodes⟩
  | none =>
      obtain ⟨hok, heq⟩ := placeLine_byKind hnodes h
      have hevents : (placeLine tag text).events
          = .step tag.name (.line .byKind text)
            :: (tag.kind.placeLine text tag.entity).entries.map
              .entry := by
        rw [placeLine, hnodes]
        dsimp only
        rw [call_of_ok hok]
        exact congrArg (_ :: ·) (List.append_nil _)
      rw [hevents]
      exact ⟨_, heq, .line hnodes hok⟩

/-- Placing the entity of an element is a receipt of the element. -/
theorem placeChild_receives
    (hbuilt : (element setting none x).result = .ok child)
    (h : (placeChild tag x.name child).result = .ok tag') :
    ∃ e, tag' = { tag with entity := e }
      ∧ Receives setting tag (.element x)
        ((element setting (some tag.name) x).events
          ++ (placeChild tag x.name child).events) e := by
  cases hattach : Entity.isAttachable child with
  | true =>
      obtain ⟨hok, heq⟩ := placeChild_attached hattach h
      have hevents : (placeChild tag x.name child).events
          = placing tag.name .attached x.name child
            ++ (Entity.attachTo child tag.entity).entries.map .entry := by
        rw [placeChild, if_pos hattach, call_of_ok hok]
        exact congrArg (placing tag.name .attached x.name child ++ ·)
          (List.append_nil _)
      rw [hevents]
      exact ⟨_, heq, .attached hbuilt hattach hok⟩
  | false =>
      have hdetached : ¬ Entity.isAttachable child = true := by
        rw [hattach]
        exact Bool.false_ne_true
      cases hnodes : Entity.nodes? tag.entity with
      | some nodes =>
          have hevents : (placeChild tag x.name child).events
              = placing tag.name .node x.name child := by
            rw [placeChild, if_neg hdetached, hnodes]
            rfl
          rw [hevents]
          exact ⟨_, placeChild_node hattach hnodes h,
            .childNode hbuilt hattach hnodes⟩
      | none =>
          obtain ⟨hok, heq⟩ := placeChild_byKind hattach hnodes h
          have hevents : (placeChild tag x.name child).events
              = placing tag.name .byKind x.name child
                ++ (tag.kind.placeChild child tag.entity).entries.map
                  .entry := by
            rw [placeChild, if_neg hdetached, hnodes]
            dsimp only
            rw [call_of_ok hok]
            exact congrArg (placing tag.name .byKind x.name child ++ ·)
              (List.append_nil _)
          rw [hevents]
          exact ⟨_, heq, .child hbuilt hattach hnodes hok⟩

theorem placeItem_receives
    (h : (placeItem setting tag item).result = .ok tag') :
    ∃ e, tag' = { tag with entity := e }
      ∧ Receives setting tag item (placeItem setting tag item).events
        e := by
  cases item with
  | line text => exact placeLine_receives h
  | element x =>
      unfold placeItem at h ⊢
      dsimp only at h ⊢
      obtain ⟨child, hchild, hplaced⟩ := bind_result_ok h
      rw [bind_of_ok hchild]
      rw [element_result_eq setting _ none] at hchild
      exact placeChild_receives hchild hplaced

/-- Filling a tag is a receipt of its items. -/
theorem received_of_ok
    (h : (items.foldlM (placeItem setting) tag).result = .ok tag') :
    Received setting tag items
      (items.foldlM (placeItem setting) tag).events tag' := by
  induction items generalizing tag with
  | nil =>
      cases h
      exact .nil _
  | cons item items ih =>
      rw [List.foldlM_cons] at h ⊢
      obtain ⟨mid, hitem, hrest⟩ := bind_result_ok h
      obtain ⟨e, rfl, hreceives⟩ := placeItem_receives hitem
      rw [bind_of_ok hitem]
      exact .cons hreceives (ih hrest)

-- ================================================================ nodes

/-- The nodes that an item comes to in a container of nodes: one for a
line, and one for an element whose entity does not attach itself, which
is that entity if it is a node already. -/
def itemNodes (setting : Setting E D) : Item → List (TreeNode E)
  | .line text => [⟨Entity.textLeaf text, []⟩]
  | .element x =>
    match (element setting none x).result with
    | .error _ => []
    | .ok child =>
      if Entity.isAttachable child then []
      else
        match Entity.asNode? child with
        | some node => [node]
        | none => [⟨child, []⟩]

/-- Nothing but the placing of items touches the nodes of a container: it
holds the nodes that are put into it, and the entities that attach
themselves leave the nodes of others alone. -/
structure NodesLeft (setting : Setting E D) (items : List Item) :
    Prop where
  put : ∀ (e : E) nodes nodes', Entity.nodes? e = some nodes →
    Entity.nodes? (Entity.withNodes e nodes') = some nodes'
  attached : ∀ x child, .element x ∈ items →
    (element setting none x).result = .ok child →
    Entity.isAttachable child = true →
    ∀ e, Entity.nodes? (Entity.attachTo child e).state = Entity.nodes? e

theorem NodesLeft.rest (h : NodesLeft setting (item :: items)) :
    NodesLeft setting items :=
  ⟨h.put, fun x child hx => h.attached x child (List.mem_cons_of_mem _ hx)⟩

/-- An item that a container of nodes receives comes to its nodes. -/
theorem Receives.nodes_eq {e : E} {nodes : List (TreeNode E)}
    (hleft : NodesLeft setting (item :: items))
    (h : Receives setting tag item events e)
    (hnodes : Entity.nodes? tag.entity = some nodes) :
    Entity.nodes? e = some (nodes ++ itemNodes setting item) := by
  cases h with
  | lineNode text hsome =>
      cases hnodes.symm.trans hsome
      exact hleft.put _ _ _ hnodes
  | line hnone => cases hnodes.symm.trans hnone
  | @attached x child hbuilt hattach hok =>
      have hkept := hleft.attached x child (List.mem_cons_self ..) hbuilt
        hattach tag.entity
      rw [hkept, hnodes, itemNodes, hbuilt]
      dsimp only
      rw [if_pos hattach, List.append_nil]
  | @childNode x child nodes' hbuilt hattach hsome =>
      cases hnodes.symm.trans hsome
      have hnode : itemNodes setting (.element x)
          = [TreeNode.wrap child] := by
        rw [itemNodes, hbuilt, TreeNode.wrap]
        dsimp only
        rw [hattach]
        cases Entity.asNode? child <;> rfl
      rw [hnode]
      exact hleft.put _ _ _ hnodes
  | child hbuilt hattach hnone => cases hnodes.symm.trans hnone

/-- A container of nodes grows by the nodes of the items, in order. -/
theorem Received.nodes_eq {nodes : List (TreeNode E)}
    (hleft : NodesLeft setting items)
    (h : Received setting tag items events tag')
    (hnodes : Entity.nodes? tag.entity = some nodes) :
    Entity.nodes? tag'.entity
      = some (nodes ++ items.flatMap (itemNodes setting)) := by
  induction h generalizing nodes with
  | nil =>
      rw [List.flatMap_nil, List.append_nil]
      exact hnodes
  | cons hitem hrest ih =>
      rw [List.flatMap_cons, ← List.append_assoc]
      exact ih hleft.rest (hitem.nodes_eq hleft hnodes)

-- ============================================================= elements

/-- An element that is built is opened, receives the items of its body,
one after the other, and is closed, and this is all that its build does.
If nothing else touches its nodes, they grow by those of the items. -/
theorem element_received (setting : Setting E D) (parent : Option String)
    (x : Element) {built : E}
    (h : (element setting parent x).result = .ok built) :
    let items := x.body.flatMap Content.items
    ∃ opened filled events,
      (openTag setting parent x.name x.attributes x.line).result
        = .ok opened
      ∧ Received setting opened items events filled
      ∧ (closeTag filled).result = .ok built
      ∧ (element setting parent x).events
        = (openTag setting parent x.name x.attributes x.line).events
          ++ (events ++ (closeTag filled).events)
      ∧ (NodesLeft setting items →
        ∀ nodes, Entity.nodes? opened.entity = some nodes →
          Entity.nodes? filled.entity
            = some (nodes ++ items.flatMap (itemNodes setting))) := by
  obtain ⟨name, attributes, content, line⟩ := x
  intro items
  unfold element at h ⊢
  obtain ⟨opened, hopened, hrest⟩ := bind_result_ok h
  obtain ⟨filled, hfilled, hclosed⟩ := bind_result_ok hrest
  rw [bind_of_ok hopened, bind_of_ok hfilled]
  rw [body_eq_items] at hfilled ⊢
  have hreceived := received_of_ok hfilled
  exact ⟨opened, filled, _, hopened, hreceived, hclosed, rfl,
    fun hleft nodes hnodes => hreceived.nodes_eq hleft hnodes⟩

/-- A holder with lines around a widget and a node. -/
def heldItems : Element :=
  ⟨"holder", [],
    [.text " a \n\n b ", .element (Element.named "widget"),
      .element (Element.named "node"), .text "c"], 1⟩

/-- Its nodes, the last child being one already. -/
theorem element_received_holder :
    let setting := Scenario.markSetting
    let items := heldItems.body.flatMap Content.items
    let built : List (TreeNode Scenario.Object) :=
      [⟨.text "a", []⟩, ⟨.text "b", []⟩,
        ⟨.widget (.styled "default"), []⟩, ⟨.text "", []⟩,
        ⟨.text "c", []⟩]
    (element setting none heldItems).result
        = .ok (.holder { Scenario.Holder.new with nodes := built })
      ∧ NodesLeft setting items
      ∧ ∃ opened filled events,
        Received setting opened items events filled
        ∧ Entity.nodes? opened.entity = some []
        ∧ Entity.nodes? filled.entity
          = some (items.flatMap (itemNodes setting)) := by
  intro setting items built
  have hbuilt : (element setting none heldItems).result
      = .ok (.holder { Scenario.Holder.new with nodes := built }) := by
    cbv
  have hopened : (openTag setting none "holder" [] 1).result
      = .ok ⟨"holder", Scenario.holderTag, .holder .new, .empty, []⟩ := by
    cbv
  have hleft : NodesLeft setting items := by
    refine ⟨fun o nodes nodes' hnodes => ?_,
      fun x child _ _ hattach o => ?_⟩
    · cases o <;> cases hnodes <;> rfl
    · cases child <;> cases hattach
      cases o <;> rfl
  obtain ⟨opened, filled, events, hopen, hreceived, -, -, hgrown⟩ :=
    element_received setting none heldItems hbuilt
  cases hopened.symm.trans hopen
  exact ⟨hbuilt, hleft, _, filled, events, hreceived, rfl,
    hgrown hleft [] rfl⟩

end Build

end EntityMarkup
