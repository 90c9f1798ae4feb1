/-
The order in which a build calls handlers, hooks and actions. Whatever
these do, the calls of a build form one well-bracketed sequence
(`Sequence.lean`) that comes to the entities that it answers with, and
those of a failed build are the beginning of such a sequence that ends
with the failing call (`document_lifecycle`).

Each part of a build is shown to make its piece of the sequence, or a
beginning of it if it fails. What has to be carried from the binding of a
tag to its closing is that its records are still what its binding calls
requested, and its entity still has what these are for (`Tracked`).
-/
import EntityMarkup.Proofs.Build.Bound
import EntityMarkup.Proofs.Scenario.Kept

namespace EntityMarkup.Build

open Relation (ReflTransGen)
open Run (Makes)

variable {E D : Type} [Entity E] [Draft D E] {setting : Setting E D}

-- ================================================================ hooks

/-- Running actions makes their calls. -/
theorem runActions_makes (tag : String) (moment : Moment) (slot : Slot)
    (index : Nat) (actions : List (Action E)) (e : E) :
    (runActions tag moment slot index actions e).Makes (Call.Made setting)
      (fun e' calls => calls = actionCalls tag moment slot index actions e
        ∧ e' = acted actions e)
      fun _ => False := by
  induction actions generalizing index e with
  | nil => exact .pure ⟨rfl, rfl⟩
  | cons action rest ih =>
      unfold runActions
      refine .act (.hook tag moment slot index action e) ?_
      refine (ih (index + 1) (action e).2).mono ?_ fun _ h => h
      intro e' calls _ hdone
      obtain ⟨rfl, rfl⟩ := hdone
      exact ⟨rfl, rfl⟩

/-- Running the hooks of components makes the calls of those that belong
to each. -/
theorem runPartHooks_makes (tag : String) (moment : Moment)
    (hooks : Slot → List (Action E)) (index : Nat) (parts : List E)
    (partHooks : List (Hooks E))
    (h : partHooks.map (·.actions moment)
      = (List.range' index parts.length).map fun i =>
          hooks (.component i)) :
    (runPartHooks tag moment index parts partHooks).Makes
      (Call.Made setting)
      (fun parts' calls => calls = partCalls tag moment hooks index parts
        ∧ parts' = actedParts hooks index parts)
      fun _ => False := by
  induction parts generalizing index partHooks with
  | nil => cases partHooks <;> exact .pure ⟨rfl, rfl⟩
  | cons part parts ih =>
      rw [List.length_cons, List.range'_succ, List.map_cons] at h
      cases partHooks with
      | nil => cases h
      | cons own rest =>
          rw [List.map_cons] at h
          injection h with hown hrest
          unfold runPartHooks
          rw [hown]
          refine (runActions_makes ..).bind ?_ fun _ h => h
          intro part' calls _ hdone
          obtain ⟨rfl, rfl⟩ := hdone
          refine (ih (index + 1) rest hrest).bind ?_ fun _ h => h
          intro parts' calls _ hdone
          obtain ⟨rfl, rfl⟩ := hdone
          exact .pure ⟨by rw [List.append_nil]; rfl, rfl⟩

/-- Actions that were asked for touch an entity. -/
theorem touch_acted {actions : List (Action E)}
    (h : ∀ action ∈ actions, Asked setting action) (e : E) :
    ReflTransGen (Touch setting) e (acted actions e) := by
  induction actions generalizing e with
  | nil => exact .refl
  | cons action rest ih =>
      have hfirst : Touch setting e (action e).2 :=
        .acted e (h action (List.mem_cons_self ..))
      exact .head hfirst
        (ih (fun a ha => h a (List.mem_cons_of_mem _ ha)) (action e).2)

theorem touch_actedParts {hooks : Slot → List (Action E)}
    (h : ∀ slot, ∀ action ∈ hooks slot, Asked setting action)
    (index : Nat) (parts : List E) :
    List.Forall₂ (ReflTransGen (Touch setting)) parts
      (actedParts hooks index parts) := by
  induction parts generalizing index with
  | nil => exact .nil
  | cons part parts ih =>
      exact .cons (touch_acted (h (.component index)) part) (ih (index + 1))

/-- Hooks change an entity, if they were asked for. -/
theorem change_hooked {kind : TagKind E D} {hooks : Slot → List (Action E)}
    (h : ∀ slot, ∀ action ∈ hooks slot, Asked setting action) (e : E) :
    ReflTransGen (Change setting kind) e (hooked hooks e) := by
  have hwhole : ReflTransGen (Change setting kind) _ (hooked hooks e) :=
    Change.touches (touch_acted (h .whole) (withActedParts hooks e))
  cases hparts : Entity.components? e with
  | none =>
      rw [withActedParts, hparts] at hwhole
      exact hwhole
  | some parts =>
      rw [withActedParts, hparts] at hwhole
      exact .head (.parts hparts (touch_actedParts h 0 parts)) hwhole

/-- What made calls asked for was asked for. -/
theorem asked_of_registered {binding : List (Call E)}
    (hmade : ∀ c ∈ binding, c.Made setting) (moment : Moment)
    (slot : Slot) :
    ∀ action ∈ registered binding moment slot, Asked setting action := by
  intro action haction
  obtain ⟨r, hr, hmoment⟩ := List.mem_filterMap.mp haction
  obtain ⟨c, hc, hr⟩ := List.mem_flatMap.mp hr
  refine ⟨c, moment, hmade c hc, List.mem_filterMap.mpr ⟨r, ?_, hmoment⟩⟩
  split at hr
  · exact hr
  · cases hr

/-- The hooks that a tag's calls asked for change its entity. -/
theorem HooksRun.changed {tag : String} {kind : TagKind E D}
    {moment : Moment} {binding calls : List (Call E)} {e left : E}
    (hmade : ∀ c ∈ binding, c.Made setting)
    (h : HooksRun tag moment (registered binding moment) e calls left) :
    ReflTransGen (Change setting kind) e left := by
  rw [h.left_eq]
  exact change_hooked (asked_of_registered hmade moment) e

/-- Running the hooks of a tag at a moment calls those that its binding
calls asked for. -/
theorem runHooks_makes {tag : String} {kind : TagKind E D}
    {binding : List (Call E)} {e : E} {hooks : Hooks E}
    {partHooks : List (Hooks E)}
    (h : Tracked setting tag kind binding e hooks partHooks)
    (moment : Moment) :
    (runHooks tag moment e hooks partHooks).Makes (Call.Made setting)
      (fun left calls =>
        HooksRun tag moment (registered binding moment) e calls left)
      fun _ => False := by
  have hrun := hooksRun tag moment (registered binding moment) e
  have hparts := h.partActions_eq moment
  unfold runHooks
  rw [h.actions_eq moment]
  split
  · next hnone =>
    rw [hookCalls, hooked, withActedParts, hnone] at hrun
    refine Makes.bind (P := fun a calls => a = e ∧ calls = [])
      (.pure ⟨rfl, rfl⟩) ?_ fun _ h => h
    intro e' calls _ hdone
    obtain ⟨rfl, rfl⟩ := hdone
    refine (runActions_makes ..).mono ?_ fun _ h => h
    intro left calls _ hdone
    obtain ⟨rfl, rfl⟩ := hdone
    exact hrun
  · next parts hsome =>
    rw [hookCalls, hooked, withActedParts, hsome, Option.getD_some]
      at hrun
    rw [partCount, hsome, Option.getD_some, List.range_eq_range'] at hparts
    rw [map_eq_pure_bind]
    refine Makes.bind (P := fun a calls =>
        a = Entity.withComponents e
            (actedParts (registered binding moment) 0 parts)
          ∧ calls = partCalls tag moment (registered binding moment) 0
            parts) ?_ ?_ fun _ h => h
    · refine (runPartHooks_makes tag moment _ 0 parts partHooks
        hparts).bind ?_ fun _ h => h
      intro parts' calls _ hdone
      obtain ⟨rfl, rfl⟩ := hdone
      exact .pure ⟨rfl, by rw [List.append_nil]⟩
    · intro e' calls _ hdone
      obtain ⟨rfl, rfl⟩ := hdone
      refine (runActions_makes ..).mono ?_ fun _ h => h
      intro left calls _ hdone
      obtain ⟨rfl, rfl⟩ := hdone
      exact hrun

-- ============================================================== opening

/-- Where an opening breaks off: at once, for want of a kind, or with an
opening to go on with that leaves an entity which has, and keeps, all that
something was asked for on. -/
inductive OpeningBegins (setting : Setting E D) (name : String)
    (attributes : List Attribute) : List (Call E) → Prop
  | unknown (hkind : setting.registry.kind? name = none) :
      OpeningBegins setting name attributes []
  | known {kind : TagKind E D} {binding calls : List (Call E)}
      (hkind : setting.registry.kind? name = some kind)
      (hbegun : Begins (fun whole opened =>
        OpeningCalls setting name kind attributes binding whole opened
          ∧ StaysIn setting kind binding opened) calls) :
      OpeningBegins setting name attributes calls

/-- Before anything is bound, an opening goes on without binding. -/
theorem OpeningBegins.unbound {name : String} {kind : TagKind E D}
    {attributes : List Attribute} {calls : List (Call E)}
    (hkind : setting.registry.kind? name = some kind)
    (hbegun : Begins (MakingCalls setting name kind attributes) calls) :
    OpeningBegins setting name attributes calls := by
  have hopening : Begins (fun whole opened =>
      OpeningCalls setting name kind attributes [] whole opened
        ∧ StaysIn setting kind [] opened) calls := by
    refine hbegun.before fun making e hmaking => ?_
    obtain ⟨rest, opened, hopening⟩ := hmaking.exists_opening
    exact ⟨rest, opened, hopening, .nil opened⟩
  exact .known hkind hopening

/-- Opening a tag makes the calls of an opening, or begins to. -/
theorem openTag_makes (hfixed : FixedParts setting)
    (parent : Option String) (name : String) (attributes : List Attribute)
    (line : Nat) :
    (openTag setting parent name attributes line).Makes (Call.Made setting)
      (fun opened calls => opened.name = name ∧ ∃ binding,
        OpeningCalls setting name opened.kind attributes binding calls
            opened.entity
          ∧ Tracked setting name opened.kind binding opened.entity
            opened.hooks opened.partHooks)
      (OpeningBegins setting name attributes) := by
  unfold openTag
  split
  · next hnone => exact .fail rfl (.unknown hnone)
  · next kind hkind =>
    refine .record ?_
    refine (buildAttributes_makes hkind kind.newDraft attributes).result.bind
      (fun r building _ hdone => ?_) fun building hbegun => ?_
    · obtain ⟨draft, taken⟩ := r
      obtain ⟨hbuilt, hbuilding⟩ := hdone
      refine (instantiate_makes hkind draft).result.bind
        (fun e making _ hdone => ?_) fun making hbegun => ?_
      · obtain ⟨hmade, hmaking⟩ := hdone
        have hreached : Reached setting name kind e :=
          .of_make hkind hbuilt hmade
        have hmakes := MakingCalls.intro hbuilding hmaking
        refine (bindAttributes_makes hfixed hreached attributes taken).bind
          (fun r binding _ hdone => ?_) fun binding hbegun => ?_
        · obtain ⟨b, partHooks⟩ := r
          obtain ⟨hbinding, htracked⟩ := hdone
          refine (runHooks_makes htracked .create).bind
            (fun opened hooks _ hhooks => .pure ⟨rfl, binding, ?_, ?_⟩)
            fun _ h => h.elim
          · rw [List.append_nil, ← List.append_assoc, ← List.append_assoc]
            exact .intro hmakes hbinding htracked.carries.bindIn hhooks
          · exact htracked.changes hfixed (hhooks.changed htracked.made)
        · obtain ⟨left, hbinding, hcarries⟩ := hbegun
          have hhooks :=
            hooksRun name .create (registered binding .create) left
          have hopening :=
            OpeningCalls.intro hmakes hbinding hcarries.bindIn hhooks
          rw [List.append_assoc building making binding] at hopening
          exact .known hkind ⟨_, _, hopening,
            (hcarries.staysIn hfixed).changes
              (hhooks.changed hbinding.made)⟩
      · exact .unbound hkind (hbegun.behind building fun _ e h =>
          ⟨e, .intro hbuilding h⟩)
    · obtain ⟨draft, hbuilding⟩ := hbegun
      obtain ⟨making, e, hmaking⟩ :=
        exists_instantiates (E := E) name kind draft
      exact .unbound hkind ⟨making, e, .intro hbuilding hmaking⟩

-- ================================================================= body

/-- The calls take the entity of an opened tag from what it is to what
it is in the other, which is the same tag otherwise. -/
def Fills (setting : Setting E D) (R : E → List (Call E) → E → Prop)
    (tag tag' : OpenedTag E D) (calls : List (Call E)) : Prop :=
  ∃ left, tag' = { tag with entity := left } ∧ R tag.entity calls left
    ∧ ReflTransGen (Change setting tag.kind) tag.entity left

/-- The calls begin to do that. -/
def BeginsToFill (setting : Setting E D)
    (R : E → List (Call E) → E → Prop) (tag : OpenedTag E D)
    (calls : List (Call E)) : Prop :=
  Begins (fun whole left => R tag.entity whole left
    ∧ ReflTransGen (Change setting tag.kind) tag.entity left) calls

/-- One call that is known to take an entity to another. -/
def Single (R : E → Call E → E → Prop) (e : E) (calls : List (Call E))
    (left : E) : Prop :=
  ∃ c, calls = [c] ∧ R e c left

section

variable {tag : OpenedTag E D}
  (hkind : setting.registry.kind? tag.name = some tag.kind)

include hkind

theorem placeLine_makes (line : String) :
    (placeLine tag line).Makes (Call.Made setting)
      (Fills setting (Single (PlacesLine tag.name tag.kind line)) tag)
      (BeginsToFill setting (Single (PlacesLine tag.name tag.kind line))
        tag) := by
  unfold placeLine
  split
  · next nodes hnodes =>
    exact .silent (.lineNode tag.name line)
      (.pure ⟨_, rfl, ⟨_, rfl, .node hnodes⟩, .single (.node _ hnodes)⟩)
  · next hnodes =>
    exact .call _ (.line line tag.entity hkind) ⟨rfl, rfl, rfl, rfl⟩
      (fun _ _ => rfl)
      (fun _ hok => .pure ⟨_, rfl,
        ⟨_, rfl, .byKind hnodes (Reply.left_state _)⟩,
        .single (.line hok)⟩)
      fun _ herror => .whole
        ⟨⟨_, rfl, .byKind hnodes (Reply.left_of_error herror _)⟩, .refl⟩

theorem placeLines_makes (lines : List String) :
    (lines.foldlM placeLine tag).Makes (Call.Made setting)
      (Fills setting (LineCalls tag.name tag.kind lines) tag)
      (BeginsToFill setting (LineCalls tag.name tag.kind lines) tag) := by
  induction lines generalizing tag with
  | nil => exact .pure ⟨tag.entity, rfl, .nil tag.entity, .refl⟩
  | cons line lines ih =>
      rw [List.foldlM_cons]
      refine (placeLine_makes hkind line).bind ?_ ?_
      · intro tag' calls _ hdone
        obtain ⟨between, rfl, ⟨c, rfl, hline⟩, hfirst⟩ := hdone
        refine (@ih { tag with entity := between } hkind).mono ?_ ?_
        · intro tag'' rest _ hdone
          obtain ⟨left, rfl, hlines, hrest⟩ := hdone
          exact ⟨left, rfl, .cons hline hlines, hfirst.trans hrest⟩
        · intro rest hbegun
          exact hbegun.behind [c] fun rest left h =>
            ⟨left, .cons hline h.1, hfirst.trans h.2⟩
      · intro calls hbegun
        refine hbegun.before fun whole between hdone => ?_
        obtain ⟨⟨c, rfl, hline⟩, hfirst⟩ := hdone
        obtain ⟨rest, left, hlines, hrest⟩ :=
          exists_lineCalls setting tag.name tag.kind lines between
        exact ⟨rest, left, .cons hline hlines, hfirst.trans hrest⟩

theorem placeChild_makes (childTag : String) (child : E) :
    (placeChild tag childTag child).Makes (Call.Made setting)
      (Fills setting
        (Single (PlacesChild tag.name tag.kind childTag child)) tag)
      (BeginsToFill setting
        (Single (PlacesChild tag.name tag.kind childTag child)) tag) := by
  unfold placeChild
  dsimp only
  split
  · next hself =>
    exact .record (.call _ (.attaching tag.name childTag child tag.entity)
      ⟨rfl, rfl, rfl, rfl⟩ (fun _ _ => rfl)
      (fun _ hok => .pure ⟨_, rfl,
        ⟨_, rfl, .attached hself (Reply.left_state _)⟩,
        .single (.attached hself hok)⟩)
      fun _ herror => .whole
        ⟨⟨_, rfl, .attached hself (Reply.left_of_error herror _)⟩, .refl⟩)
  · next hself =>
    rw [Bool.not_eq_true] at hself
    split
    · next nodes hnodes =>
      exact .record (.silent (.childNode tag.name childTag)
        (.pure ⟨_, rfl, ⟨_, rfl, .node hself hnodes⟩,
          .single (.node _ hnodes)⟩))
    · next hnodes =>
      exact .record (.call _ (.child childTag child tag.entity hkind)
        ⟨rfl, rfl, rfl, rfl⟩ (fun _ _ => rfl)
        (fun _ hok => .pure ⟨_, rfl,
          ⟨_, rfl, .byKind hself hnodes (Reply.left_state _)⟩,
          .single (.child hok)⟩)
        fun _ herror => .whole ⟨⟨_, rfl,
          .byKind hself hnodes (Reply.left_of_error herror _)⟩, .refl⟩)

end

-- ============================================================== closing

/-- Closing a tag makes the calls of a closing, or begins to. -/
theorem closeTag_makes (hfixed : FixedParts setting)
    (tag : OpenedTag E D) {binding : List (Call E)}
    (h : Tracked setting tag.name tag.kind binding tag.entity tag.hooks
      tag.partHooks) :
    (closeTag tag).Makes (Call.Made setting)
      (fun e calls =>
        ClosingCalls tag.name tag.kind binding tag.entity calls e)
      (Begins (ClosingCalls tag.name tag.kind binding tag.entity)) := by
  unfold closeTag
  refine .record (.call _ (.close tag.entity h.carries.reached.kind_eq)
    ⟨rfl, rfl, rfl, rfl⟩ (fun _ _ => rfl) (fun _ hok => ?_)
    fun _ herror => ?_)
  · have hclosed := h.changes hfixed (.single (.closed hok))
    refine (runHooks_makes hclosed .close).mono ?_ fun _ h => h.elim
    intro e hooks _ hhooks
    exact .intro (Reply.left_state _) hclosed.carries.bindIn hhooks
  · exact ⟨_, _, .intro (Reply.left_of_error herror tag.entity)
      h.carries.bindIn (hooksRun ..)⟩

-- ========================================================= whole elements

mutual

/-- Building an element makes the calls of its sequence, or begins to. -/
theorem element_makes (hfixed : FixedParts setting)
    (parent : Option String) : (root : ElementOf Content) →
    (element setting parent root).Makes (Call.Made setting)
      (fun e calls => ElementCalls setting root calls e)
      (Begins (ElementCalls setting root))
  | ⟨name, attributes, content, line⟩ => by
    unfold element
    refine (openTag_makes hfixed parent name attributes line).bind ?_ ?_
    · intro tag opening _ hdone
      obtain ⟨rfl, binding, hopening, htracked⟩ := hdone
      have hkind := htracked.carries.reached.kind_eq
      refine (body_makes hfixed content tag hkind).bind ?_ ?_
      · intro tag' body _ hdone
        obtain ⟨filled, rfl, hbody, hchange⟩ := hdone
        refine (closeTag_makes hfixed { tag with entity := filled }
          (htracked.changes hfixed hchange)).mono ?_ ?_
        · intro e closing _ hclosing
          rw [← List.append_assoc]
          exact .known hkind hopening hbody hclosing
        · intro closing hbegun
          rw [← List.append_assoc]
          exact hbegun.behind (opening ++ body) fun _ e hclosing =>
            ⟨e, .known hkind hopening hbody hclosing⟩
      · intro body hbegun
        obtain ⟨rest, filled, hbody, hchange⟩ := hbegun
        have hstays :=
          (htracked.changes hfixed hchange).carries.staysIn hfixed
        obtain ⟨closing, e, hclosing⟩ := hstays.exists_closing tag.name
        refine ⟨rest ++ closing, e, ?_⟩
        rw [← List.append_assoc, List.append_assoc opening body rest]
        exact .known hkind hopening hbody hclosing
    · intro opening hbegun
      cases hbegun with
      | unknown hkind =>
          exact ⟨[.silent name .instantiate], Entity.textLeaf "",
            .unknown hkind rfl rfl⟩
      | @known kind binding calls hkind hbegun =>
          refine hbegun.before fun whole opened hdone => ?_
          obtain ⟨hopening, hstays⟩ := hdone
          obtain ⟨body, filled, hbody, hchange⟩ :=
            exists_bodyCalls setting name kind content opened
          obtain ⟨closing, e, hclosing⟩ :=
            (hstays.changes hchange).exists_closing name
          refine ⟨body ++ closing, e, ?_⟩
          rw [← List.append_assoc]
          exact .known hkind hopening hbody hclosing

/-- Filling a tag makes the calls for its body, or begins to. -/
theorem body_makes (hfixed : FixedParts setting) :
    (content : List Content) → (tag : OpenedTag E D) →
    setting.registry.kind? tag.name = some tag.kind →
    (body setting content tag).Makes (Call.Made setting)
      (Fills setting (BodyCalls setting tag.name tag.kind content) tag)
      (BeginsToFill setting (BodyCalls setting tag.name tag.kind content)
        tag)
  | [], tag, _ =>
    .pure ⟨tag.entity, rfl, .nil tag.name tag.kind tag.entity, .refl⟩
  | c :: content, tag, hkind => by
    unfold body
    refine (item_makes hfixed c tag hkind).bind ?_ ?_
    · intro tag' first _ hdone
      obtain ⟨between, rfl, hfirst, hchange⟩ := hdone
      refine (body_makes hfixed content { tag with entity := between }
        hkind).mono ?_ ?_
      · intro tag'' rest _ hdone
        obtain ⟨left, rfl, hrest, hchange'⟩ := hdone
        exact ⟨left, rfl, .cons hfirst hrest, hchange.trans hchange'⟩
      · intro rest hbegun
        exact hbegun.behind first fun rest left h =>
          ⟨left, .cons hfirst h.1, hchange.trans h.2⟩
    · intro first hbegun
      refine hbegun.before fun whole between hdone => ?_
      obtain ⟨hfirst, hchange⟩ := hdone
      obtain ⟨rest, left, hrest, hchange'⟩ :=
        exists_bodyCalls setting tag.name tag.kind content between
      exact ⟨rest, left, .cons hfirst hrest, hchange.trans hchange'⟩

theorem item_makes (hfixed : FixedParts setting) : (c : Content) →
    (tag : OpenedTag E D) →
    setting.registry.kind? tag.name = some tag.kind →
    (item setting c tag).Makes (Call.Made setting)
      (Fills setting (ItemCalls setting tag.name tag.kind c) tag)
      (BeginsToFill setting (ItemCalls setting tag.name tag.kind c) tag)
  | .text run, tag, hkind => by
    unfold item
    refine (placeLines_makes hkind (Text.lines run)).mono ?_ ?_
    · intro tag' calls _ hdone
      obtain ⟨left, rfl, hlines, hchange⟩ := hdone
      exact ⟨left, rfl, .text hlines, hchange⟩
    · intro calls hbegun
      obtain ⟨rest, left, hlines, hchange⟩ := hbegun
      exact ⟨rest, left, .text hlines, hchange⟩
  | .element child, tag, hkind => by
    unfold item
    refine (element_makes hfixed (some tag.name) child).bind ?_ ?_
    · intro built calls _ hchild
      refine (placeChild_makes hkind child.name built).mono ?_ ?_
      · intro tag' placing _ hdone
        obtain ⟨left, rfl, ⟨c, rfl, hplacement⟩, hchange⟩ := hdone
        exact ⟨left, rfl, .element hchild hplacement, hchange⟩
      · intro placing hbegun
        refine hbegun.behind calls fun whole left hdone => ?_
        obtain ⟨⟨c, rfl, hplacement⟩, hchange⟩ := hdone
        exact ⟨left, .element hchild hplacement, hchange⟩
    · intro calls hbegun
      refine hbegun.before fun whole built hchild => ?_
      obtain ⟨c, left, hplacement, hchange⟩ :=
        exists_placesChild setting tag.name tag.kind child.name built
          tag.entity
      exact ⟨[c], left, .element hchild hplacement, hchange⟩

end

/-- Building a document makes the calls of its elements, one after the
other, or begins to. -/
theorem document_makes (hfixed : FixedParts setting) (d : Document) :
    (document setting d).Makes (Call.Made setting)
      (fun entities calls => RootsCalls setting d.roots calls entities)
      (Begins (RootsCalls setting d.roots)) := by
  unfold document
  induction d.roots with
  | nil => exact .pure .nil
  | cons root roots ih =>
      rw [List.mapM_cons]
      refine (element_makes hfixed none root).bind ?_ ?_
      · intro e first _ hfirst
        refine ih.bind (fun entities rest _ hrest => .pure ?_) ?_
        · rw [List.append_nil]
          exact .cons hfirst hrest
        · intro rest hbegun
          exact hbegun.behind first fun _ entities hrest =>
            ⟨e :: entities, .cons hfirst hrest⟩
      · intro first hbegun
        refine hbegun.before fun whole e hfirst => ?_
        obtain ⟨rest, entities, hrest⟩ := exists_rootsCalls setting roots
        exact ⟨rest, e :: entities, .cons hfirst hrest⟩

/-- The calls are those of a build of the document. When the build
succeeds they are a sequence that comes to the entities that it answers
with, and none of them failed. When it fails they are the beginning of
such a sequence, and if it was a call that failed, it is the last one. -/
structure CallsOf (setting : Setting E D) (d : Document)
    (calls : List (Call E)) : Prop where
  told : Told calls (document setting d).events
  made : ∀ c ∈ calls, c.Made setting
  ends : CallsEnd calls (document setting d).result
  whole : ∀ entities, (document setting d).result = .ok entities →
    RootsCalls setting d.roots calls entities
  begun : ∀ e, (document setting d).result = .error e →
    ∃ rest entities, RootsCalls setting d.roots (calls ++ rest) entities

/-- The calls of a build are a well-bracketed sequence or the beginning
of one, if no change takes components away from an entity or adds to
them. -/
theorem document_lifecycle (setting : Setting E D)
    (hfixed : FixedParts setting) (d : Document) :
    ∃ calls : List (Call E), CallsOf setting d calls := by
  obtain ⟨calls, htold, hmade, hend, hok, herror⟩ :=
    (document_makes hfixed d).exists_calls
  exact ⟨calls, htold, hmade, hend, hok, herror⟩

/-- The step that an event marks, with its tag. -/
def mark? : Event → Option (String × Step)
  | .step tag step => some (tag, step)
  | .entry _ | .ignored _ _ _ => none

/-- The line that an event adds to the journal. -/
def journalLine? : Event → Option String
  | .entry (.journal text) => some text
  | .entry (.record _ _ _) | .entry (.note _) | .step _ _
  | .ignored _ _ _ => none

/-- A widget with a panel in it. The widget's attributes ask for two
actions at its creation; the panel's ask for one each on the panel and on
its first component, at its creation and at its closing. -/
def hookedWidget : ElementOf Content where
  name := "widget"
  attributes := [⟨"part_create", "second"⟩, ⟨"on_create", "first"⟩,
    ⟨"on_close", "second"⟩]
  body := [.text "one", .element ⟨"panel", [⟨"on_create", "second"⟩,
    ⟨"part_create", "first"⟩, ⟨"part_close", "second"⟩,
    ⟨"on_close", "first"⟩], [], 2⟩]
  line := 1

/-- Its calls: the actions of a moment run in the order in which they
were asked for, and a component's before the panel's own. -/
theorem document_lifecycle_panel :
    let run := document Scenario.twoMarks ⟨[hookedWidget]⟩
    FixedParts Scenario.twoMarks
      ∧ (∃ calls, CallsOf Scenario.twoMarks ⟨[hookedWidget]⟩ calls
        ∧ calls.map (fun c => (c.tag, c.step)) =
          [("widget", .instantiate), ("widget", .finish),
            ("widget", .binding .whole "widget" "part_create" "second"),
            ("widget", .binding .whole "entity" "on_create" "first"),
            ("widget", .binding .whole "entity" "on_close" "second"),
            ("widget", .hook .create .whole 0),
            ("widget", .hook .create .whole 1),
            ("widget", .line .byKind "one"),
            ("panel", .instantiate), ("panel", .finish),
            ("panel", .binding .whole "entity" "on_create" "second"),
            ("panel", .binding .whole "entity" "on_close" "first"),
            ("panel",
              .binding (.component 0) "widget" "part_create" "first"),
            ("panel",
              .binding (.component 0) "widget" "part_close" "second"),
            ("panel", .hook .create (.component 0) 0),
            ("panel", .hook .create .whole 0),
            ("panel", .close),
            ("panel", .hook .close (.component 0) 0),
            ("panel", .hook .close .whole 0),
            ("widget", .child .byKind "panel"),
            ("widget", .close),
            ("widget", .hook .close .whole 0)])
      ∧ run.result.isOk = true
      ∧ run.events.filterMap journalLine? =
        ["bind part_create=second in <widget>",
          "action second on widget default",
          "action first on widget default", "text one",
          "bind part_create=first in <panel>",
          "action first on widget first", "action second on panel ",
          "panel hook", "action second on widget first",
          "action first on panel ", "valid child panel",
          "action second on widget default"] := by
  intro run
  have hfixed : FixedParts Scenario.twoMarks :=
    Scenario.fixedParts Scenario.twoMarks_uses Scenario.twoMarks_actions
  obtain ⟨calls, hcalls⟩ :=
    document_lifecycle Scenario.twoMarks hfixed ⟨[hookedWidget]⟩
  have hmarks : run.events.filterMap mark?
      = calls.map fun c => (c.tag, c.step) := by
    rw [hcalls.told.filterMap_eq (fun _ => rfl) fun _ _ _ => rfl]
    exact congrFun List.filterMap_eq_map' calls
  refine ⟨hfixed, ⟨calls, hcalls, ?_⟩, by decide +kernel,
    by decide +kernel⟩
  rw [← hmarks]
  decide +kernel

end EntityMarkup.Build
