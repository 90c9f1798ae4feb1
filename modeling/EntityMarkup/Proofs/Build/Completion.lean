/-
How a sequence of calls that breaks off can be completed. A failed build
calls nothing behind its failing call, so that its calls are the beginning
of a sequence says that a whole one goes on from there (`Begins`).

A completion calls no building or binding handlers that were not called.
What follows is taken at its word: where it succeeds, the entity is what
it leaves, and where it fails, the entity stays as it is. So a completion
only changes an entity (`Change`) and, where changes keep its components,
leaves it with those that something was asked for on (`StaysIn`).
-/
import EntityMarkup.Proofs.Build.Sequence

namespace EntityMarkup.Build

open Relation (ReflTransGen)

-- =========================================================== beginnings

section

variable {σ τ E : Type} {P : List (Call E) → σ → Prop}
  {Q : List (Call E) → τ → Prop} {calls : List (Call E)}

/-- Some calls behind these complete them. -/
def Begins (P : List (Call E) → σ → Prop) (calls : List (Call E)) : Prop :=
  ∃ rest s, P (calls ++ rest) s

theorem Begins.whole {s : σ} (h : P calls s) : Begins P calls :=
  ⟨[], s, by rw [List.append_nil]; exact h⟩

/-- More may follow, once the calls are complete. -/
theorem Begins.before (h : Begins P calls)
    (hmore : ∀ whole s, P whole s → ∃ more t, Q (whole ++ more) t) :
    Begins Q calls := by
  obtain ⟨rest, s, hP⟩ := h
  obtain ⟨more, t, hQ⟩ := hmore _ s hP
  exact ⟨rest ++ more, t, by rw [← List.append_assoc]; exact hQ⟩

/-- Others may come first. -/
theorem Begins.behind (first : List (Call E)) (h : Begins P calls)
    (hbehind : ∀ rest s, P rest s → ∃ t, Q (first ++ rest) t) :
    Begins Q (first ++ calls) := by
  obtain ⟨rest, s, hP⟩ := h
  obtain ⟨t, hQ⟩ := hbehind _ s hP
  exact ⟨rest, t, by rw [List.append_assoc]; exact hQ⟩

end

/-- After a handler that may fail, the state is one that it may leave, and
one that a change comes to. -/
theorem exists_left {σ : Type} {R : σ → σ → Prop} {reply : Reply σ Unit}
    {s : σ} (h : reply.result = .ok () → R s reply.state) :
    ∃ left, reply.Left left ∧ ReflTransGen R s left := by
  cases hr : reply.result with
  | ok answer => exact ⟨reply.state, reply.left_state, .single (h hr)⟩
  | error cause => exact ⟨s, Reply.left_of_error hr s, .refl⟩

variable {E D : Type} [Entity E] [Draft D E] {setting : Setting E D}
  {tag : String} {kind : TagKind E D}

-- ============================================================== opening

variable (tag kind) in
/-- From every draft there are calls that come to an entity. -/
theorem exists_instantiates (draft : D) :
    ∃ calls e, Instantiates (E := E) tag kind draft calls e := by
  have hmade : ∃ made, ∀ e,
      (kind.instantiate draft).result = .ok e → made = e := by
    cases hr : (kind.instantiate draft).result with
    | ok e =>
        refine ⟨e, fun e' h => ?_⟩
        cases h
        rfl
    | error cause => exact ⟨Entity.textLeaf "", fun e h => by cases h⟩
  obtain ⟨made, hmade⟩ := hmade
  exact ⟨_, _, .intro (Reply.left_state _) hmade (Reply.left_state _)⟩

/-- An entity that nothing is bound to is opened by no more calls. -/
theorem MakingCalls.exists_opening {attributes : List Attribute}
    {making : List (Call E)} {e : E}
    (h : MakingCalls setting tag kind attributes making e) :
    ∃ rest opened, OpeningCalls setting tag kind attributes []
      (making ++ rest) opened := by
  have hopening := OpeningCalls.intro h
    (.intro (.plain (.nil e)) (.nil e)) (by simp [BindIn])
    (hooksRun tag .create (registered [] .create) e)
  simp only [List.append_nil] at hopening
  exact ⟨_, _, hopening⟩

-- ====================================================== body and closing

variable (setting tag kind)

theorem exists_placesLine (line : String) (e : E) :
    ∃ c left, PlacesLine tag kind line e c left
      ∧ ReflTransGen (Change setting kind) e left := by
  cases hnodes : Entity.nodes? e with
  | some nodes => exact ⟨_, _, .node hnodes, .single (.node _ hnodes)⟩
  | none =>
      have hline : (kind.placeLine line e).result = .ok () →
          Change setting kind e (kind.placeLine line e).state :=
        fun hok => .line hok
      obtain ⟨left, hleft, hchange⟩ := exists_left hline
      exact ⟨_, left, .byKind hnodes hleft, hchange⟩

theorem exists_lineCalls (lines : List String) (e : E) :
    ∃ calls left, LineCalls tag kind lines e calls left
      ∧ ReflTransGen (Change setting kind) e left := by
  induction lines generalizing e with
  | nil => exact ⟨[], e, .nil e, .refl⟩
  | cons line lines ih =>
      obtain ⟨c, between, hline, hfirst⟩ :=
        exists_placesLine setting tag kind line e
      obtain ⟨rest, left, hlines, hrest⟩ := ih between
      exact ⟨c :: rest, left, .cons hline hlines, hfirst.trans hrest⟩

theorem exists_placesChild (childTag : String) (child e : E) :
    ∃ c left, PlacesChild tag kind childTag child e c left
      ∧ ReflTransGen (Change setting kind) e left := by
  cases hself : Entity.isAttachable child with
  | true =>
      have hattached : (Entity.attachTo child e).result = .ok () →
          Change setting kind e (Entity.attachTo child e).state :=
        fun hok => .attached hself hok
      obtain ⟨left, hleft, hchange⟩ := exists_left hattached
      exact ⟨_, left, .attached hself hleft, hchange⟩
  | false =>
      cases hnodes : Entity.nodes? e with
      | some nodes =>
          exact ⟨_, _, .node hself hnodes, .single (.node _ hnodes)⟩
      | none =>
          have hplaced : (kind.placeChild child e).result = .ok () →
              Change setting kind e (kind.placeChild child e).state :=
            fun hok => .child hok
          obtain ⟨left, hleft, hchange⟩ := exists_left hplaced
          exact ⟨_, left, .byKind hself hnodes hleft, hchange⟩

variable {setting tag kind}

/-- The calls bind attributes in the entity's slots, and however it is
changed, they still do. -/
def StaysIn (setting : Setting E D) (kind : TagKind E D)
    (binding : List (Call E)) (e : E) : Prop :=
  ∀ e', ReflTransGen (Change setting kind) e e' →
    BindIn (slots e') binding

theorem StaysIn.nil (e : E) : StaysIn setting kind [] e :=
  fun _ _ => by simp [BindIn]

theorem StaysIn.changes {binding : List (Call E)} {e e' : E}
    (h : StaysIn setting kind binding e)
    (hchange : ReflTransGen (Change setting kind) e e') :
    StaysIn setting kind binding e' :=
  fun e'' h' => h e'' (hchange.trans h')

variable (tag) in
theorem StaysIn.exists_closing {binding : List (Call E)} {e : E}
    (h : StaysIn setting kind binding e) :
    ∃ calls left, ClosingCalls tag kind binding e calls left := by
  have hclose : (kind.onClose e).result = .ok () →
      Change setting kind e (kind.onClose e).state :=
    fun hok => .closed hok
  obtain ⟨closed, hclosed, hchange⟩ := exists_left hclose
  exact ⟨_, _, .intro hclosed (h closed hchange) (hooksRun ..)⟩

-- ============================================================= elements

variable (setting)

mutual

/-- There are calls that build an element. -/
theorem exists_elementCalls : (root : ElementOf Content) →
    ∃ calls e, ElementCalls setting root calls e
  | ⟨name, attributes, content, line⟩ => by
    cases hkind : setting.registry.kind? name with
    | none =>
        exact ⟨[.silent name .instantiate], Entity.textLeaf "",
          .unknown hkind rfl rfl⟩
    | some kind =>
        obtain ⟨making, e, hmaking⟩ :=
          exists_instantiates (E := E) name kind kind.newDraft
        have hmakes : MakingCalls setting name kind attributes
            ([] ++ making) e := .intro (.nil kind.newDraft) hmaking
        obtain ⟨rest, opened, hopening⟩ := hmakes.exists_opening
        obtain ⟨body, filled, hbody, -⟩ :=
          exists_bodyCalls name kind content opened
        have hstays : StaysIn setting kind [] filled := .nil filled
        obtain ⟨closing, e, hclosing⟩ := hstays.exists_closing name
        exact ⟨_, e, .known hkind hopening hbody hclosing⟩

theorem exists_bodyCalls (tag : String) (kind : TagKind E D) :
    (content : List Content) → (e : E) →
    ∃ calls left, BodyCalls setting tag kind content e calls left
      ∧ ReflTransGen (Change setting kind) e left
  | [], e => ⟨[], e, .nil tag kind e, .refl⟩
  | c :: content, e => by
    obtain ⟨first, between, hfirst, hchange⟩ :=
      exists_itemCalls tag kind c e
    obtain ⟨rest, left, hrest, hchange'⟩ :=
      exists_bodyCalls tag kind content between
    exact ⟨first ++ rest, left, .cons hfirst hrest,
      hchange.trans hchange'⟩

theorem exists_itemCalls (tag : String) (kind : TagKind E D) :
    (c : Content) → (e : E) →
    ∃ calls left, ItemCalls setting tag kind c e calls left
      ∧ ReflTransGen (Change setting kind) e left
  | .text run, e => by
    obtain ⟨calls, left, hlines, hchange⟩ :=
      exists_lineCalls setting tag kind (Text.lines run) e
    exact ⟨calls, left, .text hlines, hchange⟩
  | .element child, e => by
    obtain ⟨calls, built, hchild⟩ := exists_elementCalls child
    obtain ⟨c, left, hplacement, hchange⟩ :=
      exists_placesChild setting tag kind child.name built e
    exact ⟨calls ++ [c], left, .element hchild hplacement, hchange⟩

end

theorem exists_rootsCalls (roots : List (ElementOf Content)) :
    ∃ calls entities, RootsCalls setting roots calls entities := by
  induction roots with
  | nil => exact ⟨[], [], .nil⟩
  | cons root roots ih =>
      obtain ⟨first, e, hfirst⟩ := exists_elementCalls setting root
      obtain ⟨rest, entities, hrest⟩ := ih
      exact ⟨first ++ rest, e :: entities, .cons hfirst hrest⟩

end EntityMarkup.Build
