/-
The sequences of calls that build tags. What is called for a tag stands
in one piece: its opening, its body in document order, its closing. The
calls for a child tag stand in one piece inside the body of its parent,
right before the child's placement.

A sequence goes from one entity to another. Each call is one on the draft
or the entity that the call before it left, so what the calls report and
ask for is what the handlers come to there. Only what a failed call
leaves is open, since nothing is called behind it.

The hooks that run at a moment are the actions that the binding calls of
the same tag have pushed onto the record of the entity, or of the
component, that they bind (`registered`). They run slot by slot, the
components' before the entity's own, each once and in the order in which
they were pushed (`HooksRun`).
-/
import EntityMarkup.Proofs.Build.Change

namespace EntityMarkup.Build

-- =============================================================== chains

section

variable {E σ : Type} {R : σ → Call E → σ → Prop} {s t u : σ}
  {calls rest : List (Call E)}

/-- Calls in a row, each from the state that the one before it left. -/
inductive Chain (R : σ → Call E → σ → Prop) :
    σ → List (Call E) → σ → Prop
  | nil (s : σ) : Chain R s [] s
  | cons {s t u : σ} {c : Call E} {rest : List (Call E)} (h : R s c t)
      (hrest : Chain R t rest u) : Chain R s (c :: rest) u

theorem Chain.append (h : Chain R s calls t) (hrest : Chain R t rest u) :
    Chain R s (calls ++ rest) u := by
  induction h with
  | nil => exact hrest
  | cons h _ ih => exact .cons h (ih hrest)

theorem Chain.concat {c : Call E} (h : Chain R s calls t) (hc : R t c u) :
    Chain R s (calls ++ [c]) u :=
  h.append (.cons hc (.nil u))

/-- What holds of each call that may stand in a chain holds of all. -/
theorem Chain.forall_mem {P : Call E → Prop} (h : Chain R s calls t)
    (hP : ∀ s c t, R s c t → P c) : ∀ c ∈ calls, P c := by
  induction h with
  | nil => exact fun c hc => absurd hc List.not_mem_nil
  | cons h _ ih => exact List.forall_mem_cons.mpr ⟨hP _ _ _ h, ih⟩

end

variable {E : Type}

-- ================================================================ hooks

/-- What binding calls asked for on one of the tag's entities, in
order. -/
def requested (binding : List (Call E)) (slot : Slot) : List (Request E) :=
  binding.flatMap fun c =>
    if c.step.bound? = some slot then c.asked else []

/-- The actions that they asked to have run at a moment. -/
def registered (binding : List (Call E)) (moment : Moment) (slot : Slot) :
    List (Action E) :=
  actionsAt moment (requested binding slot)

/-- The calls of actions from an index on, each on what the one before it
made of the entity. -/
def actionCalls (tag : String) (moment : Moment) (slot : Slot) :
    Nat → List (Action E) → E → List (Call E)
  | _, [], _ => []
  | index, action :: rest, e =>
    .ofAction tag moment slot index action e
      :: actionCalls tag moment slot (index + 1) rest (action e).2

/-- What actions make of an entity, one after the other. -/
def acted (actions : List (Action E)) (e : E) : E :=
  actions.foldl (fun e action => (action e).2) e

/-- The calls of the hooks of components, from an index on. -/
def partCalls (tag : String) (moment : Moment)
    (hooks : Slot → List (Action E)) : Nat → List E → List (Call E)
  | _, [] => []
  | index, part :: parts =>
    actionCalls tag moment (.component index) 0 (hooks (.component index))
        part
      ++ partCalls tag moment hooks (index + 1) parts

/-- What the hooks of components make of them. -/
def actedParts (hooks : Slot → List (Action E)) : Nat → List E → List E
  | _, [] => []
  | index, part :: parts =>
    acted (hooks (.component index)) part
      :: actedParts hooks (index + 1) parts

theorem actionCalls_steps (tag : String) (moment : Moment) (slot : Slot)
    (index : Nat) (actions : List (Action E)) (e : E) :
    (actionCalls tag moment slot index actions e).map Call.step
      = actions.mapIdx fun i _ => .hook moment slot (index + i) := by
  induction actions generalizing index e with
  | nil => rfl
  | cons action rest ih =>
      rw [actionCalls, List.map_cons, ih, List.mapIdx_cons]
      simp only [Call.ofAction, Nat.add_zero, Nat.add_assoc,
        Nat.add_comm 1]

theorem partCalls_steps (tag : String) (moment : Moment)
    (hooks : Slot → List (Action E)) (index : Nat) (parts : List E) :
    (partCalls tag moment hooks index parts).map Call.step
      = (List.range' index parts.length).flatMap fun i =>
          (hooks (.component i)).mapIdx fun j _ =>
            .hook moment (.component i) j := by
  induction parts generalizing index with
  | nil => rfl
  | cons part parts ih =>
      rw [partCalls, List.map_append, actionCalls_steps, ih,
        List.length_cons, List.range'_succ, List.flatMap_cons]
      simp only [Nat.zero_add]

variable [Entity E]

/-- An entity after the hooks of its components. -/
def withActedParts (hooks : Slot → List (Action E)) (e : E) : E :=
  match Entity.components? e with
  | none => e
  | some parts => Entity.withComponents e (actedParts hooks 0 parts)

/-- The calls of the hooks of an entity at a moment: those of its
components, and then its own. -/
def hookCalls (tag : String) (moment : Moment)
    (hooks : Slot → List (Action E)) (e : E) : List (Call E) :=
  partCalls tag moment hooks 0 ((Entity.components? e).getD [])
    ++ actionCalls tag moment .whole 0 (hooks .whole)
        (withActedParts hooks e)

/-- The hooks of an entity run slot by slot, the components first, and in
each slot in order, each once. -/
theorem hookCalls_steps (tag : String) (moment : Moment)
    (hooks : Slot → List (Action E)) (e : E) :
    (hookCalls tag moment hooks e).map Call.step
      = (slots e).flatMap fun slot =>
          (hooks slot).mapIdx fun i _ => .hook moment slot i := by
  rw [hookCalls, List.map_append, partCalls_steps, actionCalls_steps,
    slots, List.flatMap_append, List.flatMap_map, List.range_eq_range',
    List.flatMap_singleton]
  simp only [Nat.zero_add, partCount]

/-- What the hooks make of the entity: those of the components of them,
and then its own of the whole. -/
def hooked (hooks : Slot → List (Action E)) (e : E) : E :=
  acted (hooks .whole) (withActedParts hooks e)

/-- These calls run the hooks of an entity. They are slot by slot those
of its hooks, the components first, and in each slot in order, each
once. -/
structure HooksRun (tag : String) (moment : Moment)
    (hooks : Slot → List (Action E)) (e : E) (calls : List (Call E))
    (left : E) : Prop where
  calls_eq : calls = hookCalls tag moment hooks e
  steps_eq : calls.map Call.step = (slots e).flatMap fun slot =>
    (hooks slot).mapIdx fun i _ => .hook moment slot i
  left_eq : left = hooked hooks e

theorem hooksRun (tag : String) (moment : Moment)
    (hooks : Slot → List (Action E)) (e : E) :
    HooksRun tag moment hooks e (hookCalls tag moment hooks e)
      (hooked hooks e) :=
  ⟨rfl, hookCalls_steps tag moment hooks e, rfl⟩

-- ============================================================== opening

section

variable {D : Type} [Draft D E]

/-- The call gives one of the attributes to the building handler that
there is for it, on the draft. -/
inductive Builds (setting : Setting E D) (tag : String)
    (kind : TagKind E D) (attributes : List Attribute) :
    D → Call E → D → Prop
  | intro {a : Attribute} {owner : String} {handler : BuildingHandler D}
      {draft left : D} (ha : a ∈ attributes)
      (hfound : setting.registry.building? kind.declaredType a.name
        = some (owner, handler))
      (hleft : (handler a.value draft).Left left) :
      Builds setting tag kind attributes draft
        (.ofReply tag (.building owner a.name a.value)
          (handler a.value draft)) left

/-- The calls that make the entity from a draft: the making, and then the
finishing of what the making left of the draft. -/
inductive Instantiates (tag : String) (kind : TagKind E D) :
    D → List (Call E) → E → Prop
  | intro {draft left finished : D} {made e : E}
      (hleft : (kind.instantiate draft).Left left)
      (hmade : ∀ e, (kind.instantiate draft).result = .ok e → made = e)
      (hfinished : (Draft.finish (left, made)).Left (finished, e)) :
      Instantiates tag kind draft
        [.ofReply tag .instantiate (kind.instantiate draft),
          .ofReply tag .finish (Draft.finish (left, made))] e

/-- The calls that come to the entity of a tag: the building handlers,
from the draft that the kind starts with, and the making. -/
inductive MakingCalls (setting : Setting E D) (tag : String)
    (kind : TagKind E D) (attributes : List Attribute) :
    List (Call E) → E → Prop
  | intro {building making : List (Call E)} {draft : D} {e : E}
      (hbuilding : Chain (Builds setting tag kind attributes)
        kind.newDraft building draft)
      (hmaking : Instantiates tag kind draft making e) :
      MakingCalls setting tag kind attributes (building ++ making) e

/-- The call binds one of the attributes in a slot, to the entity that is
there, by the handler that there is for its type. The record that the
handler leaves of an empty one is what the requests make of it that the
call tells of. -/
inductive Binds (setting : Setting E D) (tag : String)
    (attributes : List Attribute) (slot : Slot) : E → Call E → E → Prop
  | intro {a : Attribute} {owner : String} {handler : BindingHandler E}
      {e left : E} {c : Call E} (ha : a ∈ attributes)
      (hfound : setting.registry.binding? (Entity.typeName e) a.name
        = some (owner, handler))
      (hcall : c
        = .ofBinding setting tag slot owner a.name a.value handler e)
      (hpushed : (handler ⟨tag, setting.actions⟩ a.value
        ⟨e, .empty⟩).state.hooks = Hooks.empty.pushAll c.asked)
      (hleft : c.failure = none → left = (handler ⟨tag, setting.actions⟩
        a.value ⟨e, .empty⟩).state.entity) :
      Binds setting tag attributes slot e c left

/-- Components are bound one after the other, each in its slot. -/
inductive PartCalls (setting : Setting E D) (tag : String)
    (attributes : List Attribute) :
    Nat → List E → List (Call E) → List E → Prop
  | nil (index : Nat) : PartCalls setting tag attributes index [] [] []
  | cons {index : Nat} {part part' : E} {parts parts' : List E}
      {first rest : List (Call E)}
      (hfirst : Chain (Binds setting tag attributes (.component index))
        part first part')
      (hrest : PartCalls setting tag attributes (index + 1) parts rest
        parts') :
      PartCalls setting tag attributes index (part :: parts)
        (first ++ rest) (part' :: parts')

/-- Attributes are bound to the entity, and then, if it has components,
to those that this leaves it with. -/
inductive BindsParts (setting : Setting E D) (tag : String)
    (attributes : List Attribute) : E → List (Call E) → E → Prop
  | plain {e bound : E} {calls : List (Call E)}
      (hcalls : Chain (Binds setting tag attributes .whole) e calls
        bound) :
      BindsParts setting tag attributes e calls bound
  | composite {e bound : E} {parts parts' : List E}
      {calls rest : List (Call E)}
      (hcalls : Chain (Binds setting tag attributes .whole) e calls bound)
      (hparts : Entity.components? bound = some parts)
      (hrest : PartCalls setting tag attributes 0 parts rest parts') :
      BindsParts setting tag attributes e (calls ++ rest)
        (Entity.withComponents bound parts')

/-- The calls that bind attributes to an entity: to it and its
components, and once more to it. -/
inductive BindingCalls (setting : Setting E D) (tag : String)
    (attributes : List Attribute) : E → List (Call E) → E → Prop
  | intro {e between bound : E} {early last : List (Call E)}
      (hearly : BindsParts setting tag attributes e early between)
      (hlast : Chain (Binds setting tag attributes .whole) between last
        bound) :
      BindingCalls setting tag attributes e (early ++ last) bound

/-- The calls bind attributes, and in these slots only. -/
def BindIn (among : List Slot) (calls : List (Call E)) : Prop :=
  ∀ c ∈ calls, ∃ slot ∈ among, c.step.bound? = some slot

/-- The calls that open a tag: those that come to its entity, the binding
handlers, and the hooks for creation that these asked for. Nothing was
asked for on a component that the entity has not got when they run. -/
inductive OpeningCalls (setting : Setting E D) (tag : String)
    (kind : TagKind E D) (attributes : List Attribute)
    (binding : List (Call E)) : List (Call E) → E → Prop
  | intro {making hooks : List (Call E)} {e bound opened : E}
      (hmaking : MakingCalls setting tag kind attributes making e)
      (hbinding : BindingCalls setting tag attributes e binding bound)
      (hin : BindIn (slots bound) binding)
      (hhooks : HooksRun tag .create (registered binding .create) bound
        hooks opened) :
      OpeningCalls setting tag kind attributes binding
        (making ++ binding ++ hooks) opened

end

-- ====================================================== body and closing

variable {D : Type}

/-- The call places a line in the entity: as a node in a container of
nodes, else as the kind says. -/
inductive PlacesLine (tag : String) (kind : TagKind E D) (line : String) :
    E → Call E → E → Prop
  | node {e : E} {nodes : List (TreeNode E)}
      (hnodes : Entity.nodes? e = some nodes) :
      PlacesLine tag kind line e (.silent tag (.line .node line))
        (Entity.withNodes e (nodes ++ [TreeNode.leaf line]))
  | byKind {e left : E} (hnodes : Entity.nodes? e = none)
      (hleft : (kind.placeLine line e).Left left) :
      PlacesLine tag kind line e
        (.ofReply tag (.line .byKind line) (kind.placeLine line e)) left

/-- One call for each of the lines. -/
inductive LineCalls (tag : String) (kind : TagKind E D) :
    List String → E → List (Call E) → E → Prop
  | nil (e : E) : LineCalls tag kind [] e [] e
  | cons {line : String} {lines : List String} {e between left : E}
      {c : Call E} {rest : List (Call E)}
      (hline : PlacesLine tag kind line e c between)
      (hrest : LineCalls tag kind lines between rest left) :
      LineCalls tag kind (line :: lines) e (c :: rest) left

/-- The call places the entity of a child tag: it attaches itself,
becomes a node, or goes where the kind says. -/
inductive PlacesChild (tag : String) (kind : TagKind E D)
    (childTag : String) (child : E) : E → Call E → E → Prop
  | attached {e left : E} (hself : Entity.isAttachable child = true)
      (hleft : (Entity.attachTo child e).Left left) :
      PlacesChild tag kind childTag child e
        (.ofReply tag (.child .attached childTag)
          (Entity.attachTo child e)) left
  | node {e : E} {nodes : List (TreeNode E)}
      (hself : Entity.isAttachable child = false)
      (hnodes : Entity.nodes? e = some nodes) :
      PlacesChild tag kind childTag child e
        (.silent tag (.child .node childTag))
        (Entity.withNodes e (nodes ++ [TreeNode.wrap child]))
  | byKind {e left : E} (hself : Entity.isAttachable child = false)
      (hnodes : Entity.nodes? e = none)
      (hleft : (kind.placeChild child e).Left left) :
      PlacesChild tag kind childTag child e
        (.ofReply tag (.child .byKind childTag) (kind.placeChild child e))
        left

/-- The calls that close a tag: the kind's own hook, and the hooks for
closing that its binding handlers asked for. -/
inductive ClosingCalls (tag : String) (kind : TagKind E D)
    (binding : List (Call E)) : E → List (Call E) → E → Prop
  | intro {e closed left : E} {hooks : List (Call E)}
      (hclosed : (kind.onClose e).Left closed)
      (hin : BindIn (slots closed) binding)
      (hhooks : HooksRun tag .close (registered binding .close) closed
        hooks left) :
      ClosingCalls tag kind binding e
        (.ofReply tag .close (kind.onClose e) :: hooks) left

-- ============================================================= elements

variable [Draft D E]

mutual

/-- The calls that build the entity of an element. A tag without a kind
would have to be made like others, by a call that no build can make
(`Call.Made`). -/
inductive ElementCalls (setting : Setting E D) :
    ElementOf Content → List (Call E) → E → Prop
  | known {name : String} {attributes : List Attribute}
      {content : List Content} {line : Nat} {kind : TagKind E D}
      {binding opening body closing : List (Call E)}
      {opened filled e : E}
      (hkind : setting.registry.kind? name = some kind)
      (hopening : OpeningCalls setting name kind attributes binding
        opening opened)
      (hbody : BodyCalls setting name kind content opened body filled)
      (hclosing : ClosingCalls name kind binding filled closing e) :
      ElementCalls setting ⟨name, attributes, content, line⟩
        (opening ++ body ++ closing) e
  | unknown {name : String} {attributes : List Attribute}
      {content : List Content} {line : Nat} {making : Call E} {e : E}
      (hkind : setting.registry.kind? name = none)
      (hname : making.tag = name) (hmaking : making.step = .instantiate) :
      ElementCalls setting ⟨name, attributes, content, line⟩ [making] e

/-- The calls that fill the entity of a tag with the items of its
body. -/
inductive BodyCalls (setting : Setting E D) :
    String → TagKind E D → List Content → E → List (Call E) → E → Prop
  | nil (tag : String) (kind : TagKind E D) (e : E) :
      BodyCalls setting tag kind [] e [] e
  | cons {tag : String} {kind : TagKind E D} {c : Content}
      {content : List Content} {e between left : E}
      {first rest : List (Call E)}
      (hfirst : ItemCalls setting tag kind c e first between)
      (hrest : BodyCalls setting tag kind content between rest left) :
      BodyCalls setting tag kind (c :: content) e (first ++ rest) left

/-- The calls for one item: one for each line of a text, or those for an
element and then the placement of what they built. -/
inductive ItemCalls (setting : Setting E D) :
    String → TagKind E D → Content → E → List (Call E) → E → Prop
  | text {tag : String} {kind : TagKind E D} {run : String} {e left : E}
      {calls : List (Call E)}
      (hlines : LineCalls tag kind (Text.lines run) e calls left) :
      ItemCalls setting tag kind (.text run) e calls left
  | element {tag : String} {kind : TagKind E D} {child : ElementOf Content}
      {calls : List (Call E)} {placement : Call E} {built e left : E}
      (hchild : ElementCalls setting child calls built)
      (hplacement : PlacesChild tag kind child.name built e placement
        left) :
      ItemCalls setting tag kind (.element child) e (calls ++ [placement])
        left

end

/-- The calls that build the outermost elements of a document. -/
inductive RootsCalls (setting : Setting E D) :
    List (ElementOf Content) → List (Call E) → List E → Prop
  | nil : RootsCalls setting [] [] []
  | cons {root : ElementOf Content} {roots : List (ElementOf Content)}
      {first rest : List (Call E)} {e : E} {entities : List E}
      (hfirst : ElementCalls setting root first e)
      (hrest : RootsCalls setting roots rest entities) :
      RootsCalls setting (root :: roots) (first ++ rest) (e :: entities)

end EntityMarkup.Build
