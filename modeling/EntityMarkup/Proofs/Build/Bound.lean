/-
What is called before the hooks of a tag run, and which hooks are left to
run. Attributes are offered to building handlers, the entity is made, and
what is left is bound to it and its components. Behind these calls, the
records of the entity and of its components are what the requests of the
binding calls make of empty ones, and there is a component for each record
(`Tracked`). Changes of the entity keep it that way (`Tracked.changes`).
-/
import EntityMarkup.Proofs.Build.Completion

namespace EntityMarkup.Build

open Relation (ReflTransGen)
open Run (Makes)

variable {E D : Type} [Entity E] [Draft D E] {setting : Setting E D}

-- ============================================================= building

/-- Offering the attributes to building handlers calls them in a row. -/
theorem buildAttributes_makes {tag : String} {kind : TagKind E D}
    (hkind : setting.registry.kind? tag = some kind) (draft : D)
    (attributes : List Attribute) :
    (buildAttributes setting.registry tag kind.declaredType draft
      attributes).Makes (Call.Made setting)
      (fun built calls =>
        Chain (Builds setting tag kind attributes) draft calls built.1)
      fun calls => ∃ built,
        Chain (Builds setting tag kind attributes) draft calls built := by
  refine Makes.foldlM _ _ (.nil draft) fun state a calls ha _ hcalls => ?_
  obtain ⟨built, taken⟩ := state
  unfold buildAttribute
  split
  · exact .pure (by rw [List.append_nil]; exact hcalls)
  · next owner handler hfound =>
    refine .record (.call _ (.building a.value built hkind hfound)
      ⟨rfl, rfl, rfl, rfl⟩ (fun _ _ => rfl) (fun _ _ => .pure ?_)
      fun cause herror => ⟨built, ?_⟩)
    · exact hcalls.concat (.intro ha hfound (Reply.left_state _))
    · exact hcalls.concat
        (.intro ha hfound (Reply.left_of_error herror _))

/-- Making the entity makes two calls, or only the first. -/
theorem instantiate_makes {tag : String} {kind : TagKind E D}
    (hkind : setting.registry.kind? tag = some kind) (draft : D) :
    (instantiate tag kind draft).Makes (Call.Made setting)
      (fun e calls => Instantiates tag kind draft calls e)
      (Begins (Instantiates tag kind draft)) := by
  unfold instantiate
  refine .call _ (.instantiate draft hkind) ⟨rfl, rfl, rfl, rfl⟩
    (fun _ _ => rfl) (fun made hok => ?_) fun cause herror => ?_
  · have hmade : ∀ e, (kind.instantiate draft).result = .ok e →
        made = e := by
      intro e h
      rw [hok] at h
      cases h
      rfl
    exact .call _ (.finish tag _ made) ⟨rfl, rfl, rfl, rfl⟩
      (fun _ _ => rfl)
      (fun _ _ => .pure
        (.intro (Reply.left_state _) hmade (Reply.left_state _)))
      fun _ _ => .whole
        (.intro (Reply.left_state _) hmade (Reply.left_state _))
  · obtain ⟨_, e, hcalls⟩ := exists_instantiates (E := E) tag kind draft
    obtain ⟨hleft, hmade, hfinished⟩ := hcalls
    exact ⟨_, e, .intro hleft hmade hfinished⟩

-- ============================================================== binding

section

omit [Entity E] [Draft D E]

theorem requested_append (a b : List (Call E)) (slot : Slot) :
    requested (a ++ b) slot = requested a slot ++ requested b slot :=
  List.flatMap_append

theorem requested_single {c : Call E} {slot : Slot}
    (h : c.step.bound? = some slot) : requested [c] slot = c.asked := by
  rw [requested, List.flatMap_singleton, if_pos h]

/-- Calls in other slots request nothing in this one. -/
theorem requested_eq_nil {among : List Slot} {calls : List (Call E)}
    {slot : Slot} (h : BindIn among calls) (hslot : slot ∉ among) :
    requested calls slot = [] := by
  rw [requested, List.flatMap_eq_nil_iff]
  intro c hc
  obtain ⟨slot', hmem, hbound⟩ := h c hc
  refine if_neg fun heq => hslot ?_
  rw [hbound] at heq
  cases heq
  exact hmem

theorem BindIn.append {among : List Slot} {a b : List (Call E)}
    (ha : BindIn among a) (hb : BindIn among b) : BindIn among (a ++ b) :=
  List.forall_mem_append.mpr ⟨ha, hb⟩

theorem BindIn.mono {among more : List Slot} {calls : List (Call E)}
    (h : BindIn among calls) (hsub : ∀ slot ∈ among, slot ∈ more) :
    BindIn more calls := by
  intro c hc
  obtain ⟨slot, hmem, hbound⟩ := h c hc
  exact ⟨slot, hsub slot hmem, hbound⟩

end

section

variable {tag : String} {attributes : List Attribute} {slot : Slot}
  {calls : List (Call E)}

omit [Draft D E] in
/-- A pass is bound in its slot. -/
theorem Chain.bindIn {e left : E}
    (h : Chain (Binds setting tag attributes slot) e calls left) :
    BindIn [slot] calls :=
  h.forall_mem fun _ _ _ hbinds => by
    obtain ⟨_, _, rfl, _, _⟩ := hbinds
    exact ⟨slot, List.mem_singleton_self slot, rfl⟩

omit [Draft D E] in
/-- A pass requests nothing in other slots. -/
theorem Chain.requested_eq_nil {e left : E} {other : Slot}
    (h : Chain (Binds setting tag attributes slot) e calls left)
    (hother : other ≠ slot) : requested calls other = [] :=
  Build.requested_eq_nil h.bindIn (mt List.mem_singleton.mp hother)

theorem Chain.made {e left : E}
    (h : Chain (Binds setting tag attributes slot) e calls left) :
    ∀ c ∈ calls, c.Made setting :=
  h.forall_mem fun _ _ _ hbinds => by
    obtain ⟨_, hfound, rfl, _, _⟩ := hbinds
    exact .binding tag slot _ hfound

/-- From one state of a binding to another by these calls in a slot. -/
structure BoundBy (setting : Setting E D) (tag : String)
    (attributes : List Attribute) (slot : Slot) (b : Binding E)
    (b' : Binding E) (calls : List (Call E)) : Prop where
  chain : Chain (Binds setting tag attributes slot) b.target calls
    b'.target
  hooks_eq : b'.hooks = b.hooks.pushAll (requested calls slot)
  touched : ReflTransGen (Touch setting) b.target b'.target

omit [Draft D E] in
/-- The call of a binding handler binds, whatever comes of it: all that
the handler can have done to the empty record is to push. -/
theorem Binds.called {e left : E} {a : Attribute} (ha : a ∈ attributes)
    {owner : String} {handler : BindingHandler E}
    (hfound : setting.registry.binding? (Entity.typeName e) a.name
      = some (owner, handler))
    (hleft : (handler ⟨tag, setting.actions⟩ a.value ⟨e, .empty⟩).failure
      = none → left = (handler ⟨tag, setting.actions⟩ a.value
        ⟨e, .empty⟩).state.entity) :
    Binds setting tag attributes slot e
      (.ofBinding setting tag slot owner a.name a.value handler e) left :=
  .intro ha hfound rfl (Hooks.pushAll_requests _).symm hleft

/-- One more binding handler is called. -/
theorem BoundBy.call {b b' : Binding E}
    (h : BoundBy setting tag attributes slot b b' calls) {a : Attribute}
    (ha : a ∈ attributes) {owner : String} {handler : BindingHandler E}
    (hfound : setting.registry.binding? (Entity.typeName b'.target) a.name
      = some (owner, handler))
    (hok : (handler ⟨tag, setting.actions⟩ a.value
      ⟨b'.target, .empty⟩).result = .ok ()) (taken : List String) :
    let bound := (handler ⟨tag, setting.actions⟩ a.value
      ⟨b'.target, .empty⟩).state
    BoundBy setting tag attributes slot b
      ⟨bound.entity, b'.hooks.append bound.hooks, taken⟩
      (calls ++ [.ofBinding setting tag slot owner a.name a.value handler
        b'.target]) := by
  intro bound
  refine ⟨h.chain.concat (.called ha hfound fun _ => rfl), ?_,
    h.touched.tail (.bound (.intro tag a.value hfound hok))⟩
  rw [requested_append, Hooks.pushAll_append, ← h.hooks_eq,
    requested_single rfl]
  -- the handler's record is what its requests make of an empty one
  calc b'.hooks.append bound.hooks
      = b'.hooks.append (Hooks.empty.pushAll bound.hooks.requests) := by
        rw [Hooks.pushAll_requests]
    _ = b'.hooks.pushAll bound.hooks.requests :=
        Hooks.append_pushAll b'.hooks bound.hooks.requests

end

/-- A pass calls binding handlers in a row, and gathers what they ask
for. -/
theorem bindPass_makes (tag owner : String) (slot : Slot)
    (judging : Bool) (attributes : List Attribute) (b : Binding E) :
    (bindPass setting tag owner slot judging attributes b).Makes
      (Call.Made setting) (BoundBy setting tag attributes slot b)
      fun calls => ∃ left,
        Chain (Binds setting tag attributes slot) b.target calls left
          ∧ ReflTransGen (Touch setting) b.target left := by
  have hstart : BoundBy setting tag attributes slot b b [] :=
    ⟨.nil b.target, rfl, .refl⟩
  refine Makes.foldlM _ _ hstart fun b' a calls ha _ hcalls => ?_
  have hsame : BoundBy setting tag attributes slot b b' (calls ++ []) := by
    rw [List.append_nil]
    exact hcalls
  unfold bindAttribute
  split
  · exact .pure hsame
  · split
    · split
      · unfold rejectUnknown
        split
        · exact Makes.bind (P := fun _ _ => False)
            (.fail rfl ⟨b'.target, hsame.chain, hsame.touched⟩)
            (fun _ _ _ h => h.elim) fun _ h => h
        · exact .ignore (.pure hsame)
      · exact .pure hsame
    · next declaredBy handler hfound =>
      refine .record (.call _ (.binding tag slot a.value hfound)
        ⟨rfl, rfl, rfl, rfl⟩ (fun _ _ => rfl)
        (fun _ hok => .pure (hcalls.call ha hfound hok _))
        fun cause herror => ⟨b'.target, ?_, hcalls.touched⟩)
      exact hcalls.chain.concat (.called ha hfound fun hnone =>
        absurd hnone (Reply.failure_of_error herror))

-- =========================================================== components

/-- The slots of some components, from an index on. -/
def partSlots (index count : Nat) : List Slot :=
  (List.range' index count).map .component

theorem mem_partSlots {slot : Slot} {index count : Nat} :
    slot ∈ partSlots index count
      ↔ ∃ i, index ≤ i ∧ i < index + count ∧ slot = .component i := by
  simp only [partSlots, List.mem_map, List.mem_range'_1, and_assoc,
    eq_comm]

theorem partSlots_succ (index count : Nat) :
    partSlots index (count + 1)
      = .component index :: partSlots (index + 1) count := by
  rw [partSlots, List.range'_succ, List.map_cons]
  rfl

section

variable {tag : String} {attributes : List Attribute} {index : Nat}
  {parts parts' : List E} {calls : List (Call E)}

omit [Draft D E]

/-- Nothing need be bound to components. -/
theorem PartCalls.none (index : Nat) (parts : List E) :
    PartCalls setting tag attributes index parts [] parts := by
  induction parts generalizing index with
  | nil => exact .nil index
  | cons part parts ih => exact .cons (.nil part) (ih (index + 1))

theorem PartCalls.bindIn
    (h : PartCalls setting tag attributes index parts calls parts') :
    BindIn (partSlots index parts.length) calls := by
  induction h with
  | nil => exact fun c hc => absurd hc List.not_mem_nil
  | cons hfirst hrest ih =>
      rw [List.length_cons, partSlots_succ]
      exact (hfirst.bindIn.mono (by simp)).append
        (ih.mono fun _ => List.mem_cons_of_mem _)

variable [Draft D E]

theorem PartCalls.made
    (h : PartCalls setting tag attributes index parts calls parts') :
    ∀ c ∈ calls, c.Made setting := by
  induction h with
  | nil => exact fun c hc => absurd hc List.not_mem_nil
  | cons hfirst hrest ih =>
      exact List.forall_mem_append.mpr ⟨hfirst.made, ih⟩

theorem BindingCalls.made {e left : E}
    (h : BindingCalls setting tag attributes e calls left) :
    ∀ c ∈ calls, c.Made setting := by
  obtain ⟨hearly, hlast⟩ := h
  refine List.forall_mem_append.mpr ⟨?_, hlast.made⟩
  cases hearly with
  | plain hcalls => exact hcalls.made
  | composite hcalls _ hrest =>
      exact List.forall_mem_append.mpr ⟨hcalls.made, hrest.made⟩

/-- From components to what binding made of them, with the records that
the requests of the calls make on each. -/
structure PartsBoundBy (setting : Setting E D) (tag : String)
    (attributes : List Attribute) (index : Nat) (parts parts' : List E)
    (hooks : List (Hooks E)) (calls : List (Call E)) : Prop where
  part_calls : PartCalls setting tag attributes index parts calls parts'
  hooks_eq : hooks = (List.range' index parts.length).map fun i =>
    Hooks.empty.pushAll (requested calls (.component i))
  touched : List.Forall₂ (ReflTransGen (Touch setting)) parts parts'

/-- One more component is bound, before the others. -/
theorem PartsBoundBy.cons {part : E} {b : Binding E}
    {hooks : List (Hooks E)} {taken : List String}
    {first rest : List (Call E)}
    (hfirst : BoundBy setting tag attributes (.component index)
      ⟨part, .empty, taken⟩ b first)
    (hrest : PartsBoundBy setting tag attributes (index + 1) parts parts'
      hooks rest) :
    PartsBoundBy setting tag attributes index (part :: parts)
      (b.target :: parts') (b.hooks :: hooks) (first ++ rest) := by
  refine ⟨.cons hfirst.chain hrest.part_calls, ?_,
    .cons hfirst.touched hrest.touched⟩
  rw [List.length_cons, List.range'_succ, List.map_cons, hrest.hooks_eq,
    hfirst.hooks_eq]
  congr 1
  · -- the calls for later components request nothing on this one
    have hother : Slot.component index
        ∉ partSlots (index + 1) parts.length := by
      rw [mem_partSlots]
      intro hin
      obtain ⟨i, hlow, -, heq⟩ := hin
      cases heq
      omega
    rw [requested_append,
      requested_eq_nil hrest.part_calls.bindIn hother, List.append_nil]
  · refine List.map_congr_left fun i hi => ?_
    have hother : Slot.component i ≠ .component index := by
      intro heq
      cases heq
      have := List.mem_range'_1.mp hi
      omega
    rw [requested_append, hfirst.chain.requested_eq_nil hother,
      List.nil_append]

end

/-- The passes over components call binding handlers on each in turn. -/
theorem bindParts_makes (tag owner : String) (attributes : List Attribute)
    (index : Nat) (taken : List String) (parts : List E) :
    (bindParts setting tag owner attributes index taken parts).Makes
      (Call.Made setting)
      (fun r calls => PartsBoundBy setting tag attributes index parts r.1
        r.2.1 calls)
      fun calls => ∃ parts',
        PartCalls setting tag attributes index parts calls parts'
          ∧ List.Forall₂ (ReflTransGen (Touch setting)) parts parts' := by
  induction parts generalizing index taken with
  | nil => exact .pure ⟨.nil index, rfl, .nil⟩
  | cons part parts ih =>
      unfold bindParts
      refine (bindPass_makes ..).bind (fun b first _ hfirst => ?_)
        fun calls hbegun => ?_
      · refine (ih (index + 1) b.taken).bind (fun r rest _ hrest => ?_)
          fun rest hbegun => ?_
        · refine .pure ?_
          rw [List.append_nil]
          exact .cons hfirst hrest
        · obtain ⟨parts', hrest, htouched⟩ := hbegun
          exact ⟨b.target :: parts', .cons hfirst.chain hrest,
            .cons hfirst.touched htouched⟩
      · obtain ⟨left, hchain, htouched⟩ := hbegun
        refine ⟨left :: parts, ?_,
          .cons htouched (List.forall₂_same.mpr fun _ _ => .refl)⟩
        have h := PartCalls.cons hchain (.none (index + 1) parts)
        rw [List.append_nil] at h
        exact h

-- ============================================================== tracking

/-- The tag may have the entity, and it has all that the calls bind
attributes to. -/
structure Carries (setting : Setting E D) (tag : String)
    (kind : TagKind E D) (e : E) (binding : List (Call E)) : Prop where
  reached : Reached setting tag kind e
  bindIn : BindIn (slots e) binding

/-- The records of the entity and of its components are what the requests
of the binding calls make of empty ones. -/
structure Tracked (setting : Setting E D) (tag : String)
    (kind : TagKind E D) (binding : List (Call E)) (e : E)
    (hooks : Hooks E) (partHooks : List (Hooks E)) : Prop where
  carries : Carries setting tag kind e binding
  made : ∀ c ∈ binding, c.Made setting
  hooks_eq : hooks = Hooks.empty.pushAll (requested binding .whole)
  partHooks_eq : partHooks = (List.range (partCount e)).map fun i =>
    Hooks.empty.pushAll (requested binding (.component i))

section

variable {tag : String} {kind : TagKind E D} {attributes : List Attribute}
  {binding calls : List (Call E)} {e e' : E} {hooks : Hooks E}
  {partHooks : List (Hooks E)}

theorem whole_mem_slots (e : E) : ∀ slot ∈ [Slot.whole], slot ∈ slots e :=
  fun _ hslot => mem_slots.mpr (Or.inl (List.mem_singleton.mp hslot))

theorem partSlots_subset {parts : List E}
    (hparts : Entity.components? e = some parts) :
    ∀ slot ∈ partSlots 0 parts.length, slot ∈ slots e := by
  intro slot hslot
  obtain ⟨i, -, hi, rfl⟩ := mem_partSlots.mp hslot
  refine mem_slots.mpr (Or.inr ⟨i, ?_, rfl⟩)
  rw [partCount, hparts, Option.getD_some]
  omega

/-- Changes of the entity leave it with what the calls are bound to. -/
theorem Carries.changes (hfixed : FixedParts setting)
    (h : Carries setting tag kind e binding)
    (hchange : ReflTransGen (Change setting kind) e e') :
    Carries setting tag kind e' binding := by
  obtain ⟨hreached, hcount⟩ := h.reached.changes hfixed hchange
  refine ⟨hreached, ?_⟩
  rw [slots_eq hcount]
  exact h.bindIn

theorem Carries.staysIn (hfixed : FixedParts setting)
    (h : Carries setting tag kind e binding) :
    StaysIn setting kind binding e :=
  fun _ hchange => (h.changes hfixed hchange).bindIn

/-- A pass over the whole entity needs no components. -/
theorem Carries.chain (hfixed : FixedParts setting)
    (h : Carries setting tag kind e binding)
    (hchain : Chain (Binds setting tag attributes .whole) e calls e')
    (htouched : ReflTransGen (Touch setting) e e') :
    Carries setting tag kind e' (binding ++ calls) := by
  have hchanged := h.changes hfixed (Change.touches htouched)
  exact ⟨hchanged.reached, hchanged.bindIn.append
    (hchain.bindIn.mono (whole_mem_slots e'))⟩

/-- Passes over the components leave them there. -/
theorem Carries.parts (hfixed : FixedParts setting)
    (h : Carries setting tag kind e binding) {parts parts' : List E}
    (hparts : Entity.components? e = some parts)
    (hcalls : PartCalls setting tag attributes 0 parts calls parts')
    (htouched : List.Forall₂ (ReflTransGen (Touch setting)) parts
      parts') :
    Carries setting tag kind (Entity.withComponents e parts')
      (binding ++ calls) := by
  have hwith : Carries setting tag kind e (binding ++ calls) :=
    ⟨h.reached, h.bindIn.append
      (hcalls.bindIn.mono (partSlots_subset hparts))⟩
  exact hwith.changes hfixed (.single (.parts hparts htouched))

theorem Reached.carries_nil (h : Reached setting tag kind e) :
    Carries setting tag kind e [] :=
  ⟨h, fun _ hc => absurd hc List.not_mem_nil⟩

theorem Tracked.start (he : Reached setting tag kind e)
    (hparts : partCount e = 0) :
    Tracked setting tag kind [] e .empty [] where
  carries := he.carries_nil
  made _ hc := absurd hc List.not_mem_nil
  hooks_eq := rfl
  partHooks_eq := by rw [hparts]; rfl

/-- Changes of the entity leave its records with the components that they
are for. -/
theorem Tracked.changes (hfixed : FixedParts setting)
    (h : Tracked setting tag kind binding e hooks partHooks)
    (hchange : ReflTransGen (Change setting kind) e e') :
    Tracked setting tag kind binding e' hooks partHooks := by
  refine ⟨h.carries.changes hfixed hchange, h.made, h.hooks_eq, ?_⟩
  rw [(h.carries.reached.changes hfixed hchange).2]
  exact h.partHooks_eq

/-- The actions that are in the records at a moment are those that were
asked for. -/
theorem Tracked.actions_eq
    (h : Tracked setting tag kind binding e hooks partHooks)
    (moment : Moment) :
    hooks.actions moment = registered binding moment .whole := by
  rw [h.hooks_eq, Hooks.actions_pushAll, Hooks.actions_empty,
    List.nil_append, registered]

theorem Tracked.partActions_eq
    (h : Tracked setting tag kind binding e hooks partHooks)
    (moment : Moment) :
    partHooks.map (·.actions moment) = (List.range (partCount e)).map
      fun i => registered binding moment (.component i) := by
  rw [h.partHooks_eq, List.map_map]
  refine List.map_congr_left fun i _ => ?_
  rw [Function.comp_apply, Hooks.actions_pushAll, Hooks.actions_empty,
    List.nil_append, registered]

/-- One more pass over the whole entity. -/
theorem Tracked.bound (hfixed : FixedParts setting) {b b' : Binding E}
    (h : Tracked setting tag kind binding b.target b.hooks partHooks)
    (hcalls : BoundBy setting tag attributes .whole b b' calls) :
    Tracked setting tag kind (binding ++ calls) b'.target b'.hooks
      partHooks := by
  have hchanged := h.changes hfixed (Change.touches hcalls.touched)
  refine ⟨h.carries.chain hfixed hcalls.chain hcalls.touched,
    List.forall_mem_append.mpr ⟨h.made, hcalls.chain.made⟩, ?_, ?_⟩
  · rw [hcalls.hooks_eq, h.hooks_eq, requested_append,
      Hooks.pushAll_append]
  · rw [hchanged.partHooks_eq]
    refine List.map_congr_left fun i _ => ?_
    rw [requested_append, hcalls.chain.requested_eq_nil Slot.noConfusion,
      List.append_nil]

/-- A pass over the whole entity, and the passes over its components. -/
theorem Tracked.boundParts (hfixed : FixedParts setting)
    (he : Reached setting tag kind e) {b : Binding E}
    {taken : List String} {parts parts' : List E}
    {first rest : List (Call E)}
    (hfirst : BoundBy setting tag attributes .whole ⟨e, .empty, taken⟩ b
      first)
    (hparts : Entity.components? b.target = some parts)
    (hrest : PartsBoundBy setting tag attributes 0 parts parts' partHooks
      rest) :
    Tracked setting tag kind (first ++ rest)
      (Entity.withComponents b.target parts') b.hooks partHooks := by
  have hbound : Carries setting tag kind b.target first :=
    he.carries_nil.chain hfixed hfirst.chain hfirst.touched
  have hcount : partCount (Entity.withComponents b.target parts')
      = parts.length := by
    rw [hfixed tag kind _ _ hbound.reached
      (.parts hparts hrest.touched), partCount, hparts]
    rfl
  refine ⟨hbound.parts hfixed hparts hrest.part_calls hrest.touched,
    List.forall_mem_append.mpr
      ⟨hfirst.chain.made, hrest.part_calls.made⟩, ?_, ?_⟩
  · have hother : Slot.whole ∉ partSlots 0 parts.length := by
      rw [mem_partSlots]
      intro hin
      obtain ⟨i, -, -, heq⟩ := hin
      cases heq
    rw [hfirst.hooks_eq, requested_append,
      requested_eq_nil hrest.part_calls.bindIn hother, List.append_nil]
  · rw [hrest.hooks_eq, hcount, List.range_eq_range']
    refine List.map_congr_left fun i _ => ?_
    rw [requested_append, hfirst.chain.requested_eq_nil Slot.noConfusion,
      List.nil_append]

end

-- ============================================================ the passes

/-- The passes that a composite entity has before the last one call
binding handlers on it and on its components. -/
theorem bindComposite_makes (hfixed : FixedParts setting) {tag : String}
    {kind : TagKind E D} {e : E} (he : Reached setting tag kind e)
    (owner : String) (attributes : List Attribute) (taken : List String) :
    (bindComposite setting tag owner attributes ⟨e, .empty, taken⟩).Makes
      (Call.Made setting)
      (fun r calls => BindsParts setting tag attributes e calls r.1.target
        ∧ Tracked setting tag kind calls r.1.target r.1.hooks r.2)
      fun calls => ∃ left, BindsParts setting tag attributes e calls left
        ∧ Carries setting tag kind left calls := by
  unfold bindComposite
  refine (bindPass_makes ..).bind (fun b first _ hfirst => ?_)
    fun calls hbegun => ?_
  · split
    · next hnone =>
      -- there were no components before, either
      have hcount :=
        (he.changes hfixed (Change.touches hfirst.touched)).2
      have hnoParts : partCount e = 0 := by
        rw [← hcount, partCount, hnone]
        rfl
      refine .pure ?_
      rw [List.append_nil]
      exact ⟨.plain hfirst.chain,
        (Tracked.start he hnoParts).bound hfixed hfirst⟩
    · next parts hparts =>
      refine (bindParts_makes ..).bind (fun r rest _ hrest => ?_)
        fun rest hbegun => ?_
      · refine .pure ?_
        rw [List.append_nil]
        exact ⟨.composite hfirst.chain hparts hrest.part_calls,
          .boundParts hfixed he hfirst hparts hrest⟩
      · obtain ⟨parts', hrest, htouched⟩ := hbegun
        have hbound : Carries setting tag kind b.target first :=
          he.carries_nil.chain hfixed hfirst.chain hfirst.touched
        exact ⟨_, .composite hfirst.chain hparts hrest,
          hbound.parts hfixed hparts hrest htouched⟩
  · obtain ⟨left, hchain, htouched⟩ := hbegun
    exact ⟨left, .plain hchain,
      he.carries_nil.chain hfixed hchain htouched⟩

omit [Draft D E] in
/-- A binding that breaks off before the last pass is one in which that
pass binds nothing. -/
theorem BindsParts.bindingCalls {tag : String}
    {attributes : List Attribute} {e left : E} {calls : List (Call E)}
    (h : BindsParts setting tag attributes e calls left) :
    BindingCalls setting tag attributes e calls left := by
  have hcalls := BindingCalls.intro h (.nil left)
  rw [List.append_nil] at hcalls
  exact hcalls

/-- The last pass, after whatever was bound before it. -/
theorem lastPass_makes (hfixed : FixedParts setting) {tag : String}
    {kind : TagKind E D} {attributes : List Attribute} {e : E}
    {calls : List (Call E)} {b : Binding E} {partHooks : List (Hooks E)}
    (hcalls : BindsParts setting tag attributes e calls b.target)
    (htracked : Tracked setting tag kind calls b.target b.hooks partHooks)
    (owner : String) :
    (bindPass setting tag owner .whole true attributes b
      >>= fun b' => Pure.pure (b', partHooks)).Makes (Call.Made setting)
      (fun r rest =>
        BindingCalls setting tag attributes e (calls ++ rest) r.1.target
          ∧ Tracked setting tag kind (calls ++ rest) r.1.target r.1.hooks
            r.2)
      fun rest => ∃ left,
        BindingCalls setting tag attributes e (calls ++ rest) left
          ∧ Carries setting tag kind left (calls ++ rest) := by
  refine (bindPass_makes ..).bind (fun b' rest _ hrest => .pure ?_)
    fun rest hbegun => ?_
  · rw [List.append_nil]
    exact ⟨.intro hcalls hrest.chain, htracked.bound hfixed hrest⟩
  · obtain ⟨left, hchain, htouched⟩ := hbegun
    exact ⟨left, .intro hcalls hchain,
      htracked.carries.chain hfixed hchain htouched⟩

/-- Binding calls binding handlers on the entity and its components, and
keeps what they ask for. -/
theorem bindAttributes_makes (hfixed : FixedParts setting) {tag : String}
    {kind : TagKind E D} {e : E} (he : Reached setting tag kind e)
    (attributes : List Attribute) (taken : List String) :
    (bindAttributes setting tag attributes taken e).Makes
      (Call.Made setting)
      (fun r calls => BindingCalls setting tag attributes e calls r.1.target
        ∧ Tracked setting tag kind calls r.1.target r.1.hooks r.2)
      fun calls => ∃ left, BindingCalls setting tag attributes e calls left
        ∧ Carries setting tag kind left calls := by
  have hstart : BindsParts setting tag attributes e [] e :=
    .plain (.nil e)
  unfold bindAttributes
  split
  · next hnone =>
    have hnoParts : partCount e = 0 := by
      rw [partCount, hnone]
      rfl
    exact lastPass_makes hfixed (b := ⟨e, .empty, taken⟩) hstart
      (.start he hnoParts) _
  · exact Makes.bind (P := fun _ _ => False)
      (.fail rfl ⟨e, hstart.bindingCalls, he.carries_nil⟩)
      (fun _ _ _ h => h.elim) fun _ h => h
  · next part parts hsome =>
    refine Makes.bind (bindComposite_makes hfixed he _ attributes taken)
      (fun r calls _ hdone => lastPass_makes hfixed hdone.1 hdone.2 _)
      fun calls hbegun => ?_
    obtain ⟨left, hcalls, hcarries⟩ := hbegun
    exact ⟨left, hcalls.bindingCalls, hcarries⟩

end EntityMarkup.Build
