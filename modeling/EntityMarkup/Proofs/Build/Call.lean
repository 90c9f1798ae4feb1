/-
The calls of a run. The events of a run mark where a handler, hook or
action is called and where something is placed; a `Call` is one such mark
together with what the call came to. `Told` reads a list of calls off the
events of a run, and `Call.Made` says that a call is one that a build can
make: of the handler, hook or placement that its step names, on some
state, with what came of it.

`Run.Makes` is what the parts of a build are shown to satisfy: the calls
that a run makes, how they end, and what is known of them when the run
has an answer and when it fails. It comes with one rule for each way in
which runs are put together.
-/
import EntityMarkup.Build.Assemble
import EntityMarkup.Proofs.Build.Asking
import EntityMarkup.Proofs.Build.Run

namespace EntityMarkup

/-- The entity that a step binds an attribute to, if it binds one. -/
def Step.bound? : Step → Option Slot
  | .binding slot _ _ _ => some slot
  | _ => none

/-- The cause that an error carries: what the failing call answered. -/
def BuildError.cause? : BuildError → Option Cause
  | .handlerFailure _ _ _ cause => some cause
  | .invalidPlacement _ _ cause => some cause
  | _ => none

/-- Why the handler failed, if it did. -/
def Reply.failure {σ α : Type} (reply : Reply σ α) : Option Cause :=
  match reply.result with
  | .ok _ => none
  | .error cause => some cause

/-- The state is the one that the handler left, unless it failed: nothing
follows a failure, so it does not matter what would. -/
def Reply.Left {σ α : Type} (reply : Reply σ α) (s : σ) : Prop :=
  reply.failure = none → s = reply.state

theorem Reply.left_state {σ α : Type} (reply : Reply σ α) :
    reply.Left reply.state :=
  fun _ => rfl

theorem Reply.failure_of_error {σ α : Type} {reply : Reply σ α}
    {cause : Cause} (h : reply.result = .error cause) :
    reply.failure ≠ none := by
  rw [Reply.failure, h]
  exact Option.some_ne_none cause

theorem Reply.left_of_error {σ α : Type} {reply : Reply σ α}
    {cause : Cause} (h : reply.result = .error cause) (s : σ) :
    reply.Left s :=
  fun hnone => absurd hnone (failure_of_error h)

/-- One call in a build, with what it reported, why it failed if it did,
and what it asked for. -/
structure Call (E : Type) where
  tag : String
  step : Step
  entries : List Entry
  failure : Option Cause
  asked : List (Request E)

namespace Call

variable {σ α E D : Type}

/-- The call that came to this reply. -/
def ofReply (tag : String) (step : Step) (reply : Reply σ α) : Call E :=
  ⟨tag, step, reply.entries, reply.failure, []⟩

/-- The placement of a node, which calls nothing. -/
def silent (tag : String) (step : Step) : Call E :=
  ⟨tag, step, [], none, []⟩

/-- The call of an action on an entity. -/
def ofAction (tag : String) (moment : Moment) (slot : Slot) (index : Nat)
    (action : Action E) (e : E) : Call E :=
  ⟨tag, .hook moment slot index, (action e).1, none, []⟩

/-- The call is one of this step, and came to this reply. -/
structure CameTo (c : Call E) (tag : String) (step : Step)
    (reply : Reply σ α) : Prop where
  tag_eq : c.tag = tag
  step_eq : c.step = step
  entries_eq : c.entries = reply.entries
  failure_eq : c.failure = reply.failure

variable [Entity E] [Draft D E]

/-- The call of a binding handler on an entity and an empty record. What
it asks for is what it has pushed onto the record. -/
def ofBinding (setting : Setting E D) (tag : String) (slot : Slot)
    (owner name value : String) (handler : BindingHandler E) (e : E) :
    Call E :=
  let reply := handler ⟨tag, setting.actions⟩ value ⟨e, .empty⟩
  ⟨tag, .binding slot owner name value, reply.entries, reply.failure,
    reply.state.hooks.requests⟩

/-- The calls that a build in this setting can make. The handlers are
those that the registry has for a type and an attribute; the other
functions are those of the tag's kind, of its draft, and of the entity
that is placed. -/
inductive Made (setting : Setting E D) : Call E → Prop
  | building {tag : String} {kind : TagKind E D} {owner name : String}
      {handler : BuildingHandler D} (value : String) (draft : D)
      (hkind : setting.registry.kind? tag = some kind)
      (hfound : setting.registry.building? kind.declaredType name
        = some (owner, handler)) :
      Made setting
        (ofReply tag (.building owner name value) (handler value draft))
  | instantiate {tag : String} {kind : TagKind E D} (draft : D)
      (hkind : setting.registry.kind? tag = some kind) :
      Made setting (ofReply tag .instantiate (kind.instantiate draft))
  | finish (tag : String) (draft : D) (e : E) :
      Made setting (ofReply tag .finish (Draft.finish (draft, e)))
  | binding (tag : String) (slot : Slot) {owner name : String}
      (value : String) {handler : BindingHandler E} {e : E}
      (hfound : setting.registry.binding? (Entity.typeName e) name
        = some (owner, handler)) :
      Made setting (ofBinding setting tag slot owner name value handler e)
  | hook (tag : String) (moment : Moment) (slot : Slot) (index : Nat)
      (action : Action E) (e : E) :
      Made setting (ofAction tag moment slot index action e)
  | lineNode (tag line : String) :
      Made setting (silent tag (.line .node line))
  | line {tag : String} {kind : TagKind E D} (line : String) (e : E)
      (hkind : setting.registry.kind? tag = some kind) :
      Made setting
        (ofReply tag (.line .byKind line) (kind.placeLine line e))
  | childNode (tag childTag : String) :
      Made setting (silent tag (.child .node childTag))
  | child {tag : String} {kind : TagKind E D} (childTag : String)
      (child e : E) (hkind : setting.registry.kind? tag = some kind) :
      Made setting
        (ofReply tag (.child .byKind childTag) (kind.placeChild child e))
  | attaching (tag childTag : String) (child e : E) :
      Made setting
        (ofReply tag (.child .attached childTag) (Entity.attachTo child e))
  | close {tag : String} {kind : TagKind E D} (e : E)
      (hkind : setting.registry.kind? tag = some kind) :
      Made setting (ofReply tag .close (kind.onClose e))

end Call

-- ====================================================== reading events

section

variable {E : Type}

/-- Events that tell of these calls, in order: each call is marked, then
come its reports, and between calls only records are written and
attributes passed over. -/
inductive Told : List (Call E) → List Event → Prop
  | nil : Told [] []
  | record (area : Area) (level : Level) (text : String)
      {calls : List (Call E)} {events : List Event}
      (rest : Told calls events) :
      Told calls (.entry (.record area level text) :: events)
  | ignored (tag owner name : String) {calls : List (Call E)}
      {events : List Event} (rest : Told calls events) :
      Told calls (.ignored tag owner name :: events)
  | call (c : Call E) {calls : List (Call E)} {events : List Event}
      (rest : Told calls events) :
      Told (c :: calls)
        (.step c.tag c.step :: (c.entries.map .entry ++ events))

theorem Told.append {a b : List (Call E)} {x y : List Event}
    (ha : Told a x) (hb : Told b y) : Told (a ++ b) (x ++ y) := by
  induction ha with
  | nil => exact hb
  | record area level text rest ih => exact .record area level text ih
  | ignored tag owner name rest ih => exact .ignored tag owner name ih
  | call c rest ih =>
      rw [List.cons_append, List.cons_append, List.append_assoc]
      exact .call c ih

/-- What is read off the marks of steps, and of nothing else, is read off
the calls. -/
theorem Told.filterMap_eq {β : Type} {calls : List (Call E)}
    {events : List Event} (h : Told calls events) {f : Event → Option β}
    (hentry : ∀ entry, f (.entry entry) = none)
    (hignored : ∀ tag owner name, f (.ignored tag owner name) = none) :
    events.filterMap f = calls.filterMap fun c => f (.step c.tag c.step) := by
  induction h with
  | nil => rfl
  | record area level text rest ih =>
      rw [List.filterMap_cons_none (hentry _), ih]
  | ignored tag owner name rest ih =>
      rw [List.filterMap_cons_none (hignored ..), ih]
  | call c rest ih =>
      have hentries : (c.entries.map Event.entry).filterMap f = [] := by
        rw [List.filterMap_map, List.filterMap_eq_nil_iff]
        exact fun entry _ => hentry entry
      rw [List.filterMap_cons, List.filterMap_cons, List.filterMap_append,
        hentries, List.nil_append, ih]

/-- How the calls of a run end. If the run has an answer, none of them
failed. If it fails with a cause, the last call failed, for that cause,
and none before it; if it fails without one, none failed. -/
def CallsEnd {α : Type} (calls : List (Call E)) :
    Except BuildError α → Prop
  | .ok _ => ∀ c ∈ calls, c.failure = none
  | .error e =>
    match e.cause? with
    | none => ∀ c ∈ calls, c.failure = none
    | some cause => ∃ before last, calls = before ++ [last]
        ∧ last.failure = some cause ∧ ∀ c ∈ before, c.failure = none

/-- Calls that did not fail may come before. -/
theorem CallsEnd.append {α : Type} {a b : List (Call E)}
    {result : Except BuildError α} (ha : ∀ c ∈ a, c.failure = none)
    (hb : CallsEnd b result) : CallsEnd (a ++ b) result := by
  have hall : (∀ c ∈ b, c.failure = none) →
      ∀ c ∈ a ++ b, c.failure = none :=
    fun h => List.forall_mem_append.mpr ⟨ha, h⟩
  cases result with
  | ok x => exact hall hb
  | error e =>
      simp only [CallsEnd] at hb ⊢
      cases hcause : e.cause? with
      | none =>
          simp only [hcause] at hb ⊢
          exact hall hb
      | some cause =>
          simp only [hcause] at hb ⊢
          obtain ⟨before, last, rfl, hlast, hbefore⟩ := hb
          exact ⟨a ++ before, last, (List.append_assoc ..).symm, hlast,
            List.forall_mem_append.mpr ⟨ha, hbefore⟩⟩

end

-- ======================================================= rules for runs

namespace Run

variable {σ α β E : Type}

/-- The run makes calls of this kind, in order. When it has an answer,
`P` holds of the answer and the calls; when it fails, `Q` holds of the
calls. -/
structure Makes (made : Call E → Prop) (P : α → List (Call E) → Prop)
    (Q : List (Call E) → Prop) (x : Run α) : Prop where
  exists_calls : ∃ calls, Told calls x.events ∧ (∀ c ∈ calls, made c)
    ∧ CallsEnd calls x.result ∧ (∀ a, x.result = .ok a → P a calls)
    ∧ ∀ e, x.result = .error e → Q calls

variable {made : Call E → Prop} {P : α → List (Call E) → Prop}
  {Q : List (Call E) → Prop} {R : β → List (Call E) → Prop}
  {S : List (Call E) → Prop}

theorem Makes.pure {a : α} (h : P a []) :
    (Pure.pure a : Run α).Makes made P Q :=
  ⟨[], .nil, by simp, by simp [CallsEnd], fun _ ha => (by cases ha; exact h),
    fun _ he => (by cases he)⟩

/-- A run that fails at once, and not for a call. -/
theorem Makes.fail {e : BuildError} (he : e.cause? = none) (h : Q []) :
    (Run.fail e : Run α).Makes made P Q :=
  ⟨[], .nil, by simp, by simp [Run.fail, CallsEnd, he],
    fun _ ha => (by cases ha), fun _ _ => h⟩

/-- What is known of the calls may be weakened. -/
theorem Makes.mono {P' : α → List (Call E) → Prop}
    {Q' : List (Call E) → Prop} {x : Run α} (hx : x.Makes made P Q)
    (hP : ∀ a calls, (∀ c ∈ calls, made c) → P a calls → P' a calls)
    (hQ : ∀ calls, Q calls → Q' calls) : x.Makes made P' Q' := by
  obtain ⟨calls, htold, hmade, hend, hok, herror⟩ := hx.exists_calls
  exact ⟨calls, htold, hmade, hend, fun a ha => hP a calls hmade (hok a ha),
    fun e he => hQ calls (herror e he)⟩

/-- The answer may be looked at, too. -/
theorem Makes.result {x : Run α} (hx : x.Makes made P Q) :
    x.Makes made (fun a calls => x.result = .ok a ∧ P a calls) Q := by
  obtain ⟨calls, htold, hmade, hend, hok, herror⟩ := hx.exists_calls
  exact ⟨calls, htold, hmade, hend, fun a ha => ⟨ha, hok a ha⟩, herror⟩

/-- A joined run makes the calls of both parts. -/
theorem Makes.bind {x : Run α} {f : α → Run β} (hx : x.Makes made P Q)
    (hf : ∀ a calls, (∀ c ∈ calls, made c) → P a calls →
      (f a).Makes made (fun b rest => R b (calls ++ rest))
        fun rest => S (calls ++ rest))
    (hQ : ∀ calls, Q calls → S calls) : (x >>= f).Makes made R S := by
  obtain ⟨calls, htold, hmade, hend, hok, herror⟩ := hx.exists_calls
  cases hr : x.result with
  | error e =>
      rw [bind_of_error hr]
      refine ⟨calls, htold, hmade, ?_, fun b hb => (by cases hb),
        fun _ _ => hQ calls (herror e hr)⟩
      rw [hr] at hend
      exact hend
  | ok a =>
      rw [bind_of_ok hr]
      rw [hr] at hend
      obtain ⟨rest, htold', hmade', hend', hok', herror'⟩ :=
        (hf a calls hmade (hok a hr)).exists_calls
      exact ⟨calls ++ rest, htold.append htold',
        List.forall_mem_append.mpr ⟨hmade, hmade'⟩, hend'.append hend,
        hok', herror'⟩

/-- A handler is called and the run goes on with its answer. -/
theorem Makes.call {tag : String} {step : Step} {handler : Handler σ α}
    {state : σ} {blame : σ → Cause → BuildError} {f : α × σ → Run β}
    (c : Call E) (hmade : made c)
    (hc : c.CameTo tag step (handler state))
    (hblame : ∀ s cause, (blame s cause).cause? = some cause)
    (hok : ∀ a, (handler state).result = .ok a →
      (f (a, (handler state).state)).Makes made
        (fun b rest => R b (c :: rest)) fun rest => S (c :: rest))
    (herror : ∀ cause, (handler state).result = .error cause → S [c]) :
    (Run.step tag step >>= fun _ =>
      Run.call handler state blame >>= f).Makes made R S := by
  obtain ⟨htag, hstep, hentries, hfailure⟩ := hc
  have htold : Told [c] (.step tag step ::
      (handler state).entries.map .entry) := by
    have h := Told.call c .nil
    rw [List.append_nil, htag, hstep, hentries] at h
    exact h
  rw [bind_of_ok rfl]
  cases hr : (handler state).result with
  | ok a =>
      have hcall : (Run.call handler state blame).result
          = .ok (a, (handler state).state) := by
        rw [call_of_ok hr]
      rw [bind_of_ok hcall]
      obtain ⟨rest, htold', hmade', hend', hok', herror'⟩ :=
        (hok a hr).exists_calls
      refine ⟨c :: rest, ?_, List.forall_mem_cons.mpr ⟨hmade, hmade'⟩,
        ?_, hok', herror'⟩
      · exact htold.append htold'
      · refine CallsEnd.append (a := [c]) ?_ hend'
        rw [List.forall_mem_singleton, hfailure, Reply.failure, hr]
  | error cause =>
      have hcall : (Run.call handler state blame).result
          = .error (blame (handler state).state cause) := by
        simp only [Run.call, hr]
      rw [bind_of_error hcall]
      refine ⟨[c], htold, List.forall_mem_singleton.mpr hmade, ?_,
        fun b hb => (by cases hb), fun _ _ => herror cause hr⟩
      simp only [CallsEnd, hblame]
      refine ⟨[], c, rfl, ?_, by simp⟩
      rw [hfailure, Reply.failure, hr]

theorem Makes.act {tag : String} {moment : Moment} {slot : Slot}
    {index : Nat} {action : Action E} {e : E} {f : E → Run β}
    (hmade : made (.ofAction tag moment slot index action e))
    (hf : (f (action e).2).Makes made
      (fun b rest => R b (.ofAction tag moment slot index action e :: rest))
      fun rest => S (.ofAction tag moment slot index action e :: rest)) :
    (Run.step tag (.hook moment slot index) >>= fun _ =>
      Run.act action e >>= f).Makes made R S := by
  obtain ⟨rest, htold, hmade', hend, hok, herror⟩ := hf.exists_calls
  rw [bind_of_ok rfl, bind_of_ok rfl]
  refine ⟨.ofAction tag moment slot index action e :: rest,
    .call (.ofAction tag moment slot index action e) htold,
    List.forall_mem_cons.mpr ⟨hmade, hmade'⟩, ?_, hok, herror⟩
  exact CallsEnd.append (a := [.ofAction tag moment slot index action e])
    (List.forall_mem_singleton.mpr rfl) hend

theorem Makes.silent {tag : String} {step : Step} {y : Run β}
    (hmade : made (.silent tag step))
    (hy : y.Makes made (fun b rest => R b (.silent tag step :: rest))
      fun rest => S (.silent tag step :: rest)) :
    (Run.step tag step >>= fun _ => y).Makes made R S := by
  obtain ⟨rest, htold, hmade', hend, hok, herror⟩ := hy.exists_calls
  rw [bind_of_ok rfl]
  refine ⟨.silent tag step :: rest, .call (.silent tag step) htold,
    List.forall_mem_cons.mpr ⟨hmade, hmade'⟩, ?_, hok, herror⟩
  exact CallsEnd.append (a := [.silent tag step])
    (List.forall_mem_singleton.mpr rfl) hend

/-- A fold makes the calls of its steps. What is known of the calls so
far is kept by each step. -/
theorem Makes.foldlM {f : σ → α → Run σ}
    {P : σ → List (Call E) → Prop} (l : List α) (s : σ) (h : P s [])
    (hf : ∀ s a calls, a ∈ l → (∀ c ∈ calls, made c) → P s calls →
      (f s a).Makes made (fun s' rest => P s' (calls ++ rest))
        fun rest => Q (calls ++ rest)) :
    (l.foldlM f s).Makes made P Q := by
  -- the calls so far go along, since `P` and `Q` are about all of them
  suffices hgen : ∀ (l' : List α) (s : σ) (calls : List (Call E)),
      (∀ a ∈ l', a ∈ l) → (∀ c ∈ calls, made c) → P s calls →
      (l'.foldlM f s).Makes made (fun s' rest => P s' (calls ++ rest))
        fun rest => Q (calls ++ rest) by
    exact hgen l s [] (fun _ ha => ha) (by simp) h
  intro l'
  induction l' with
  | nil =>
      intro s calls _ _ hs
      exact .pure (by rw [List.append_nil]; exact hs)
  | cons a l' ih =>
      intro s calls hl hmade hs
      rw [List.foldlM_cons]
      refine (hf s a calls (hl a (List.mem_cons_self ..)) hmade hs).bind
        (fun s' rest hrest hs' => ?_) fun _ h => h
      refine (ih s' (calls ++ rest)
        (fun a' ha' => hl a' (List.mem_cons_of_mem a ha'))
        (List.forall_mem_append.mpr ⟨hmade, hrest⟩) hs').mono
        (fun s'' last _ h => ?_) fun last h => ?_
      · rw [← List.append_assoc]; exact h
      · rw [← List.append_assoc]; exact h

theorem Makes.record {area : Area} {level : Level} {text : String}
    {y : Run β} (hy : y.Makes made R S) :
    (Run.record area level text >>= fun _ => y).Makes made R S := by
  obtain ⟨calls, htold, h⟩ := hy.exists_calls
  rw [bind_of_ok rfl]
  exact ⟨calls, .record area level text htold, h⟩

theorem Makes.ignore {tag owner name : String} {y : Run β}
    (hy : y.Makes made R S) :
    (Run.ignore tag owner name >>= fun _ => y).Makes made R S := by
  obtain ⟨calls, htold, h⟩ := hy.exists_calls
  rw [bind_of_ok rfl]
  exact ⟨calls, .ignored tag owner name htold, h⟩

end Run

end EntityMarkup
