/-
How the calls of a run end when errors tell which call they are about. If
a run has an answer, no call failed; if it has an error, no call failed or
the last one did, and the error blames that call (`Run.Blaming`). There is
one rule for each way in which runs are put together, as for the calls
themselves.
-/
import EntityMarkup.Proofs.Build.Call

namespace EntityMarkup

namespace Run

variable {σ α β E : Type}

-- ======================================================= rules for runs

/-- How calls end that come to this result. If there is an answer, none of
them failed. If there is an error, none failed or the last one did, and
the error blames that one. -/
def BlameEnd (blames : BuildError → Option (Call E) → Prop)
    (calls : List (Call E)) : Except BuildError α → Prop
  | .ok _ => ∀ c ∈ calls, c.failure = none
  | .error e => ∃ (before : List (Call E)) (last : Option (Call E)),
      calls = before ++ last.toList ∧ (∀ c ∈ before, c.failure = none)
        ∧ (∀ c ∈ last, c.failure ≠ none) ∧ blames e last

/-- The run makes calls of this kind, in order, and if it fails then by an
error that blames the call that failed. -/
structure Blaming (made : Call E → Prop)
    (blames : BuildError → Option (Call E) → Prop) (x : Run α) : Prop where
  exists_calls : ∃ calls, Told calls x.events ∧ (∀ c ∈ calls, made c)
    ∧ BlameEnd blames calls x.result

variable {made : Call E → Prop}
  {blames : BuildError → Option (Call E) → Prop}

/-- Calls that did not fail may come before. -/
theorem BlameEnd.append {a b : List (Call E)}
    {result : Except BuildError α} (ha : ∀ c ∈ a, c.failure = none)
    (hb : BlameEnd blames b result) :
    BlameEnd blames (a ++ b) result := by
  cases result with
  | ok x => exact List.forall_mem_append.mpr ⟨ha, hb⟩
  | error e =>
      obtain ⟨before, last, rfl, hbefore, hlast, he⟩ := hb
      exact ⟨a ++ before, last, (List.append_assoc ..).symm,
        List.forall_mem_append.mpr ⟨ha, hbefore⟩, hlast, he⟩

theorem Blaming.pure (a : α) :
    (Pure.pure a : Run α).Blaming made blames :=
  ⟨[], .nil, by simp, by simp [BlameEnd]⟩

/-- A run that fails at once blames no call. -/
theorem Blaming.fail {e : BuildError} (he : blames e none) :
    (Run.fail e : Run α).Blaming made blames :=
  ⟨[], .nil, by simp, [], none, rfl, by simp, by simp, he⟩

/-- What an error blames may be said in other words. -/
theorem Blaming.mono {blames' : BuildError → Option (Call E) → Prop}
    {x : Run α} (hx : x.Blaming made blames)
    (h : ∀ e last, blames e last → blames' e last) :
    x.Blaming made blames' := by
  obtain ⟨calls, htold, hmade, hend⟩ := hx.exists_calls
  refine ⟨calls, htold, hmade, ?_⟩
  cases hr : x.result with
  | ok a =>
      rw [hr] at hend
      exact hend
  | error e =>
      rw [hr] at hend
      obtain ⟨before, last, hcalls, hbefore, hlast, he⟩ := hend
      exact ⟨before, last, hcalls, hbefore, hlast, h e last he⟩

/-- After calls that did not fail, what follows is to blame. -/
theorem Blaming.after {x : Run α} {f : α → Run β} {a : α}
    {calls : List (Call E)} (hx : x.result = .ok a)
    (htold : Told calls x.events) (hmade : ∀ c ∈ calls, made c)
    (hcalls : ∀ c ∈ calls, c.failure = none)
    (hf : (f a).Blaming made blames) : (x >>= f).Blaming made blames := by
  obtain ⟨rest, htold', hmade', hend⟩ := hf.exists_calls
  rw [bind_of_ok hx]
  exact ⟨calls ++ rest, htold.append htold',
    List.forall_mem_append.mpr ⟨hmade, hmade'⟩, hend.append hcalls⟩

theorem Blaming.bind {x : Run α} {f : α → Run β}
    (hx : x.Blaming made blames)
    (hf : ∀ a, x.result = .ok a → (f a).Blaming made blames) :
    (x >>= f).Blaming made blames := by
  obtain ⟨calls, htold, hmade, hend⟩ := hx.exists_calls
  cases hr : x.result with
  | ok a =>
      rw [hr] at hend
      exact .after hr htold hmade hend (hf a hr)
  | error e =>
      rw [hr] at hend
      rw [bind_of_error hr]
      exact ⟨calls, htold, hmade, hend⟩

/-- A handler is called. If it fails, what is made of the cause blames the
call. -/
theorem Blaming.call {tag : String} {step : Step} {handler : Handler σ α}
    {state : σ} {blame : σ → Cause → BuildError} {f : α × σ → Run β}
    (c : Call E) (hmade : made c)
    (hc : c.CameTo tag step (handler state))
    (hblame : ∀ cause, (handler state).result = .error cause →
      blames (blame (handler state).state cause) (some c))
    (hok : ∀ a, (handler state).result = .ok a →
      (f (a, (handler state).state)).Blaming made blames) :
    (Run.step tag step >>= fun _ =>
      Run.call handler state blame >>= f).Blaming made blames := by
  obtain ⟨htag, hstep, hentries, hfailure⟩ := hc
  have htold : Told [c] ((Run.step tag step).events
      ++ (Run.call handler state blame).events) := by
    have h := Told.call c .nil
    rw [List.append_nil, htag, hstep, hentries] at h
    exact h
  rw [← bind_assoc]
  cases hr : (handler state).result with
  | ok a =>
      have hcall : (Run.step tag step >>= fun _ =>
          Run.call handler state blame).result
          = .ok (a, (handler state).state) := by
        rw [bind_of_ok rfl, call_of_ok hr]
      have hnone : c.failure = none := by
        rw [hfailure, Reply.failure, hr]
      exact .after hcall htold (List.forall_mem_singleton.mpr hmade)
        (List.forall_mem_singleton.mpr hnone) (hok a hr)
  | error cause =>
      have hcall : (Run.step tag step >>= fun _ =>
          Run.call handler state blame).result
          = .error (blame (handler state).state cause) := by
        rw [bind_of_ok rfl]
        simp only [Run.call, hr]
      have hsome : c.failure ≠ none := by
        rw [hfailure, Reply.failure, hr]
        exact Option.some_ne_none cause
      rw [bind_of_error hcall]
      refine ⟨[c], htold, List.forall_mem_singleton.mpr hmade, [], some c,
        rfl, by simp, ?_, hblame cause hr⟩
      simpa using hsome

/-- An action is called, which cannot fail. -/
theorem Blaming.act {tag : String} {moment : Moment} {slot : Slot}
    {index : Nat} {action : Action E} {e : E} {f : E → Run β}
    (hmade : made (.ofAction tag moment slot index action e))
    (hf : (f (action e).2).Blaming made blames) :
    (Run.step tag (.hook moment slot index) >>= fun _ =>
      Run.act action e >>= f).Blaming made blames := by
  have htold : Told [Call.ofAction tag moment slot index action e]
      ((Run.step tag (.hook moment slot index)).events
        ++ (Run.act action e).events) := by
    have h := Told.call (.ofAction tag moment slot index action e) .nil
    rw [List.append_nil] at h
    exact h
  rw [← bind_assoc]
  exact .after rfl htold (List.forall_mem_singleton.mpr hmade)
    (List.forall_mem_singleton.mpr rfl) hf

/-- A node is placed, which calls nothing. -/
theorem Blaming.silent {tag : String} {step : Step} {y : Run β}
    (hmade : made (.silent tag step)) (hy : y.Blaming made blames) :
    (Run.step tag step >>= fun _ => y).Blaming made blames :=
  .after rfl (.call (.silent tag step) .nil)
    (List.forall_mem_singleton.mpr hmade)
    (List.forall_mem_singleton.mpr rfl) hy

theorem Blaming.record {area : Area} {level : Level} {text : String}
    {y : Run β} (hy : y.Blaming made blames) :
    (Run.record area level text >>= fun _ => y).Blaming made blames :=
  .after rfl (.record area level text .nil) (by simp) (by simp) hy

theorem Blaming.ignore {tag owner name : String} {y : Run β}
    (hy : y.Blaming made blames) :
    (Run.ignore tag owner name >>= fun _ => y).Blaming made blames :=
  .after rfl (.ignored tag owner name .nil) (by simp) (by simp) hy

/-- A fold blames what its steps blame. What is known of the state is kept
by each step. -/
theorem Blaming.foldlM {f : σ → α → Run σ} (P : σ → Prop) (l : List α)
    {s : σ} (hs : P s)
    (hstep : ∀ s a, a ∈ l → P s → (f s a).Blaming made blames
      ∧ ∀ s', (f s a).result = .ok s' → P s') :
    (l.foldlM f s).Blaming made blames := by
  induction l generalizing s with
  | nil => exact .pure s
  | cons a l ih =>
      rw [List.foldlM_cons]
      obtain ⟨hfirst, hkept⟩ := hstep s a (List.mem_cons_self ..) hs
      refine hfirst.bind fun s' hs' => ih (hkept s' hs') ?_
      intro s a ha
      exact hstep s a (List.mem_cons_of_mem _ ha)

end Run

end EntityMarkup
