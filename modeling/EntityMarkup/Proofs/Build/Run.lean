/-
The laws of runs. What follows a run is looked at only when the run has
an answer: then its events come after those of the run, and else the run
is the whole. These two equations, `bind_of_ok` and `bind_of_error`, are
all that other modules need of how runs are joined; the monad laws let
folds over lists be cut and joined as usual. Runs that are the same but
for their events and errors can be compared part by part (`Related.bind`).
-/
import EntityMarkup.Build.Run
import Mathlib.Data.List.Forall2

namespace EntityMarkup.Run

variable {σ α β : Type}

-- ============================================================== joining

theorem bind_of_ok {x : Run α} {a : α} (hx : x.result = .ok a)
    (f : α → Run β) :
    x >>= f = ⟨x.events ++ (f a).events, (f a).result⟩ := by
  show x.bind f = _
  unfold Run.bind
  rw [hx]

theorem bind_of_error {x : Run α} {e : BuildError}
    (hx : x.result = .error e) (f : α → Run β) :
    x >>= f = ⟨x.events, .error e⟩ := by
  show x.bind f = _
  unfold Run.bind
  rw [hx]

/-- A joined run has an answer only if both of its parts have one. -/
theorem bind_result_ok {x : Run α} {f : α → Run β} {b : β}
    (h : (x >>= f).result = .ok b) :
    ∃ a, x.result = .ok a ∧ (f a).result = .ok b := by
  cases hx : x.result with
  | ok a =>
      rw [bind_of_ok hx] at h
      exact ⟨a, rfl, h⟩
  | error e =>
      rw [bind_of_error hx] at h
      cases h

/-- What follows a call has an answer only if the handler has one. -/
theorem call_bind_result_ok {handler : Handler σ α} {state : σ}
    {blame : σ → Cause → BuildError} {f : α × σ → Run β} {b : β}
    (h : (Run.call handler state blame >>= f).result = .ok b) :
    ∃ a, (handler state).result = .ok a
      ∧ (f (a, (handler state).state)).result = .ok b := by
  obtain ⟨⟨a, state'⟩, hcall, hf⟩ := bind_result_ok h
  unfold Run.call at hcall
  dsimp only at hcall
  split at hcall
  · next a' hr =>
    cases hcall
    exact ⟨a, hr, hf⟩
  · cases hcall

/-- A joined run fails in one of its parts. -/
theorem bind_result_error {x : Run α} {f : α → Run β} {e : BuildError}
    (h : (x >>= f).result = .error e) :
    x.result = .error e
      ∨ ∃ a, x.result = .ok a ∧ (f a).result = .error e := by
  cases hx : x.result with
  | ok a =>
      rw [bind_of_ok hx] at h
      exact Or.inr ⟨a, rfl, h⟩
  | error e' =>
      rw [bind_of_error hx] at h
      exact Or.inl (by simpa using h)

/-- What follows a run does not depend on the run's events. -/
theorem bind_result_congr {x y : Run α} (h : x.result = y.result)
    (f : α → Run β) : (x >>= f).result = (y >>= f).result := by
  cases hx : x.result with
  | ok a => rw [bind_of_ok hx, bind_of_ok (h.symm.trans hx)]
  | error e => rw [bind_of_error hx, bind_of_error (h.symm.trans hx)]

/-- A step that is seen to succeed has an answer. -/
theorem exists_of_isOk {ε : Type} {x : Except ε α} (h : x.isOk = true) :
    ∃ a, x = .ok a := by
  cases x with
  | error e => cases h
  | ok a => exact ⟨a, rfl⟩

/-- So have two steps. -/
theorem exists_ok {ε ε' : Type} {x : Except ε α} {f : α → Except ε' β}
    (h : (Except.toOption x).map (fun a => (f a).isOk) = some true) :
    ∃ a b, x = .ok a ∧ f a = .ok b := by
  cases x with
  | error e => cases h
  | ok a =>
      obtain ⟨b, hb⟩ := exists_of_isOk (Option.some.inj h)
      exact ⟨a, b, rfl, hb⟩

/-- And so they have if something is seen of the second answer, which is
then so. -/
theorem exists_ok_of_map {ε ε' γ : Type} {x : Except ε α}
    {f : α → Except ε' β} {g : β → γ} {c : γ}
    (h : (Except.toOption x).map (fun a => (Except.toOption (f a)).map g)
      = some (some c)) :
    ∃ a b, x = .ok a ∧ f a = .ok b ∧ g b = c := by
  obtain ⟨a, hx, hf⟩ := Option.map_eq_some_iff.mp h
  obtain ⟨b, hb, hg⟩ := Option.map_eq_some_iff.mp hf
  refine ⟨a, b, ?_, ?_, hg⟩
  · cases x with
    | error e => cases hx
    | ok a' => exact congrArg _ (Option.some.inj hx)
  · cases hfa : f a with
    | error e =>
        rw [hfa] at hb
        cases hb
    | ok b' =>
        rw [hfa] at hb
        exact congrArg _ (Option.some.inj hb)

/-- A failure is seen without the answers. -/
theorem eq_error_of_map {ε : Type} {x : Except ε α} {e : ε}
    (h : x.map (fun _ => ()) = .error e) : x = .error e := by
  cases x with
  | error e' =>
      cases h
      rfl
  | ok a => cases h

/-- What a call comes to when the handler has an answer. -/
theorem call_of_ok {handler : Handler σ α} {state : σ}
    {blame : σ → Cause → BuildError} {a : α}
    (hok : (handler state).result = .ok a) :
    Run.call handler state blame
      = ⟨(handler state).entries.map .entry,
          .ok (a, (handler state).state)⟩ := by
  simp only [Run.call, hok]

@[simp] theorem pure_events (a : α) : (pure a : Run α).events = [] := rfl

@[simp] theorem pure_result (a : α) :
    (pure a : Run α).result = .ok a := rfl

-- ================================================================= laws

private theorem bind_pure_id (x : Run α) : id <$> x = x := by
  show x >>= pure = x
  cases hx : x.result with
  | ok a =>
      rw [bind_of_ok hx, pure_events, pure_result, ← hx, List.append_nil]
  | error e =>
      rw [bind_of_error hx, ← hx]

private theorem pure_bind_run (a : α) (f : α → Run β) :
    pure a >>= f = f a := by
  rw [bind_of_ok (pure_result a)]
  rfl

private theorem bind_assoc_run {γ : Type} (x : Run α) (f : α → Run β)
    (g : β → Run γ) : x >>= f >>= g = x >>= fun a => f a >>= g := by
  cases hx : x.result with
  | error e =>
      rw [bind_of_error hx, bind_of_error hx, bind_of_error rfl]
  | ok a =>
      rw [bind_of_ok hx, bind_of_ok hx]
      cases hf : (f a).result with
      | error e =>
          rw [bind_of_error rfl, bind_of_error hf]
      | ok b =>
          rw [bind_of_ok rfl, bind_of_ok hf]
          simp only [List.append_assoc]

instance : LawfulMonad Run :=
  LawfulMonad.mk' Run bind_pure_id pure_bind_run bind_assoc_run

-- ============================================================ comparing

/-- The same run, but for events and errors that are related. -/
structure Related (R : Event → Event → Prop)
    (Q : BuildError → BuildError → Prop) (x y : Run α) : Prop where
  events : List.Forall₂ R x.events y.events
  ok : ∀ a, x.result = .ok a → y.result = .ok a
  error : ∀ e, x.result = .error e → ∃ e', y.result = .error e' ∧ Q e e'

section

variable {R : Event → Event → Prop} {Q : BuildError → BuildError → Prop}

theorem Related.refl (hR : ∀ e, R e e) (hQ : ∀ e, Q e e) (x : Run α) :
    x.Related R Q x :=
  ⟨List.forall₂_same.mpr fun e _ => hR e, fun _ h => h,
    fun e h => ⟨e, h, hQ e⟩⟩

theorem Related.bind {x y : Run α} {f g : α → Run β}
    (hx : x.Related R Q y) (hf : ∀ a, (f a).Related R Q (g a)) :
    (x >>= f).Related R Q (y >>= g) := by
  cases hr : x.result with
  | error e =>
      obtain ⟨e', hy, he⟩ := hx.error e hr
      rw [bind_of_error hr, bind_of_error hy]
      refine ⟨hx.events, fun a ha => (nomatch ha), fun e'' he'' => ?_⟩
      cases he''
      exact ⟨e', rfl, he⟩
  | ok a =>
      rw [bind_of_ok hr, bind_of_ok (hx.ok a hr)]
      exact ⟨List.rel_append hx.events (hf a).events, (hf a).ok,
        (hf a).error⟩

end

end EntityMarkup.Run
