/-
What binding handlers ask for. To ask for an action is to push it onto
the record of what is bound, behind the other actions of its moment
(`Hooks.push`). A record onto which a list of requests was pushed has
gained, at each moment, the requested actions of that moment in the order
of the requests (`Hooks.actions_pushAll`).

All that a handler can do to a record is to push, so what it has asked for
can be read off the record that it leaves, if it was given an empty one
(`Hooks.pushAll_requests`). And it makes no difference whether it pushes
onto an empty record that is appended later, or onto the record itself
(`Hooks.append_pushAll`).
-/
import EntityMarkup.Registry.Kind

namespace EntityMarkup

variable {E : Type}

/-- An action that is asked for, and when it is to run. -/
structure Request (E : Type) where
  moment : Moment
  action : Action E

/-- The requested actions of a moment, in order. -/
def actionsAt (moment : Moment) (requests : List (Request E)) :
    List (Action E) :=
  requests.filterMap fun r =>
    if r.moment = moment then some r.action else none

theorem actionsAt_append (moment : Moment) (a b : List (Request E)) :
    actionsAt moment (a ++ b) = actionsAt moment a ++ actionsAt moment b :=
  List.filterMap_append

theorem actionsAt_cons (moment : Moment) (r : Request E)
    (requests : List (Request E)) :
    actionsAt moment (r :: requests)
      = (if r.moment = moment then [r.action] else [])
        ++ actionsAt moment requests := by
  unfold actionsAt
  by_cases h : r.moment = moment <;> simp [h]

/-- All of these actions, at one moment. -/
theorem actionsAt_map (moment at_ : Moment) (actions : List (Action E)) :
    actionsAt moment (actions.map (Request.mk at_))
      = if at_ = moment then actions else [] := by
  induction actions with
  | nil => cases at_ <;> cases moment <;> rfl
  | cons action actions ih =>
      rw [List.map_cons, actionsAt_cons, ih]
      by_cases h : at_ = moment
      · simp only [if_pos h]
        rfl
      · simp only [if_neg h, List.append_nil]

namespace Hooks

-- ============================================================== pushing

/-- With these requests pushed, one after the other. -/
def pushAll (hooks : Hooks E) (requests : List (Request E)) : Hooks E :=
  requests.foldl (fun hooks r => hooks.push r.moment r.action) hooks

/-- One more action stands last at its moment, and other moments keep
their actions. -/
theorem actions_push (hooks : Hooks E) (moment at_ : Moment)
    (action : Action E) :
    (hooks.push at_ action).actions moment
      = hooks.actions moment ++ if at_ = moment then [action] else [] := by
  cases at_ <;> cases moment <;> simp [push, actions]

/-- What a record gains by requests are the actions requested, at each
moment in the order of the requests. -/
theorem actions_pushAll (hooks : Hooks E) (requests : List (Request E))
    (moment : Moment) :
    (hooks.pushAll requests).actions moment
      = hooks.actions moment ++ actionsAt moment requests := by
  unfold pushAll
  induction requests generalizing hooks with
  | nil => exact (List.append_nil _).symm
  | cons r requests ih =>
      rw [List.foldl_cons, ih, actions_push, List.append_assoc,
        actionsAt_cons]

theorem pushAll_append (hooks : Hooks E) (a b : List (Request E)) :
    hooks.pushAll (a ++ b) = (hooks.pushAll a).pushAll b :=
  List.foldl_append

theorem actions_empty (moment : Moment) :
    (empty : Hooks E).actions moment = [] := by
  cases moment <;> rfl

/-- Records with the same actions at each moment are the same. -/
theorem ext_actions {a b : Hooks E}
    (h : ∀ moment, a.actions moment = b.actions moment) : a = b := by
  obtain ⟨onCreate, onClose⟩ := a
  obtain ⟨onCreate', onClose'⟩ := b
  obtain rfl : onCreate = onCreate' := h .create
  obtain rfl : onClose = onClose' := h .close
  rfl

theorem actions_append (a b : Hooks E) (moment : Moment) :
    (a.append b).actions moment = a.actions moment ++ b.actions moment := by
  cases moment <;> rfl

/-- Requests that go onto an empty record, which is appended to another,
might as well go onto that. -/
theorem append_pushAll (hooks : Hooks E) (requests : List (Request E)) :
    hooks.append (empty.pushAll requests) = hooks.pushAll requests := by
  apply ext_actions
  intro moment
  rw [actions_append, actions_pushAll, actions_pushAll, actions_empty,
    List.nil_append]

-- ============================================================== requests

/-- Requests that come to this record. -/
def requests (hooks : Hooks E) : List (Request E) :=
  hooks.onCreate.map (Request.mk .create)
    ++ hooks.onClose.map (Request.mk .close)

theorem actionsAt_requests (hooks : Hooks E) (moment : Moment) :
    actionsAt moment hooks.requests = hooks.actions moment := by
  rw [requests, actionsAt_append, actionsAt_map, actionsAt_map]
  cases moment
  · exact List.append_nil _
  · rfl

/-- Every record is what requests make of an empty one. -/
theorem pushAll_requests (hooks : Hooks E) :
    empty.pushAll hooks.requests = hooks := by
  apply ext_actions
  intro moment
  rw [actions_pushAll, actions_empty, actionsAt_requests, List.nil_append]

end Hooks

namespace BindingHandler

-- ================================================= naming an action

/-- The handler that has a named action run pushes that action, and does
nothing else. -/
theorem hook_of_found {context : BindingContext E} {name : String}
    {action : Action E} (h : context.actions.get? name = some action)
    (moment : Moment) (b : Bound E) :
    hook context moment name b
      = ⟨[], { b with hooks := b.hooks.push moment action }, .ok ()⟩ := by
  show (Handler.ofExcept _).bind _ b = _
  unfold Handler.bind Handler.ofExcept Actions.resolve
  rw [h]
  rfl

/-- If there is no such action, it fails and pushes nothing. -/
theorem hook_of_missing {context : BindingContext E} {name : String}
    (h : context.actions.get? name = none) (moment : Moment)
    (b : Bound E) :
    hook context moment name b = ⟨[], b, .error (.unknownAction name)⟩ := by
  show (Handler.ofExcept _).bind _ b = _
  unfold Handler.bind Handler.ofExcept Actions.resolve
  rw [h]

end BindingHandler

end EntityMarkup
