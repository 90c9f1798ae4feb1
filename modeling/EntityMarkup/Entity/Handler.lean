/-
Handlers: steps that may report, change a state, and fail. A handler is a
function of its arguments and the state it is run on. What it reported
and the state it left behind are kept also when it fails, since an error
names the entity as the failing step left it.
-/
import EntityMarkup.Log

namespace EntityMarkup

/-- Why a handler failed. -/
inductive Cause where
  /-- For a reason given in words. -/
  | message (text : String)
  /-- Because no action has this name. -/
  | unknownAction (name : String)
deriving DecidableEq, Repr

/-- The cause in words. -/
def Cause.text : Cause → String
  | .message text => text
  | .unknownAction name => "unknown action \"" ++ name ++ "\""

/-- What one run of a handler comes to. -/
structure Reply (σ α : Type) where
  entries : List Entry
  state : σ
  result : Except Cause α

/-- A step on a state that may report, change the state, and fail. -/
def Handler (σ α : Type) : Type := σ → Reply σ α

namespace Handler

variable {σ τ α β : Type}

/-- Runs a handler, and what follows from its answer unless it fails. -/
def bind (first : Handler σ α) (andThen : α → Handler σ β) :
    Handler σ β := fun s =>
  let r := first s
  match r.result with
  | .ok a =>
    let r' := andThen a r.state
    ⟨r.entries ++ r'.entries, r'.state, r'.result⟩
  | .error cause => ⟨r.entries, r.state, .error cause⟩

instance : Monad (Handler σ) where
  pure a := fun s => ⟨[], s, .ok a⟩
  bind := bind

/-- The state. -/
def get : Handler σ σ := fun s => ⟨[], s, .ok s⟩

/-- Changes the state. -/
def modify (f : σ → σ) : Handler σ Unit := fun s => ⟨[], f s, .ok ()⟩

/-- Reports one entry. -/
def report (entry : Entry) : Handler σ Unit := fun s =>
  ⟨[entry], s, .ok ()⟩

/-- Reports a line of its own. -/
def note (text : String) : Handler σ Unit := report (.note text)

/-- Fails. -/
def fail (cause : Cause) : Handler σ α := fun s => ⟨[], s, .error cause⟩

/-- Fails for a reason given in words. -/
def refuse (text : String) : Handler σ α := fail (.message text)

/-- Fails for that reason unless the condition holds. -/
def require (condition : Bool) (text : String) : Handler σ Unit :=
  if condition then pure () else refuse text

/-- A step that answers or fails, whatever the state. -/
def ofExcept (result : Except Cause α) : Handler σ α := fun s =>
  ⟨[], s, result⟩

/-- Runs a handler on a part of the state. -/
def within (part : σ) (put : σ → τ) (handler : Handler σ α) :
    Handler τ α := fun _ =>
  let r := handler part
  ⟨r.entries, put r.state, r.result⟩

end Handler

end EntityMarkup
