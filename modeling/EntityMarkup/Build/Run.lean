/-
Runs: what a build does, step by step, and how it ends. A run lists its
events in order, also when it fails: every entry that was reported, and a
mark for each call of a handler, hook or action and each placement, set
before the call. So the events of a failed run end with the failing step
and what it reported. An attribute that is passed over is an event of its
own, which stands for the warning about it.
-/
import EntityMarkup.Build.Error
import EntityMarkup.Entity.Action

namespace EntityMarkup

/-- Which of a tag's entities a step is about. -/
inductive Slot where
  /-- The tag's own entity. -/
  | whole
  /-- The component at this index. -/
  | component (index : Nat)
deriving DecidableEq, Repr

/-- How a child or a line of text finds its place. -/
inductive Placement where
  /-- It attaches itself. -/
  | attached
  /-- It becomes a hierarchy node. -/
  | node
  /-- The kind of the tag places it. -/
  | byKind
deriving DecidableEq, Repr

/-- One step in the building of a tag's entity. -/
inductive Step where
  /-- The building handler registered for `owner` gets the attribute. -/
  | building (owner name value : String)
  /-- The entity is made from the draft. -/
  | instantiate
  /-- The draft is finished. -/
  | finish
  /-- The binding handler registered for `owner` gets the attribute. -/
  | binding (slot : Slot) (owner name value : String)
  /-- The hook at this index runs. -/
  | hook (moment : Moment) (slot : Slot) (index : Nat)
  /-- A line of text is placed. -/
  | line (way : Placement) (text : String)
  /-- The entity of a child tag is placed. -/
  | child (way : Placement) (tag : String)
  /-- The kind's own close hook runs. -/
  | close
deriving DecidableEq, Repr

/-- One thing that happens in a run. -/
inductive Event where
  /-- Something is reported. -/
  | entry (entry : Entry)
  /-- A step is taken for the tag of this name. -/
  | step (tag : String) (step : Step)
  /-- An attribute of the tag that nobody takes is passed over, the tag's
  entity being of the type `owner`. -/
  | ignored (tag owner name : String)
deriving DecidableEq, Repr

namespace Event

/-- The warning about an attribute that is passed over. -/
def warning (tag owner name : String) : Entry :=
  .record .tag .warn
    ("<" ++ tag ++ ">: ignoring unknown attribute " ++ Text.quoted name
      ++ " for " ++ owner)

/-- What the event reports, if it reports anything. -/
def entry? : Event → Option Entry
  | .entry e => some e
  | .step _ _ => none
  | .ignored tag owner name => some (warning tag owner name)

/-- The entries among events. -/
def entries (events : List Event) : List Entry :=
  events.filterMap entry?

end Event

/-- What a build does, and how it ends. -/
structure Run (α : Type) where
  events : List Event
  result : Except BuildError α

namespace Run

variable {σ α β : Type}

/-- One run, and what follows from its answer unless it fails. -/
def bind (first : Run α) (andThen : α → Run β) : Run β :=
  match first.result with
  | .ok a =>
    let rest := andThen a
    ⟨first.events ++ rest.events, rest.result⟩
  | .error e => ⟨first.events, .error e⟩

instance : Monad Run where
  pure a := ⟨[], .ok a⟩
  bind := bind

/-- A run that fails at once. -/
def fail (e : BuildError) : Run α := ⟨[], .error e⟩

/-- Reports a record. -/
def record (area : Area) (level : Level) (text : String) : Run Unit :=
  ⟨[.entry (.record area level text)], .ok ()⟩

/-- Passes an attribute over. -/
def ignore (tag owner name : String) : Run Unit :=
  ⟨[.ignored tag owner name], .ok ()⟩

/-- Marks a step. -/
def step (tag : String) (step : Step) : Run Unit :=
  ⟨[.step tag step], .ok ()⟩

/-- Runs a handler on a state. When it fails, the error is made from the
cause and the state that it left. -/
def call (handler : Handler σ α) (state : σ)
    (blame : σ → Cause → BuildError) : Run (α × σ) :=
  let reply := handler state
  ⟨reply.entries.map .entry,
    match reply.result with
    | .ok a => .ok (a, reply.state)
    | .error cause => .error (blame reply.state cause)⟩

/-- Runs an action on an entity. -/
def act {E : Type} (action : Action E) (e : E) : Run E :=
  let (entries, e') := action e
  ⟨entries.map .entry, .ok e'⟩

end Run

end EntityMarkup
