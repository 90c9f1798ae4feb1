/-
What a build reports while it runs. Records carry a level and the area
of the program that they are from, and can be filtered by both; notes are
lines that handlers and actions add of their own accord, and a journal is
a second such list for entity sets that keep one. All are entries of one
list, in the order of their occurrence.
-/

namespace EntityMarkup

/-- How much attention a record asks for. -/
inductive Level where
  | error
  | warn
  | info
  | debug
  | trace
deriving DecidableEq, Repr

namespace Level

/-- One for errors, up to five for traces. -/
def rank : Level → Nat
  | .error => 1
  | .warn => 2
  | .info => 3
  | .debug => 4
  | .trace => 5

/-- The level in capitals. -/
def name : Level → String
  | .error => "ERROR"
  | .warn => "WARN"
  | .info => "INFO"
  | .debug => "DEBUG"
  | .trace => "TRACE"

/-- The highest level shown when verbosity was asked for so many times:
warnings at first, then one level more each time. -/
def ofVerbosity : Nat → Level
  | 0 => .warn
  | 1 => .info
  | 2 => .debug
  | _ => .trace

end Level

/-- The area of the program that a record is from. -/
inductive Area where
  /-- Setting up the log itself. -/
  | logging
  /-- Reading the options of a build. -/
  | config
  /-- Populating and finishing a registry. -/
  | registry
  /-- Opening, filling and closing a tag. -/
  | tag
  /-- Handing the entity of a child to its parent. -/
  | placement
  /-- The kinds of the standard scene. -/
  | scene
  /-- The command line. -/
  | program
deriving DecidableEq, Repr

/-- One thing reported. -/
inductive Entry where
  /-- A record of the build itself. -/
  | record (area : Area) (level : Level) (text : String)
  /-- A line of a handler or an action. -/
  | note (text : String)
  /-- A line of an entity set's journal. -/
  | journal (text : String)
deriving DecidableEq, Repr

namespace Entry

/-- The line that shows the entry when records up to a rank are shown: a
record with its level before it, a note as it is, and nothing for the
journal. -/
def line? (most : Nat) : Entry → Option String
  | .record _ level text =>
    if level.rank ≤ most then some (level.name ++ " " ++ text) else none
  | .note text => some text
  | .journal _ => none

end Entry

end EntityMarkup
