/-
Which records a run shows. A filter is a list of directives separated by
commas: a level for all records, or a level for the records of an area,
which is named in full or by the beginning of its name. Of the directives
that cover an area, the one with the longest name decides.
After a slash, a filter may have a pattern that the text of a record has
to contain. What cannot be read is left out with a warning.
-/
import EntityMarkup.CommandLine.Pattern.Read
import EntityMarkup.Log

namespace EntityMarkup.CommandLine

/-- The name that filters know an area by. -/
def areaName : Area → String
  | .logging => "trellis_build::logging::init"
  | .config => "trellis_build::config"
  | .registry => "trellis_build::syntax"
  | .tag => "trellis_build::tag"
  | .placement => "trellis_build::assemble"
  | .scene => "trellis_build::scene::tags"
  | .program => "trellis_studio"

/-- One rule of a filter. -/
structure Directive where
  /-- How the names of the areas start that the rule is for; all areas if
  none is given. -/
  scope : Option String
  /-- The highest rank shown. -/
  most : Nat
deriving DecidableEq, Repr

namespace Directive

/-- The highest rank that a word stands for, in capital or small
letters. -/
def rank? (word : String) : Option Nat :=
  match String.ofList (word.toList.map Char.toLower) with
  | "off" => some 0
  | "error" => some Level.error.rank
  | "warn" => some Level.warn.rank
  | "info" => some Level.info.rank
  | "debug" => some Level.debug.rank
  | "trace" => some Level.trace.rank
  | _ => none

/-- Reads a directive. A name without a level shows everything. The
failure is the part that cannot be read. -/
def read (text : String) : Except String Directive :=
  match text.splitOn "=" with
  | [word] =>
    match rank? word with
    | some most => .ok ⟨none, most⟩
    | none => .ok ⟨some word, Level.trace.rank⟩
  | [name, word] =>
    let word := Text.trim word
    match rank? word with
    | some most => .ok ⟨some name, most⟩
    | none =>
      if word.isEmpty then .ok ⟨some name, Level.trace.rank⟩
      else .error word
  | _ => .error text

/-- Whether the rule is for an area. -/
def covers (d : Directive) (area : Area) : Bool :=
  d.scope.all fun name => name.toList.isPrefixOf (areaName area).toList

/-- The length of the name; none counts as an empty name. -/
def length (d : Directive) : Nat := d.scope.elim 0 String.length

/-- With one more directive, in the place of an earlier one of the same
name. -/
def insert (directives : List Directive) (d : Directive) :
    List Directive :=
  if directives.any (·.scope == d.scope) then
    directives.map fun e => if e.scope = d.scope then d else e
  else directives ++ [d]

end Directive

/-- What records are shown. -/
structure LogFilter where
  directives : List Directive
  /-- What the text of a record contains. -/
  pattern : Pattern := .empty
deriving DecidableEq, Repr

namespace LogFilter

/-- The environment variable that holds a filter. -/
def variableName : String := "RUST_LOG"

/-- The filter that shows everything up to a level. -/
def upTo (level : Level) : LogFilter :=
  { directives := [⟨none, level.rank⟩] }

/-- The directives of a list, and the parts that cannot be read. Without
any directive, errors are shown. -/
def directivesOf (text : String) : List Directive × List String :=
  let words := ((text.splitOn ",").map Text.trim).filter (!·.isEmpty)
  let (directives, unread) := words.foldl
    (fun (directives, unread) word =>
      match Directive.read word with
      | .ok d => (Directive.insert directives d, unread)
      | .error part => (directives, unread ++ [part]))
    (([], []) : List Directive × List String)
  let directives := if directives.isEmpty
    then [⟨none, Level.error.rank⟩] else directives
  (directives, unread)

/-- The warning about something that is left out. -/
def warning (what : String) : String :=
  "warning: " ++ what ++ ", ignoring it"

/-- The warning about a part that is no directive. -/
def partWarning (part : String) : String :=
  warning ("invalid logging spec '" ++ part ++ "'")

/-- The filter that a text describes, and warnings. -/
def ofText (text : String) : LogFilter × List String :=
  match text.splitOn "/" with
  | [words] =>
    let (directives, unread) := directivesOf words
    ({ directives }, unread.map partWarning)
  | [words, pattern] =>
    let (directives, unread) := directivesOf words
    match Pattern.read pattern with
    | .ok pattern => (⟨directives, pattern⟩, unread.map partWarning)
    | .error e =>
      let report := "invalid regex filter - " ++ e.report pattern
      ({ directives }, unread.map partWarning ++ [warning report])
  | _ =>
    let what := "invalid logging spec '" ++ text ++ "' (too many '/'s)"
    (upTo .error, [warning what])

/-- The highest rank shown of an area: that of the last directive among
those with the longest name that cover it. -/
def most (f : LogFilter) (area : Area) : Nat :=
  let best := (f.directives.filter (·.covers area)).foldl
    (fun (best : Nat × Nat) d =>
      if best.1 ≤ d.length then (d.length, d.most) else best)
    (0, 0)
  best.2

/-- The highest rank shown of an entry: none if its text does not contain
what the filter asks for. -/
def mostFor (f : LogFilter) : Entry → Nat
  | .record area _ text =>
    if f.pattern.occursIn text then f.most area else 0
  | _ => 0

/-- The line of an entry, if it is shown. -/
def line? (f : LogFilter) (e : Entry) : Option String :=
  e.line? (f.mostFor e)

end LogFilter

end EntityMarkup.CommandLine
