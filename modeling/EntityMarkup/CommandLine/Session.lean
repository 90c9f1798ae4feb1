/-
A run of the program, from what the arguments ask for and what surrounds
it to what it prints. A description lists the attributes that a type
accepts; a build prints the outlines of its roots, and nothing of them
when it fails. Records are shown as far as the filter lets them.
-/
import EntityMarkup.Build.Assemble
import EntityMarkup.CommandLine.Directory
import EntityMarkup.CommandLine.Failure
import EntityMarkup.CommandLine.LogFilter
import EntityMarkup.CommandLine.Options
import EntityMarkup.CommandLine.Sample
import EntityMarkup.Scene.Outline
import EntityMarkup.Scene.Standard
import EntityMarkup.Text.Padded

namespace EntityMarkup.CommandLine

open Scene (Object Sketch)

/-- What a run finds around it. -/
structure Surroundings where
  /-- The value of the variable that sets strictness. -/
  strict : Option String
  /-- The value of the variable that holds a filter. -/
  filter : Option String
  /-- The contents of files, by their paths. -/
  contents : String → Except FileFault ByteArray

/-- What a run leaves. -/
structure Outcome where
  /-- Zero on success, two if the arguments cannot be read, one for any
  other failure. -/
  code : Nat := 0
  /-- What is printed. -/
  output : String := ""
  /-- The records that are shown. -/
  log : List String := []
  /-- What else is reported. -/
  errors : String := ""
deriving DecidableEq, Repr

/-- What a run does: its records, and what it prints or why it fails. -/
structure Work where
  records : List Entry
  result : Except Failure String

namespace Work

/-- The work that has these records before it. -/
def after (entries : List Entry) (w : Work) : Work :=
  { w with records := entries ++ w.records }

end Work

-- ============================================================== describe

/-- The line of an attribute in a description. -/
def attributeLine (a : AttributeInfo) : String :=
  "  " ++ Text.padded .left 12 none a.name
    ++ " " ++ Text.padded .left 9 none a.phase.name
    ++ " from " ++ a.declaredBy

/-- A type with its ancestry, and a line for each attribute that it
accepts. -/
def description (registry : Registry Object Sketch) (type : String) :
    String :=
  let title :=
    type ++ " (" ++ " < ".intercalate (registry.ancestry type) ++ ")"
  let lines := (registry.describe type).map attributeLine
  String.join ((title :: lines).map (· ++ "\n"))

-- ================================================================= build

/-- The name and the text of the document to build. -/
def Surroundings.source (s : Surroundings) (file : Option String) :
    Except Failure (String × String) :=
  match file with
  | none => .ok (Sample.name, Sample.text)
  | some path =>
    match s.contents path >>= textOf with
    | .ok text => .ok (path, text)
    | .error fault => .error ⟨"reading " ++ path, [fault.message]⟩

/-- Builds a document by the standard registry, without actions. -/
def buildWork (registry : Registry Object Sketch) (config : Config)
    (name text : String) : Work :=
  let run := Build.source ⟨registry, config, .empty⟩ text
  let work : Work := match run.result with
    | .ok roots =>
      { records := [.record .program .info
          ("built " ++ toString roots.length ++ " root(s) from " ++ name
            ++ " (strict: " ++ toString config.strict ++ ")")],
        result := .ok (String.join (roots.map Scene.outline)) }
    | .error e =>
      { records := [],
        result := .error ⟨"building " ++ name, e.message :: e.causes⟩ }
  work.after (Event.entries run.events)

/-- The work on a source, after the variable for strictness was looked
at. -/
def sourceWork (registry : Registry Object Sketch) (s : Surroundings)
    (o : Options) : Work :=
  let (config, entries) := Config.ofVariable s.strict
  let config := if o.lenient then ⟨false⟩ else config
  let work : Work := match s.source o.file with
    | .ok (name, text) => buildWork registry config name text
    | .error failure => ⟨[], .error failure⟩
  work.after entries

/-- The work that the options ask for. -/
def Options.work (o : Options) (s : Surroundings) : Work :=
  let work : Work := match Scene.registry? with
    | .error fault =>
      ⟨[], .error ⟨"registering the widget syntax",
        [(BuildError.invalidRegistry fault).message]⟩⟩
    | .ok registry =>
      let work : Work := match o.describe with
        | some type => ⟨[], .ok (description registry type)⟩
        | none => sourceWork registry s o
      work.after [registry.readyEntry]
  work.after
    (.record .logging .debug "logging initialized"
      :: Scene.registrations.entries)

-- =============================================================== outcome

/-- The filter of a run and the warnings about it: the variable counts,
and without it the verbosity. -/
def Options.logFilter (o : Options) (s : Surroundings) :
    LogFilter × List String :=
  match s.filter with
  | some text => LogFilter.ofText text
  | none => (LogFilter.upTo (Level.ofVerbosity o.verbosity), [])

/-- What is left of work under a filter, after warnings. -/
def Work.outcome (w : Work) (filter : LogFilter)
    (warnings : List String) : Outcome :=
  let log := w.records.filterMap filter.line?
  let warned := String.join (warnings.map (· ++ "\n"))
  match w.result with
  | .ok output => { output, log, errors := warned }
  | .error failure =>
    { code := 1, log, errors := warned ++ failure.report }

/-- What a run leaves. -/
def Request.outcome (s : Surroundings) : Request → Outcome
  | .help => { output := helpText }
  | .version => { output := versionText }
  | .refused fault =>
    { code := 2, errors := "error: " ++ fault.message ++ "\n" }
  | .work options =>
    let (filter, warnings) := options.logFilter s
    (options.work s).outcome filter warnings

end EntityMarkup.CommandLine
