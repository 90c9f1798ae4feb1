/-
How a run that failed is reported: what was being done, and below it what
went wrong, the nearest cause first. Several causes are numbered. A cause
of several lines is indented as a whole.
-/

namespace EntityMarkup.CommandLine

/-- A failed run. -/
structure Failure where
  /-- What was being done. -/
  context : String
  /-- What went wrong, the nearest cause first. -/
  causes : List String
deriving DecidableEq, Repr

namespace Failure

/-- A cause behind its first indentation, its further lines behind
another. -/
def indented (first others : String) (cause : String) : String :=
  first ++ ("\n" ++ others).intercalate (cause.splitOn "\n")

/-- The lines of the causes. -/
def causeLines : List String → List String
  | [cause] => [indented "    " "    " cause]
  | causes =>
    causes.zipIdx.map fun (cause, index) =>
      let number := toString index
      let before :=
        String.ofList (List.replicate (5 - number.length) ' ')
      indented (before ++ number ++ ": ") "       " cause

/-- The report on a failed run. -/
def report (f : Failure) : String :=
  let lines := if f.causes.isEmpty then []
    else "" :: "Caused by:" :: causeLines f.causes
  String.join ((("Error: " ++ f.context) :: lines).map (· ++ "\n"))

end Failure

end EntityMarkup.CommandLine
