/-
The program: builds a markup file, or the sample, by the standard
registry and prints the outline of what it built.
-/
import EntityMarkup.CommandLine.Session

namespace EntityMarkup.CommandLine

/-- What stood in the way of reading a file. -/
def faultOf : IO.Error → FileFault
  | .noFileOrDirectory _ code details
  | .interrupted _ code details
  | .alreadyExists _ code details
  | .invalidArgument _ code details
  | .permissionDenied _ code details
  | .resourceExhausted _ code details
  | .inappropriateType _ code details
  | .noSuchThing _ code details
  | .otherError code details
  | .resourceBusy code details
  | .resourceVanished code details
  | .unsupportedOperation code details
  | .hardwareFault code details
  | .unsatisfiedConstraints code details
  | .illegalOperation code details
  | .protocolError code details
  | .timeExpired code details => .system code.toNat details
  | .unexpectedEof => .system 5 "Input/output error"
  | .userError details => .system 5 details

/-- The contents of a file. -/
def contentsOf (path : String) : IO (Except FileFault ByteArray) := do
  try
    let file ← IO.FS.Handle.mk path .read
    return .ok (← file.readBinToEnd)
  catch e =>
    return .error (faultOf e)

end EntityMarkup.CommandLine

open EntityMarkup.CommandLine in
/-- Reads what the arguments ask for, does it, and prints what it
leaves. -/
def main (arguments : List String) : IO UInt32 := do
  let request := Request.ofArguments arguments
  let contents ← match request.file? with
    | some path => contentsOf path
    | none => pure (.error .missing)
  let outcome := request.outcome
    { strict := ← IO.getEnv EntityMarkup.Config.strictVariable,
      filter := ← IO.getEnv LogFilter.variableName,
      contents := fun _ => contents }
  for line in outcome.log do
    IO.eprintln line
  IO.print outcome.output
  IO.eprint outcome.errors
  return outcome.code.toUInt32
