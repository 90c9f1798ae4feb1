/-
The one option of a build: whether an attribute that nobody takes is an
error or is skipped with a warning. An environment variable can set it.
-/
import EntityMarkup.Log
import EntityMarkup.Text.Blank
import EntityMarkup.Text.Quoted

namespace EntityMarkup

/-- The options of a build. -/
structure Config where
  /-- Unknown attributes are errors, not warnings. -/
  strict : Bool := true
deriving DecidableEq, Repr

namespace Config

/-- The environment variable that sets strictness. -/
def strictVariable : String := "TRELLIS_STRICT"

/-- The meaning of a flag's value, in capital or small letters and with
white space around it. -/
def flag? (value : String) : Option Bool :=
  let word := String.ofList ((Text.trim value).toList.map Char.toLower)
  if word ∈ ["1", "true", "yes", "on"] then some true
  else if word ∈ ["0", "false", "no", "off"] then some false
  else none

/-- The options for an environment, given the value of the variable. A
value without a meaning is reported and leaves the default. -/
def ofVariable : Option String → Config × List Entry
  | none => ({}, [])
  | some value =>
    match flag? value with
    | some strict => (⟨strict⟩, [])
    | none =>
      ({}, [.record .config .warn
        ("ignoring " ++ strictVariable ++ "=" ++ Text.quoted value
          ++ ": expected true/false/1/0")])

end Config

end EntityMarkup
