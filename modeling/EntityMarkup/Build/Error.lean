/-
Why building from markup can fail. An error names the attribute, type or
tag at fault; where a handler refused, it carries the handler's cause.
-/
import EntityMarkup.Build.Phase
import EntityMarkup.Entity.Handler
import EntityMarkup.Markup.Error
import EntityMarkup.Registry.Ancestry

namespace EntityMarkup

/-- Why a build failed. -/
inductive BuildError where
  /-- No handler takes the attribute. -/
  | unknownAttribute (name entityType : String)
  /-- A handler, the making of the entity, or the close hook failed. -/
  | handlerFailure (name entityType : String) (phase : Phase)
      (cause : Cause)
  /-- An entity is composite and has no components. -/
  | missingComponents (entityType : String)
  /-- A child or a line of text was refused. -/
  | invalidPlacement (parentType child : String) (cause : Cause)
  /-- No kind is registered for the tag. -/
  | unknownTag (name : String) (line : Nat)
  /-- No action has the name. -/
  | unknownAction (name : String)
  /-- The registry could not be finished. -/
  | invalidRegistry (fault : RegistryFault)
  /-- The markup could not be read. -/
  | markup (error : MarkupError)
deriving DecidableEq, Repr

namespace BuildError

/-- The error in words. -/
def message : BuildError → String
  | .unknownAttribute name entityType =>
    "unknown attribute \"" ++ name ++ "\" for entity type " ++ entityType
  | .handlerFailure name entityType phase cause =>
    phase.name ++ " attribute \"" ++ name ++ "\" failed on " ++ entityType
      ++ ": " ++ cause.text
  | .missingComponents entityType =>
    entityType ++ " declares components but returned none"
  | .invalidPlacement parentType child cause =>
    parentType ++ " refused " ++ child ++ ": " ++ cause.text
  | .unknownTag name line =>
    "unknown tag <" ++ name ++ "> at line " ++ toString line
  | .unknownAction name => Cause.text (.unknownAction name)
  | .invalidRegistry fault => "invalid syntax: " ++ fault.message
  | .markup error => error.message

/-- What caused the error, in words, the nearest cause first. -/
def causes : BuildError → List String
  | .handlerFailure _ _ _ cause => [cause.text]
  | .invalidPlacement _ _ cause => [cause.text]
  | _ => []

end BuildError

end EntityMarkup
