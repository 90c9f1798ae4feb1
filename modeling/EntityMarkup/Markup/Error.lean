/-
What can be wrong with markup, and where. The kinds name the cause; their
wording is in one function. Of the two readers, the one that cuts a
source into tokens raises the three kinds for things left open at the end
of the source, and the character-level surprises; the one that nests
tokens into elements raises all others.
-/
import EntityMarkup.Markup.Token

namespace EntityMarkup

/-- A character or a token that does not belong where it was found. -/
inductive Surprise where
  /-- No name after the start of a tag. -/
  | noTagName
  /-- Something before the end of the closing tag of this name. -/
  | inClosing (name : String)
  /-- Something after the slash that ends an opening tag. -/
  | afterSlash
  /-- No value after an equals sign. -/
  | noValue
  /-- A character that no part of an opening tag starts with. -/
  | character (c : Char)
  /-- A token outside every element. -/
  | outside (token : Token)
  /-- A token inside the opening tag of this name. -/
  | inTag (token : Token) (tag : String)
  /-- A token in the body of the element of this name. -/
  | inBody (token : Token) (tag : String)
  /-- A token in place of the value of this attribute. -/
  | forValue (token : Token) (name : String)
  /-- A surprise described by its reporter. -/
  | described (text : String)
deriving DecidableEq, Repr

/-- What the surprise is, in words. -/
def Surprise.message : Surprise → String
  | .noTagName => "expected a tag name"
  | .inClosing name => "expected '>' to end </" ++ name ++ ">"
  | .afterSlash => "expected '>' after '/'"
  | .noValue => "expected an attribute value after '='"
  | .character c =>
    "unexpected character " ++ Text.quotedChar c ++ " inside tag"
  | .outside token => "unexpected " ++ token.describe ++ " at document level"
  | .inTag token tag =>
    "unexpected " ++ token.describe ++ " inside <" ++ tag ++ ">"
  | .inBody token tag =>
    "unexpected " ++ token.describe ++ " in body of <" ++ tag ++ ">"
  | .forValue token name =>
    "expected a value for " ++ Text.quoted name ++ ", got "
      ++ token.describe
  | .described text => text

/-- What is wrong with a source, apart from the place. -/
inductive MarkupFault where
  /-- The source ends inside a comment. -/
  | unterminatedComment
  /-- The source ends inside an opening tag. -/
  | unterminatedTag
  /-- The source ends inside a quoted value. -/
  | unterminatedValue
  /-- The source ends before the closing tag of an element. -/
  | unclosedTag (name : String)
  /-- A closing tag of another name than the innermost open element. -/
  | mismatchedClose (expected found : String)
  /-- A closing tag where no element is open. -/
  | strayClose (name : String)
  /-- A second attribute of one name on one tag. -/
  | duplicateAttribute (tag name : String)
  /-- Text outside every element. -/
  | textOutsideTag
  /-- Something else that is not allowed where it stands. -/
  | unexpected (what : Surprise)
deriving DecidableEq, Repr

/-- The fault in words. -/
def MarkupFault.message : MarkupFault → String
  | .unterminatedComment => "unterminated comment"
  | .unterminatedTag => "unterminated tag"
  | .unterminatedValue => "unterminated attribute value"
  | .unclosedTag name => "unclosed tag <" ++ name ++ ">"
  | .mismatchedClose expected found =>
    "mismatched closing tag: expected </" ++ expected ++ ">, got </"
      ++ found ++ ">"
  | .strayClose name =>
    "closing tag </" ++ name ++ "> has no matching open tag"
  | .duplicateAttribute tag name =>
    "duplicate attribute " ++ Text.quoted name ++ " on <" ++ tag ++ ">"
  | .textOutsideTag => "text outside of any tag"
  | .unexpected what => what.message

/-- A fault and its place. -/
structure MarkupError where
  fault : MarkupFault
  pos : Position
deriving DecidableEq, Repr

/-- The place and the fault in words. -/
def MarkupError.message (error : MarkupError) : String :=
  "markup error at " ++ error.pos.text ++ ": " ++ error.fault.message

end EntityMarkup
