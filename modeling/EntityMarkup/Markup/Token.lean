/-
The tokens of markup and where they stand. Outside tags a source is text,
opening tags up to their name, and whole closing tags; inside an opening
tag it is attribute names, equals signs, values, and the end of the tag.
One last token marks the end of the source.
-/
import EntityMarkup.Text.Alphanumeric
import EntityMarkup.Text.Quoted
import EntityMarkup.Markup.Position

namespace EntityMarkup

/-- A letter or digit of any script, or one of the four marks allowed in
the names of tags and attributes. -/
def isNameChar (c : Char) : Bool :=
  Text.isAlphanumeric c || c == '_' || c == '-' || c == '.' || c == ':'

/-- One token of markup. -/
inductive Token where
  /-- The start of an opening tag, up to its name. -/
  | opening (name : String)
  /-- A whole closing tag. -/
  | closing (name : String)
  /-- The name of an attribute. -/
  | attrName (name : String)
  /-- The value of an attribute, without quotes. -/
  | value (chars : String)
  /-- Characters outside tags. -/
  | text (run : String)
  /-- The sign between a name and its value. -/
  | equals
  /-- The end of an opening tag that has a body. -/
  | tagEnd
  /-- The end of an opening tag without a body. -/
  | selfClose
  /-- The end of the source. -/
  | eof
deriving DecidableEq, Repr

/-- The token as messages name it. -/
def Token.describe : Token → String
  | .opening name => "Open(" ++ Text.quoted name ++ ")"
  | .closing name => "Close(" ++ Text.quoted name ++ ")"
  | .attrName name => "Name(" ++ Text.quoted name ++ ")"
  | .value chars => "Value(" ++ Text.quoted chars ++ ")"
  | .text run => "Text(" ++ Text.quoted run ++ ")"
  | .equals => "Eq"
  | .tagEnd => "TagEnd"
  | .selfClose => "SelfClose"
  | .eof => "Eof"

/-- A token and the place of its first character. -/
structure Placed where
  token : Token
  pos : Position
deriving DecidableEq, Repr

end EntityMarkup
