/-
Nesting tokens into elements, one token at a time. A reading carries the
elements that are complete, the ones that are open, and where in an
opening tag it stands. `Reading.step` says what one token does to it and
`Reading.stop` what the mark of the end means there. A document is read
by stepping through the tokens before the mark, and a list that lacks
the mark is read as if it followed.

A token that is refused is where the error stands, with two exceptions
that are found one token late: a repeated attribute name and a missing
value are reported at the token behind the attribute.
-/
import EntityMarkup.Markup.Element
import EntityMarkup.Markup.Token.Scan

namespace EntityMarkup

/-- An opening tag that has not ended, its attributes last first. -/
structure OpenTag where
  name : String
  attributes : List Attribute
  line : Nat
deriving DecidableEq

/-- An element whose closing tag has not been read, its body last item
first. -/
structure OpenElement where
  name : String
  attributes : List Attribute
  line : Nat
  body : List Content
deriving DecidableEq

/-- What is complete and what is open: the outermost elements read so
far, last first, and the open elements, innermost first. -/
structure Nest where
  roots : List Element
  opened : List OpenElement
deriving DecidableEq

/-- Where in the grammar a reading stands. -/
inductive Reading where
  /-- Between tags. -/
  | content (nest : Nest)
  /-- In an opening tag, between attributes. -/
  | tag (nest : Nest) (head : OpenTag)
  /-- After an attribute's name. -/
  | named (nest : Nest) (head : OpenTag) (name : String)
  /-- After the equals sign behind an attribute's name. -/
  | awaiting (nest : Nest) (head : OpenTag) (name : String)
  /-- After an attribute, not yet compared with the earlier ones. -/
  | valued (nest : Nest) (head : OpenTag) (last : Attribute)
  /-- After a token in place of an attribute's value. -/
  | missing (name : String) (found : Token)
deriving DecidableEq

-- ======================================================= open elements

namespace OpenTag

/-- The element that a self-closing tag denotes. -/
def element (head : OpenTag) : Element :=
  ⟨head.name, head.attributes.reverse, [], head.line⟩

/-- With one more attribute, unless an earlier one has its name; the
error stands at the given place. -/
def add (head : OpenTag) (last : Attribute) (pos : Position) :
    Except MarkupError OpenTag :=
  if head.attributes.any (·.name == last.name) then
    .error ⟨.duplicateAttribute head.name last.name, pos⟩
  else .ok { head with attributes := last :: head.attributes }

end OpenTag

/-- The element that an open one becomes when it is closed. -/
def OpenElement.element (inner : OpenElement) : Element :=
  ⟨inner.name, inner.attributes, inner.body.reverse, inner.line⟩

namespace Nest

/-- Nothing read yet. -/
def empty : Nest := ⟨[], []⟩

/-- With one more element open. -/
def enter (nest : Nest) (head : OpenTag) : Nest :=
  { nest with
    opened := ⟨head.name, head.attributes.reverse, head.line, []⟩
      :: nest.opened }

/-- With a complete element at the innermost open place. -/
def add (nest : Nest) (e : Element) : Nest :=
  match nest.opened with
  | [] => { nest with roots := e :: nest.roots }
  | inner :: outer =>
    { nest with
      opened := { inner with body := .element e :: inner.body } :: outer }

end Nest

-- ============================================================== reading

namespace Reading

/-- The error of a surprise at a place. -/
def surprise {α : Type} (what : Surprise) (pos : Position) :
    Except MarkupError α :=
  .error ⟨.unexpected what, pos⟩

/-- One token between tags. Blank text has no place in a document. -/
def stepContent (nest : Nest) (t : Placed) : Except MarkupError Reading :=
  match t.token, nest.opened with
  | .opening name, _ => .ok (.tag nest ⟨name, [], t.pos.line⟩)
  | .text run, opened =>
    if Text.isBlankText run then .ok (.content nest)
    else
      match opened with
      | [] => .error ⟨.textOutsideTag, t.pos⟩
      | inner :: outer =>
        let inner := { inner with body := .text run :: inner.body }
        .ok (.content { nest with opened := inner :: outer })
  | .closing name, [] => .error ⟨.strayClose name, t.pos⟩
  | .closing name, inner :: outer =>
    if name = inner.name then
      .ok (.content ({ nest with opened := outer }.add inner.element))
    else .error ⟨.mismatchedClose inner.name name, t.pos⟩
  | token, [] => surprise (.outside token) t.pos
  | token, inner :: _ => surprise (.inBody token inner.name) t.pos

/-- One token in an opening tag, between attributes. -/
def stepTag (nest : Nest) (head : OpenTag) (t : Placed) :
    Except MarkupError Reading :=
  match t.token with
  | .attrName name => .ok (.named nest head name)
  | .tagEnd => .ok (.content (nest.enter head))
  | .selfClose => .ok (.content (nest.add head.element))
  | token => surprise (.inTag token head.name) t.pos

/-- What one token other than the mark of the end does to a reading. A
name without a value has the value `true`. -/
def step (reading : Reading) (t : Placed) : Except MarkupError Reading :=
  match reading with
  | .content nest => stepContent nest t
  | .tag nest head => stepTag nest head t
  | .named nest head name =>
    if t.token = .equals then .ok (.awaiting nest head name)
    else do stepTag nest (← head.add ⟨name, "true"⟩ t.pos) t
  | .awaiting nest head name =>
    match t.token with
    | .value chars => .ok (.valued nest head ⟨name, chars⟩)
    | found => .ok (.missing name found)
  | .valued nest head last => do
    stepTag nest (← head.add last t.pos) t
  | .missing name found => surprise (.forValue found name) t.pos

/-- What the mark of the end means, standing at one place, with the next
token, if any, at the other. -/
def stop (reading : Reading) (here behind : Position) :
    Except MarkupError Document :=
  match reading with
  | .content ⟨roots, []⟩ => .ok ⟨roots.reverse⟩
  | .content ⟨_, inner :: _⟩ => .error ⟨.unclosedTag inner.name, here⟩
  | .tag _ head => surprise (.inTag .eof head.name) here
  | .named _ head name => do
    surprise (.inTag .eof (← head.add ⟨name, "true"⟩ here).name) here
  | .awaiting _ _ name => surprise (.forValue .eof name) behind
  | .valued _ head last => do
    surprise (.inTag .eof (← head.add last here).name) here
  | .missing name found => surprise (.forValue found name) here

/-- Reads on through a list of tokens, behind a token at this place. -/
def run (reading : Reading) (last : Position) :
    List Placed → Except MarkupError Document
  | [] => reading.stop last last
  | t :: rest =>
    if t.token = .eof then
      reading.stop t.pos (rest.head?.elim t.pos (·.pos))
    else do (← reading.step t).run t.pos rest

end Reading

namespace Document

/-- The document that a list of tokens denotes. -/
def ofTokens? (tokens : List Placed) : Except MarkupError Document :=
  (Reading.content .empty).run .start tokens

/-- The document that a source denotes. -/
def parse? (source : String) : Except MarkupError Document := do
  ofTokens? (← tokens? source)

end Document

end EntityMarkup
