/-
Cutting a source into tokens, one character at a time. A scan carries the
tokens found so far, the place it has come to, and what it is in the
middle of; `ScanState.step` says what one character does to the latter,
and `ScanState.finish` what the end of the source means there. A source
is scanned by folding the step over its characters, so the scan of a
text that is cut anywhere is the scan of its first part, continued.

Comments leave no token. An error about a character that was found where
another was required stands at that character, with two exceptions: in a
closing tag and after a slash the place is the one behind it.
-/
import EntityMarkup.Text.Blank
import EntityMarkup.Markup.Error

namespace EntityMarkup

/-- What a scan is in the middle of, with the place where it began. Runs
of characters are kept last first. -/
inductive ScanState where
  /-- Outside tags, after these characters of text. -/
  | text (start : Position) (run : List Char)
  /-- After the character that opens tags and comments. -/
  | angle (start : Position)
  /-- After the first two characters of a comment opener. -/
  | bang (start : Position)
  /-- After the first three characters of a comment opener. -/
  | bangDash (start : Position)
  /-- In a comment, after this many dashes (two stand for more). -/
  | comment (start : Position) (dashes : Nat)
  /-- In the name of a closing tag. -/
  | closingName (start : Position) (name : List Char)
  /-- After the name of a closing tag. -/
  | closingEnd (start : Position) (name : List Char)
  /-- In the name of an opening tag. -/
  | openingName (start : Position) (name : List Char)
  /-- In an opening tag, between its parts. -/
  | tag
  /-- After a slash in an opening tag. -/
  | slash (start : Position)
  /-- In the name of an attribute. -/
  | attrName (start : Position) (name : List Char)
  /-- After an equals sign. -/
  | value
  /-- In a value that ends at this quote. -/
  | quoted (start : Position) (quote : Char) (chars : List Char)
  /-- In a value without quotes. -/
  | bare (start : Position) (chars : List Char)
  /-- In a value without quotes, after a slash at the second place. -/
  | bareSlash (start : Position) (chars : List Char) (last : Position)
deriving DecidableEq, Repr

namespace ScanState

/-- The state outside tags at a place, with no text yet. -/
def outside (here : Position) : ScanState := .text here []

/-- The run of characters as it was written. -/
def written (run : List Char) : String := String.ofList run.reverse

/-- The token for text outside tags, if there is any text. -/
def textToken (start : Position) (run : List Char) : List Placed :=
  if run.isEmpty then [] else [⟨.text (written run), start⟩]

/-- The error of a surprise at a place. -/
def surprise {α : Type} (what : Surprise) (pos : Position) :
    Except MarkupError α :=
  .error ⟨.unexpected what, pos⟩

/-- One character in an opening tag, between its parts. -/
def stepTag (here : Position) (c : Char) :
    Except MarkupError (List Placed × ScanState) :=
  if Text.isBlank c then .ok ([], .tag)
  else if c = '>' then .ok ([⟨.tagEnd, here⟩], outside (here.next c))
  else if c = '/' then .ok ([], .slash here)
  else if c = '=' then .ok ([⟨.equals, here⟩], .value)
  else if isNameChar c then .ok ([], .attrName here [c])
  else surprise (.character c) here

/-- One character in a value without quotes that is not the bracket after
a slash. -/
def stepBare (start : Position) (chars : List Char) (here : Position)
    (c : Char) : List Placed × ScanState :=
  let token : Placed := ⟨.value (written chars), start⟩
  if Text.isBlank c then ([token], .tag)
  else if c = '>' then
    ([token, ⟨.tagEnd, here⟩], outside (here.next c))
  else if c = '/' then ([], .bareSlash start chars here)
  else ([], .bare start (c :: chars))

/-- What the character at a place does: the tokens it completes, and the
state after it. -/
def step (state : ScanState) (here : Position) (c : Char) :
    Except MarkupError (List Placed × ScanState) :=
  match state with
  | .text start run =>
    if c = '<' then .ok (textToken start run, .angle here)
    else .ok ([], .text start (c :: run))
  | .angle start =>
    if c = '/' then .ok ([], .closingName start [])
    else if c = '!' then .ok ([], .bang start)
    else if isNameChar c then .ok ([], .openingName start [c])
    else surprise .noTagName here
  | .bang start =>
    if c = '-' then .ok ([], .bangDash start)
    else surprise .noTagName (start.next '<')
  | .bangDash start =>
    if c = '-' then .ok ([], .comment start 0)
    else surprise .noTagName (start.next '<')
  | .comment start dashes =>
    if c = '-' then .ok ([], .comment start (min 2 (dashes + 1)))
    else if c = '>' ∧ dashes = 2 then .ok ([], outside (here.next c))
    else .ok ([], .comment start 0)
  | .closingName start name =>
    if isNameChar c then .ok ([], .closingName start (c :: name))
    else if name.isEmpty then surprise .noTagName here
    else stepClosingEnd start name here c
  | .closingEnd start name => stepClosingEnd start name here c
  | .openingName start name =>
    if isNameChar c then .ok ([], .openingName start (c :: name))
    else do
      let (tokens, next) ← stepTag here c
      .ok (⟨.opening (written name), start⟩ :: tokens, next)
  | .tag => stepTag here c
  | .slash start =>
    if c = '>' then
      .ok ([⟨.selfClose, start⟩], outside (here.next c))
    else surprise .afterSlash (here.next c)
  | .attrName start name =>
    if isNameChar c then .ok ([], .attrName start (c :: name))
    else do
      let (tokens, next) ← stepTag here c
      .ok (⟨.attrName (written name), start⟩ :: tokens, next)
  | .value =>
    if Text.isBlank c then .ok ([], .value)
    else if c = '"' ∨ c = '\'' then .ok ([], .quoted here c [])
    else if c = '>' then surprise .noValue here
    else .ok (stepBare here [] here c)
  | .quoted start quote chars =>
    if c = quote then .ok ([⟨.value (written chars), start⟩], .tag)
    else .ok ([], .quoted start quote (c :: chars))
  | .bare start chars => .ok (stepBare start chars here c)
  | .bareSlash start chars last =>
    if c = '>' then
      if chars.isEmpty then surprise .noValue last
      else
        .ok ([⟨.value (written chars), start⟩, ⟨.selfClose, last⟩],
          outside (here.next c))
    else .ok (stepBare start ('/' :: chars) here c)
where
  /-- One character after the name of a closing tag. -/
  stepClosingEnd (start : Position) (name : List Char)
      (here : Position) (c : Char) :
      Except MarkupError (List Placed × ScanState) :=
    if Text.isBlank c then .ok ([], .closingEnd start name)
    else if c = '>' then
      .ok ([⟨.closing (written name), start⟩], outside (here.next c))
    else surprise (.inClosing (written name)) (here.next c)

/-- What the end of the source at a place means: the last text, or an
error for what is left open. -/
def finish (state : ScanState) (here : Position) :
    Except MarkupError (List Placed) :=
  match state with
  | .text start run => .ok (textToken start run)
  | .angle _ => surprise .noTagName here
  | .bang start => surprise .noTagName (start.next '<')
  | .bangDash start => surprise .noTagName (start.next '<')
  | .comment start _ => .error ⟨.unterminatedComment, start⟩
  | .closingName _ name =>
    if name.isEmpty then surprise .noTagName here
    else surprise (.inClosing (written name)) here
  | .closingEnd _ name => surprise (.inClosing (written name)) here
  | .slash _ => surprise .afterSlash here
  | .quoted start _ _ => .error ⟨.unterminatedValue, start⟩
  | .openingName _ _ | .tag | .attrName _ _ | .value | .bare _ _
  | .bareSlash _ _ _ => .error ⟨.unterminatedTag, here⟩

end ScanState

/-- A scan under way: the tokens found so far, last first, the place it
has come to, and what it is in the middle of. -/
structure Scan where
  found : List Placed
  here : Position
  state : ScanState
deriving DecidableEq, Repr

namespace Scan

/-- The scan before the first character. -/
def start : Scan := ⟨[], .start, .outside .start⟩

/-- The scan after one more character. -/
def step (scan : Scan) (c : Char) : Except MarkupError Scan := do
  let (tokens, state) ← scan.state.step scan.here c
  return ⟨tokens.reverse ++ scan.found, scan.here.next c, state⟩

/-- The scan after a run of characters. -/
def run (scan : Scan) (chars : List Char) : Except MarkupError Scan :=
  chars.foldlM step scan

/-- All tokens, when the source ends here: the mark of the end is the
last one. -/
def finish (scan : Scan) : Except MarkupError (List Placed) := do
  let tokens ← scan.state.finish scan.here
  return scan.found.reverse ++ tokens ++ [⟨.eof, scan.here⟩]

end Scan

/-- The tokens of a source. -/
def tokens? (source : String) : Except MarkupError (List Placed) := do
  (← Scan.start.run source.toList).finish

end EntityMarkup
