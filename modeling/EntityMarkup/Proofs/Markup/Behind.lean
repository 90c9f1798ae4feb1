/-
What is scanned and read behind another text. The text before moves every
place: all lines go down by as many as it has line feeds, and what is on
the first line goes to the right of its last line (`Position.behind`).
Places decide nothing, so a scan and a reading that start behind the text
take the same steps, and what they come to differs in its places alone.

The equations are stated from steps (`ScanState.step_behind`,
`Reading.step_atop`) to whole runs (`tokensFrom?_behind`,
`Reading.run_atop`), the text before being the same all along. A reading
also has the elements that were complete before it began at the bottom of
its nest.
-/
import EntityMarkup.Proofs.Markup.Layout
import EntityMarkup.Proofs.Markup.TokensFrom
import EntityMarkup.Markup.Element.Read

namespace EntityMarkup

open ScanState (outside)

-- =============================================================== places

/-- The place of what stands at the given place of a text, when this text
comes first. -/
def Position.behind (a : List Char) (p : Position) : Position :=
  ⟨p.line + a.count '\n',
    if p.line ≤ 1 then p.col + (a.reverse.takeWhile (· ≠ '\n')).length
    else p.col⟩

namespace Position

variable (a : List Char)

theorem behind_start : behind a .start = place a := by
  rw [behind, place, start, if_pos (Nat.le_refl 1)]

theorem behind_next {here : Position} {c : Char}
    (h : c = '\n' → 1 ≤ here.line) :
    behind a (here.next c) = (behind a here).next c := by
  unfold behind next
  by_cases hc : c = '\n'
  · have hline : ¬ here.line + 1 ≤ 1 := by
      have hone := h hc
      omega
    rw [if_pos hc, if_pos hc, if_neg hline, Nat.add_right_comm]
  · rw [if_neg hc, if_neg hc]
    dsimp only
    split
    · rw [Nat.add_right_comm]
    · rfl

theorem next_line_pos {here : Position} (h : 1 ≤ here.line) (c : Char) :
    1 ≤ (here.next c).line := by
  unfold next
  split
  · exact Nat.le_add_left 1 here.line
  · exact h

theorem behind_advance {here : Position} (h : 1 ≤ here.line)
    (chars : List Char) :
    behind a (here.advance chars) = (behind a here).advance chars := by
  induction chars generalizing here with
  | nil => rfl
  | cons c rest ih =>
      rw [advance_cons, advance_cons, ih (next_line_pos h c),
        behind_next a fun _ => h]

theorem advance_line_pos {here : Position} (h : 1 ≤ here.line)
    (chars : List Char) : 1 ≤ (here.advance chars).line := by
  induction chars generalizing here with
  | nil => exact h
  | cons c rest ih => exact ih (next_line_pos h c)

end Position

def Placed.behind (a : List Char) (t : Placed) : Placed :=
  ⟨t.token, t.pos.behind a⟩

def MarkupError.behind (a : List Char) (e : MarkupError) : MarkupError :=
  ⟨e.fault, e.pos.behind a⟩

/-- What comes of a text that stands behind the other: an answer is
changed as given, and an error is moved. -/
def moved {α β : Type} (a : List Char) (g : α → β) :
    Except MarkupError α → Except MarkupError β
  | .ok x => .ok (g x)
  | .error e => .error (e.behind a)

theorem moved_bind {α β γ δ : Type} {a : List Char} {g : α → γ}
    {g' : β → δ} {k : α → Except MarkupError β}
    {k' : γ → Except MarkupError δ} (x : Except MarkupError α)
    (h : ∀ y, x = .ok y → k' (g y) = moved a g' (k y)) :
    moved a g x >>= k' = moved a g' (x >>= k) := by
  cases x with
  | ok y => exact h y rfl
  | error e => rfl

-- ============================================================= scanning

namespace ScanState

/-- The state of a scan of the same characters behind the text. -/
def behind (a : List Char) : ScanState → ScanState
  | .text start run => .text (start.behind a) run
  | .angle start => .angle (start.behind a)
  | .bang start => .bang (start.behind a)
  | .bangDash start => .bangDash (start.behind a)
  | .comment start dashes => .comment (start.behind a) dashes
  | .closingName start name => .closingName (start.behind a) name
  | .closingEnd start name => .closingEnd (start.behind a) name
  | .openingName start name => .openingName (start.behind a) name
  | .tag => .tag
  | .slash start => .slash (start.behind a)
  | .attrName start name => .attrName (start.behind a) name
  | .value => .value
  | .quoted start quote chars => .quoted (start.behind a) quote chars
  | .bare start chars => .bare (start.behind a) chars
  | .bareSlash start chars last =>
      .bareSlash (start.behind a) chars (last.behind a)

/-- Tokens and the state after them. -/
def foundBehind (a : List Char) (found : List Placed × ScanState) :
    List Placed × ScanState :=
  (found.1.map (·.behind a), found.2.behind a)

variable (a : List Char) {here : Position} (c : Char)

theorem behind_outside : (outside here).behind a = outside (here.behind a) :=
  rfl

theorem textToken_behind (start : Position) (run : List Char) :
    textToken (start.behind a) run
      = (textToken start run).map (·.behind a) := by
  unfold textToken
  split <;> rfl

theorem stepTag_behind (h : 1 ≤ here.line) :
    stepTag (here.behind a) c = moved a (foundBehind a) (stepTag here c) := by
  have hnext := Position.behind_next a (c := c) fun _ => h
  unfold stepTag
  rw [← hnext]
  split
  · rfl
  split
  · rfl
  split
  · rfl
  split
  · rfl
  split <;> rfl

theorem stepBare_behind (start : Position) (chars : List Char)
    (h : 1 ≤ here.line) :
    stepBare (start.behind a) chars (here.behind a) c
      = foundBehind a (stepBare start chars here c) := by
  have hnext := Position.behind_next a (c := c) fun _ => h
  unfold stepBare
  rw [← hnext]
  dsimp only
  split
  · rfl
  split
  · rfl
  split <;> rfl

theorem stepClosingEnd_behind (start : Position) (name : List Char)
    (h : 1 ≤ here.line) :
    step.stepClosingEnd (start.behind a) name (here.behind a) c
      = moved a (foundBehind a) (step.stepClosingEnd start name here c) := by
  have hnext := Position.behind_next a (c := c) fun _ => h
  unfold step.stepClosingEnd
  rw [← hnext]
  split
  · rfl
  split <;> rfl

/-- A name of a tag or an attribute that goes on or ends. -/
theorem stepName_behind (t : Token) (start : Position)
    (next : ScanState) (h : 1 ≤ here.line) :
    (if isNameChar c = true then .ok ([], next.behind a)
      else do
        let (tokens, state) ← stepTag (here.behind a) c
        .ok (⟨t, start.behind a⟩ :: tokens, state))
      = moved a (foundBehind a) (if isNameChar c = true then .ok ([], next)
      else do
        let (tokens, state) ← stepTag here c
        .ok (⟨t, start⟩ :: tokens, state)) := by
  split
  · rfl
  · rw [stepTag_behind a c h]
    exact moved_bind _ fun _ _ => rfl

/-- One character does the same behind the text. -/
theorem step_behind (state : ScanState) (h : 1 ≤ here.line) :
    (state.behind a).step (here.behind a) c
      = moved a (foundBehind a) (state.step here c) := by
  have hnext := Position.behind_next a (c := c) fun _ => h
  have hangle : ∀ start : Position,
      (start.next '<').behind a = (start.behind a).next '<' :=
    fun start => Position.behind_next a fun heq => absurd heq (by decide)
  cases state with
  | text start run =>
      simp only [behind, step, textToken_behind]
      split <;> rfl
  | angle start =>
      simp only [behind, step]
      split
      · rfl
      split
      · rfl
      split <;> rfl
  | bang start | bangDash start =>
      simp only [behind, step, ← hangle]
      split <;> rfl
  | comment start dashes =>
      simp only [behind, step, ← hnext]
      split
      · rfl
      split <;> rfl
  | closingName start name =>
      simp only [behind, step, stepClosingEnd_behind a c start name h]
      split
      · rfl
      split <;> rfl
  | closingEnd start name => exact stepClosingEnd_behind a c start name h
  | openingName start name =>
      exact stepName_behind a c (.opening (written name)) start
        (.openingName start (c :: name)) h
  | tag => exact stepTag_behind a c h
  | slash start =>
      simp only [behind, step, ← hnext]
      split <;> rfl
  | attrName start name =>
      exact stepName_behind a c (.attrName (written name)) start
        (.attrName start (c :: name)) h
  | value =>
      simp only [behind, step, stepBare_behind a c here [] h]
      split
      · rfl
      split
      · rfl
      split <;> rfl
  | quoted start quote chars =>
      simp only [behind, step]
      split <;> rfl
  | bare start chars =>
      exact congrArg Except.ok (stepBare_behind a c start chars h)
  | bareSlash start chars last =>
      simp only [behind, step, ← hnext, stepBare_behind a c start _ h]
      split
      · split <;> rfl
      · rfl

/-- So does the end of the source. -/
theorem finish_behind (state : ScanState) :
    (state.behind a).finish (here.behind a)
      = moved a (List.map (·.behind a)) (state.finish here) := by
  have hangle : ∀ start : Position,
      (start.next '<').behind a = (start.behind a).next '<' :=
    fun start => Position.behind_next a fun heq => absurd heq (by decide)
  cases state with
  | text start run =>
      exact congrArg Except.ok (textToken_behind a start run)
  | bang start | bangDash start =>
      simp only [behind, finish, ← hangle]
      rfl
  | closingName start name =>
      simp only [behind, finish]
      split <;> rfl
  | angle | comment | closingEnd | openingName | tag | slash | attrName
  | value | quoted | bare | bareSlash => rfl

end ScanState

/-- The tokens from a state on. -/
theorem tokensFrom?_behind (a : List Char) (state : ScanState)
    {here : Position} (h : 1 ≤ here.line) (chars : List Char) :
    tokensFrom? (state.behind a) (here.behind a) chars
      = moved a (List.map (·.behind a)) (tokensFrom? state here chars) := by
  induction chars generalizing state here with
  | nil =>
      rw [tokensFrom?, tokensFrom?, ScanState.finish_behind]
      refine moved_bind _ fun ts _ => ?_
      show Except.ok _ = Except.ok _
      rw [List.map_append]
      rfl
  | cons c rest ih =>
      rw [tokensFrom?, tokensFrom?, ScanState.step_behind a c state h]
      refine moved_bind _ fun found _ => ?_
      dsimp only [ScanState.foundBehind]
      rw [← Position.behind_next a fun _ => h,
        ih found.2 (Position.next_line_pos h c)]
      refine moved_bind _ fun more _ => ?_
      exact congrArg Except.ok List.map_append.symm

-- ============================================================== reading

mutual

/-- A body item with all lines so many further down. -/
def Content.raised (n : Nat) : Content → Content
  | .text run => .text run
  | .element e => .element (Element.raised n e)

/-- An element with all lines so many further down. -/
def Element.raised (n : Nat) : Element → Element
  | ⟨name, attributes, body, line⟩ =>
      ⟨name, attributes, Content.raisedAll n body, line + n⟩

/-- A body with all lines so many further down. -/
def Content.raisedAll (n : Nat) : List Content → List Content
  | [] => []
  | item :: rest => Content.raised n item :: Content.raisedAll n rest

end

theorem Content.raisedAll_eq_map (n : Nat) (body : List Content) :
    Content.raisedAll n body = body.map (Content.raised n) := by
  induction body with
  | nil => rfl
  | cons item rest ih => rw [Content.raisedAll, ih, List.map_cons]

namespace OpenTag

def raised (n : Nat) (head : OpenTag) : OpenTag :=
  { head with line := head.line + n }

theorem element_raised (n : Nat) (head : OpenTag) :
    Element.raised n head.element = (head.raised n).element := rfl

theorem add_behind (a : List Char) (n : Nat) (head : OpenTag)
    (last : Attribute) (pos : Position) :
    (head.raised n).add last (pos.behind a)
      = moved a (raised n) (head.add last pos) := by
  show (if head.attributes.any (·.name == last.name) then _ else _)
    = moved a _ (if head.attributes.any (·.name == last.name) then _ else _)
  split <;> rfl

end OpenTag

namespace OpenElement

def raised (n : Nat) (inner : OpenElement) : OpenElement :=
  { inner with
    line := inner.line + n
    body := inner.body.map (Content.raised n) }

theorem element_raised (n : Nat) (inner : OpenElement) :
    Element.raised n inner.element = (inner.raised n).element := by
  simp only [element, raised, Element.raised, Content.raisedAll_eq_map,
    List.map_reverse]

end OpenElement

namespace Nest

/-- With lines so many further down, and other elements complete before. -/
def atop (base : List Element) (n : Nat) (nest : Nest) : Nest :=
  ⟨nest.roots.map (Element.raised n) ++ base,
    nest.opened.map (OpenElement.raised n)⟩

variable (base : List Element) (n : Nat)

theorem add_atop (nest : Nest) (e : Element) :
    (nest.add e).atop base n
      = (nest.atop base n).add (Element.raised n e) := by
  obtain ⟨roots, opened⟩ := nest
  cases opened with
  | nil | cons => rfl

end Nest

namespace Reading

/-- The reading of the same tokens behind the text. -/
def atop (base : List Element) (n : Nat) : Reading → Reading
  | .content nest => .content (nest.atop base n)
  | .tag nest head => .tag (nest.atop base n) (head.raised n)
  | .named nest head name => .named (nest.atop base n) (head.raised n) name
  | .awaiting nest head name =>
      .awaiting (nest.atop base n) (head.raised n) name
  | .valued nest head last => .valued (nest.atop base n) (head.raised n) last
  | .missing name found => .missing name found

section

variable (a : List Char) (base : List Element) (nest : Nest)
  (head : OpenTag) (t : Placed)

theorem stepContent_atop :
    stepContent (nest.atop base (a.count '\n')) (t.behind a)
      = moved a (atop base (a.count '\n')) (stepContent nest t) := by
  obtain ⟨token, pos⟩ := t
  obtain ⟨roots, opened⟩ := nest
  cases token with
  | opening name => rfl
  | text run =>
      simp only [stepContent, Placed.behind]
      split
      · rfl
      · cases opened with
        | nil | cons => rfl
  | closing name =>
      cases opened with
      | nil => rfl
      | cons inner outer =>
          have hadd := Nest.add_atop base (a.count '\n') ⟨roots, outer⟩
            inner.element
          rw [OpenElement.element_raised] at hadd
          show (if name = inner.name then _ else _)
            = moved a _ (if name = inner.name then _ else _)
          split
          · show Except.ok (Reading.content _) = Except.ok (Reading.content _)
            rw [hadd]
            rfl
          · rfl
  | attrName | value | equals | tagEnd | selfClose | eof =>
      cases opened with
      | nil | cons => rfl

theorem stepTag_atop :
    stepTag (nest.atop base (a.count '\n')) (head.raised (a.count '\n'))
        (t.behind a)
      = moved a (atop base (a.count '\n')) (stepTag nest head t) := by
  obtain ⟨token, pos⟩ := t
  cases token with
  | selfClose =>
      show Except.ok (Reading.content _) = Except.ok (Reading.content _)
      rw [Nest.add_atop, OpenTag.element_raised]
  | opening | closing | attrName | value | text | equals | tagEnd | eof =>
      rfl

/-- A token behind an attribute. -/
theorem addStep_atop (last : Attribute) :
    ((head.raised (a.count '\n')).add last (t.pos.behind a) >>= fun head' =>
        stepTag (nest.atop base (a.count '\n')) head' (t.behind a))
      = moved a (atop base (a.count '\n'))
        (head.add last t.pos >>= fun head' => stepTag nest head' t) := by
  rw [OpenTag.add_behind]
  exact moved_bind _ fun head' _ => stepTag_atop a base nest head' t

/-- One token does the same behind the text. -/
theorem step_atop (reading : Reading) :
    (reading.atop base (a.count '\n')).step (t.behind a)
      = moved a (atop base (a.count '\n')) (reading.step t) := by
  cases reading with
  | content nest => exact stepContent_atop a base nest t
  | tag nest head => exact stepTag_atop a base nest head t
  | named nest head name =>
      show (if t.token = .equals then _ else _)
        = moved a _ (if t.token = .equals then _ else _)
      split
      · rfl
      · exact addStep_atop a base nest head t _
  | awaiting nest head name =>
      obtain ⟨token, pos⟩ := t
      cases token with
      | opening | closing | attrName | value | text | equals | tagEnd
      | selfClose | eof => rfl
  | valued nest head last => exact addStep_atop a base nest head t last
  | missing name found => rfl

/-- The document with the elements that were complete before. -/
def documentOver (base : List Element) (n : Nat) (d : Document) :
    Document :=
  ⟨base.reverse ++ d.roots.map (Element.raised n)⟩

/-- So does the mark of the end. -/
theorem stop_atop (reading : Reading) (here next : Position) :
    (reading.atop base (a.count '\n')).stop (here.behind a) (next.behind a)
      = moved a (documentOver base (a.count '\n'))
        (reading.stop here next) := by
  cases reading with
  | content nest =>
      obtain ⟨roots, opened⟩ := nest
      cases opened with
      | nil =>
          show Except.ok (Document.mk (_ ++ base).reverse)
            = Except.ok (Document.mk (_ ++ roots.reverse.map _))
          rw [List.reverse_append, List.map_reverse]
      | cons inner outer => rfl
  | named nest head name =>
      simp only [atop, stop]
      rw [OpenTag.add_behind]
      exact moved_bind _ fun _ _ => rfl
  | valued nest head last =>
      simp only [atop, stop]
      rw [OpenTag.add_behind]
      exact moved_bind _ fun _ _ => rfl
  | tag | awaiting | missing => rfl

/-- Tokens to the end. -/
theorem run_atop (reading : Reading) (last : Position)
    (ts : List Placed) :
    (reading.atop base (a.count '\n')).run (last.behind a)
        (ts.map (·.behind a))
      = moved a (documentOver base (a.count '\n'))
        (reading.run last ts) := by
  induction ts generalizing reading last with
  | nil => exact stop_atop a base reading last last
  | cons t rest ih =>
      rw [List.map_cons, run, run]
      show (if t.token = .eof then _ else _) = _
      split
      · have hnext : ((rest.map (·.behind a)).head?.elim
            (t.behind a).pos (·.pos))
            = (rest.head?.elim t.pos (·.pos)).behind a := by
          cases rest with
          | nil | cons => rfl
        rw [hnext]
        exact stop_atop a base reading t.pos _
      · rw [step_atop]
        exact moved_bind _ fun reading' _ => ih reading' t.pos

end

end Reading

end EntityMarkup
