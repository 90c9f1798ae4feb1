/-
Documents as lists of pieces. In written order these are the start of each
tag with its line, its attributes, the runs of text in its body, and its
end. A document has no other pieces than its tokens show: the pieces can be
told from the tokens one after the other (`piecesOf`), whether a tag closes
itself or not, and they are those of the document that is read from the
tokens (`Document.pieces_eq`).

Nothing is lost, since a document has its pieces with no other one
(`Document.pieces_injective`). So what a change of the tokens does to the
document can be said, and proved, about lists.
-/
import EntityMarkup.Proofs.Markup.Behind
import EntityMarkup.Proofs.Markup.Nesting

namespace EntityMarkup

open ScanState (textToken written)

-- ======================================================== of documents

/-- One piece of a document. -/
inductive Piece where
  /-- The start of a tag, and its line. -/
  | start (name : String) (line : Nat)
  /-- An attribute of the tag that has started. -/
  | attr (a : Attribute)
  /-- Text in the body of the innermost tag. -/
  | text (run : String)
  /-- The end of the innermost tag, or of its closing tag. -/
  | stop
deriving DecidableEq

mutual

/-- The pieces of a body item. -/
def Content.pieces : Content → List Piece
  | .text run => [.text run]
  | .element e => Element.pieces e

/-- The pieces of an element. -/
def Element.pieces : ElementOf Content → List Piece
  | ⟨name, attributes, body, line⟩ =>
    .start name line
      :: (attributes.map .attr ++ (Content.piecesAll body ++ [.stop]))

/-- The pieces of a body. -/
def Content.piecesAll : List Content → List Piece
  | [] => []
  | item :: rest => Content.pieces item ++ Content.piecesAll rest

end

/-- The pieces of a document. -/
def Document.pieces (d : Document) : List Piece :=
  Content.piecesAll (d.roots.map .element)

/-- The piece, its tag being so many lines further down. -/
def Piece.raised (n : Nat) : Piece → Piece
  | .start name line => .start name (line + n)
  | .attr a => .attr a
  | .text run => .text run
  | .stop => .stop

theorem Piece.raised_add (m n : Nat) (p : Piece) :
    p.raised (m + n) = (p.raised m).raised n := by
  cases p with
  | start name line =>
      exact congrArg (Piece.start name) (Nat.add_assoc line m n).symm
  | attr | text | stop => rfl

/-- The pieces of runs of text: those that are blank are none. -/
def Piece.texts (runs : List String) : List Piece :=
  (runs.filter (¬ Text.isBlankText ·)).map .text

theorem Piece.texts_append (runs runs' : List String) :
    Piece.texts (runs ++ runs') = Piece.texts runs ++ Piece.texts runs' := by
  rw [texts, List.filter_append, List.map_append]
  rfl

-- =========================================================== of tokens

/-- The value of an attribute that these tokens follow the name of. -/
def valueBehind : List Placed → String
  | ⟨.equals, _⟩ :: ⟨.value chars, _⟩ :: _ => chars
  | _ => "true"

/-- The pieces that tokens show, up to the mark of the end. -/
def piecesOf : List Placed → List Piece
  | [] => []
  | ⟨token, pos⟩ :: rest =>
    match token with
    | .opening name => .start name pos.line :: piecesOf rest
    | .attrName name => .attr ⟨name, valueBehind rest⟩ :: piecesOf rest
    | .text run => Piece.texts [run] ++ piecesOf rest
    | .closing _ | .selfClose => .stop :: piecesOf rest
    | .equals | .value _ | .tagEnd => piecesOf rest
    | .eof => []

section

variable {attributes : List Attribute} {a : Attribute} {e : Element}
  {body : List Content} {nest : Nest} {d : Document}
  {ts : List Placed}

theorem piecesOf_text (run : String) (pos : Position)
    (rest : List Placed) :
    piecesOf (⟨.text run, pos⟩ :: rest)
      = Piece.texts [run] ++ piecesOf rest :=
  rfl

theorem Piece.texts_blank {run : String}
    (h : Text.isBlankText run = true) : Piece.texts [run] = [] := by
  simp [texts, h]

theorem Piece.texts_shown {run : String}
    (h : Text.isBlankText run = false) :
    Piece.texts [run] = [.text run] := by
  simp [texts, h]

/-- No token and a token without characters show the same. -/
theorem piecesOf_textToken (start : Position) (run : List Char)
    (rest : List Placed) :
    piecesOf (textToken start run ++ rest)
      = Piece.texts [written run] ++ piecesOf rest := by
  unfold textToken
  split
  case isTrue hnil =>
    rw [List.isEmpty_iff.mp hnil]
    rfl
  case isFalse => exact piecesOf_text (written run) start rest

/-- The tokens of an attribute show it, when no equals sign follows. -/
theorem AttributeTokens.piecesOf_append (h : AttributeTokens a ts)
    {rest : List Placed} (hrest : valueBehind rest = "true") :
    piecesOf (ts ++ rest) = .attr a :: piecesOf rest
      ∧ valueBehind (ts ++ rest) = "true" := by
  cases h with
  | flag name pos =>
      refine ⟨?_, rfl⟩
      rw [← hrest]
      rfl
  | valued name value first mid last => exact ⟨rfl, rfl⟩

theorem AttributesTokens.piecesOf_append
    (h : AttributesTokens attributes ts) (rest : List Placed)
    (hrest : valueBehind rest = "true") :
    piecesOf (ts ++ rest) = attributes.map .attr ++ piecesOf rest := by
  induction h generalizing rest with
  | nil => rfl
  | snoc hbefore ha ih =>
      obtain ⟨hlast, hvalue⟩ := ha.piecesOf_append hrest
      rw [List.append_assoc, ih _ hvalue, hlast, List.map_append,
        List.append_assoc]
      rfl

mutual

/-- The tokens of an element show its pieces, whatever follows. -/
theorem ElementTokens.piecesOf_append {e : Element} {ts : List Placed}
    (rest : List Placed) : ElementTokens e ts →
      piecesOf (ts ++ rest) = Element.pieces e ++ piecesOf rest
  | @ElementTokens.selfClosed name attributes ts first last hattributes
      hdistinct => by
      have hinside := hattributes.piecesOf_append
        (⟨.selfClose, last⟩ :: rest) rfl
      rw [List.cons_append, List.append_assoc]
      show Piece.start name first.line :: piecesOf _ = _
      rw [List.singleton_append, hinside, Element.pieces, Content.piecesAll,
        List.cons_append, List.append_assoc]
      rfl
  | @ElementTokens.closed name attributes body ts inside first mid last
      hattributes hdistinct hbody => by
      have hbody' := BodyTokens.piecesOf_append
        (⟨.closing name, last⟩ :: rest) hbody
      have hinside := hattributes.piecesOf_append
        (⟨.tagEnd, mid⟩ :: (inside ++ ⟨.closing name, last⟩ :: rest)) rfl
      simp only [List.cons_append, List.append_assoc, List.nil_append]
      show Piece.start name first.line :: piecesOf _ = _
      rw [hinside]
      show _ :: (_ ++ piecesOf (inside ++ _)) = _
      rw [hbody', Element.pieces, List.cons_append, List.append_assoc,
        List.append_assoc]
      rfl

/-- So do the tokens of a body. -/
theorem BodyTokens.piecesOf_append {body : List Content}
    {ts : List Placed} (rest : List Placed) : BodyTokens body ts →
      piecesOf (ts ++ rest) = Content.piecesAll body ++ piecesOf rest
  | .nil => rfl
  | .blank pos hblank hrest => by
      rw [List.cons_append, piecesOf_text, Piece.texts_blank hblank]
      exact BodyTokens.piecesOf_append rest hrest
  | .text pos hblank hrest => by
      rw [List.cons_append, piecesOf_text, Piece.texts_shown hblank,
        BodyTokens.piecesOf_append rest hrest]
      rfl
  | .element he hrest => by
      rw [List.append_assoc, ElementTokens.piecesOf_append _ he,
        BodyTokens.piecesOf_append rest hrest, Content.piecesAll,
        Content.pieces, List.append_assoc]

end

/-- Tokens that lead between tags show the same pieces whatever follows:
they leave no attribute without its value. -/
theorem NestTokens.piecesOf_append (h : NestTokens nest ts)
    (rest : List Placed) :
    piecesOf (ts ++ rest) = piecesOf ts ++ piecesOf rest := by
  -- both sides of the cut are what the same pieces are put before
  have hall : ∃ before, ∀ rest, piecesOf (ts ++ rest)
      = before ++ piecesOf rest := by
    clear rest
    induction h with
    | roots hroots => exact ⟨_, fun rest => hroots.piecesOf_append rest⟩
    | @inside roots outer inner before ts inside first last houter
        hattributes hdistinct hline hbody ih =>
        obtain ⟨outside, houtside⟩ := ih
        refine ⟨outside ++ .start inner.name first.line
          :: (inner.attributes.map .attr
            ++ Content.piecesAll inner.body.reverse), fun rest => ?_⟩
        have hinside := hattributes.piecesOf_append
          (⟨.tagEnd, last⟩ :: (inside ++ rest)) rfl
        simp only [List.cons_append, List.append_assoc, List.nil_append]
        rw [houtside]
        show outside ++ Piece.start inner.name first.line :: piecesOf _ = _
        rw [hinside]
        show outside ++ _ :: (_ ++ piecesOf (inside ++ rest)) = _
        rw [hbody.piecesOf_append]
  obtain ⟨before, hbefore⟩ := hall
  have hnone := hbefore []
  rw [List.append_nil] at hnone
  rw [hbefore, hnone]
  exact congrArg (· ++ piecesOf rest) (List.append_nil before).symm

theorem valueBehind_beforeEnd (ts : List Placed) :
    valueBehind (beforeEnd ts) = valueBehind ts := by
  rcases ts with - | ⟨⟨token, pos⟩, - | ⟨⟨token', pos'⟩, rest⟩⟩
  · rfl
  · cases token <;> rfl
  · cases token with
    | equals => cases token' <;> rfl
    | opening | closing | attrName | value | text | tagEnd | selfClose
    | eof => rfl

/-- The mark of the end is where the pieces end. -/
theorem piecesOf_beforeEnd (ts : List Placed) :
    piecesOf (beforeEnd ts) = piecesOf ts := by
  induction ts with
  | nil => rfl
  | cons t rest ih =>
      obtain ⟨token, pos⟩ := t
      by_cases heof : token = .eof
      · rw [beforeEnd_eof heof, heof]
        rfl
      · rw [beforeEnd_cons heof]
        cases token with
        | eof => exact absurd rfl heof
        | opening | closing | attrName | value | text | equals | tagEnd
        | selfClose => simp only [piecesOf, ih, valueBehind_beforeEnd]

/-- The pieces of a document are those of the tokens it is read from. -/
theorem Document.pieces_eq (h : Document.ofTokens? ts = .ok d) :
    d.pieces = piecesOf ts := by
  have hbody : BodyTokens (d.roots.map .element) (beforeEnd ts) := by
    rw [Document.ofTokens?, Reading.run_eq_ok_iff,
      ← Document.flattening_iff_reads] at h
    exact h
  have hall := hbody.piecesOf_append []
  rw [List.append_nil, piecesOf_beforeEnd] at hall
  rw [hall, Document.pieces]
  exact (List.append_nil _).symm

end

-- ========================================================= nothing lost

section

variable {rest rest' : List Piece} {attributes attributes' : List Attribute}

/-- Attributes end where something else begins. -/
theorem attributes_inj (hrest : ∀ a, rest.head? ≠ some (.attr a))
    (hrest' : ∀ a, rest'.head? ≠ some (.attr a))
    (h : attributes.map .attr ++ rest = attributes'.map .attr ++ rest') :
    attributes = attributes' ∧ rest = rest' := by
  induction attributes generalizing attributes' with
  | nil =>
      cases attributes' with
      | nil => exact ⟨rfl, h⟩
      | cons a' more' =>
          have hhead : rest = _ := h
          rw [hhead] at hrest
          exact absurd rfl (hrest a')
  | cons a more ih =>
      cases attributes' with
      | nil =>
          have hhead : _ = rest' := h
          rw [← hhead] at hrest'
          exact absurd rfl (hrest' a)
      | cons a' more' =>
          obtain ⟨ha, hmore⟩ := List.cons.inj h
          obtain ⟨rfl, heq⟩ := ih hmore
          exact ⟨by rw [Piece.attr.inj ha], heq⟩

/-- What begins where a tag has its body is no attribute. -/
theorem Content.head?_piecesAll (body : List Content) (a : Attribute) :
    (Content.piecesAll body ++ .stop :: rest).head? ≠ some (.attr a) := by
  intro h
  cases body with
  | nil => cases h
  | cons item more =>
      cases item with
      | text run => cases h
      | element e =>
          obtain ⟨name, attributes, body, line⟩ := e
          cases h

mutual

/-- An element ends where its pieces say. -/
theorem Element.pieces_inj : (e e' : Element) → {rest rest' : List Piece} →
    Element.pieces e ++ rest = Element.pieces e' ++ rest' →
    e = e' ∧ rest = rest'
  | ⟨name, attributes, body, line⟩, ⟨name', attributes', body', line'⟩,
      rest, rest', h => by
      simp only [Element.pieces, List.cons_append, List.append_assoc,
        List.nil_append] at h
      obtain ⟨hstart, hinside⟩ := List.cons.inj h
      obtain ⟨rfl, rfl⟩ := Piece.start.inj hstart
      obtain ⟨rfl, hbody⟩ := attributes_inj
        (Content.head?_piecesAll body) (Content.head?_piecesAll body')
        hinside
      obtain ⟨rfl, hstop⟩ := Content.piecesAll_inj body body'
        (Or.inr ⟨rest, rfl⟩) (Or.inr ⟨rest', rfl⟩) hbody
      exact ⟨rfl, (List.cons.inj hstop).2⟩

/-- A body ends at the end of its tag, or of all. -/
theorem Content.piecesAll_inj : (body body' : List Content) →
    {rest rest' : List Piece} →
    (rest = [] ∨ ∃ more, rest = .stop :: more) →
    (rest' = [] ∨ ∃ more, rest' = .stop :: more) →
    Content.piecesAll body ++ rest = Content.piecesAll body' ++ rest' →
    body = body' ∧ rest = rest'
  | [], [], _, _, _, _, h => ⟨rfl, h⟩
  | [], .text run :: more, _, _, hrest, _, h => by
      rcases hrest with rfl | ⟨_, rfl⟩ <;> cases h
  | [], .element ⟨_, _, _, _⟩ :: more, _, _, hrest, _, h => by
      rcases hrest with rfl | ⟨_, rfl⟩ <;> cases h
  | .text run :: more, [], _, _, _, hrest', h => by
      rcases hrest' with rfl | ⟨_, rfl⟩ <;> cases h
  | .element ⟨_, _, _, _⟩ :: more, [], _, _, _, hrest', h => by
      rcases hrest' with rfl | ⟨_, rfl⟩ <;> cases h
  | .text run :: more, .text run' :: more', _, _, hrest, hrest', h => by
      obtain ⟨hrun, hmore⟩ := List.cons.inj h
      obtain ⟨rfl, heq⟩ :=
        Content.piecesAll_inj more more' hrest hrest' hmore
      exact ⟨by rw [Piece.text.inj hrun], heq⟩
  | .text run :: more, .element ⟨_, _, _, _⟩ :: more', _, _, _, _, h => by
      cases h
  | .element ⟨_, _, _, _⟩ :: more, .text run' :: more', _, _, _, _, h => by
      cases h
  | .element e :: more, .element e' :: more', rest, rest', hrest, hrest',
      h => by
      simp only [Content.piecesAll, Content.pieces, List.append_assoc] at h
      obtain ⟨rfl, hmore⟩ := Element.pieces_inj e e' h
      obtain ⟨rfl, heq⟩ :=
        Content.piecesAll_inj more more' hrest hrest' hmore
      exact ⟨rfl, heq⟩

end

/-- A document is told by its pieces. -/
theorem Document.pieces_injective : Function.Injective Document.pieces := by
  intro d d' h
  have hboth : d.pieces ++ [] = d'.pieces ++ [] := by rw [h]
  obtain ⟨hroots, -⟩ := Content.piecesAll_inj _ _ (.inl rfl) (.inl rfl) hboth
  have hitems := (List.map_inj_right fun _ _ => Content.element.inj).mp hroots
  exact congrArg Document.mk hitems

end

-- =============================================== further down the source

/-- Text has no line. -/
theorem Piece.texts_raised (runs : List String) (n : Nat) :
    (Piece.texts runs).map (·.raised n) = Piece.texts runs :=
  List.map_map

theorem valueBehind_behind (a : List Char) (ts : List Placed) :
    valueBehind (ts.map (·.behind a)) = valueBehind ts := by
  rcases ts with - | ⟨⟨token, pos⟩, - | ⟨⟨token', pos'⟩, rest⟩⟩
  · rfl
  · cases token <;> rfl
  · cases token with
    | equals => cases token' <;> rfl
    | opening | closing | attrName | value | text | tagEnd | selfClose
    | eof => rfl

/-- The pieces of tokens that stand behind a text are as many lines
further down as the text has line feeds. -/
theorem piecesOf_behind (a : List Char) (ts : List Placed) :
    piecesOf (ts.map (·.behind a))
      = (piecesOf ts).map (·.raised (a.count '\n')) := by
  induction ts with
  | nil => rfl
  | cons t rest ih =>
      obtain ⟨token, pos⟩ := t
      cases token with
      | opening | closing | selfClose => exact congrArg (List.cons _) ih
      | attrName name =>
          show Piece.attr ⟨name, valueBehind _⟩ :: piecesOf _ = _
          rw [valueBehind_behind, ih]
          rfl
      | text run =>
          show Piece.texts [run] ++ _ = (Piece.texts [run] ++ _).map _
          rw [List.map_append, Piece.texts_raised, ih]
      | value | equals | tagEnd => exact ih
      | eof => rfl

end EntityMarkup
