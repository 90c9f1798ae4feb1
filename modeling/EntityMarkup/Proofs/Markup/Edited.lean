/-
Edits that a document does not show: to white space and comments at the
edges of lines of text, to the white space inside tags, and to what a
comment says. Each of them moves what comes behind it, and some of them
group the text around them into other runs. But the tokens behind the edit
are the same (`onlyTokens_behind`), and those before it are read alike, so
the gist of the document stays (`Edited.exists_parse`). That needs no other
property of the source: it may go on in any way.
-/
import EntityMarkup.Proofs.Markup.Fitting
import EntityMarkup.Proofs.Markup.Gist
import EntityMarkup.Proofs.Markup.Joined
import Mathlib.Logic.Relation

namespace EntityMarkup

open ScanState (outside textToken written)

-- ============================================================== tokens

/-- The tokens without their places, if there is no error. -/
def onlyTokens (found : Except MarkupError (List Placed)) :
    Option (List Token) :=
  found.toOption.map (·.map (·.token))

section

variable {found found' : Except MarkupError (List Placed)}
  {ts : List Placed}

theorem onlyTokens_map (ts : List Placed) :
    onlyTokens ((ts ++ ·) <$> found)
      = (onlyTokens found).map (ts.map (·.token) ++ ·) := by
  cases found with
  | error e => rfl
  | ok more => exact congrArg some List.map_append

theorem exists_onlyTokens (h : onlyTokens found = onlyTokens found')
    (hfound : found = .ok ts) :
    ∃ ts', found' = .ok ts'
      ∧ ts.map (·.token) = ts'.map (·.token) := by
  subst hfound
  cases found' with
  | error e => cases h
  | ok ts' => exact ⟨ts', rfl, Option.some.inj h⟩

/-- Behind another text there are the same tokens. -/
theorem onlyTokens_behind (a : List Char) (state : ScanState)
    (rest : List Char) :
    onlyTokens (tokensFrom? (state.behind a) (place a) rest)
      = onlyTokens (tokensFrom? state .start rest) := by
  rw [← Position.behind_start, tokensFrom?_behind a state (Nat.le_refl 1)]
  cases tokensFrom? state .start rest with
  | error e => rfl
  | ok ts =>
      exact congrArg some List.map_map

/-- Outside tags it does not matter where. -/
theorem onlyTokens_outside (start start' : Position) (a a' : List Char)
    (rest : List Char) :
    onlyTokens (tokensFrom? (outside start) (place a) rest)
      = onlyTokens (tokensFrom? (outside start') (place a') rest) := by
  obtain ⟨text, rest, rfl, htext, hrest⟩ := exists_cut rest
  have htoken : ∀ start start' : Position,
      (textToken start (text.reverse ++ [])).map (·.token)
        = (textToken start' (text.reverse ++ [])).map (·.token) := by
    intro start start'
    unfold textToken
    split <;> rfl
  have hrestTokens : ∀ a : List Char,
      onlyTokens (tokensFrom? (outside ((place a).advance text))
        ((place a).advance text) rest)
          = onlyTokens (tokensFrom? (outside .start) .start rest) := by
    intro a
    rw [← place_append, ← onlyTokens_behind (a ++ text),
      ScanState.behind_outside, Position.behind_start]
  rw [outside, outside, tokensFrom?_text _ _ _ htext hrest,
    tokensFrom?_text _ _ _ htext hrest, onlyTokens_map, onlyTokens_map,
    hrestTokens, hrestTokens, htoken start start']

end

-- ============================================================ documents

section

variable {reading : Reading} {ts rest : List Placed} {d : Document}

/-- Tokens before others are read first. -/
theorem exists_reads {last : Position} (hne : ∀ t ∈ ts, t.token ≠ .eof)
    (h : reading.run last (ts ++ rest) = .ok d) :
    ∃ mid last', Reads reading ts mid ∧ mid.run last' rest = .ok d := by
  induction ts generalizing reading last with
  | nil => exact ⟨reading, last, .nil reading, h⟩
  | cons t ts ih =>
      have ht := hne t List.mem_cons_self
      rw [List.cons_append, Reading.run, if_neg ht] at h
      cases hstep : reading.step t with
      | error e =>
          rw [hstep] at h
          cases h
      | ok next =>
          rw [hstep] at h
          obtain ⟨mid, last', hreads, hrun⟩ :=
            ih (fun t ht => hne t (List.mem_cons_of_mem _ ht)) h
          exact ⟨mid, last', .cons ht hstep hreads, hrun⟩

theorem Scans.ne_eof {chars : List Char} {state : ScanState}
    (h : Scans (outside .start) .start chars ts state) :
    ∀ t ∈ ts, t.token ≠ .eof := by
  obtain ⟨done, rest, region, -, hlayout, -⟩ := h.advances
  exact hlayout.ne_eof

/-- The first tokens of the one source are read as those of the other are,
and all that follow are the same. -/
structure ReadAlike (source source' : String) (before before' : List Placed)
    (found found' : Except MarkupError (List Placed)) : Prop where
  tokens : tokens? source = (before ++ ·) <$> found
  tokens' : tokens? source' = (before' ++ ·) <$> found'
  behind : onlyTokens found = onlyTokens found'
  ne_eof : ∀ t ∈ before, t.token ≠ .eof
  reads : ∀ mid, Reads (.content .empty) before mid →
    ∃ mid', Reads (.content .empty) before' mid' ∧ mid.Alike mid'

/-- Then the one document has the gist of the other. -/
theorem ReadAlike.exists_parse {source source' : String}
    {before before' : List Placed}
    {found found' : Except MarkupError (List Placed)}
    (h : ReadAlike source source' before before' found found')
    (hparse : Document.parse? source = .ok d) :
    ∃ d', Document.parse? source' = .ok d' ∧ d.gists = d'.gists := by
  unfold Document.parse? at hparse ⊢
  rw [h.tokens] at hparse
  rw [h.tokens']
  cases hfound : found with
  | error e =>
      rw [hfound] at hparse
      cases hparse
  | ok ts =>
      obtain ⟨ts', hfound', hts⟩ := exists_onlyTokens h.behind hfound
      rw [hfound] at hparse
      have hrun : (Reading.content .empty).run .start (before ++ ts)
          = .ok d := hparse
      obtain ⟨mid, last, hreads, hmid⟩ := exists_reads h.ne_eof hrun
      obtain ⟨mid', hreads', halike⟩ := h.reads mid hreads
      obtain ⟨last', hrun'⟩ := hreads'.run_eq .start ts'
      obtain ⟨d', hd', hgists⟩ : ∃ d', mid'.run last' ts' = .ok d'
          ∧ d.gists = d'.gists := halike.run hts hmid
      refine ⟨d', ?_, hgists⟩
      rw [hfound']
      exact hrun'.trans hd'

end

-- ================================================================ edits

/-- White space, or a comment. -/
def Idle (chars : List Char) : Prop :=
  Blanks chars ∨ IsComment chars

/-- One edit that changes nothing in a document but the places of things
and the grouping of text. -/
inductive Edited : List Char → List Char → Prop
  /-- White space or a comment at the edge of a line of text, in place of
  another or of nothing. The text reaches from a tag or a comment to the
  next, or to the end. -/
  | text {a b left right idle idle' : List Char} {ts : List Placed}
      {here : Position}
      (hscan : Scans (outside .start) .start a ts (outside here))
      (hleft : '<' ∉ left) (hright : '<' ∉ right)
      (hb : ∀ c, b.head? = some c → c = '<')
      (hedge : Text.LineEdge left right)
      (hidle : Idle idle) (hidle' : Idle idle') :
      Edited (a ++ (left ++ (idle ++ (right ++ b))))
        (a ++ (left ++ (idle' ++ (right ++ b))))
  /-- Other white space in an opening tag, between its parts. -/
  | tag {a b blanks blanks' : List Char} {ts : List Placed}
      {state : ScanState}
      (hscan : Scans (outside .start) .start a ts state)
      (hstate : state = .tag ∨ state = .value)
      (hblanks : Blanks blanks) (hblanks' : Blanks blanks') :
      Edited (a ++ (blanks ++ b)) (a ++ (blanks' ++ b))
  /-- Other white space in a closing tag. -/
  | closing {a b name blanks blanks' : List Char} {ts : List Placed}
      {start : Position} {run : List Char}
      (hscan : Scans (outside .start) .start a ts (.text start run))
      (hname : IsName name) (hblanks : Blanks blanks)
      (hblanks' : Blanks blanks') :
      Edited (a ++ ('<' :: '/' :: name ++ (blanks ++ ['>']) ++ b))
        (a ++ ('<' :: '/' :: name ++ (blanks' ++ ['>']) ++ b))
  /-- Another comment in place of a comment. -/
  | comment {a b comment comment' : List Char} {ts : List Placed}
      {start : Position} {run : List Char}
      (hscan : Scans (outside .start) .start a ts (.text start run))
      (hcomment : IsComment comment) (hcomment' : IsComment comment') :
      Edited (a ++ (comment ++ b)) (a ++ (comment' ++ b))

/-- An edit can be taken back. -/
instance : Std.Symm Edited where
  symm s s' h := by
    cases h with
    | text hscan hleft hright hb hedge hidle hidle' =>
        exact .text hscan hleft hright hb hedge hidle' hidle
    | tag hscan hstate hblanks hblanks' =>
        exact .tag hscan hstate hblanks' hblanks
    | closing hscan hname hblanks hblanks' =>
        exact .closing hscan hname hblanks' hblanks
    | comment hscan hcomment hcomment' =>
        exact .comment hscan hcomment' hcomment

section

variable {a b chars chars' left right idle : List Char}
  {ts ts' : List Placed} {state state' : ScanState} {d : Document}

/-- Where two beginnings have the same tokens, and what follows them has,
the sources have the same gist. -/
theorem Scans.exists_parse (h : Scans (outside .start) .start chars ts state)
    (h' : Scans (outside .start) .start chars' ts state')
    (hrest : onlyTokens (tokensFrom? state (place chars) b)
      = onlyTokens (tokensFrom? state' (place chars') b))
    (hparse : Document.parse? (String.ofList (chars ++ b)) = .ok d) :
    ∃ d', Document.parse? (String.ofList (chars' ++ b)) = .ok d'
      ∧ d.gists = d'.gists :=
  ReadAlike.exists_parse
    { tokens := h.tokens?_eq b
      tokens' := h'.tokens?_eq b
      behind := hrest
      ne_eof := h.ne_eof
      reads := fun mid hreads => ⟨mid, hreads, .refl mid⟩ } hparse

/-- A tag or a comment in place of another one with the same tokens. -/
theorem Scans.exists_parse_piece {start last last' : Position} {run : List Char}
    (h : Scans (outside .start) .start a ts (.text start run))
    (hpiece : Scans (.text start run) (place a) chars ts' (outside last))
    (hpiece' : Scans (.text start run) (place a) chars' ts'
      (outside last'))
    (hparse : Document.parse? (String.ofList (a ++ (chars ++ b))) = .ok d) :
    ∃ d', Document.parse? (String.ofList (a ++ (chars' ++ b))) = .ok d'
      ∧ d.gists = d'.gists := by
  rw [← advance_start] at hpiece hpiece'
  rw [← List.append_assoc] at hparse ⊢
  exact (h.append hpiece).exists_parse (h.append hpiece')
    (onlyTokens_outside last last' _ _ b) hparse

theorem lines_written (run : List Char) :
    Text.lines (written run)
      = (Text.trimmedLines run.reverse).map String.ofList :=
  Text.lines_ofList run.reverse

/-- A text that has white space or a comment in it has the lines before
and behind that. -/
theorem Idle.tokens {here : Position}
    (h : Scans (outside .start) .start a ts (outside here))
    (hleft : '<' ∉ left) (hright : '<' ∉ right)
    (hb : ∀ c, b.head? = some c → c = '<')
    (hedge : Text.LineEdge left right) (hidle : Idle idle) :
    ∃ texts before,
      Texts texts
        ((Text.trimmedLines left ++ Text.trimmedLines right).map
          String.ofList)
      ∧ tokens? (String.ofList (a ++ (left ++ (idle ++ (right ++ b)))))
        = (ts ++ texts ++ ·) <$>
          tokensFrom? (outside (place before)) (place before) b := by
  rcases hidle with hblanks | hcomment
  · -- one token, with the white space in it
    have hblank : '<' ∉ idle := fun hin => nomatch hblanks '<' hin
    have htext : '<' ∉ left ++ idle ++ right := by
      simp only [List.mem_append, not_or]
      exact ⟨⟨hleft, hblank⟩, hright⟩
    have hlines := lines_written ((left ++ idle ++ right).reverse ++ [])
    rw [List.append_nil, List.reverse_reverse,
      Text.trimmedLines_insert hedge hblanks] at hlines
    have htexts := texts_textToken here (left ++ idle ++ right).reverse
    rw [hlines] at htexts
    refine ⟨_, a ++ (left ++ idle ++ right), htexts, ?_⟩
    have hsplit : left ++ (idle ++ (right ++ b))
        = left ++ idle ++ right ++ b := by
      simp only [List.append_assoc]
    rw [hsplit, h.tokens?_eq, outside,
      tokensFrom?_text _ _ _ htext hb, map_append_map, List.append_nil,
      ← place_append]
  · -- one token before the comment and one behind it
    obtain ⟨last, hpiece⟩ := ScanState.scans_comment
      (place (a ++ left)) here left.reverse hcomment
    have hbefore : Scans (outside here) (place a) left []
        (.text here left.reverse) := by
      have hscan := ScanState.scans_text (place a) here [] hleft
      rwa [List.append_nil] at hscan
    rw [place_append] at hpiece
    have hidle := hbefore.silent hpiece
    rw [← advance_start] at hidle
    have htexts := (texts_textToken here left.reverse).append
      (texts_textToken last right.reverse)
    rw [lines_written, lines_written, List.reverse_reverse,
      List.reverse_reverse, ← List.map_append] at htexts
    refine ⟨_, a ++ (left ++ idle) ++ right, htexts, ?_⟩
    have hsplit : a ++ (left ++ (idle ++ (right ++ b)))
        = a ++ (left ++ idle) ++ (right ++ b) := by
      simp only [List.append_assoc]
    rw [hsplit, (h.append hidle).tokens?_eq, outside,
      tokensFrom?_text _ _ _ hright hb, map_append_map, List.append_nil,
      ← place_append, List.append_assoc ts]

theorem Texts.ne_eof {lines : List String} (h : Texts ts lines) :
    ∀ t ∈ ts, t.token ≠ .eof := by
  induction h with
  | nil => exact fun t ht => absurd ht List.not_mem_nil
  | cons run pos h ih =>
      intro t ht
      rcases List.mem_cons.mp ht with rfl | ht
      · simp
      · exact ih t ht

/-- A source that is edited has a document with the same gist. -/
theorem Edited.exists_parse {s s' : List Char} (h : Edited s s')
    (hparse : Document.parse? (String.ofList s) = .ok d) :
    ∃ d', Document.parse? (String.ofList s') = .ok d'
      ∧ d.gists = d'.gists := by
  cases h with
  | @text a b left right idle idle' ts here hscan hleft hright hb hedge
      hidle hidle' =>
      obtain ⟨texts, before, htexts, htokens⟩ :=
        hidle.tokens hscan hleft hright hb hedge
      obtain ⟨texts', before', htexts', htokens'⟩ :=
        hidle'.tokens hscan hleft hright hb hedge
      refine ReadAlike.exists_parse
        { tokens := htokens
          tokens' := htokens'
          behind := onlyTokens_outside _ _ before before' b
          ne_eof := fun t ht => ?_
          reads := fun mid hreads => ?_ } hparse
      · rcases List.mem_append.mp ht with ht | ht
        · exact hscan.ne_eof t ht
        · exact htexts.ne_eof t ht
      · obtain ⟨reading, hfirst, hlast⟩ := hreads.split
        obtain ⟨nest, rfl⟩ := hfirst.exists_nest hscan
        obtain ⟨mid', hlast', halike⟩ :=
          exists_reads_texts htexts htexts' hlast
        exact ⟨mid', hfirst.append hlast', halike⟩
  | @tag a b blanks blanks' ts state hscan hstate hblanks hblanks' =>
      have hskip : ∀ here c, Text.isBlank c = true →
          state.step here c = .ok ([], state) := by
        intro here c hc
        rcases hstate with rfl | rfl
        · exact if_pos hc
        · exact if_pos hc
      have hmoved : ∀ a, state.behind a = state := by
        intro a
        rcases hstate with rfl | rfl <;> rfl
      have hpiece := hscan.append (Scans.skip hskip hblanks)
      have hpiece' := hscan.append (Scans.skip hskip hblanks')
      rw [← List.append_assoc] at hparse ⊢
      refine hpiece.exists_parse hpiece' ?_ hparse
      have hrest := onlyTokens_behind (a ++ blanks) state b
      have hrest' := onlyTokens_behind (a ++ blanks') state b
      rw [hmoved] at hrest hrest'
      exact hrest.trans hrest'.symm
  | @closing a b name blanks blanks' ts start run hscan hname hblanks
      hblanks' =>
      obtain ⟨last, hpiece⟩ :=
        ScanState.scans_closing (place a) start run hname hblanks
      obtain ⟨last', hpiece'⟩ :=
        ScanState.scans_closing (place a) start run hname hblanks'
      exact hscan.exists_parse_piece hpiece hpiece' hparse
  | @comment a b comment comment' ts start run hscan hcomment hcomment' =>
      obtain ⟨last, hpiece⟩ :=
        ScanState.scans_comment (place a) start run hcomment
      obtain ⟨last', hpiece'⟩ :=
        ScanState.scans_comment (place a) start run hcomment'
      exact hscan.exists_parse_piece hpiece hpiece' hparse

end

/-- A text with a carriage return before each line feed. -/
def crlf : List Char → List Char
  | [] => []
  | c :: rest =>
    if c = '\n' then '\r' :: '\n' :: crlf rest else c :: crlf rest

/-- All line ends of a text at once. By recursion over the text, what has
been changed of it being on the left. -/
theorem edited_crlf {a b text : List Char} {ts : List Placed}
    {here : Position}
    (hscan : Scans (outside .start) .start a ts (outside here))
    (htext : '<' ∉ text) (hb : ∀ c, b.head? = some c → c = '<') :
    Relation.ReflTransGen Edited (a ++ (text ++ b))
      (a ++ (crlf text ++ b)) := by
  have hall : ∀ left, '<' ∉ left →
      Relation.ReflTransGen Edited (a ++ (left ++ (text ++ b)))
        (a ++ (left ++ (crlf text ++ b))) := by
    induction text with
    | nil => exact fun left hleft => .refl
    | cons c rest ih =>
        intro left hleft
        rw [List.mem_cons, not_or] at htext
        unfold crlf
        by_cases hc : c = '\n'
        · have hone : Edited (a ++ (left ++ ([] ++ ('\n' :: rest ++ b))))
              (a ++ (left ++ (['\r'] ++ ('\n' :: rest ++ b)))) :=
            .text hscan hleft
              (List.not_mem_cons_of_ne_of_not_mem (by decide) htext.2) hb
              (Text.lineEdge_feed left rest)
              (Or.inl (List.forall_mem_nil _)) (Or.inl (by decide +kernel))
          have hleft' : '<' ∉ left ++ ['\r', '\n'] := by
            simpa using hleft
          have hmore := ih htext.2 (left ++ ['\r', '\n']) hleft'
          rw [List.append_assoc, List.append_assoc] at hmore
          rw [if_pos hc, hc]
          exact .head hone hmore
        · have hleft' : '<' ∉ left ++ [c] := by
            rw [List.mem_append, List.mem_singleton, not_or]
            exact ⟨hleft, htext.1⟩
          have hmore := ih htext.2 (left ++ [c]) hleft'
          rw [List.append_assoc, List.append_assoc] at hmore
          rw [if_neg hc]
          exact hmore
  exact hall [] List.not_mem_nil

/-- Sources that come from one another by edits are both refused, or have
documents with the same gist. -/
theorem parse?_edited {s s' : String}
    (h : Relation.ReflTransGen Edited s.toList s'.toList) :
    (∃ d d', Document.parse? s = .ok d ∧ Document.parse? s' = .ok d'
        ∧ d.gists = d'.gists)
      ∨ ∃ e e', Document.parse? s = .error e
        ∧ Document.parse? s' = .error e' := by
  have hgists : ∀ {s s' : List Char} {d : Document},
      Relation.ReflTransGen Edited s s' →
      Document.parse? (String.ofList s) = .ok d →
      ∃ d', Document.parse? (String.ofList s') = .ok d'
        ∧ d.gists = d'.gists := by
    intro s s' d h hparse
    induction h with
    | refl => exact ⟨d, hparse, rfl⟩
    | tail hfirst hlast ih =>
        obtain ⟨mid, hmid, heq⟩ := ih
        obtain ⟨d', hd', heq'⟩ := hlast.exists_parse hmid
        exact ⟨d', hd', heq.trans heq'⟩
  have hback : Relation.ReflTransGen Edited s'.toList s.toList := symm h
  cases hs : Document.parse? s with
  | ok d =>
      have hd : Document.parse? (String.ofList s.toList) = .ok d := by
        rwa [String.ofList_toList]
      obtain ⟨d', hd', heq⟩ := hgists h hd
      rw [String.ofList_toList] at hd'
      exact Or.inl ⟨d, d', rfl, hd', heq⟩
  | error e =>
      cases hs' : Document.parse? s' with
      | error e' => exact Or.inr ⟨e, e', rfl, rfl⟩
      | ok d' =>
          have hd' : Document.parse? (String.ofList s'.toList)
              = .ok d' := by
            rwa [String.ofList_toList]
          obtain ⟨d, hd, -⟩ := hgists hback hd'
          rw [String.ofList_toList, hs] at hd
          cases hd

end EntityMarkup
