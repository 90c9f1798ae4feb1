/-
Comments that are put into a source. A comment may stand wherever a scan is
outside tags and other comments. There it completes the text that has been
read, and the text behind it is a token of its own, which is as far as the
tokens change: those before are the same, and those behind are moved
(`Scans.tokens?_text`).

That the document is still accepted is a matter of what a reading may go on
with, and this is told by the names of the open tags and the attributes of
the one that has not ended. Neither the text nor the lines of what has been
read have a say in it (`Reading.bareStep?_bare`). What the document is then
follows from the pieces that the tokens show.
-/
import EntityMarkup.Proofs.Markup.Edited
import EntityMarkup.Proofs.Markup.Pieces
import EntityMarkup.Proofs.Markup.Refusals

namespace EntityMarkup

open ScanState (outside textToken written)

-- ======================================================= bare readings

def OpenTag.bare (head : OpenTag) : OpenTag := { head with line := 0 }

def OpenElement.bare (inner : OpenElement) : OpenElement :=
  ⟨inner.name, [], 0, []⟩

def Nest.bare (nest : Nest) : Nest := ⟨[], nest.opened.map OpenElement.bare⟩

/-- The reading with nothing but what decides how it goes on. -/
def Reading.bare : Reading → Reading
  | .content nest => .content nest.bare
  | .tag nest head => .tag nest.bare head.bare
  | .named nest head name => .named nest.bare head.bare name
  | .awaiting nest head name => .awaiting nest.bare head.bare name
  | .valued nest head last => .valued nest.bare head.bare last
  | .missing name found => .missing name found

/-- A step, as far as that is concerned. -/
def Reading.bareStep? (reading : Reading) (t : Placed) : Option Reading :=
  (reading.step t).toOption.map Reading.bare

section

variable {reading reading' mid : Reading} {t t' : Placed}
  {ts ts' : List Placed} {d : Document}

theorem Nest.bare_add (nest : Nest) (e : Element) :
    (nest.add e).bare = nest.bare := by
  obtain ⟨roots, opened⟩ := nest
  cases opened with
  | nil | cons => rfl

theorem Nest.bare_bare (nest : Nest) : nest.bare.bare = nest.bare :=
  congrArg (Nest.mk []) List.map_map

theorem Nest.bare_enter (nest : Nest) (head : OpenTag) :
    (nest.bare.enter head.bare).bare = (nest.enter head).bare :=
  congrArg (fun outer : Nest => Nest.mk [] (_ :: outer.opened))
    nest.bare_bare

theorem stepContent_bare (nest : Nest) (t : Placed) (pos : Position) :
    (Reading.stepContent nest.bare ⟨t.token, pos⟩).toOption.map
        Reading.bare
      = (Reading.stepContent nest t).toOption.map Reading.bare := by
  obtain ⟨token, here⟩ := t
  cases token with
  | opening name =>
      exact congrArg (fun nest => some (Reading.tag nest ⟨name, [], 0⟩))
        nest.bare_bare
  | text run =>
      simp only [Reading.stepContent]
      split
      · exact congrArg (some ∘ Reading.content) nest.bare_bare
      · obtain ⟨roots, opened⟩ := nest
        cases opened with
        | nil => rfl
        | cons inner outer =>
            exact congrArg (some ∘ Reading.content)
              (Nest.bare_bare ⟨roots, inner :: outer⟩)
  | closing name =>
      obtain ⟨roots, opened⟩ := nest
      cases opened with
      | nil => rfl
      | cons inner outer =>
          have hname : inner.bare.name = inner.name := rfl
          simp only [Reading.stepContent, Nest.bare, List.map_cons, hname]
          split
          · -- the closed element adds to a body, of which nothing is left
            refine congrArg (some ∘ Reading.content) ?_
            rw [Nest.bare_add, Nest.bare_add]
            exact Nest.bare_bare ⟨roots, outer⟩
          · rfl
  | attrName | value | equals | tagEnd | selfClose | eof =>
      obtain ⟨roots, opened⟩ := nest
      cases opened with
      | nil | cons => rfl

theorem stepTag_bare (nest : Nest) (head : OpenTag) (t : Placed)
    (pos : Position) :
    (Reading.stepTag nest.bare head.bare ⟨t.token, pos⟩).toOption.map
        Reading.bare
      = (Reading.stepTag nest head t).toOption.map Reading.bare := by
  obtain ⟨token, here⟩ := t
  cases token with
  | attrName name =>
      exact congrArg (fun nest => some (Reading.named nest head.bare name))
        nest.bare_bare
  | tagEnd =>
      exact congrArg (some ∘ Reading.content) (nest.bare_enter head)
  | selfClose =>
      show some (Reading.content _) = some (.content _)
      rw [Nest.bare_add, Nest.bare_add, Nest.bare_bare]
  | opening | closing | value | text | equals | eof => rfl

/-- Behind an attribute it is compared with the earlier ones, which a bare
reading still has. -/
theorem addStep_bare (nest : Nest) (head : OpenTag) (a : Attribute)
    (t : Placed) (pos : Position) :
    (head.bare.add a pos >>= fun head' =>
        Reading.stepTag nest.bare head' ⟨t.token, pos⟩).toOption.map
          Reading.bare
      = (head.add a t.pos >>= fun head' =>
        Reading.stepTag nest head' t).toOption.map Reading.bare := by
  by_cases hname : a.name ∈ head.attributes.map (·.name)
  · have hbare : a.name ∈ head.bare.attributes.map (·.name) := hname
    rw [OpenTag.add_of_mem hname, OpenTag.add_of_mem hbare]
    rfl
  · have hbare : a.name ∉ head.bare.attributes.map (·.name) := hname
    rw [OpenTag.add_of_notMem hname, OpenTag.add_of_notMem hbare]
    exact stepTag_bare nest
      { head with attributes := a :: head.attributes } t pos

/-- Bare readings step alike, wherever the token stands. -/
theorem Reading.bareStep?_bare (reading : Reading) (t : Placed)
    (pos : Position) :
    reading.bare.bareStep? ⟨t.token, pos⟩ = reading.bareStep? t := by
  cases reading with
  | content nest => exact stepContent_bare nest t pos
  | tag nest head => exact stepTag_bare nest head t pos
  | named nest head name =>
      simp only [bareStep?, bare, step]
      split
      · exact congrArg
          (fun nest => some (Reading.awaiting nest head.bare name))
          nest.bare_bare
      · exact addStep_bare nest head _ t pos
  | awaiting nest head name =>
      obtain ⟨token, here⟩ := t
      cases token with
      | value chars =>
          exact congrArg
            (fun nest => some (Reading.valued nest head.bare ⟨name, chars⟩))
            nest.bare_bare
      | opening | closing | attrName | text | equals | tagEnd
      | selfClose | eof => rfl
  | valued nest head last => exact addStep_bare nest head last t pos
  | missing name found => rfl

/-- So readings that are the same when bare read the same tokens. -/
theorem Reads.exists_bare (h : Reads reading ts mid)
    (hbare : reading.bare = reading'.bare)
    (hts : ts.map (·.token) = ts'.map (·.token)) :
    ∃ mid', Reads reading' ts' mid' ∧ mid.bare = mid'.bare := by
  induction h generalizing reading' ts' with
  | nil reading =>
      obtain rfl := List.map_eq_nil_iff.mp hts.symm
      exact ⟨reading', .nil reading', hbare⟩
  | @cons reading next mid t ts hne hstep hrest ih =>
      cases ts' with
      | nil => cases hts
      | cons t' ts' =>
          obtain ⟨hhead, hmore⟩ := List.cons.inj hts
          have ht : t.token = t'.token := hhead
          have hnext : reading'.bareStep? t' = some next.bare := by
            rw [← reading'.bareStep?_bare t' .start, ← hbare, ← ht,
              reading.bareStep?_bare, Reading.bareStep?, hstep]
            rfl
          rw [Reading.bareStep?] at hnext
          cases hstep' : reading'.step t' with
          | error e =>
              rw [hstep'] at hnext
              cases hnext
          | ok next' =>
              rw [hstep'] at hnext
              obtain ⟨mid', hreads, heq⟩ :=
                ih (Option.some.inj hnext).symm hmore
              exact ⟨mid', .cons (ht ▸ hne) hstep' hreads, heq⟩

theorem map_token_beforeEnd (ts : List Placed) :
    (beforeEnd ts).map (·.token)
      = (ts.map (·.token)).takeWhile (· ≠ .eof) := by
  rw [List.takeWhile_map]
  rfl

/-- And they are accepted with the same tokens. -/
theorem Reading.exists_run {last : Position}
    (hrun : reading.run last ts = .ok d)
    (hbare : reading.bare = reading'.bare)
    (hts : ts.map (·.token) = ts'.map (·.token)) (last' : Position) :
    ∃ d', reading'.run last' ts' = .ok d' := by
  have hbefore : (beforeEnd ts).map (·.token)
      = (beforeEnd ts').map (·.token) := by
    rw [map_token_beforeEnd, map_token_beforeEnd, hts]
  obtain ⟨mid', hreads, heq⟩ :=
    (Reading.run_eq_ok_iff.mp hrun).exists_bare hbare hbefore
  cases mid' with
  | content nest =>
      obtain ⟨roots, opened⟩ := nest
      have hopened : [] = opened.map OpenElement.bare :=
        congrArg Nest.opened (Reading.content.inj heq)
      obtain rfl := List.map_eq_nil_iff.mp hopened.symm
      refine ⟨⟨roots.reverse⟩, Reading.run_eq_ok_iff.mpr ?_⟩
      rw [List.reverse_reverse]
      exact hreads
  | tag | named | awaiting | valued | missing => cases heq

end

-- ============================================================ text parts

section

variable {nest : Nest} {reading : Reading} {start : Position}
  {run : List Char}

/-- Text leaves a reading as it is, but for the text. Outside every
element it is blank. -/
theorem Reads.textToken_bare
    (h : Reads (.content nest) (textToken start run) reading) :
    (Reading.content nest).bare = reading.bare
      ∧ (nest.opened = [] → Blanks run) := by
  unfold textToken at h
  split at h
  case isTrue hnil =>
    cases h
    rw [List.isEmpty_iff.mp hnil]
    exact ⟨rfl, fun _ => List.forall_mem_nil _⟩
  case isFalse =>
    cases h with
    | cons hne hstep hrest =>
        cases hrest
        simp only [Reading.step, Reading.stepContent] at hstep
        split at hstep
        case isTrue hblank =>
          cases hstep
          exact ⟨rfl, fun _ => (isBlankText_written run).mp hblank⟩
        case isFalse =>
          obtain ⟨roots, opened⟩ := nest
          cases opened with
          | nil => cases hstep
          | cons inner outer =>
              cases hstep
              exact ⟨rfl, fun hnil => absurd hnil (List.cons_ne_nil _ _)⟩

/-- Text that is read can be read in two parts. -/
theorem Reads.exists_parts {right : List Char} (last : Position)
    (h : Reads (.content nest) (textToken start (right ++ run)) reading) :
    ∃ reading', Reads (.content nest)
        (textToken start run ++ textToken last right) reading'
      ∧ reading.bare = reading'.bare := by
  obtain ⟨hwhole, hblanks⟩ := h.textToken_bare
  have hparts : nest.opened = [] → Blanks right ∧ Blanks run := fun hnil =>
    List.forall_mem_append.mp (hblanks hnil)
  obtain ⟨nest₁, hleft, -⟩ :=
    reads_textToken nest start fun hnil => (hparts hnil).2
  have hfirst := hleft.textToken_bare.1
  have hopened : nest₁.opened = [] → nest.opened = [] := by
    intro hnil
    have hnames : nest.bare.opened = nest₁.bare.opened :=
      congrArg Nest.opened (Reading.content.inj hfirst)
    rw [Nest.bare, Nest.bare, hnil] at hnames
    exact List.map_eq_nil_iff.mp hnames
  obtain ⟨nest₂, hright, -⟩ :=
    reads_textToken nest₁ last fun hnil => (hparts (hopened hnil)).1
  exact ⟨_, hleft.append hright,
    hwhole.symm.trans (hfirst.trans hright.textToken_bare.1)⟩

end

-- ============================================================== the cut

section

variable {state state' : ScanState} {here start : Position}
  {a chars text rest run : List Char} {ts found found' : List Placed}
  {nest : Nest}

/-- What a scan has come to, it has come to piece by piece. -/
theorem Scan.exists_scans {here' : Position}
    (h : Scan.run ⟨found, here, state⟩ chars
      = .ok ⟨found', here', state'⟩) :
    ∃ ts, Scans state here chars ts state'
      ∧ found' = ts.reverse ++ found := by
  induction chars generalizing found here state with
  | nil =>
      cases h
      exact ⟨[], .nil _ _, rfl⟩
  | cons c rest ih =>
      have hrun : Scan.run ⟨found, here, state⟩ (c :: rest)
          = Scan.step ⟨found, here, state⟩ c >>= (·.run rest) :=
        List.foldlM_cons
      rw [hrun, Scan.step] at h
      cases hstep : state.step here c with
      | error e =>
          rw [hstep] at h
          cases h
      | ok next =>
          obtain ⟨tokens, mid⟩ := next
          rw [hstep] at h
          obtain ⟨ts, hscan, rfl⟩ := ih h
          refine ⟨tokens ++ ts, .cons hstep hscan, ?_⟩
          rw [List.reverse_append, List.append_assoc]

/-- Behind text that goes on up to a bracket there are the tokens of what
comes then, as if it were a source by itself, only moved. -/
theorem Scans.tokens?_text
    (h : Scans (outside .start) .start a ts (.text start run))
    (htext : '<' ∉ text) (hrest : ∀ c, rest.head? = some c → c = '<') :
    tokens? (String.ofList (a ++ (text ++ rest)))
      = (ts ++ textToken start (text.reverse ++ run) ++ ·) <$>
        moved (a ++ text) (List.map (·.behind (a ++ text)))
          (tokens? (String.ofList rest)) := by
  rw [h.tokens?_eq, tokensFrom?_text start _ run htext hrest,
    map_append_map, ← place_append, ← Position.behind_start,
    ← ScanState.behind_outside,
    tokensFrom?_behind (a ++ text) _ (Nat.le_refl 1),
    EntityMarkup.tokens?_eq, String.toList_ofList]

/-- The tokens of a scan that is outside tags show pieces of their own. -/
theorem Reads.piecesOf_append
    (h : Reads (.content .empty) ts (.content nest)) (more : List Placed) :
    piecesOf (ts ++ more) = piecesOf ts ++ piecesOf more := by
  have hstart : NestTokens .empty [] := by
    have hnone : BodyTokens (([] : List Element).map .element) [] := .nil
    exact .roots hnone
  cases (Held.content hstart).reads h with
  | content hnest => exact hnest.piecesOf_append more

end

-- ============================================================ documents

/-- How a document changes when its source is cut behind these tokens and
a text, before another text and other tokens, and something with so many
line feeds is put in between that shows no piece. The tags behind the cut
are further down, and the text around it is two runs, or one or none if
parts of it are blank. All else is as it was. -/
structure Parted (before after : List Placed) (left right : String)
    (n : Nat) (d d' : Document) : Prop where
  whole : d.pieces
    = piecesOf before ++ (Piece.texts [left ++ right] ++ piecesOf after)
  parts : ∀ e : Document, e.pieces
      = piecesOf before ++ (Piece.texts [left, right]
        ++ (piecesOf after).map (·.raised n))
    ↔ e = d'

section

variable {a x y run right : List Char} {start : Position}
  {ts own : List Placed} {d d' : Document} {n : Nat}

theorem textToken_ne_eof (start : Position) (run : List Char) :
    ∀ t ∈ textToken start run, t.token ≠ .eof :=
  (texts_textToken start run).ne_eof

/-- Of tokens that are accepted, those up to a cut outside tags lead
between tags. -/
theorem Scans.exists_nest
    (hscan : Scans (outside .start) .start a ts (.text start run))
    {more : List Placed} (h : Document.ofTokens? (ts ++ more) = .ok d) :
    ∃ nest last, Reads (.content .empty) ts (.content nest)
      ∧ (Reading.content nest).run last more = .ok d := by
  obtain ⟨reading, last, hreads, hrun⟩ := exists_reads hscan.ne_eof h
  obtain ⟨nest, rfl⟩ := hreads.exists_nest hscan
  exact ⟨nest, last, hreads, hrun⟩

/-- Text between tokens that are accepted may come in two parts. -/
theorem exists_ofTokens?_parts
    (hscan : Scans (outside .start) .start a ts (.text start run))
    (h : Document.ofTokens? (ts ++ textToken start (right ++ run)
      ++ own.map (·.behind x)) = .ok d) (last : Position) :
    ∃ d', Document.ofTokens? (ts ++ textToken start run
      ++ textToken last right ++ own.map (·.behind y)) = .ok d' := by
  rw [List.append_assoc] at h
  obtain ⟨nest, pos, hbefore, hmid⟩ := hscan.exists_nest h
  obtain ⟨reading, pos', htext, hrest⟩ :=
    exists_reads (textToken_ne_eof start (right ++ run)) hmid
  obtain ⟨reading', hparts, hbare⟩ := htext.exists_parts last
  obtain ⟨pos'', hrun⟩ :=
    (hbefore.append hparts).run_eq .start (own.map (·.behind y))
  have htokens : (own.map (·.behind x)).map (·.token)
      = (own.map (·.behind y)).map (·.token) := by
    rw [List.map_map, List.map_map]
    rfl
  obtain ⟨d', hd'⟩ := Reading.exists_run hrest hbare htokens pos''
  refine ⟨d', ?_⟩
  rw [← List.append_assoc] at hrun
  exact hrun.trans hd'

/-- And then the pieces of the document tell what it is. -/
theorem parted_of_ofTokens?
    (hscan : Scans (outside .start) .start a ts (.text start run))
    {last : Position}
    (h : Document.ofTokens? (ts ++ textToken start (right ++ run)
      ++ own.map (·.behind x)) = .ok d)
    (h' : Document.ofTokens? (ts ++ textToken start run
      ++ textToken last right ++ own.map (·.behind y)) = .ok d')
    (hcount : y.count '\n' = x.count '\n' + n) :
    Parted ts (own.map (·.behind x)) (written run) (written right) n
      d d' := by
  have hpieces : ∀ more, piecesOf (ts ++ more)
      = piecesOf ts ++ piecesOf more := by
    have hwhole := h
    rw [List.append_assoc] at hwhole
    obtain ⟨nest, pos, hbefore, -⟩ := hscan.exists_nest hwhole
    exact hbefore.piecesOf_append
  have hwritten : written (right ++ run) = written run ++ written right := by
    rw [written, List.reverse_append, String.ofList_append]
    rfl
  refine ⟨?_, fun e => ?_⟩
  · rw [Document.pieces_eq h, List.append_assoc, hpieces,
      piecesOf_textToken, hwritten]
  · have hd' := Document.pieces_eq h'
    have hraised : piecesOf (own.map (·.behind y))
        = (piecesOf (own.map (·.behind x))).map (·.raised n) := by
      rw [piecesOf_behind, piecesOf_behind, List.map_map, hcount]
      exact List.map_congr_left fun p _ => p.raised_add _ n
    rw [List.append_assoc, List.append_assoc, hpieces, piecesOf_textToken,
      piecesOf_textToken, hraised, ← List.append_assoc (Piece.texts _),
      ← Piece.texts_append] at hd'
    constructor
    · exact fun he => Document.pieces_injective (he.trans hd'.symm)
    · rintro rfl
      exact hd'

end

/-- The text before the first bracket. -/
def textAhead (chars : List Char) : List Char :=
  chars.takeWhile (· ≠ '<')

theorem exists_textAhead (chars : List Char) :
    ∃ rest, chars = textAhead chars ++ rest ∧ '<' ∉ textAhead chars
      ∧ ∀ c, rest.head? = some c → c = '<' := by
  refine ⟨chars.dropWhile (· ≠ '<'), List.takeWhile_append_dropWhile.symm,
    fun hin => ?_, fun c hc => ?_⟩
  · have hne := List.all_eq_true.mp List.all_takeWhile _ hin
    simp at hne
  · have hhead := List.head?_dropWhile_not (· ≠ '<') chars
    rw [hc] at hhead
    simpa using hhead

section

variable {a b c : String} {d : Document} {found : List Placed}
  {here start : Position} {run : List Char}

/-- A source with a comment at a cut of another. -/
theorem toList_commented (a b c : String) :
    (a ++ "<!--" ++ c ++ "-->" ++ b).toList
      = a.toList ++ ('<' :: '!' :: '-' :: '-' ::
        (c.toList ++ ['-', '-', '>'])) ++ b.toList := by
  simp [String.toList_append]

/-- A source that is accepted is accepted with a comment at any place
outside tags and comments, and the document changes no more than it must. -/
theorem parse?_commented (h : Document.parse? (a ++ b) = .ok d)
    (hcut : Scan.start.run a.toList = .ok ⟨found, here, .text start run⟩)
    (hc : ¬ ['-', '-', '>'] <:+: c.toList) :
    ∃ after d', tokens? (a ++ b) = .ok (found.reverse
        ++ textToken start ((textAhead b.toList).reverse ++ run) ++ after)
      ∧ Document.parse? (a ++ "<!--" ++ c ++ "-->" ++ b) = .ok d'
      ∧ Parted found.reverse after (written run)
        (String.ofList (textAhead b.toList)) (c.toList.count '\n') d d' := by
  obtain ⟨ts, hscan, rfl⟩ := Scan.exists_scans hcut
  rw [List.append_nil, List.reverse_reverse]
  obtain ⟨rest, hb, htext, hrest⟩ := exists_textAhead b.toList
  generalize textAhead b.toList = text at hb htext ⊢
  obtain ⟨last, hpiece⟩ := ScanState.scans_comment (place a.toList) start
    run (.mk hc)
  rw [← advance_start] at hpiece
  -- both sources have the tokens of the rest, moved
  have hwhole := hscan.tokens?_text htext hrest
  have hparts := (hscan.append hpiece).tokens?_text htext hrest
  rw [← hb, ← String.toList_append, String.ofList_toList] at hwhole
  rw [← hb, ← toList_commented, String.ofList_toList,
    List.append_nil] at hparts
  cases hown : tokens? (String.ofList rest) with
  | error e =>
      rw [hown] at hwhole
      rw [Document.parse?, hwhole] at h
      cases h
  | ok own =>
      rw [hown] at hwhole hparts
      have hread : Document.ofTokens? (ts
          ++ textToken start (text.reverse ++ run)
          ++ own.map (·.behind (a.toList ++ text))) = .ok d := by
        rw [Document.parse?, hwhole] at h
        exact h
      obtain ⟨d', hread'⟩ := exists_ofTokens?_parts hscan hread last
      refine ⟨_, d', hwhole, ?_, ?_⟩
      · rw [Document.parse?, hparts]
        exact hread'
      · have hcount : (a.toList ++ ('<' :: '!' :: '-' :: '-' ::
              (c.toList ++ ['-', '-', '>'])) ++ text).count '\n'
            = (a.toList ++ text).count '\n' + c.toList.count '\n' := by
          simp only [List.count_append, List.count_cons, List.count_nil,
            beq_iff_eq, Char.reduceEq, if_false]
          omega
        have hparted := parted_of_ofTokens? hscan hread hread' hcount
        have hright : written text.reverse = String.ofList text := by
          rw [written, List.reverse_reverse]
        rw [hright] at hparted
        exact hparted

end

def partedLeft : String := "<a>\n<b/>left "

def partedRight : String := "right<b x/></a>"

/-- The tokens before the text that the cut is in. -/
def partedTokens : List Placed :=
  [⟨.opening "a", ⟨1, 1⟩⟩, ⟨.tagEnd, ⟨1, 3⟩⟩, ⟨.text "\n", ⟨1, 4⟩⟩,
    ⟨.opening "b", ⟨2, 1⟩⟩, ⟨.selfClose, ⟨2, 3⟩⟩]

def partedWhole : Document :=
  ⟨[⟨"a", [], [.element ⟨"b", [], [], 2⟩, .text "left right",
    .element ⟨"b", [⟨"x", "true"⟩], [], 2⟩], 1⟩]⟩

def partedDocument : Document :=
  ⟨[⟨"a", [], [.element ⟨"b", [], [], 2⟩, .text "left ", .text "right",
    .element ⟨"b", [⟨"x", "true"⟩], [], 3⟩], 1⟩]⟩

/-- The comment stands in a text. There are an end of line and a tag in
it, and it ends in a dash. -/
theorem parse?_commented_text :
    Document.parse? (partedLeft ++ partedRight) = .ok partedWhole
      ∧ Scan.start.run partedLeft.toList
        = .ok ⟨partedTokens.reverse, ⟨2, 10⟩,
          .text ⟨2, 5⟩ "left ".toList.reverse⟩
      ∧ ¬ ['-', '-', '>'] <:+: "-\n<b>-".toList
      ∧ Document.parse? (partedLeft ++ "<!--" ++ "-\n<b>-" ++ "-->"
        ++ partedRight) = .ok partedDocument
      ∧ ∃ after, Parted partedTokens after "left " "right" 1 partedWhole
        partedDocument := by
  have hparse : Document.parse? (partedLeft ++ partedRight)
      = .ok partedWhole := by rfl
  have hcut : Scan.start.run partedLeft.toList
      = .ok ⟨partedTokens.reverse, ⟨2, 10⟩,
        .text ⟨2, 5⟩ "left ".toList.reverse⟩ := by rfl
  have hc : ¬ ['-', '-', '>'] <:+: "-\n<b>-".toList := by decide
  have hresult : Document.parse? (partedLeft ++ "<!--" ++ "-\n<b>-" ++ "-->"
      ++ partedRight) = .ok partedDocument := by rfl
  obtain ⟨after, d', -, hcommented, hparted⟩ :=
    parse?_commented hparse hcut hc
  cases hcommented.symm.trans hresult
  exact ⟨hparse, hcut, hc, hresult, after, hparted⟩

end EntityMarkup
