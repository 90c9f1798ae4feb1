/-
Every spelling of some trees is read, and as these trees: the one thing
that depends on how they are spelled is the lines that elements start on.

A spelling is scanned into a flattening of the trees, by one induction
over the spellings of elements and bodies. An element is scanned from
outside tags to outside tags and has the text before it paid, if there is
any. In a body the last run of text may still be owed at the end, where
the closing tag or the end of the source has it paid.
-/
import EntityMarkup.Proofs.Markup.Flattening
import EntityMarkup.Proofs.Markup.TagScans

namespace EntityMarkup

open ScanState (Owes written outside textToken)

-- ======================================================== opening tags

section

variable {name : String} {attributes : List Attribute} {a : Attribute}
  {bare bare' : Bool} {chars blanks : List Char} {state : ScanState}
  {owed : List Placed}

/-- An attribute behind white space is a piece of its tag. -/
theorem AttributeSpelling.piece (bare : Bool) (here : Position)
    (h : AttributeSpelling a bare' chars) (hname : IsName a.name.toList)
    (hblanks : Blanks blanks) (hne : blanks ≠ []) :
    ∃ ts, AttributeTokens a ts
      ∧ TagPiece bare here (blanks ++ chars) ts bare' := by
  cases h with
  | flag name =>
      have hpiece : TagPiece bare here _ _ _ := .attrName hname hblanks hne
      rw [String.ofList_toList] at hpiece
      exact ⟨_, .flag name _, hpiece⟩
  | @valued name value before behind chars _ hbefore hbehind hvalue =>
      have hpiece : TagPiece bare here _ _ _ := .attrName hname hblanks hne
      obtain ⟨pos, hequals⟩ := TagPiece.equals
        ((here.advance (blanks ++ name.toList)).advance before)
        hbehind hvalue
      have hall := hpiece.append ((TagPiece.optionalBlanks hbefore).append
        hequals)
      rw [String.ofList_toList, String.ofList_toList,
        List.append_assoc] at hall
      exact ⟨_, .valued name value _ _ _, hall⟩

/-- So are all attributes of the tag. -/
theorem AttributesSpelling.piece (here : Position)
    (h : AttributesSpelling attributes bare chars)
    (hnames : ∀ a ∈ attributes, IsName a.name.toList) :
    ∃ ts, AttributesTokens attributes ts
      ∧ TagPiece false here chars ts bare := by
  induction h with
  | nil => exact ⟨[], .nil, .nil⟩
  | @snoc attributes a bare bare' before blanks chars hbefore hblanks hne
      ha ih =>
      obtain ⟨ts, hts, hpiece⟩ := ih fun b hb =>
        hnames b (List.mem_append_left _ hb)
      have hname := hnames a
        (List.mem_append_right _ (List.mem_singleton.mpr rfl))
      obtain ⟨ts', hts', hpiece'⟩ := ha.piece bare (here.advance before)
        hname hblanks hne
      exact ⟨ts ++ ts', .snoc hts hts', hpiece.append hpiece'⟩

/-- An opening tag up to its end, which the last piece may owe. -/
theorem scans_openTag (here start : Position) (run : List Char)
    (htag : SoundTag name attributes)
    (h : AttributesSpelling attributes bare chars) :
    ∃ ts done state owed, AttributesTokens attributes ts
      ∧ Scans (.text start run) here ('<' :: name.toList ++ chars)
          (textToken start run ++ done) state
      ∧ Owes bare state owed
      ∧ done ++ owed = ⟨.opening name, here⟩ :: ts := by
  obtain ⟨ts, hts, hpiece⟩ :=
    h.piece (here.advance ('<' :: name.toList)) htag.names
  have hopening := ScanState.scans_opening here start run htag.name
  obtain ⟨done, state, owed, hscan, howes, hdone⟩ :=
    hpiece _ _ (.opening here name.toList.reverse)
  rw [ScanState.written_reverse] at hdone
  exact ⟨ts, done, state, owed, hts, hopening.append hscan, howes, hdone⟩

/-- The end of a tag without a body. -/
theorem ScanState.Owes.scans_selfClose (here : Position)
    (h : Owes bare state owed) (hblanks : Blanks blanks) :
    ∃ pos last, Scans state here (blanks ++ ['/', '>'])
      (owed ++ [⟨.selfClose, pos⟩]) (outside last) := by
  by_cases hne : blanks = []
  · rw [hne]
    exact ⟨_, _, h.selfClose here⟩
  · exact ⟨_, _, (h.blanks here hblanks hne).append
      (Owes.tag.selfClose (here.advance blanks))⟩

/-- The end of a tag with a body, which is apart from a value without
quotes. -/
theorem ScanState.Owes.scans_tagEnd (here : Position)
    (h : Owes bare state owed) (hblanks : Blanks blanks)
    (hend : bare = true → blanks ≠ []) :
    ∃ pos last, Scans state here (blanks ++ ['>'])
      (owed ++ [⟨.tagEnd, pos⟩]) (outside last) := by
  by_cases hne : blanks = []
  · cases bare with
    | false =>
        rw [hne]
        exact ⟨_, _, h.tagEnd here⟩
    | true => exact absurd hne (hend rfl)
  · exact ⟨_, _, (h.blanks here hblanks hne).append
      (Owes.tag.tagEnd (here.advance blanks))⟩

end

-- ============================================================ elements

/-- White space has no bracket in it. -/
theorem Blanks.not_mem_angle {blanks : List Char} (h : Blanks blanks) :
    '<' ∉ blanks := by
  intro hmem
  exact isBlank_ne (h '<' hmem) (not_isBlank_marks (by decide)) rfl

/-- A run of text that ends becomes a token. -/
theorem textToken_reverse {run : List Char} (start : Position)
    (h : run ≠ []) :
    textToken start run.reverse = [⟨.text (String.ofList run), start⟩] := by
  have hne : run.reverse.isEmpty = false := by
    rw [List.isEmpty_reverse]
    exact List.isEmpty_eq_false_iff.mpr h
  rw [textToken, hne, written, List.reverse_reverse]
  rfl

section

variable {body : List Content} {ts : List Placed}

/-- White space before the items means nothing. -/
theorem BodyTokens.after_blanks {blanks : List Char} (start : Position)
    (hblanks : Blanks blanks) (h : BodyTokens body ts) :
    BodyTokens body (textToken start blanks.reverse ++ ts) := by
  by_cases hne : blanks = []
  · rw [hne]
    exact h
  · have hblank : Text.isBlankText (String.ofList blanks) = true := by
      rw [Text.isBlankText, String.toList_ofList]
      exact List.all_eq_true.mpr hblanks
    rw [textToken_reverse start hne]
    exact .blank start hblank h

/-- Text before them is one more item. -/
theorem BodyTokens.after_text {run : String} (start : Position)
    (htext : IsText run) (h : BodyTokens body ts) :
    BodyTokens (.text run :: body)
      (textToken start run.toList.reverse ++ ts) := by
  have hne : run.toList ≠ [] := by
    intro hnil
    have hblank := htext.not_blank
    rw [Text.isBlankText, hnil] at hblank
    cases hblank
  rw [textToken_reverse start hne, String.ofList_toList]
  exact .text start htext.not_blank h

end

mutual

/-- A spelling of an element is scanned into a flattening of it. -/
theorem ElementSpelling.scans {e : Element} {chars : List Char}
    (here start : Position) (run : List Char) :
    ElementSpelling e chars → Sound e →
      ∃ e' ts last, Scans (.text start run) here chars
          (textToken start run ++ ts) (outside last)
        ∧ ElementTokens e' ts ∧ e'.unlined = e.unlined
  | @ElementSpelling.selfClosed name attributes line bare chars blanks
      hattributes hblanks, hsound => by
      obtain ⟨htag, -⟩ := hsound
      obtain ⟨ts, done, state, owed, hts, hopen, howes, hdone⟩ :=
        scans_openTag here start run htag hattributes
      obtain ⟨pos, last, hend⟩ := howes.scans_selfClose _ hblanks
      exact ⟨⟨name, attributes, [], here.line⟩, _, last,
        hopen.pay hend hdone, .selfClosed here pos hts htag.distinct, rfl⟩
  | @ElementSpelling.closed name attributes body line bare chars blanks
      inside blanks' hattributes hblanks hend hbody hblanks', hsound => by
      obtain ⟨htag, hinside⟩ := hsound
      obtain ⟨ts, done, state, owed, hts, hopen, howes, hdone⟩ :=
        scans_openTag here start run htag hattributes
      obtain ⟨mid, last, htagEnd⟩ := howes.scans_tagEnd _ hblanks hend
      obtain ⟨body', ts', done', start', run', hscan, hdone', htokens,
        hsame⟩ := BodySpelling.scans _ last [] hbody (fun _ => rfl) hinside
      obtain ⟨last', hclosing⟩ :=
        ScanState.scans_closing _ start' run' htag.name hblanks'
      rw [String.ofList_toList] at hclosing
      have hpaid : done' ++ textToken start' run' = ts' := hdone'
      have hall := ((hopen.pay htagEnd hdone).append hscan).pay hclosing hpaid
      rw [List.append_assoc (textToken start run)] at hall
      refine ⟨⟨name, attributes, body', here.line⟩, _, last', hall,
        .closed here mid _ hts htag.distinct htokens, ?_⟩
      rw [Element.unlined, Element.unlined, hsame]

/-- A spelling of a body is scanned into a flattening of it, up to the
text that it may end in. -/
theorem BodySpelling.scans {fresh : Bool} {body : List Content}
    {chars : List Char} (here start : Position) (run : List Char) :
    BodySpelling fresh body chars → (fresh = true → run = []) →
      SoundBody body →
      ∃ body' ts done start' run', Scans (.text start run) here chars done
          (.text start' run')
        ∧ done ++ textToken start' run' = textToken start run ++ ts
        ∧ BodyTokens body' ts
        ∧ Content.unlinedAll body' = Content.unlinedAll body
  | .nil fresh, _, _ => by
      refine ⟨[], [], [], start, run, .nil _ _, ?_, .nil, rfl⟩
      rw [List.append_nil]
      rfl
  | @BodySpelling.comment fresh body comment chars hcomment hrest, _,
      hsound => by
      obtain ⟨last, hfirst⟩ := ScanState.scans_comment here start run hcomment
      obtain ⟨body', ts, done, start', run', hscan, hdone, htokens, hsame⟩ :=
        BodySpelling.scans (here.advance comment) last [] hrest
          (fun _ => rfl) hsound
      refine ⟨body', ts, _, start', run', hfirst.append hscan, ?_, htokens,
        hsame⟩
      rw [List.append_assoc, hdone]
      rfl
  | @BodySpelling.blanks body blanks chars hblanks hrest, hrun, hsound => by
      rw [hrun rfl]
      have hfirst := ScanState.scans_text here start []
        hblanks.not_mem_angle
      rw [List.append_nil] at hfirst
      obtain ⟨body', ts, done, start', run', hscan, hdone, htokens, hsame⟩ :=
        BodySpelling.scans (here.advance blanks) start blanks.reverse hrest
          (fun h => nomatch h) hsound
      exact ⟨body', _, done, start', run', hfirst.silent hscan, hdone,
        htokens.after_blanks start hblanks, hsame⟩
  | @BodySpelling.text content body chars hrest, hrun, hsound => by
      rw [hrun rfl]
      cases hsound with
      | text htext hsound =>
          have hfirst := ScanState.scans_text here start [] htext.no_tag
          rw [List.append_nil] at hfirst
          obtain ⟨body', ts, done, start', run', hscan, hdone, htokens,
            hsame⟩ := BodySpelling.scans (here.advance content.toList) start
              content.toList.reverse hrest (fun h => nomatch h) hsound
          refine ⟨.text content :: body', _, done, start', run',
            hfirst.silent hscan, hdone, htokens.after_text start htext, ?_⟩
          rw [Content.unlinedAll, Content.unlinedAll, hsame]
  | @BodySpelling.element fresh e body chars chars' he hrest, _,
      hsound => by
      cases hsound with
      | element hsound hsound' =>
          obtain ⟨e', ts, last, hfirst, htokens, hsame⟩ :=
            ElementSpelling.scans here start run he hsound
          obtain ⟨body', ts', done, start', run', hscan, hdone, htokens',
            hsame'⟩ := BodySpelling.scans (here.advance chars) last []
              hrest (fun _ => rfl) hsound'
          refine ⟨.element e' :: body', ts ++ ts', _, start', run',
            hfirst.append hscan, ?_, .element htokens htokens', ?_⟩
          · rw [List.append_assoc, hdone, List.append_assoc]
            rfl
          · rw [Content.unlinedAll, Content.unlinedAll, Content.unlined,
              Content.unlined, hsame, hsame']

end

-- =========================================================== documents

/-- A body that differs from a list of elements in lines alone is a list
of elements too. -/
theorem exists_roots {body : List Content} {roots : List Element}
    (h : Content.unlinedAll body
      = Content.unlinedAll (roots.map .element)) :
    ∃ roots' : List Element, body = roots'.map .element
      ∧ roots'.map Element.unlined = roots.map Element.unlined := by
  induction body generalizing roots with
  | nil =>
      cases roots with
      | nil => exact ⟨[], rfl, rfl⟩
      | cons e rest => cases h
  | cons item body ih =>
      cases roots with
      | nil => cases h
      | cons e rest =>
          rw [List.map_cons, Content.unlinedAll, Content.unlinedAll,
            List.cons.injEq] at h
          cases item with
          | text run =>
              rw [Content.unlined, Content.unlined] at h
              cases h.1
          | element e' =>
              rw [Content.unlined, Content.unlined,
                Content.element.injEq] at h
              obtain ⟨roots', hbody, hsame⟩ := ih h.2
              refine ⟨e' :: roots', ?_, ?_⟩
              · rw [hbody, List.map_cons]
              · rw [List.map_cons, List.map_cons, h.1, hsame]

/-- Every spelling of trees that markup can denote is read, and as these
trees but for the lines. -/
theorem parse_spelling {roots : List Element} {source : String}
    (hsound : ∀ e ∈ roots, Sound e) (h : Spelling roots source) :
    ∃ d, Document.parse? source = .ok d
      ∧ d.roots.map Element.unlined = roots.map Element.unlined := by
  obtain ⟨body, ts, done, start, run, hscan, hdone, htokens, hsame⟩ :=
    BodySpelling.scans .start .start [] h (fun _ => rfl) (.of_roots hsound)
  obtain ⟨roots', hbody, hsame'⟩ := exists_roots hsame
  have htokens? : tokens? source
      = .ok (ts ++ [⟨.eof, Position.start.advance source.toList⟩]) := by
    have hts : done ++ textToken start run = ts := hdone
    rw [← hts]
    exact hscan.tokens_eq rfl
  have hdocument := BodyTokens.document_eq (hbody ▸ htokens)
    (Position.start.advance source.toList)
  refine ⟨⟨roots'⟩, ?_, hsame'⟩
  rw [Document.parse?, htokens?]
  exact hdocument

/-- An element with text, an element inside, and three attributes. -/
def sampleElement : Element :=
  ⟨"a", [⟨"x", "1"⟩, ⟨"y", "2"⟩, ⟨"z", "true"⟩],
    [.text "hi", .element ⟨"b", [], [], 1⟩], 1⟩

theorem sampleElement_sound : Sound sampleElement := by
  have hquotes : ∀ a ∈ sampleElement.attributes,
      '"' ∉ a.value.toList := by
    decide
  have hvalues : ∀ a ∈ sampleElement.attributes,
      Spellable a.value.toList := by
    intro a ha
    exact ⟨false, _, .double (hquotes a ha)⟩
  have htag : SoundTag sampleElement.name sampleElement.attributes :=
    ⟨by decide +kernel, by decide +kernel, by decide, hvalues⟩
  have hinner : Sound ⟨"b", [], [], 1⟩ :=
    .mk ⟨by decide +kernel, by decide, by decide, by simp⟩ .nil
  exact .mk htag (.text (by decide +kernel) (.element hinner .nil))

/-- Its attributes in all three ways, and a comment before the text. -/
theorem parse_spelling_sample :
    (∀ e ∈ [sampleElement], Sound e)
      ∧ Spelling [sampleElement]
          "<a x=1 y= '2' z ><!-- c -->hi<b/></a>"
      ∧ ∃ d, Document.parse? "<a x=1 y= '2' z ><!-- c -->hi<b/></a>" = .ok d
        ∧ d.roots.map Element.unlined
          = [sampleElement].map Element.unlined := by
  have hsound : ∀ e ∈ [sampleElement], Sound e := by
    intro e he
    rw [List.mem_singleton.mp he]
    exact sampleElement_sound
  have hspace : Blanks [' '] := by decide +kernel
  have hnone : Blanks [] := by decide
  have hone : IsBareValue "1".toList := by decide +kernel
  have hx : AttributeSpelling ⟨"x", "1"⟩ true
      ("x".toList ++ ([] ++ '=' :: ([] ++ "1".toList))) :=
    .valued hnone hnone (.bare hone)
  have hy : AttributeSpelling ⟨"y", "2"⟩ false
      ("y".toList ++ ([] ++ '=' :: ([' '] ++ "'2'".toList))) :=
    .valued hnone hspace (.single (by decide))
  have hz : AttributeSpelling ⟨"z", "true"⟩ false "z".toList := .flag "z"
  have hattributes : AttributesSpelling sampleElement.attributes false
      " x=1 y= '2' z".toList :=
    .snoc (.snoc (.snoc .nil hspace (by decide) hx) hspace (by decide) hy)
      hspace (by decide) hz
  have hinner : ElementSpelling ⟨"b", [], [], 1⟩ "<b/>".toList :=
    .selfClosed .nil hnone
  have hcomment : IsComment "<!-- c -->".toList :=
    @IsComment.mk [' ', 'c', ' '] (by decide)
  have hbody : BodySpelling true sampleElement.body
      "<!-- c -->hi<b/>".toList :=
    .comment hcomment (.text (.element hinner (.nil true)))
  have hspelling : Spelling [sampleElement]
      "<a x=1 y= '2' z ><!-- c -->hi<b/></a>" :=
    .element (.closed hattributes hspace (fun h => nomatch h) hbody hnone)
      (.nil true)
  exact ⟨hsound, hspelling, parse_spelling hsound hspelling⟩

end EntityMarkup
