/-
What can be wrong with the tokens of a source. A list of tokens that is
put together by hand may be refused for any token anywhere. The tokens of
a source follow each other as a scan finds them: between tags only what
belongs there, the parts of an opening tag up to its end, and a value
behind each equals sign. So a reading that has come through the first of
them stands where the scan did (`Lexeme.step_region`), and refuses the
next one for one of a few reasons (`Refuses`): what it says about the
nesting of elements and the names of attributes, or that it is an equals
sign with no name before it.

A refusal is always the first one. The tokens before it lead to the
reading that refuses, and that the reading refuses is enough for the list
to be refused, whatever comes behind (`Refused.ofTokens?_eq`).
-/
import EntityMarkup.Proofs.Markup.Nesting
import EntityMarkup.Proofs.Markup.Truncated

namespace EntityMarkup

-- ============================================================= refusals

/-- A token that stands where it can be found, and what the reading there
refuses it for. -/
inductive Refuses : Reading → Placed → MarkupError → Prop
  | strayClose (roots : List Element) (name : String) (pos : Position) :
      Refuses (.content ⟨roots, []⟩) ⟨.closing name, pos⟩
        ⟨.strayClose name, pos⟩
  | textOutsideTag {run : String} (roots : List Element)
      (pos : Position) (hblank : Text.isBlankText run = false) :
      Refuses (.content ⟨roots, []⟩) ⟨.text run, pos⟩
        ⟨.textOutsideTag, pos⟩
  | mismatchedClose {name : String} {inner : OpenElement}
      (roots : List Element) (outer : List OpenElement) (pos : Position)
      (hname : name ≠ inner.name) :
      Refuses (.content ⟨roots, inner :: outer⟩) ⟨.closing name, pos⟩
        ⟨.mismatchedClose inner.name name, pos⟩
  | unclosedTag (roots : List Element) (inner : OpenElement)
      (outer : List OpenElement) (pos : Position) :
      Refuses (.content ⟨roots, inner :: outer⟩) ⟨.eof, pos⟩
        ⟨.unclosedTag inner.name, pos⟩
  /-- The repeated attribute has no value. -/
  | repeatedFlag {head : OpenTag} {name : String} {t : Placed}
      (nest : Nest) (hequals : t.token ≠ .equals)
      (hname : name ∈ head.attributes.map (·.name)) :
      Refuses (.named nest head name) t
        ⟨.duplicateAttribute head.name name, t.pos⟩
  /-- The repeated attribute has a value. -/
  | repeated {head : OpenTag} {last : Attribute} (nest : Nest)
      (t : Placed) (hname : last.name ∈ head.attributes.map (·.name)) :
      Refuses (.valued nest head last) t
        ⟨.duplicateAttribute head.name last.name, t.pos⟩
  /-- An equals sign before the first attribute. -/
  | equalsFirst (nest : Nest) (head : OpenTag) (pos : Position) :
      Refuses (.tag nest head) ⟨.equals, pos⟩
        ⟨.unexpected (.inTag .equals head.name), pos⟩
  /-- An equals sign behind a value. -/
  | equalsBehind {head : OpenTag} {last : Attribute} (nest : Nest)
      (pos : Position)
      (hname : last.name ∉ head.attributes.map (·.name)) :
      Refuses (.valued nest head last) ⟨.equals, pos⟩
        ⟨.unexpected (.inTag .equals head.name), pos⟩

/-- The first tokens lead to a reading that refuses the next one. -/
def Refused (ts : List Placed) (e : MarkupError) : Prop :=
  ∃ before t rest reading, ts = before ++ t :: rest
    ∧ Reads (.content .empty) before reading ∧ Refuses reading t e

section

variable {region region' : Region} {reading : Reading} {nest : Nest}
  {head : OpenTag} {a : Attribute} {t : Token} {pos here behind : Position}
  {before chars : List Char} {ts : List Placed} {e : MarkupError}

theorem OpenTag.add_of_mem
    (h : a.name ∈ head.attributes.map (·.name)) (pos : Position) :
    head.add a pos
      = .error ⟨.duplicateAttribute head.name a.name, pos⟩ := by
  cases hadd : head.add a pos with
  | ok head' => exact absurd h (OpenTag.add_eq_ok hadd).1
  | error e =>
      unfold add at hadd
      split at hadd <;> cases hadd
      rfl

-- ====================================================== what is refused

/-- A reading that refuses a token does so whatever follows. -/
theorem Refuses.run_eq {t : Placed} (h : Refuses reading t e)
    (last : Position) (rest : List Placed) :
    reading.run last (t :: rest) = .error e := by
  cases h with
  | strayClose | unclosedTag | equalsFirst => rfl
  | textOutsideTag roots pos hblank =>
      rw [Reading.run, if_neg Token.noConfusion]
      simp only [Reading.step, Reading.stepContent, hblank]
      rfl
  | mismatchedClose roots outer pos hname =>
      rw [Reading.run, if_neg Token.noConfusion]
      simp only [Reading.step, Reading.stepContent, if_neg hname]
      rfl
  | repeatedFlag nest hequals hname =>
      rw [Reading.run]
      split
      · rw [Reading.stop, OpenTag.add_of_mem hname]
        rfl
      · rw [Reading.step, if_neg hequals, OpenTag.add_of_mem hname]
        rfl
  | repeated nest t hname =>
      rw [Reading.run]
      split
      · rw [Reading.stop, OpenTag.add_of_mem hname]
        rfl
      · rw [Reading.step, OpenTag.add_of_mem hname]
        rfl
  | equalsBehind nest pos hname =>
      rw [Reading.run, if_neg Token.noConfusion, Reading.step,
        OpenTag.add_of_notMem hname]
      rfl

/-- So no document is read from tokens that are refused. -/
theorem Refused.ofTokens?_eq (h : Refused ts e) :
    Document.ofTokens? ts = .error e := by
  obtain ⟨before, t, rest, reading, rfl, hreads, hrefuses⟩ := h
  obtain ⟨last, hrun⟩ := hreads.run_eq .start (t :: rest)
  exact hrun.trans (hrefuses.run_eq last rest)

-- ================================================= only what is refused

/-- Of the tokens that belong into an opening tag, only the equals sign
does not belong everywhere in it. -/
theorem stepTag_refuses (ht : Lexeme .tag t chars)
    (hstep : Reading.stepTag nest head ⟨t, pos⟩ = .error e) :
    t = .equals ∧ e = ⟨.unexpected (.inTag .equals head.name), pos⟩ := by
  cases ht with
  | equals =>
      cases hstep
      exact ⟨rfl, rfl⟩
  | attrName | tagEnd | selfClose => cases hstep

/-- Behind an attribute, it may also be a repeated one. -/
theorem addStep_refuses (ht : Lexeme .tag t chars)
    (hstep : (do Reading.stepTag nest (← head.add a pos) ⟨t, pos⟩)
      = .error e) :
    a.name ∈ head.attributes.map (·.name)
        ∧ e = ⟨.duplicateAttribute head.name a.name, pos⟩
      ∨ a.name ∉ head.attributes.map (·.name) ∧ t = .equals
        ∧ e = ⟨.unexpected (.inTag .equals head.name), pos⟩ := by
  by_cases hname : a.name ∈ head.attributes.map (·.name)
  · rw [OpenTag.add_of_mem hname] at hstep
    cases hstep
    exact .inl ⟨hname, rfl⟩
  · rw [OpenTag.add_of_notMem hname] at hstep
    obtain ⟨hequals, he⟩ := stepTag_refuses ht hstep
    exact .inr ⟨hname, hequals, he⟩

/-- A lexeme where it belongs, refused by the reading there. -/
theorem Lexeme.step_refuses (ht : Lexeme region t chars)
    (hregion : reading.region? = some region)
    (hstep : reading.step ⟨t, pos⟩ = .error e) :
    Refuses reading ⟨t, pos⟩ e := by
  cases reading with
  | content nest =>
      cases hregion
      obtain ⟨roots, opened⟩ := nest
      cases ht with
      | opening hname => cases hstep
      | @closing name blanks hname hblanks =>
          cases opened with
          | nil =>
              cases hstep
              exact .strayClose roots name pos
          | cons inner outer =>
              simp only [Reading.step, Reading.stepContent] at hstep
              split at hstep
              case isTrue => cases hstep
              case isFalse hname =>
                cases hstep
                exact .mismatchedClose roots outer pos hname
      | text hne hrun =>
          simp only [Reading.step, Reading.stepContent] at hstep
          split at hstep
          case isTrue => cases hstep
          case isFalse hblank =>
            cases opened with
            | nil =>
                cases hstep
                exact .textOutsideTag roots pos
                  (Bool.eq_false_iff.mpr hblank)
            | cons inner outer => cases hstep
  | tag nest head =>
      cases hregion
      obtain ⟨rfl, rfl⟩ := stepTag_refuses ht hstep
      exact .equalsFirst nest head pos
  | named nest head name =>
      cases hregion
      simp only [Reading.step] at hstep
      split at hstep
      case isTrue => cases hstep
      case isFalse hequals =>
        obtain ⟨hname, rfl⟩ | ⟨-, heq, -⟩ := addStep_refuses ht hstep
        · exact .repeatedFlag nest hequals hname
        · exact absurd heq hequals
  | valued nest head last =>
      cases hregion
      obtain ⟨hname, rfl⟩ | ⟨hname, rfl, rfl⟩ := addStep_refuses ht hstep
      · exact .repeated nest _ hname
      · exact .equalsBehind nest pos hname
  | awaiting nest head name =>
      cases hregion
      cases ht with
      | value => cases hstep
  | missing name found => cases hregion

/-- Between tags, the source may not end in an open element. -/
theorem Reading.stop_refuses (hregion : reading.region? = some .outside)
    (hstop : reading.stop here behind = .error e) :
    Refuses reading ⟨.eof, here⟩ e := by
  cases reading with
  | content nest =>
      obtain ⟨roots, opened⟩ := nest
      cases opened with
      | nil => cases hstop
      | cons inner outer =>
          cases hstop
          exact .unclosedTag roots inner outer here
  | tag | named | valued | awaiting | missing => cases hregion

/-- Tokens as they are laid out lead to the reading that refuses one. -/
theorem Layout.refused {last eof : Position}
    (h : Layout region before chars ts region')
    (houtside : region' = .outside)
    (hregion : reading.region? = some region)
    (hrun : reading.run last (ts ++ [⟨.eof, eof⟩]) = .error e) :
    ∃ front t rest reading', ts ++ [⟨.eof, eof⟩] = front ++ t :: rest
      ∧ Reads reading front reading' ∧ Refuses reading' t e := by
  induction h generalizing reading last with
  | nil =>
      rw [houtside] at hregion
      exact ⟨[], ⟨.eof, eof⟩, [], reading, rfl, .nil reading,
        Reading.stop_refuses hregion hrun⟩
  | @cons region region' before gap lexeme rest t ts hgap hlexeme hrest ih =>
      rw [List.cons_append, Reading.run, if_neg hlexeme.ne_eof] at hrun
      cases hstep : reading.step ⟨t, place (before ++ gap)⟩ with
      | error e' =>
          rw [hstep] at hrun
          cases hrun
          exact ⟨[], _, _, reading, rfl, .nil reading,
            hlexeme.step_refuses hregion hstep⟩
      | ok mid =>
          rw [hstep] at hrun
          obtain ⟨front, t', rest', reading', hsplit, hreads, hrefuses⟩ :=
            ih houtside (hlexeme.step_region hregion hstep) hrun
          refine ⟨_ :: front, t', rest', reading', ?_,
            .cons hlexeme.ne_eof hstep hreads, hrefuses⟩
          rw [List.cons_append, hsplit]
          rfl

end

section

variable {source : String} {ts : List Placed} {e : MarkupError}

/-- The tokens of a source are refused in no other way. -/
theorem ofTokens?_eq_error_iff (htokens : tokens? source = .ok ts) :
    Document.ofTokens? ts = .error e ↔ Refused ts e := by
  constructor
  · intro hread
    obtain ⟨covered, gap, found, -, hlayout, -, rfl⟩ :=
      exists_layout htokens
    exact hlayout.refused rfl rfl hread
  · exact Refused.ofTokens?_eq

-- ============================================= faults that do not occur

/-- The surprises that the tokens of a source do not hold: a part of an
opening tag between tags, anything but an equals sign out of its place in
an opening tag, and no value behind an equals sign. -/
inductive Surprise.Unshown : Surprise → Prop
  | outside (token : Token) : Unshown (.outside token)
  | inBody (token : Token) (tag : String) : Unshown (.inBody token tag)
  | inTag {token : Token} (tag : String) (hne : token ≠ .equals) :
      Unshown (.inTag token tag)
  | forValue (token : Token) (name : String) :
      Unshown (.forValue token name)

/-- A reading that is surprised stands in an opening tag, and found an
equals sign. -/
theorem Refuses.surprise {reading : Reading} {t : Placed}
    {what : Surprise} (h : Refuses reading t e)
    (hwhat : e.fault = .unexpected what) :
    ∃ nest head, (reading = .tag nest head
        ∨ ∃ last, reading = .valued nest head last)
      ∧ what = .inTag .equals head.name := by
  cases h with
  | equalsFirst nest head pos =>
      cases hwhat
      exact ⟨nest, head, .inl rfl, rfl⟩
  | @equalsBehind head last nest pos hname =>
      cases hwhat
      exact ⟨nest, head, .inr ⟨last, rfl⟩, rfl⟩
  | strayClose | textOutsideTag | mismatchedClose | unclosedTag
  | repeatedFlag | repeated => cases hwhat

/-- The faults that a scan finds. -/
inductive OfScan : MarkupFault → Prop
  | cut {fault : MarkupFault} (h : IsCut fault) : OfScan fault
  | noValue : OfScan (.unexpected .noValue)
  | character (c : Char) : OfScan (.unexpected (.character c))

theorem OfScan.not_unshown {what : Surprise}
    (h : OfScan (.unexpected what)) : ¬ what.Unshown := by
  intro hwhat
  cases h with
  | cut h => cases h <;> cases hwhat
  | noValue | character => cases hwhat

end

section

variable {here start : Position} {name : List Char} {c : Char}
  {state : ScanState} {rest : List Char} {e : MarkupError}

theorem stepTag_ofScan (h : ScanState.stepTag here c = .error e) :
    OfScan e.fault := by
  unfold ScanState.stepTag at h
  repeat' split at h
  all_goals cases h
  exact .character c

theorem stepClosingEnd_ofScan
    (h : ScanState.step.stepClosingEnd start name here c = .error e) :
    OfScan e.fault := by
  unfold ScanState.step.stepClosingEnd at h
  repeat' split at h
  all_goals cases h
  exact .cut (.closing _)

/-- Behind a name, the tag goes on. -/
theorem nameStep_ofScan {t : Placed}
    (h : (do
      let (tokens, next) ← ScanState.stepTag here c
      .ok (t :: tokens, next)) = .error e) :
    OfScan e.fault := by
  cases hstep : ScanState.stepTag here c with
  | error e' =>
      rw [hstep] at h
      cases h
      exact stepTag_ofScan hstep
  | ok found =>
      rw [hstep] at h
      cases h

theorem ScanState.step_ofScan (h : state.step here c = .error e) :
    OfScan e.fault := by
  cases state with
  | text | comment =>
      simp only [ScanState.step] at h
      repeat' split at h
      all_goals cases h
  | angle =>
      simp only [ScanState.step] at h
      repeat' split at h
      all_goals cases h
      exact .cut .tagName
  | bang | bangDash =>
      simp only [ScanState.step] at h
      split at h <;> cases h
      exact .cut .tagName
  | closingName start name =>
      simp only [ScanState.step] at h
      split at h
      case isTrue => cases h
      split at h
      case isTrue =>
        cases h
        exact .cut .tagName
      case isFalse => exact stepClosingEnd_ofScan h
  | closingEnd start name => exact stepClosingEnd_ofScan h
  | openingName start name | attrName start name =>
      simp only [ScanState.step] at h
      split at h
      case isTrue => cases h
      case isFalse => exact nameStep_ofScan h
  | tag => exact stepTag_ofScan h
  | slash =>
      simp only [ScanState.step] at h
      split at h <;> cases h
      exact .cut .slash
  | value =>
      simp only [ScanState.step] at h
      repeat' split at h
      all_goals cases h
      exact .noValue
  | quoted start quote chars =>
      simp only [ScanState.step] at h
      split at h <;> cases h
  | bare => cases h
  | bareSlash start chars last =>
      simp only [ScanState.step] at h
      repeat' split at h
      all_goals cases h
      exact .noValue

/-- What is wrong with the characters of a source has nothing to do with
how its tokens are nested. -/
theorem tokensFrom?_ofScan (h : tokensFrom? state here rest = .error e) :
    OfScan e.fault := by
  induction rest generalizing state here with
  | nil =>
      rw [tokensFrom?] at h
      cases hlast : state.finish here with
      | error e' =>
          rw [hlast] at h
          cases h
          exact .cut (ScanState.finish_error hlast)
      | ok last =>
          rw [hlast] at h
          cases h
  | cons c rest ih =>
      cases hstep : state.step here c with
      | error e' =>
          rw [tokensFrom?_cons_error hstep] at h
          cases h
          exact ScanState.step_ofScan hstep
      | ok found =>
          obtain ⟨tokens, next⟩ := found
          rw [tokensFrom?_cons_ok hstep] at h
          cases hmore : tokensFrom? next (here.next c) rest with
          | error e' =>
              rw [hmore] at h
              cases h
              exact ih hmore
          | ok more =>
              rw [hmore] at h
              cases h

end

/-- When the tokens of a source are not read as a document, the reading
of the first of them refuses the next one: for a closing tag or text out
of its place, an element that is not closed, a repeated attribute, or an
equals sign that surprises in the opening tag where the reading stands.
No source shows any other surprise about a token. -/
theorem refusals_of_source (source : String) :
    (∀ ts e, tokens? source = .ok ts → Document.ofTokens? ts = .error e →
      ∃ before t rest reading, ts = before ++ t :: rest
        ∧ Reads (.content .empty) before reading ∧ Refuses reading t e
        ∧ ∀ what, e.fault = .unexpected what →
          ∃ nest head, (reading = .tag nest head
              ∨ ∃ last, reading = .valued nest head last)
            ∧ what.message
              = "unexpected Eq inside <" ++ head.name ++ ">")
      ∧ ∀ e what, Document.parse? source = .error e →
        e.fault = .unexpected what → ¬ what.Unshown := by
  refine ⟨?_, ?_⟩
  · intro ts e htokens hread
    obtain ⟨before, t, rest, reading, hts, hreads, hrefuses⟩ :=
      (ofTokens?_eq_error_iff htokens).mp hread
    refine ⟨before, t, rest, reading, hts, hreads, hrefuses, ?_⟩
    intro what hwhat
    obtain ⟨nest, head, hreading, rfl⟩ := hrefuses.surprise hwhat
    exact ⟨nest, head, hreading, rfl⟩
  · intro e what hparse hwhat
    unfold Document.parse? at hparse
    cases htokens : tokens? source with
    | error e' =>
        rw [htokens] at hparse
        cases hparse
        rw [tokens?_eq] at htokens
        have hscan := tokensFrom?_ofScan htokens
        rw [hwhat] at hscan
        exact hscan.not_unshown
    | ok ts =>
        rw [htokens] at hparse
        obtain ⟨before, t, rest, reading, hts, hreads, hrefuses⟩ :=
          (ofTokens?_eq_error_iff htokens).mp hparse
        obtain ⟨nest, head, hreading, rfl⟩ := hrefuses.surprise hwhat
        intro hunshown
        cases hunshown with
        | inTag tag hne => exact hne rfl

/-- An equals sign behind a value. -/
def surprisingSource : String := "<a x=1 =2>"

def surprisingTokens : List Placed :=
  [⟨.opening "a", ⟨1, 1⟩⟩, ⟨.attrName "x", ⟨1, 4⟩⟩, ⟨.equals, ⟨1, 5⟩⟩,
    ⟨.value "1", ⟨1, 6⟩⟩, ⟨.equals, ⟨1, 8⟩⟩, ⟨.value "2", ⟨1, 9⟩⟩,
    ⟨.tagEnd, ⟨1, 10⟩⟩, ⟨.eof, ⟨1, 11⟩⟩]

theorem refusals_of_source_surprising :
    tokens? surprisingSource = .ok surprisingTokens
      ∧ Document.ofTokens? surprisingTokens
        = .error ⟨.unexpected (.inTag .equals "a"), ⟨1, 8⟩⟩
      ∧ ∃ before t rest reading,
        surprisingTokens = before ++ t :: rest
        ∧ Reads (.content .empty) before reading
        ∧ Refuses reading t
          ⟨.unexpected (.inTag .equals "a"), ⟨1, 8⟩⟩ := by
  have htokens : tokens? surprisingSource = .ok surprisingTokens := by rfl
  have hread : Document.ofTokens? surprisingTokens
      = .error ⟨.unexpected (.inTag .equals "a"), ⟨1, 8⟩⟩ := by rfl
  obtain ⟨before, t, rest, reading, hts, hreads, hrefuses, -⟩ :=
    (refusals_of_source surprisingSource).1 _ _ htokens hread
  exact ⟨htokens, hread, before, t, rest, reading, hts, hreads, hrefuses⟩

end EntityMarkup
