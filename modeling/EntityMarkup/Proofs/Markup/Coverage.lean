/-
A scan leaves no character out. Whatever state a scan is in, the text it
has read is a layout of the tokens it has found and, behind that, what is
pending (`Pending`). One character either goes on with the lexeme, or
ends it and begins another (`Pending.step`). So by induction over the
characters the text to come is laid out as the tokens still to be found
(`Pending.layout`), and a whole source as all of its tokens
(`tokens_cover_source`).
-/
import EntityMarkup.Proofs.Markup.Pending

namespace EntityMarkup

open ScanState (written)

section

variable {region : Region}
  {before chars gap rest lexeme blanks : List Char} {c : Char}
  {state next : ScanState} {ts : List Placed} {t : Token}

-- ============================================================= one step

theorem isNameChars_concat {name : List Char}
    (h : ∀ c ∈ name, isNameChar c = true) (hc : isNameChar c = true) :
    ∀ c' ∈ name ++ [c], isNameChar c' = true :=
  List.forall_mem_append.mpr ⟨h, List.forall_mem_singleton.mpr hc⟩

theorem IsName.concat {name : List Char} (h : IsName name)
    (hc : isNameChar c = true) : IsName (name ++ [c]) :=
  ⟨List.append_ne_nil_of_left_ne_nil h.ne_nil _,
    isNameChars_concat h.chars hc⟩

/-- Behind the name of a closing tag come white space and its end. -/
theorem stepClosingEnd_advances {name : List Char} (hgap : Comments gap)
    (hname : IsName name) (hblanks : Blanks blanks)
    (hstep : ScanState.step.stepClosingEnd (place (before ++ gap))
      name.reverse
      (place (before ++ (gap ++ ('<' :: '/' :: name ++ blanks)))) c
      = .ok (ts, next)) :
    Advances .outside before
      (gap ++ ('<' :: '/' :: name ++ blanks) ++ [c]) ts next := by
  unfold ScanState.step.stepClosingEnd at hstep
  split at hstep
  case isTrue hblank =>
    cases hstep
    have hblanks' : Blanks (blanks ++ [c]) := List.forall_mem_append.mpr
      ⟨hblanks, List.forall_mem_singleton.mpr hblank⟩
    rw [List.append_assoc gap, List.append_assoc _ blanks]
    exact (Pending.closingEnd hgap hname hblanks').goesOn
  case isFalse =>
    split at hstep
    case isTrue hc =>
      cases hstep
      have hlexeme : Lexeme .outside (.closing (written name.reverse))
          ('<' :: '/' :: name ++ (blanks ++ ['>'])) := by
        obtain ⟨name, rfl⟩ := exists_toList name
        rw [ScanState.written_reverse]
        exact .closing hname hblanks
      have h := Advances.token .outside before hgap hlexeme
        (.outside _)
      rw [hc, ← place_concat]
      rw [List.append_assoc before, List.append_assoc gap,
        List.append_assoc _ blanks]
      exact h
    case isFalse => cases hstep

/-- A comment goes on, or ends and belongs to the gap. -/
theorem stepComment_advances {body : List Char} (hgap : Comments gap)
    (hbody : ¬ ['-', '-', '>'] <:+: body)
    (hstep : (ScanState.comment (place (before ++ gap))
        (endDashes body)).step
      (place (before ++ (gap ++ '<' :: '!' :: '-' :: '-' :: body))) c
      = .ok (ts, next)) :
    Advances .outside before
      (gap ++ '<' :: '!' :: '-' :: '-' :: body ++ [c]) ts next := by
  have hgoesOn : ¬ (c = '>' ∧ endDashes body = 2) →
      Advances .outside before
        (gap ++ '<' :: '!' :: '-' :: '-' :: body ++ [c]) []
        (.comment (place (before ++ gap)) (endDashes (body ++ [c]))) := by
    intro hc
    rw [List.append_assoc]
    exact (Pending.comment hgap (not_infix_concat hbody hc)).goesOn
  simp only [ScanState.step] at hstep
  split at hstep
  case isTrue hc =>
    cases hstep
    have hne : ¬ (c = '>' ∧ endDashes body = 2) := fun h => by
      rw [hc] at h
      exact absurd h.1 (by decide)
    have h := hgoesOn hne
    rw [hc, endDashes_dash] at h
    rw [hc]
    exact h
  case isFalse hdash =>
    split at hstep
    case isTrue hend =>
      cases hstep
      obtain ⟨hc, htwo⟩ := hend
      obtain ⟨stem, rfl⟩ := (endDashes_eq_two_iff body).mp htwo
      have hstem : ¬ ['-', '-', '>'] <:+: stem := fun hin =>
        hbody (hin.trans (List.prefix_append stem ['-', '-']).isInfix)
      have hcomment : Comments (gap ++
          ('<' :: '!' :: '-' :: '-' :: (stem ++ ['-', '-', '>']) ++ [])) :=
        hgap.append (.cons (.mk hstem) .nil)
      have h : Pending before .outside (_ ++ []) _ :=
        .text hcomment (List.not_mem_nil (a := '<'))
      rw [hc, ← place_concat]
      simp only [List.append_nil, List.append_assoc, List.cons_append,
        List.nil_append] at h ⊢
      exact h.goesOn
    case isFalse hend =>
      cases hstep
      have h := hgoesOn hend
      rw [endDashes_other body hdash] at h
      exact h

/-- In a name of a tag or an attribute: it goes on, or it ends and the
character is one between the parts of a tag. -/
theorem stepName_advances {name : List Char} (region : Region)
    (state : Position → List Char → ScanState)
    (hgap : Gap region gap)
    (hgoesOn : isNameChar c = true →
      Pending before region (gap ++ lexeme ++ [c])
        (state (place (before ++ gap)) (c :: name)))
    (hlexeme : Lexeme region t lexeme) (htag : t.region = .tag)
    (hstep : (if isNameChar c = true then
        .ok ([], state (place (before ++ gap)) (c :: name))
      else do
        let (tokens, next) ←
          ScanState.stepTag (place (before ++ (gap ++ lexeme))) c
        .ok (⟨t, place (before ++ gap)⟩ :: tokens, next))
      = (.ok (ts, next) : Except MarkupError (List Placed × ScanState))) :
    Advances region before (gap ++ lexeme ++ [c]) ts next := by
  split at hstep
  case isTrue hc =>
    cases hstep
    exact (hgoesOn hc).goesOn
  case isFalse =>
    cases hend : ScanState.stepTag (place (before ++ (gap ++ lexeme))) c with
    | error e =>
        rw [hend] at hstep
        cases hstep
    | ok found =>
        obtain ⟨tokens, last⟩ := found
        rw [hend] at hstep
        cases hstep
        exact advances_behindName before hgap hlexeme htag hend

/-- The start of a value. -/
theorem stepValue_advances (hblanks : Blanks blanks)
    (hstep : ScanState.value.step (place (before ++ blanks)) c
      = .ok (ts, next)) :
    Advances .value before (blanks ++ [c]) ts next := by
  simp only [ScanState.step] at hstep
  split at hstep
  case isTrue hblank =>
    cases hstep
    refine (Pending.value ?_).goesOn
    exact List.forall_mem_append.mpr
      ⟨hblanks, List.forall_mem_singleton.mpr hblank⟩
  split at hstep
  case isTrue _ hquote =>
    cases hstep
    exact (Pending.quoted hblanks hquote List.not_mem_nil).goesOn
  split at hstep
  case isTrue => cases hstep
  case isFalse hblank hquote hend =>
    have hbare : IsBareValue [c] := by
      refine ⟨List.cons_ne_nil _ _, ?_, ?_, ?_⟩
      · exact List.forall_mem_singleton.mpr ⟨by simpa using hblank, hend⟩
      · exact fun h => hquote (.inl (Option.some.inj h))
      · exact fun h => hquote (.inr (Option.some.inj h))
    unfold ScanState.stepBare at hstep
    rw [if_neg hblank, if_neg hend] at hstep
    split at hstep
    case isTrue hc =>
      cases hstep
      rw [hc] at hbare ⊢
      have h : Pending before .value (blanks ++ ([] ++ ['/'])) _ :=
        .bareSlash hblanks hbare
      rw [List.append_nil] at h
      exact h.goesOn
    case isFalse =>
      cases hstep
      exact (Pending.bare hblanks hbare).goesOn

/-- A quoted value goes on up to the quote it began with. -/
theorem stepQuoted_advances {chars : List Char} {quote : Char}
    (hblanks : Blanks blanks) (hquote : quote = '"' ∨ quote = '\'')
    (hchars : quote ∉ chars)
    (hstep : (ScanState.quoted (place (before ++ blanks)) quote
        chars.reverse).step
      (place (before ++ (blanks ++ quote :: chars))) c = .ok (ts, next)) :
    Advances .value before (blanks ++ quote :: chars ++ [c]) ts next := by
  simp only [ScanState.step] at hstep
  split at hstep
  case isTrue hc =>
    cases hstep
    have hvalue : ValueSpelling chars false (quote :: (chars ++ [quote])) := by
      rcases hquote with rfl | rfl
      · exact .double hchars
      · exact .single hchars
    have hlexeme : Lexeme .value (.value (written chars.reverse))
        (quote :: (chars ++ [quote])) := by
      obtain ⟨value, rfl⟩ := exists_toList chars
      rw [ScanState.written_reverse]
      exact .value hvalue
    rw [hc, List.append_assoc]
    exact Advances.token .value before hblanks hlexeme
      (.tag (List.forall_mem_nil _))
  case isFalse hc =>
    cases hstep
    have hchars' : quote ∉ chars ++ [c] := by
      rw [List.mem_append, List.mem_singleton]
      rintro (hin | heq)
      · exact hchars hin
      · exact hc heq.symm
    have h : Pending before _ _ _ := .quoted hblanks hquote hchars'
    rw [List.reverse_append] at h
    rw [List.append_assoc]
    exact h.goesOn

/-- Behind a slash in a value without quotes, the tag may end. -/
theorem stepBareSlash_advances {chars : List Char}
    (hblanks : Blanks blanks) (hchars : IsBareValue (chars ++ ['/']))
    (hstep : (ScanState.bareSlash (place (before ++ blanks)) chars.reverse
        (place (before ++ (blanks ++ chars)))).step
      (place (before ++ (blanks ++ (chars ++ ['/'])))) c = .ok (ts, next)) :
    Advances .value before (blanks ++ (chars ++ ['/']) ++ [c]) ts next := by
  simp only [ScanState.step] at hstep
  split at hstep
  case isTrue hc =>
    split at hstep
    case isTrue => cases hstep
    case isFalse hne =>
      cases hstep
      rw [List.isEmpty_reverse, List.isEmpty_iff] at hne
      have hvalue : IsBareValue chars := by
        obtain ⟨-, hall, hdouble, hsingle⟩ := hchars
        have hall' := (List.forall_mem_append.mp hall).1
        cases chars with
        | nil => exact absurd rfl hne
        | cons first rest => exact ⟨hne, hall', hdouble, hsingle⟩
      have hend := Advances.token .tag (before ++ (blanks ++ chars))
        (List.forall_mem_nil _) .selfClose (.outside _)
      have hall := Advances.after
        (Layout.single .value before hblanks
          (lexeme_bare hvalue)) hend
      rw [hc, ← place_concat]
      simp only [List.append_assoc, List.append_nil, List.nil_append,
        List.cons_append] at hall ⊢
      exact hall
  case isFalse hc =>
    have hreverse : '/' :: chars.reverse = (chars ++ ['/']).reverse := by
      rw [List.reverse_append]
      rfl
    rw [hreverse] at hstep
    exact stepBare_advances hblanks hchars (Except.ok.inj hstep)

/-- Text goes on up to the bracket that opens a tag or a comment. -/
theorem stepText_advances {run : List Char} (hgap : Comments gap)
    (hrun : '<' ∉ run)
    (hstep : (ScanState.text (place (before ++ gap)) run.reverse).step
      (place (before ++ (gap ++ run))) c = .ok (ts, next)) :
    Advances .outside before (gap ++ run ++ [c]) ts next := by
  simp only [ScanState.step] at hstep
  split at hstep
  case isTrue hc =>
    cases hstep
    rw [hc]
    exact advances_angle before hgap hrun
  case isFalse hc =>
    cases hstep
    have hrun' : '<' ∉ run ++ [c] := by
      rw [List.mem_append, List.mem_singleton]
      rintro (hin | heq)
      · exact hrun hin
      · exact hc heq.symm
    have h : Pending before _ _ _ := .text hgap hrun'
    rw [List.reverse_append] at h
    rw [List.append_assoc]
    exact h.goesOn

/-- The bracket is that of a closing tag, of a comment or of an opening
tag. -/
theorem stepAngle_advances (hgap : Comments gap)
    (hstep : (ScanState.angle (place (before ++ gap))).step
      (place (before ++ (gap ++ ['<']))) c = .ok (ts, next)) :
    Advances .outside before (gap ++ ['<'] ++ [c]) ts next := by
  simp only [ScanState.step] at hstep
  rw [List.append_assoc]
  split at hstep
  case isTrue hc =>
    cases hstep
    rw [hc]
    exact (Pending.closingName hgap (List.forall_mem_nil _)).goesOn
  split at hstep
  case isTrue _ hc =>
    cases hstep
    rw [hc]
    exact (Pending.bang hgap).goesOn
  split at hstep
  case isTrue _ _ hc =>
    cases hstep
    exact (Pending.openingName hgap ⟨List.cons_ne_nil _ _,
      List.forall_mem_singleton.mpr hc⟩).goesOn
  case isFalse => cases hstep

/-- A comment begins with two dashes. -/
theorem stepBang_advances (hgap : Comments gap)
    (hstep : (ScanState.bang (place (before ++ gap))).step
      (place (before ++ (gap ++ ['<', '!']))) c = .ok (ts, next)) :
    Advances .outside before (gap ++ ['<', '!'] ++ [c]) ts next := by
  simp only [ScanState.step] at hstep
  split at hstep
  case isTrue hc =>
    cases hstep
    rw [hc, List.append_assoc]
    exact (Pending.bangDash hgap).goesOn
  case isFalse => cases hstep

theorem stepBangDash_advances (hgap : Comments gap)
    (hstep : (ScanState.bangDash (place (before ++ gap))).step
      (place (before ++ (gap ++ ['<', '!', '-']))) c = .ok (ts, next)) :
    Advances .outside before (gap ++ ['<', '!', '-'] ++ [c]) ts next := by
  simp only [ScanState.step] at hstep
  split at hstep
  case isTrue hc =>
    cases hstep
    rw [hc, List.append_assoc]
    have hbody : ¬ ['-', '-', '>'] <:+: [] := by decide
    exact (Pending.comment hgap hbody).goesOn
  case isFalse => cases hstep

/-- The name of a closing tag goes on, or ends if it is one. -/
theorem stepClosingName_advances {name : List Char} (hgap : Comments gap)
    (hname : ∀ c ∈ name, isNameChar c = true)
    (hstep : (ScanState.closingName (place (before ++ gap))
        name.reverse).step
      (place (before ++ (gap ++ '<' :: '/' :: name))) c
      = .ok (ts, next)) :
    Advances .outside before (gap ++ '<' :: '/' :: name ++ [c]) ts
      next := by
  simp only [ScanState.step] at hstep
  split at hstep
  case isTrue hc =>
    cases hstep
    have h : Pending before _ _ _ := .closingName hgap
      (isNameChars_concat hname hc)
    rw [List.reverse_append] at h
    rw [List.append_assoc]
    exact h.goesOn
  split at hstep
  case isTrue => cases hstep
  case isFalse _ hne =>
    rw [List.isEmpty_reverse, List.isEmpty_iff] at hne
    have hnone : Blanks [] := List.forall_mem_nil _
    have h := stepClosingEnd_advances hgap ⟨hne, hname⟩ hnone
      (by rw [List.append_nil]; exact hstep)
    rw [List.append_nil] at h
    exact h

theorem stepOpeningName_advances {name : List Char} (hgap : Comments gap)
    (hname : IsName name)
    (hstep : (ScanState.openingName (place (before ++ gap))
        name.reverse).step (place (before ++ (gap ++ '<' :: name))) c
      = .ok (ts, next)) :
    Advances .outside before (gap ++ '<' :: name ++ [c]) ts next := by
  have hlexeme : Lexeme .outside (.opening (written name.reverse))
      ('<' :: name) := by
    obtain ⟨name, rfl⟩ := exists_toList name
    rw [ScanState.written_reverse]
    exact .opening hname
  refine stepName_advances .outside .openingName hgap (fun hc => ?_)
    hlexeme rfl hstep
  have h : Pending before _ _ _ := .openingName hgap (hname.concat hc)
  rw [List.reverse_append] at h
  rw [List.append_assoc]
  exact h

/-- A slash in a tag ends it. -/
theorem stepSlash_advances (hblanks : Blanks blanks)
    (hstep : (ScanState.slash (place (before ++ blanks))).step
      (place (before ++ (blanks ++ ['/']))) c = .ok (ts, next)) :
    Advances .tag before (blanks ++ ['/'] ++ [c]) ts next := by
  simp only [ScanState.step] at hstep
  split at hstep
  case isTrue hc =>
    cases hstep
    have h := Advances.token .tag before hblanks .selfClose (.outside _)
    rw [hc, ← place_concat, List.append_assoc, List.append_assoc,
      List.append_assoc]
    exact h
  case isFalse => cases hstep

theorem stepAttrName_advances {name : List Char} (hblanks : Blanks blanks)
    (hname : IsName name)
    (hstep : (ScanState.attrName (place (before ++ blanks))
        name.reverse).step (place (before ++ (blanks ++ name))) c
      = .ok (ts, next)) :
    Advances .tag before (blanks ++ name ++ [c]) ts next := by
  have hlexeme : Lexeme .tag (.attrName (written name.reverse)) name := by
    obtain ⟨name, rfl⟩ := exists_toList name
    rw [ScanState.written_reverse]
    exact .attrName hname
  refine stepName_advances .tag .attrName hblanks (fun hc => ?_)
    hlexeme rfl hstep
  have h : Pending before _ _ _ := .attrName hblanks (hname.concat hc)
  rw [List.reverse_append] at h
  rw [List.append_assoc]
  exact h

/-- One character more. -/
theorem Pending.step (h : Pending before region chars state)
    (hstep : state.step (place (before ++ chars)) c = .ok (ts, next)) :
    Advances region before (chars ++ [c]) ts next := by
  cases h with
  | text hgap hrun => exact stepText_advances hgap hrun hstep
  | angle hgap => exact stepAngle_advances hgap hstep
  | bang hgap => exact stepBang_advances hgap hstep
  | bangDash hgap => exact stepBangDash_advances hgap hstep
  | comment hgap hbody => exact stepComment_advances hgap hbody hstep
  | closingName hgap hname =>
      exact stepClosingName_advances hgap hname hstep
  | closingEnd hgap hname hblanks =>
      exact stepClosingEnd_advances hgap hname hblanks hstep
  | openingName hgap hname =>
      exact stepOpeningName_advances hgap hname hstep
  | tag hblanks => exact stepTag_advances hblanks hstep
  | slash hblanks => exact stepSlash_advances hblanks hstep
  | attrName hblanks hname =>
      exact stepAttrName_advances hblanks hname hstep
  | value hblanks => exact stepValue_advances hblanks hstep
  | quoted hblanks hquote hchars =>
      exact stepQuoted_advances hblanks hquote hchars hstep
  | bare hblanks hchars =>
      exact stepBare_advances hblanks hchars (Except.ok.inj hstep)
  | bareSlash hblanks hchars =>
      exact stepBareSlash_advances hblanks hchars hstep

-- ======================================================= whole sources

/-- A source that ends here ends behind a gap. -/
theorem Pending.finish {last : List Placed}
    (h : Pending before region chars state)
    (hfinish : state.finish (place (before ++ chars)) = .ok last) :
    ∃ done gap, chars = done ++ gap ∧ Comments gap
      ∧ Layout region before done last .outside := by
  cases h with
  | text hgap hrun =>
      cases hfinish
      exact layout_textToken before hgap hrun
  | closingName =>
      simp only [ScanState.finish] at hfinish
      split at hfinish <;> cases hfinish
  | angle | bang | bangDash | comment | closingEnd | openingName | tag
  | slash | attrName | value | quoted | bare | bareSlash => cases hfinish

/-- What has been read and what is to come are laid out as the tokens
still to be found, up to the gap before the end. -/
theorem Pending.layout (h : Pending before region rest state)
    (htokens : tokensFrom? state (place (before ++ rest)) chars = .ok ts) :
    ∃ covered gap found, rest ++ chars = covered ++ gap
      ∧ Layout region before covered found .outside ∧ Comments gap
      ∧ ts = found ++ [⟨.eof, place (before ++ (rest ++ chars))⟩] := by
  induction chars generalizing before region rest state ts with
  | nil =>
      rw [tokensFrom?] at htokens
      cases hlast : state.finish (place (before ++ rest)) with
      | error e =>
          rw [hlast] at htokens
          cases htokens
      | ok last =>
          rw [hlast] at htokens
          cases htokens
          obtain ⟨covered, gap, rfl, hgap, hlayout⟩ := h.finish hlast
          rw [List.append_nil]
          exact ⟨covered, gap, last, rfl, hlayout, hgap, rfl⟩
  | cons c chars ih =>
      cases hstep : state.step (place (before ++ rest)) c with
      | error e =>
          rw [tokensFrom?_cons_error hstep] at htokens
          cases htokens
      | ok found =>
          obtain ⟨tokens, next⟩ := found
          rw [tokensFrom?_cons_ok hstep] at htokens
          obtain ⟨done, rest', region', hsplit, hdone, hpending⟩ :=
            h.step hstep
          have hhere : (place (before ++ rest)).next c
              = place (before ++ done ++ rest') := by
            rw [← place_concat, List.append_assoc, hsplit,
              List.append_assoc]
          rw [hhere] at htokens
          cases hmore : tokensFrom? next (place (before ++ done ++ rest'))
            chars with
          | error e =>
              rw [hmore] at htokens
              cases htokens
          | ok more =>
              rw [hmore] at htokens
              cases htokens
              obtain ⟨covered, gap, found', hrest, hlayout, hgap, rfl⟩ :=
                ih hpending hmore
              have hwhole : rest ++ c :: chars = done ++ (rest' ++ chars) := by
                rw [← List.append_assoc, ← hsplit, List.append_assoc]
                rfl
              refine ⟨done ++ covered, gap, tokens ++ found', ?_,
                hdone.append hlayout, hgap, ?_⟩
              · rw [hwhole, hrest, List.append_assoc]
              · rw [hwhole, List.append_assoc tokens, ← List.append_assoc
                  before]

end

/-- A source is laid out as its tokens. Behind them comes a gap, and then
the mark of the end. -/
theorem exists_layout {source : String} {ts : List Placed}
    (h : tokens? source = .ok ts) :
    ∃ covered gap found, source.toList = covered ++ gap
      ∧ Layout .outside [] covered found .outside ∧ Comments gap
      ∧ ts = found ++ [⟨.eof, place source.toList⟩] := by
  rw [tokens?_eq] at h
  exact (Pending.outside []).layout h

/-- The tokens of a source account for every character of it: it is laid
out as gaps and lexemes, the mark of the end comes once, behind all of it,
and as no other lexeme is empty, each token stands before the next. -/
theorem tokens_cover_source {source : String} {ts : List Placed}
    (h : tokens? source = .ok ts) :
    (∃ covered gap found, source.toList = covered ++ gap
      ∧ Layout .outside [] covered found .outside ∧ Comments gap
      ∧ ts = found ++ [⟨.eof, place source.toList⟩]
      ∧ ∀ t ∈ found, t.token ≠ .eof)
    ∧ (∀ region t lexeme, Lexeme region t lexeme → lexeme ≠ [])
    ∧ ts.Pairwise fun t t' => t.pos.Before t'.pos := by
  obtain ⟨covered, gap, found, hsource, hlayout, hgap, rfl⟩ :=
    exists_layout h
  refine ⟨⟨covered, gap, found, hsource, hlayout, hgap, rfl,
    hlayout.ne_eof⟩, fun _ _ _ => Lexeme.ne_nil, ?_⟩
  refine List.pairwise_append.mpr
    ⟨hlayout.pairwise_before, List.pairwise_singleton _ _, ?_⟩
  intro t ht t' ht'
  obtain ⟨spot, a, lexeme, b, rfl, hlexeme, hpos⟩ :=
    hlayout.exists_lexeme t ht
  rw [List.mem_singleton.mp ht', hpos, hsource, List.append_assoc,
    List.append_assoc, List.nil_append]
  exact place_before (List.append_ne_nil_of_left_ne_nil hlexeme.ne_nil _)

/-- A comment, a value with a slash in it, one with a quote in it, and a
line feed in the tag. -/
def coveredSource : String := "<!-- c -->\n<a x=1/2 y='\"'\n>hi</a >"

def coveredTokens : List Placed :=
  [⟨.text "\n", ⟨1, 11⟩⟩, ⟨.opening "a", ⟨2, 1⟩⟩,
    ⟨.attrName "x", ⟨2, 4⟩⟩, ⟨.equals, ⟨2, 5⟩⟩, ⟨.value "1/2", ⟨2, 6⟩⟩,
    ⟨.attrName "y", ⟨2, 10⟩⟩, ⟨.equals, ⟨2, 11⟩⟩, ⟨.value "\"", ⟨2, 12⟩⟩,
    ⟨.tagEnd, ⟨3, 1⟩⟩, ⟨.text "hi", ⟨3, 2⟩⟩, ⟨.closing "a", ⟨3, 4⟩⟩,
    ⟨.eof, ⟨3, 9⟩⟩]

theorem tokens_cover_source_sample :
    tokens? coveredSource = .ok coveredTokens
      ∧ (∃ covered gap found, coveredSource.toList = covered ++ gap
        ∧ Layout .outside [] covered found .outside ∧ Comments gap
        ∧ coveredTokens = found ++ [⟨.eof, place coveredSource.toList⟩]
        ∧ ∀ t ∈ found, t.token ≠ .eof)
      ∧ (∀ region t lexeme, Lexeme region t lexeme → lexeme ≠ [])
      ∧ coveredTokens.Pairwise fun t t' => t.pos.Before t'.pos := by
  have htokens : tokens? coveredSource = .ok coveredTokens := by rfl
  exact ⟨htokens, tokens_cover_source htokens⟩

end EntityMarkup
