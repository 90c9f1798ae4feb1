/-
What a scan has read of the next token. Behind the tokens it has found
come a gap and, for each state, the part of a lexeme that leads there
(`Pending`). Reading on either adds to that part or ends the lexeme, which
then is a token, and begins another (`Advances`): shown here for the
characters that many states treat alike, which are those of text outside
tags, those between the parts of a tag, and those in a value without
quotes.
-/
import EntityMarkup.Proofs.Markup.Layout
import EntityMarkup.Proofs.Markup.TagScans
import EntityMarkup.Proofs.Markup.TokensFrom

namespace EntityMarkup

open ScanState (written textToken outside)

-- ====================================================== parts of lexemes

/-- How many dashes a text ends in, two standing for more. -/
def endDashes (text : List Char) : Nat :=
  if ['-', '-'] <:+ text then 2 else if ['-'] <:+ text then 1 else 0

theorem endDashes_eq_two_iff (text : List Char) :
    endDashes text = 2 ↔ ['-', '-'] <:+ text := by
  unfold endDashes
  split
  · simp [*]
  · split <;> simp [*]

theorem dashes_suffix_concat (text : List Char) :
    ['-', '-'] <:+ text ++ ['-'] ↔ ['-'] <:+ text := by
  constructor
  · rintro ⟨stem, hstem⟩
    have hlast : stem ++ ['-'] ++ ['-'] = text ++ ['-'] := by
      rw [← hstem, List.append_assoc]
      rfl
    exact ⟨stem, List.append_cancel_right hlast⟩
  · rintro ⟨stem, rfl⟩
    exact ⟨stem, by rw [List.append_assoc]; rfl⟩

theorem endDashes_dash (text : List Char) :
    endDashes (text ++ ['-']) = min 2 (endDashes text + 1) := by
  have hone : ['-'] <:+ text ++ ['-'] := List.suffix_append text ['-']
  by_cases htwo : ['-', '-'] <:+ text
  · have hlast : ['-'] <:+ text := List.IsSuffix.trans ⟨['-'], rfl⟩ htwo
    have hboth := (dashes_suffix_concat text).mpr hlast
    rw [endDashes, if_pos hboth, (endDashes_eq_two_iff text).mpr htwo]
    rfl
  · unfold endDashes
    rw [if_neg htwo, if_pos hone]
    by_cases hlast : ['-'] <:+ text
    · rw [if_pos hlast, if_pos ((dashes_suffix_concat text).mpr hlast)]
      rfl
    · rw [if_neg hlast, if_neg fun h => hlast
        ((dashes_suffix_concat text).mp h)]
      rfl

theorem endDashes_other {c : Char} (text : List Char) (hc : c ≠ '-') :
    endDashes (text ++ [c]) = 0 := by
  have hone : ¬ ['-'] <:+ text ++ [c] := by
    rintro ⟨stem, hstem⟩
    have hlast := (List.append_inj' hstem rfl).2
    exact hc (List.singleton_inj.mp hlast).symm
  have htwo : ¬ ['-', '-'] <:+ text ++ [c] := fun h =>
    hone (List.IsSuffix.trans ⟨['-'], rfl⟩ h)
  rw [endDashes, if_neg htwo, if_neg hone]

/-- A body of a comment that goes on has still no end in it, unless a
bracket follows two dashes. -/
theorem not_infix_concat {body : List Char} {c : Char}
    (hbody : ¬ ['-', '-', '>'] <:+: body)
    (hc : ¬ (c = '>' ∧ endDashes body = 2)) :
    ¬ ['-', '-', '>'] <:+: body ++ [c] := by
  rw [List.infix_concat_iff]
  rintro (⟨stem, hstem⟩ | hin)
  · have hlast : stem ++ ['-', '-'] ++ ['>'] = body ++ [c] := by
      rw [← hstem]
      simp
    obtain ⟨hstem', hend⟩ := List.append_inj' hlast rfl
    refine hc ⟨(List.singleton_inj.mp hend).symm, ?_⟩
    exact (endDashes_eq_two_iff body).mpr ⟨stem, hstem'⟩
  · exact hbody hin

theorem exists_toList (chars : List Char) :
    ∃ text : String, text.toList = chars :=
  ⟨String.ofList chars, String.toList_ofList⟩

/-- What has been read behind the tokens found so far, and where: a gap
and the part of a lexeme that the state is in the middle of. -/
inductive Pending (before : List Char) :
    Region → List Char → ScanState → Prop
  | text {gap run : List Char} (hgap : Comments gap) (hrun : '<' ∉ run) :
      Pending before .outside (gap ++ run)
        (.text (place (before ++ gap)) run.reverse)
  | angle {gap : List Char} (hgap : Comments gap) :
      Pending before .outside (gap ++ ['<'])
        (.angle (place (before ++ gap)))
  | bang {gap : List Char} (hgap : Comments gap) :
      Pending before .outside (gap ++ ['<', '!'])
        (.bang (place (before ++ gap)))
  | bangDash {gap : List Char} (hgap : Comments gap) :
      Pending before .outside (gap ++ ['<', '!', '-'])
        (.bangDash (place (before ++ gap)))
  | comment {gap body : List Char} (hgap : Comments gap)
      (hbody : ¬ ['-', '-', '>'] <:+: body) :
      Pending before .outside (gap ++ '<' :: '!' :: '-' :: '-' :: body)
        (.comment (place (before ++ gap)) (endDashes body))
  | closingName {gap name : List Char} (hgap : Comments gap)
      (hname : ∀ c ∈ name, isNameChar c = true) :
      Pending before .outside (gap ++ '<' :: '/' :: name)
        (.closingName (place (before ++ gap)) name.reverse)
  | closingEnd {gap name blanks : List Char} (hgap : Comments gap)
      (hname : IsName name) (hblanks : Blanks blanks) :
      Pending before .outside (gap ++ ('<' :: '/' :: name ++ blanks))
        (.closingEnd (place (before ++ gap)) name.reverse)
  | openingName {gap name : List Char} (hgap : Comments gap)
      (hname : IsName name) :
      Pending before .outside (gap ++ '<' :: name)
        (.openingName (place (before ++ gap)) name.reverse)
  | tag {blanks : List Char} (hblanks : Blanks blanks) :
      Pending before .tag blanks .tag
  | slash {blanks : List Char} (hblanks : Blanks blanks) :
      Pending before .tag (blanks ++ ['/'])
        (.slash (place (before ++ blanks)))
  | attrName {blanks name : List Char} (hblanks : Blanks blanks)
      (hname : IsName name) :
      Pending before .tag (blanks ++ name)
        (.attrName (place (before ++ blanks)) name.reverse)
  | value {blanks : List Char} (hblanks : Blanks blanks) :
      Pending before .value blanks .value
  | quoted {blanks chars : List Char} {quote : Char}
      (hblanks : Blanks blanks) (hquote : quote = '"' ∨ quote = '\'')
      (hchars : quote ∉ chars) :
      Pending before .value (blanks ++ quote :: chars)
        (.quoted (place (before ++ blanks)) quote chars.reverse)
  | bare {blanks chars : List Char} (hblanks : Blanks blanks)
      (hchars : IsBareValue chars) :
      Pending before .value (blanks ++ chars)
        (.bare (place (before ++ blanks)) chars.reverse)
  | bareSlash {blanks chars : List Char} (hblanks : Blanks blanks)
      (hchars : IsBareValue (chars ++ ['/'])) :
      Pending before .value (blanks ++ (chars ++ ['/']))
        (.bareSlash (place (before ++ blanks)) chars.reverse
          (place (before ++ (blanks ++ chars))))

/-- Behind the text before, the characters lay out these tokens and then
leave the scan in the middle of another one. -/
def Advances (region : Region) (before chars : List Char)
    (ts : List Placed) (state : ScanState) : Prop :=
  ∃ done rest region', chars = done ++ rest
    ∧ Layout region before done ts region'
    ∧ Pending (before ++ done) region' rest state

section

variable {region region' : Region}
  {before chars done rest gap run lexeme blanks : List Char} {c : Char}
  {state next : ScanState} {ts ts' : List Placed} {t : Token}

/-- Nothing is completed. -/
theorem Pending.goesOn (h : Pending before region chars state) :
    Advances region before chars [] state := by
  refine ⟨[], chars, region, rfl, .nil region before, ?_⟩
  rw [List.append_nil]
  exact h

theorem Advances.after (hdone : Layout region before done ts region')
    (h : Advances region' (before ++ done) rest ts' state) :
    Advances region before (done ++ rest) (ts ++ ts') state := by
  obtain ⟨done', rest', region'', rfl, hlayout, hpending⟩ := h
  rw [List.append_assoc] at hpending
  exact ⟨done ++ done', rest', region'', (List.append_assoc ..).symm,
    hdone.append hlayout, hpending⟩

/-- A lexeme that ends here is a token. -/
theorem Advances.token (region : Region) (before : List Char)
    (hgap : Gap region gap)
    (hlexeme : Lexeme region t lexeme)
    (h : Pending (before ++ (gap ++ lexeme)) t.region [] next) :
    Advances region before (gap ++ lexeme)
      [⟨t, place (before ++ gap)⟩] next := by
  have hboth := Advances.after (.single region before hgap hlexeme) h.goesOn
  rw [List.append_nil, List.append_nil] at hboth
  exact hboth

/-- Where a token has ended outside tags, a scan has read nothing yet. -/
theorem Pending.outside (before : List Char) :
    Pending before .outside [] (outside (place before)) := by
  have h : Pending before .outside ([] ++ []) _ :=
    .text .nil List.not_mem_nil
  rw [List.append_nil, List.append_nil] at h
  exact h

-- ================================================== text outside tags

/-- Text that ends here is a token, if there is any; else there is only
the gap. -/
theorem layout_textToken (before : List Char) (hgap : Comments gap)
    (hrun : '<' ∉ run) :
    ∃ done gap', gap ++ run = done ++ gap' ∧ Comments gap'
      ∧ Layout .outside before done
          (textToken (place (before ++ gap)) run.reverse) .outside := by
  by_cases hne : run = []
  · rw [hne, List.append_nil]
    exact ⟨[], gap, rfl, hgap, .nil .outside before⟩
  · have htoken : textToken (place (before ++ gap)) run.reverse
        = [⟨.text (String.ofList run), place (before ++ gap)⟩] := by
      unfold textToken
      rw [List.isEmpty_reverse, List.isEmpty_eq_false_iff.mpr hne, written,
        List.reverse_reverse]
      rfl
    have hlexeme : Lexeme .outside (.text (String.ofList run)) run := by
      have h := @Lexeme.text (String.ofList run)
      rw [String.toList_ofList] at h
      exact h hne hrun
    refine ⟨gap ++ run, [], (List.append_nil _).symm, .nil, ?_⟩
    rw [htoken]
    exact .single .outside before hgap hlexeme

/-- The bracket of a tag or a comment ends it. -/
theorem advances_angle (before : List Char) (hgap : Comments gap)
    (hrun : '<' ∉ run) :
    Advances .outside before (gap ++ run ++ ['<'])
      (textToken (place (before ++ gap)) run.reverse)
      (.angle (place (before ++ (gap ++ run)))) := by
  obtain ⟨done, gap', hsplit, hgap', hlayout⟩ :=
    layout_textToken before hgap hrun
  have hrest : Pending (before ++ done) .outside (gap' ++ ['<'])
      (.angle (place (before ++ (gap ++ run)))) := by
    have h : Pending (before ++ done) _ _ _ := .angle hgap'
    rw [List.append_assoc, ← hsplit] at h
    exact h
  have hboth := Advances.after hlayout hrest.goesOn
  rw [List.append_nil, ← List.append_assoc, ← hsplit] at hboth
  exact hboth

-- ========================================================== inside tags

/-- A character between the parts of a tag. -/
theorem stepTag_advances (hblanks : Blanks blanks)
    (hstep : ScanState.stepTag (place (before ++ blanks)) c
      = .ok (ts, next)) :
    Advances .tag before (blanks ++ [c]) ts next := by
  unfold ScanState.stepTag at hstep
  split at hstep
  case isTrue hblank =>
    cases hstep
    refine (Pending.tag ?_).goesOn
    exact List.forall_mem_append.mpr
      ⟨hblanks, List.forall_mem_singleton.mpr hblank⟩
  split at hstep
  case isTrue _ hc =>
    cases hstep
    rw [← place_concat, hc, List.append_assoc]
    exact Advances.token .tag before hblanks .tagEnd
      (.outside _)
  split at hstep
  case isTrue _ _ hc =>
    cases hstep
    rw [hc]
    exact (Pending.slash hblanks).goesOn
  split at hstep
  case isTrue _ _ _ hc =>
    cases hstep
    rw [hc]
    exact Advances.token .tag before hblanks .equals
      (.value (List.forall_mem_nil _))
  split at hstep
  case isTrue _ _ _ _ hc =>
    cases hstep
    exact (Pending.attrName hblanks ⟨List.cons_ne_nil _ _,
      List.forall_mem_singleton.mpr hc⟩).goesOn
  case isFalse => cases hstep

/-- The character behind a name in a tag ends it. -/
theorem advances_behindName (before : List Char) (hgap : Gap region gap)
    (hlexeme : Lexeme region t lexeme) (htag : t.region = .tag)
    (hstep : ScanState.stepTag (place (before ++ (gap ++ lexeme))) c
      = .ok (ts, next)) :
    Advances region before (gap ++ lexeme ++ [c])
      (⟨t, place (before ++ gap)⟩ :: ts) next := by
  have hdone := Layout.single region before hgap hlexeme
  rw [htag] at hdone
  rw [← List.append_nil (before ++ (gap ++ lexeme))] at hstep
  have hnone : Blanks [] := List.forall_mem_nil _
  exact Advances.after hdone (stepTag_advances hnone hstep)

-- ================================================== values without quotes

theorem IsBareValue.concat {chars : List Char} (h : IsBareValue chars)
    (hc : IsBareChar c) : IsBareValue (chars ++ [c]) := by
  obtain ⟨hne, hchars, hdouble, hsingle⟩ := h
  cases chars with
  | nil => exact absurd rfl hne
  | cons first rest =>
      refine ⟨List.cons_ne_nil _ _, ?_, hdouble, hsingle⟩
      exact List.forall_mem_append.mpr
        ⟨hchars, List.forall_mem_singleton.mpr hc⟩

theorem lexeme_bare {chars : List Char} (h : IsBareValue chars) :
    Lexeme .value (.value (written chars.reverse)) chars := by
  obtain ⟨value, rfl⟩ := exists_toList chars
  rw [ScanState.written_reverse]
  exact .value (.bare h)

/-- A character in a value without quotes that has begun, unless it is
the bracket behind a slash. -/
theorem stepBare_advances {chars : List Char} (hblanks : Blanks blanks)
    (hchars : IsBareValue chars)
    (hstep : ScanState.stepBare (place (before ++ blanks)) chars.reverse
      (place (before ++ (blanks ++ chars))) c = (ts, next)) :
    Advances .value before (blanks ++ chars ++ [c]) ts next := by
  have hlexeme := lexeme_bare hchars
  unfold ScanState.stepBare at hstep
  dsimp only at hstep
  split at hstep
  case isTrue hblank =>
    cases hstep
    exact Advances.after
      (Layout.single .value before hblanks hlexeme)
      (Pending.tag (List.forall_mem_singleton.mpr hblank)).goesOn
  case isFalse hblank =>
    split at hstep
    case isTrue hc =>
      cases hstep
      have hend := Advances.token .tag (before ++ (blanks ++ chars))
        (List.forall_mem_nil _) .tagEnd (.outside _)
      rw [List.append_nil, List.nil_append, place_concat] at hend
      rw [hc]
      exact Advances.after
        (Layout.single .value before hblanks hlexeme) hend
    case isFalse hne =>
      have hbare : IsBareChar c := ⟨by simpa using hblank, hne⟩
      split at hstep
      case isTrue hc =>
        cases hstep
        rw [hc] at hbare ⊢
        rw [List.append_assoc]
        exact (Pending.bareSlash hblanks (hchars.concat hbare)).goesOn
      case isFalse =>
        cases hstep
        have h : Pending before _ _ _ := .bare hblanks
          (hchars.concat hbare)
        rw [List.reverse_append] at h
        rw [List.append_assoc]
        exact h.goesOn

end

end EntityMarkup
