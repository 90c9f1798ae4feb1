/-
Sources that are cut in an opening tag. The tokens of the whole source
tell where its tags and values begin and end, and so what the cut is in.
They tell it to the scan of the first part too: a token that is still to
be found and stands before the cut is one that the scan is in the middle
of there, and one that has been found is spelled before the cut. So
between the quotes of a value the scan is in a quoted value, and behind a
slash that ends the tag it is behind a slash, unless the slash may still
belong to a value without quotes. In any other place of an opening tag it
can only tell that the tag does not end (`tokens?_cut`).
-/
import EntityMarkup.Proofs.Markup.Begun

namespace EntityMarkup

open ScanState (outside written)

-- =============================================================== places

/-- Two first parts of one text that end at one place are the same. -/
theorem place_inj {a a' : List Char} (b b' : List Char)
    (htext : a ++ b = a' ++ b') (hplace : place a = place a') :
    a = a' := by
  have hgrow : ∀ {front : List Char} (more : List Char),
      place front = place (front ++ more) → more = [] := by
    intro front more heq
    refine Decidable.by_contra fun hne => ?_
    have hbefore : (place front).Before (place (front ++ more)) :=
      place_before hne
    rw [← heq] at hbefore
    exact Position.Before.irrefl _ hbefore
  rcases List.append_eq_append_iff.mp htext with
    ⟨more, rfl, -⟩ | ⟨more, rfl, -⟩
  · rw [hgrow more hplace, List.append_nil]
  · rw [hgrow more hplace.symm, List.append_nil]

/-- A first part of a text ends before the whole. -/
theorem place_before_end {text front behind : List Char}
    (h : text = front ++ behind) (hne : behind ≠ []) :
    (place front).Before (place text) := by
  rw [h]
  exact place_before hne

/-- A text falls apart in one way at a place. -/
theorem parts_eq {text front behind done gap part : List Char}
    (h : text = front ++ behind) (h' : text = done ++ (gap ++ part))
    (hplace : place front = place (done ++ gap)) :
    front = done ++ gap ∧ behind = part := by
  have htext : front ++ behind = done ++ gap ++ part := by
    rw [← h, h', List.append_assoc]
  have hfront := place_inj behind part htext hplace
  rw [hfront] at htext
  exact ⟨hfront, List.append_cancel_left htext⟩

-- ================================================================= cuts

/-- No token that stays in an opening tag leads out of it. -/
theorem Layout.region_ne_outside {region region' : Region}
    {before chars : List Char} {ts : List Placed}
    (h : Layout region before chars ts region') (hne : ts ≠ [])
    (hts : ∀ t ∈ ts, t.token.region ≠ .outside) : region' ≠ .outside := by
  induction h with
  | nil => exact absurd rfl hne
  | @cons _ _ _ _ _ _ t ts hgap hlexeme hrest ih =>
      obtain ⟨hfirst, hbehind⟩ := List.forall_mem_cons.mp hts
      cases hrest with
      | nil => exact hfirst
      | cons => exact ih (List.cons_ne_nil _ _) hbehind

/-- The token ends an opening tag, with the bracket at the place. -/
inductive EndsTag : Placed → Position → Prop
  | tagEnd (pos : Position) : EndsTag ⟨.tagEnd, pos⟩ pos
  | selfClose (pos : Position) : EndsTag ⟨.selfClose, pos⟩ (pos.next '/')

/-- The text is cut in an opening tag, behind the first character of the
name or later. The tokens behind the one that begins the tag are inside
it, up to the one that ends it, whose bracket comes behind the cut. -/
inductive CutInTag (ts : List Placed) (a b : List Char) : Prop
  | mk {front read more rest : List Char} {c : Char} {name : String}
      {before parts after : List Placed} {last : Placed}
      (hstart : a = front ++ '<' :: c :: read)
      (hend : b = more ++ '>' :: rest)
      (htokens : ts = before ++ ⟨.opening name, place front⟩
        :: (parts ++ last :: after))
      (hparts : ∀ t ∈ parts, t.token.region ≠ .outside)
      (hlast : EndsTag last (place (a ++ more)))

/-- The cut is between the quotes of the value that begins at the place. -/
inductive CutInQuotes (ts : List Placed) (a b : List Char) :
    Position → Prop
  | mk {front read more rest : List Char} {quote : Char}
      (hquote : quote = '"' ∨ quote = '\'')
      (hstart : a = front ++ quote :: read)
      (hend : b = more ++ quote :: rest)
      (hvalue : ⟨.value (String.ofList (read ++ more)), place front⟩ ∈ ts) :
      CutInQuotes ts a b (place front)

/-- The text ends in a value without quotes. -/
def EndsInBare (ts : List Placed) (text : List Char) : Prop :=
  ∃ front value, text = front ++ value.toList
    ∧ ⟨.value value, place front⟩ ∈ ts

/-- The cut is between the slash and the bracket that end a tag, and the
slash does not follow a value without quotes. -/
inductive CutInEnd (ts : List Placed) (a b : List Char) : Prop
  | mk {front rest : List Char} (hstart : a = front ++ ['/'])
      (hend : b = '>' :: rest) (htoken : ⟨.selfClose, place front⟩ ∈ ts)
      (hbare : ¬ EndsInBare ts front)

/-- What the scan has found up to the cut, and what it finds behind. -/
structure CutAt (a b : List Char) (found left : List Placed)
    (state : ScanState) : Prop where
  scan : Scans (outside .start) .start a found state
  rest : tokensFrom? state (place a) b = .ok left

section

variable {a b front rest : List Char} {found left ts : List Placed}
  {state : ScanState} {start : Position} {t : Placed}

theorem exists_cutAt {a b : String} (h : tokens? (a ++ b) = .ok ts) :
    ∃ found left state, ts = found ++ left
      ∧ CutAt a.toList b.toList found left state := by
  rw [tokens?_eq, String.toList_append] at h
  obtain ⟨found, left, state, rfl, hscan, hrest⟩ := exists_left h
  rw [advance_start] at hrest
  exact ⟨found, left, state, rfl, hscan, hrest⟩

namespace CutAt

/-- What the first part comes to. -/
theorem tokens_error {a b : String} {e : MarkupError}
    (h : CutAt a.toList b.toList found left state)
    (hfinish : state.finish (place a.toList) = .error e) :
    tokens? a = .error e := by
  have htokens := h.scan.tokens?_eq []
  rw [List.append_nil, String.ofList_toList, tokensFrom?, hfinish]
    at htokens
  exact htokens

variable (h : CutAt a b found left state)

include h

/-- The text before the cut is that of the tokens found, and of what the
scan is in the middle of. -/
theorem pending : ∃ done part region, a = done ++ part
    ∧ Layout .outside [] done found region
    ∧ Pending done region part state := h.scan.advances

/-- A token that has been found is spelled before the cut. -/
theorem exists_lexeme (ht : t ∈ found) (htext : a ++ b = front ++ rest)
    (hpos : t.pos = place front) :
    ∃ spot lexeme more, a = front ++ (lexeme ++ more)
      ∧ Lexeme spot t.token lexeme := by
  obtain ⟨done, part, region, rfl, hlayout, -⟩ := h.pending
  obtain ⟨spot, x, lexeme, y, rfl, hlexeme, hx⟩ :=
    hlayout.exists_lexeme t ht
  rw [List.nil_append] at hx
  obtain rfl : x = front := by
    refine place_inj (lexeme ++ y ++ part ++ b) rest ?_
      (hx.symm.trans hpos)
    rw [← htext]
    simp only [List.append_assoc]
  refine ⟨spot, lexeme, y ++ part, ?_, hlexeme⟩
  simp only [List.append_assoc]

/-- A token of the source that stands before the cut has been found, or
the scan is in the middle of it. -/
theorem found_or_begun (ht : t ∈ found ++ left)
    (hbefore : t.pos.Before (place a)) : t ∈ found ∨ state.Begun t := by
  rcases List.mem_append.mp ht with ht | ht
  · exact .inl ht
  · rcases tokensFrom?_begun h.rest ht with hbegun | ⟨hbehind, -⟩
    · exact .inr hbegun
    · exact absurd hbefore hbehind

/-- The same source, cut before. -/
theorem earlier {a' : List Char} (ha : a = front ++ a') :
    ∃ found' behind mid, found = found' ++ behind
      ∧ CutAt front (a' ++ b) found' (behind ++ left) mid
      ∧ Scans mid (place front) a' behind state := by
  have hscan := h.scan
  rw [ha] at hscan
  obtain ⟨mid, found', behind, rfl, hfront, hbehind⟩ := hscan.split
  rw [advance_start] at hbehind
  refine ⟨found', behind, mid, rfl, ⟨hfront, ?_⟩, hbehind⟩
  rw [hbehind.tokensFrom_append, ← place_append, ← ha, h.rest]
  rfl

-- ======================================================== inside the tag

/-- Behind the bracket of a tag stands no further character of it. -/
theorem angle_ne {c : Char} {read : List Char}
    (ha : a = front ++ '<' :: c :: read) : state ≠ .angle (place front) := by
  rintro rfl
  obtain ⟨done, part, region, ha', -, hpending⟩ := h.pending
  generalize hplace : place front = start at hpending
  cases hpending with
  | angle hgap => cases (parts_eq ha ha' hplace).2

/-- The token that ends a tag behind the cut has not been found. -/
theorem end_notMem {more rest : List Char} {last : Placed}
    (hb : b = more ++ '>' :: rest)
    (hlast : EndsTag last (place (a ++ more))) : last ∉ found := by
  intro hfound
  obtain ⟨done, part, region, ha, hlayout, -⟩ := h.pending
  obtain ⟨spot, x, lexeme, y, hdone, hlexeme, hx⟩ :=
    hlayout.exists_lexeme last hfound
  rw [List.nil_append] at hx
  have htext : a ++ more ++ '>' :: rest
      = x ++ (lexeme ++ (y ++ (part ++ b))) := by
    rw [List.append_assoc, ← hb, ha, hdone]
    simp only [List.append_assoc]
  -- the bracket would have to stand in the text before the cut
  have hlength : x.length + lexeme.length ≤ a.length := by
    rw [ha, hdone]
    simp only [List.length_append]
    omega
  generalize hplace : place (a ++ more) = pos at hlast
  cases hlast with
  | tagEnd =>
      have hsame := place_inj _ _ htext (hplace.trans hx)
      have hpos := List.length_pos_iff.mpr hlexeme.ne_nil
      rw [← hsame, List.length_append] at hlength
      omega
  | selfClose start =>
      cases hlexeme with
      | selfClose =>
          replace hx : start = place x := hx
          rw [hx, ← place_concat] at hplace
          have hsame : a ++ more = x ++ ['/'] := by
            refine place_inj ('>' :: rest) ('>' :: (y ++ (part ++ b))) ?_ hplace
            rw [htext, List.append_assoc]
            rfl
          have hshort := congrArg List.length hsame
          simp only [List.length_append, List.length_cons,
            List.length_nil] at hshort hlength
          omega

/-- In an opening tag the scan is in its name, or behind the name where
its parts belong. -/
theorem inTag (hcut : CutInTag (found ++ left) a b) :
    state.region ≠ .outside
      ∨ ∃ start name, state = .openingName start name := by
  obtain @⟨front, read, more, rest, c, name, before, parts, after, last,
    ha, hb, htokens, hparts, hlast⟩ := hcut
  have hnotMem := h.end_notMem hb hlast
  -- the tag has begun but is not found yet
  have hbegun : ⟨.opening name, place front⟩ ∈ left →
      ∃ start name, state = .openingName start name := by
    intro hleft
    have hbefore := place_before_end ha (List.cons_ne_nil _ _)
    rcases tokensFrom?_begun h.rest hleft with hbegun | ⟨hbehind, -⟩
    · cases hbegun with
      | opening => exact absurd rfl (h.angle_ne ha)
      | openingName => exact ⟨_, _, rfl⟩
    · exact absurd hbefore hbehind
  rcases List.append_eq_append_iff.mp htokens with
    ⟨first, -, hleft⟩ | ⟨first, hfound, hbehind⟩
  · refine .inr (hbegun ?_)
    rw [hleft]
    exact List.mem_append_right _ (List.mem_cons_self ..)
  · cases first with
    | nil =>
        refine .inr (hbegun ?_)
        rw [← List.nil_append left, ← hbehind]
        exact List.mem_cons_self ..
    | cons opening inside =>
        -- of the tag there are found its start and some of its parts
        obtain ⟨rfl, hinside⟩ := List.cons.inj hbehind
        have hparts' : ∀ t ∈ inside, t.token.region ≠ .outside := by
          rcases List.append_eq_append_iff.mp hinside with
            ⟨first, hfirst, hrest⟩ | ⟨first, rfl, -⟩
          · cases first with
            | nil =>
                rw [hfirst, List.append_nil]
                exact hparts
            | cons last' inside' =>
                obtain ⟨rfl, -⟩ := List.cons.inj hrest
                refine absurd ?_ hnotMem
                rw [hfound, hfirst]
                simp
          · exact (List.forall_mem_append.mp hparts).1
        left
        obtain ⟨done, part, region, -, hlayout, hpending⟩ := h.pending
        rw [hfound] at hlayout
        obtain ⟨_, _, _, _, _, htag⟩ := hlayout.split
        rw [← hpending.region_eq]
        refine htag.region_ne_outside (List.cons_ne_nil _ _) ?_
        exact List.forall_mem_cons.mpr ⟨(fun heq => nomatch heq), hparts'⟩

-- ============================================================== values

/-- Between the quotes of a value the scan is in a quoted value. -/
theorem quoted_of_cut (hcut : CutInQuotes (found ++ left) a b start) :
    ∃ quote chars, state = .quoted start quote chars := by
  obtain @⟨front, read, more, rest, quote, hquote, ha, hb, hvalue⟩ := hcut
  have hbefore := place_before_end ha (List.cons_ne_nil _ _)
  have hnotBare : ∀ {chars more : List Char}, IsBareValue chars →
      chars ++ more = quote :: read → False := by
    rintro chars more ⟨hne, -, hdouble, hsingle⟩ hchars
    cases chars with
    | nil => exact hne rfl
    | cons c chars =>
        obtain ⟨rfl, -⟩ := List.cons.inj hchars
        rcases hquote with rfl | rfl
        · exact hdouble rfl
        · exact hsingle rfl
  rcases h.found_or_begun hvalue hbefore with hfound | hbegun
  · -- its spelling would have to end before the cut
    obtain ⟨spot, lexeme, more', ha', hlexeme⟩ := h.exists_lexeme hfound
      (show a ++ b = front ++ (quote :: read ++ b) by
        rw [ha, List.append_assoc]) rfl
    have hchars : lexeme ++ more' = quote :: read :=
      List.append_cancel_left (ha'.symm.trans ha)
    cases hlexeme with
    | value hspelling =>
        rw [String.toList_ofList] at hspelling
        have hlength := congrArg List.length hchars
        cases hspelling with
        | double | single =>
            simp only [List.length_append, List.length_cons] at hlength
            omega
        | bare hbare => exact (hnotBare hbare hchars).elim
  · obtain ⟨done, part, region, ha', -, hpending⟩ := h.pending
    generalize hplace : place front = start at hbegun
    cases hbegun with
    | quoted => exact ⟨_, _, rfl⟩
    | bare =>
        cases hpending with
        | bare hblanks hbare =>
            have hchars := (parts_eq ha ha' hplace).2
            exact (hnotBare hbare ((List.append_nil _).trans hchars.symm)).elim
    | bareSlash =>
        cases hpending with
        | bareSlash hblanks hbare =>
            have hchars := (parts_eq ha ha' hplace).2
            exact (hnotBare hbare ((List.append_nil _).trans hchars.symm)).elim

end CutAt

/-- A quoted value that has begun ends at the next such quote. -/
theorem exists_quote {here start : Position} {quote : Char}
    {chars : List Char}
    (h : tokensFrom? (.quoted start quote chars) here b = .ok ts) :
    ∃ more rest, b = more ++ quote :: rest
      ∧ ⟨.value (written (more.reverse ++ chars)), start⟩ ∈ ts := by
  induction b generalizing here chars ts with
  | nil => cases h
  | cons c b ih =>
      obtain ⟨tokens, next, left, hstep, hleft, rfl⟩ := exists_step h
      simp only [ScanState.step] at hstep
      split at hstep
      case isTrue hc =>
        cases hstep
        exact ⟨[], b, by rw [hc]; rfl, List.mem_cons_self ..⟩
      case isFalse =>
        cases hstep
        obtain ⟨more, rest, rfl, hvalue⟩ := ih hleft
        refine ⟨c :: more, rest, rfl, ?_⟩
        rw [List.reverse_cons, List.append_assoc]
        exact hvalue

namespace CutAt

/-- And the other way round. -/
theorem cut_of_quoted {quote : Char} {chars : List Char}
    (h : CutAt a b found left (.quoted start quote chars)) :
    CutInQuotes (found ++ left) a b start := by
  obtain ⟨done, part, region, ha, -, hpending⟩ := h.pending
  obtain ⟨more, rest, hb, hvalue⟩ := exists_quote h.rest
  cases hpending with
  | @quoted blanks chars _ hblanks hquote hchars =>
      rw [← List.append_assoc] at ha
      refine .mk hquote ha hb (List.mem_append_right _ ?_)
      rw [written, List.reverse_append, List.reverse_reverse,
        List.reverse_reverse] at hvalue
      exact hvalue

-- ============================================================ the slash

theorem slash_of_cut (h : CutAt a b found left state)
    (hcut : CutInEnd (found ++ left) a b) :
    ∃ start, state = .slash start := by
  obtain @⟨front, rest, ha, hb, htoken, hbare⟩ := hcut
  have hbefore := place_before_end ha (List.cons_ne_nil _ _)
  rcases h.found_or_begun htoken hbefore with hfound | hbegun
  · obtain ⟨spot, lexeme, more, ha', hlexeme⟩ := h.exists_lexeme hfound
      (show a ++ b = front ++ (['/'] ++ b) by
        rw [ha, List.append_assoc]) rfl
    have hchars : lexeme ++ more = ['/'] :=
      List.append_cancel_left (ha'.symm.trans ha)
    cases hlexeme with
    | selfClose => cases hchars
  · obtain ⟨done, part, region, ha', -, hpending⟩ := h.pending
    generalize hplace : place front = last at hbegun
    cases hbegun with
    | slash => exact ⟨_, rfl⟩
    | bareEnd start chars =>
        -- the value that the slash follows is found behind the cut
        refine absurd ?_ hbare
        have hrest := h.rest
        rw [hb] at hrest
        obtain ⟨tokens, next, more, hstep, -, rfl⟩ := exists_step hrest
        rw [ScanState.step, if_pos rfl] at hstep
        split at hstep <;> cases hstep
        cases hpending with
        | @bareSlash blanks chars hblanks hchars =>
            rw [← List.append_assoc blanks] at ha'
            refine ⟨done ++ blanks, written chars.reverse, ?_, ?_⟩
            · rw [(parts_eq ha ha' hplace).1, written, List.reverse_reverse,
                String.toList_ofList, List.append_assoc]
            · exact List.mem_append_right _ (List.mem_cons_self ..)

end CutAt

/-- A value that a scan is in the middle of begins before. -/
theorem Pending.value_before {region : Region} {before part : List Char}
    {value : String} {pos : Position}
    (h : Pending before region part state)
    (hbegun : state.Begun ⟨.value value, pos⟩) :
    pos.Before (place (before ++ part)) := by
  cases hbegun with
  | quoted =>
      cases h with
      | quoted =>
          rw [← List.append_assoc]
          exact place_before (List.cons_ne_nil _ _)
  | bare =>
      cases h with
      | bare hblanks hchars =>
          rw [← List.append_assoc]
          exact place_before hchars.ne_nil
  | bareSlash =>
      cases h with
      | bareSlash hblanks hchars =>
          rw [← List.append_assoc]
          exact place_before hchars.ne_nil

/-- What a scan comes to is told by where it starts. -/
theorem Scans.unique {state mid mid' : ScanState} {here : Position}
    {chars : List Char} {ts ts' : List Placed}
    (h : Scans state here chars ts mid)
    (h' : Scans state here chars ts' mid') : mid = mid' := by
  have hrun := (h.run_eq []).symm.trans (h'.run_eq [])
  exact (Scan.mk.inj (Except.ok.inj hrun)).2.2

namespace CutAt

/-- Where a value begins, the scan is behind an equals sign. -/
theorem eq_value {value : String} (h : CutAt front b found left state)
    (hvalue : ⟨.value value, place front⟩ ∈ found ++ left) :
    state = .value := by
  rcases List.mem_append.mp hvalue with hfound | hleft
  · -- its spelling is not empty
    obtain ⟨spot, lexeme, more, hfront, hlexeme⟩ :=
      h.exists_lexeme hfound rfl rfl
    have hnone := List.append_right_eq_self.mp hfront.symm
    exact absurd (List.append_eq_nil_iff.mp hnone).1 hlexeme.ne_nil
  · rcases tokensFrom?_begun h.rest hleft with hbegun | ⟨-, hvalue⟩
    · obtain ⟨done, part, region, rfl, -, hpending⟩ := h.pending
      exact absurd (hpending.value_before hbegun)
        (Position.Before.irrefl _)
    · exact hvalue rfl value rfl

/-- Behind a value without quotes the slash is taken to belong to it. -/
theorem not_endsInBare (h : CutAt a b found left (.slash start))
    (ha : a = front ++ ['/']) : ¬ EndsInBare (found ++ left) front := by
  rintro ⟨before, value, rfl, hvalue⟩
  rw [List.append_assoc] at ha
  have hbefore := place_before_end ha
    (List.append_ne_nil_of_right_ne_nil _ (List.cons_ne_nil _ _))
  have hfound : ⟨.value value, place before⟩ ∈ found := by
    rcases h.found_or_begun hvalue hbefore with hfound | hbegun
    · exact hfound
    · cases hbegun
  obtain ⟨spot, lexeme, more, ha', hlexeme⟩ := h.exists_lexeme hfound
    (show a ++ b = before ++ (value.toList ++ ['/'] ++ b) by
      rw [ha, List.append_assoc]) rfl
  have hchars : lexeme ++ more = value.toList ++ ['/'] :=
    List.append_cancel_left (ha'.symm.trans ha)
  cases hlexeme with
  | value hspelling =>
      cases hspelling with
      | double | single =>
          -- with its quotes the value is longer
          have hlength := congrArg List.length hchars
          simp only [List.length_append, List.length_cons,
            List.length_nil] at hlength
          omega
      | bare hbare =>
          obtain ⟨found', behind, mid, rfl, hcut, hscan⟩ := h.earlier ha
          rw [List.append_assoc] at hvalue
          obtain rfl := hcut.eq_value hvalue
          obtain ⟨last, hlast, hin⟩ :=
            ScanState.scans_bare (place before) hbare
          obtain ⟨last', hslash, hin'⟩ :=
            hin.step ((place before).advance value.toList)
              (show IsBareChar '/' by decide +kernel)
          cases hscan.unique (hlast.silent (.single hslash))
          cases hin'

theorem cut_of_slash (h : CutAt a b found left (.slash start)) :
    CutInEnd (found ++ left) a b := by
  obtain ⟨done, part, region, ha, -, hpending⟩ := h.pending
  cases hpending with
  | @slash blanks hblanks =>
      rw [← List.append_assoc] at ha
      have hrest := h.rest
      cases b with
      | nil => cases hrest
      | cons c rest =>
          obtain ⟨tokens, next, more, hstep, -, rfl⟩ := exists_step hrest
          simp only [ScanState.step] at hstep
          split at hstep
          case isFalse => cases hstep
          case isTrue hc =>
            cases hstep
            rw [hc] at h ⊢
            refine .mk ha rfl ?_ (h.not_endsInBare ha)
            exact List.mem_append_right _ (List.mem_cons_self ..)

end CutAt

end

/-- When a source that has tokens is cut in an opening tag, the first part
has none. Between the quotes of a value the error is that it does not end,
and stands where it begins. Elsewhere it stands at the end, and is that
the tag does not end, unless the cut is behind the slash that ends it: a
slash that no value without quotes could go on with is in want of its
bracket. -/
theorem tokens?_cut {a b : String} {ts : List Placed}
    (h : tokens? (a ++ b) = .ok ts)
    (hcut : CutInTag ts a.toList b.toList) :
    (∀ start, CutInQuotes ts a.toList b.toList start →
      tokens? a = .error ⟨.unterminatedValue, start⟩)
    ∧ (CutInEnd ts a.toList b.toList →
      tokens? a = .error ⟨.unexpected .afterSlash, place a.toList⟩)
    ∧ ((∀ start, ¬ CutInQuotes ts a.toList b.toList start) →
      ¬ CutInEnd ts a.toList b.toList →
      tokens? a = .error ⟨.unterminatedTag, place a.toList⟩) := by
  obtain ⟨found, left, state, rfl, hat⟩ := exists_cutAt h
  refine ⟨fun start hquotes => ?_, fun hend => ?_, fun hquotes hend => ?_⟩
  · obtain ⟨quote, chars, rfl⟩ := hat.quoted_of_cut hquotes
    exact hat.tokens_error rfl
  · obtain ⟨start, rfl⟩ := hat.slash_of_cut hend
    exact hat.tokens_error rfl
  · refine hat.tokens_error ?_
    have htag := hat.inTag hcut
    cases state with
    | openingName | tag | attrName | value | bare | bareSlash => rfl
    | slash start => exact absurd hat.cut_of_slash hend
    | quoted start quote chars =>
        exact absurd hat.cut_of_quoted (hquotes start)
    | text | angle | bang | bangDash | comment | closingName
    | closingEnd =>
        rcases htag with hregion | ⟨_, _, heq⟩
        · exact absurd rfl hregion
        · cases heq

/-- The tokens of a tag with a quoted value and one without quotes, on two
lines. -/
def cutTokens : List Placed :=
  [⟨.opening "a", ⟨1, 1⟩⟩, ⟨.attrName "x", ⟨2, 1⟩⟩, ⟨.equals, ⟨2, 2⟩⟩,
    ⟨.value "1 > 2", ⟨2, 3⟩⟩, ⟨.attrName "y", ⟨2, 11⟩⟩,
    ⟨.equals, ⟨2, 12⟩⟩, ⟨.value "3", ⟨2, 13⟩⟩, ⟨.selfClose, ⟨2, 14⟩⟩,
    ⟨.eof, ⟨2, 16⟩⟩]

/-- Cut behind the bracket in the quotes. -/
theorem tokens?_cut_quotes :
    tokens? ("<a\nx='1 >" ++ " 2' y=3/>") = .ok cutTokens
      ∧ CutInTag cutTokens "<a\nx='1 >".toList " 2' y=3/>".toList
      ∧ CutInQuotes cutTokens "<a\nx='1 >".toList " 2' y=3/>".toList
        ⟨2, 3⟩
      ∧ tokens? "<a\nx='1 >" = .error ⟨.unterminatedValue, ⟨2, 3⟩⟩ := by
  have htokens : tokens? ("<a\nx='1 >" ++ " 2' y=3/>") = .ok cutTokens := by
    rfl
  have hcut : CutInTag cutTokens "<a\nx='1 >".toList
      " 2' y=3/>".toList :=
    @CutInTag.mk _ _ _ [] "\nx='1 >".toList " 2' y=3/".toList [] 'a' "a" []
      (cutTokens.tail.take 6) [⟨.eof, ⟨2, 16⟩⟩] ⟨.selfClose, ⟨2, 14⟩⟩
      rfl rfl rfl (by decide) (.selfClose ⟨2, 14⟩)
  have hquotes : CutInQuotes cutTokens "<a\nx='1 >".toList
      " 2' y=3/>".toList ⟨2, 3⟩ :=
    @CutInQuotes.mk _ _ _ "<a\nx=".toList "1 >".toList " 2".toList
      " y=3/>".toList '\'' (.inr rfl) rfl rfl (by decide)
  exact ⟨htokens, hcut, hquotes, (tokens?_cut htokens hcut).1 _ hquotes⟩

/-- A tag without attributes that is cut behind its slash. -/
theorem cut_behind_slash :
    tokens? ("<a/" ++ ">")
        = .ok [⟨.opening "a", ⟨1, 1⟩⟩, ⟨.selfClose, ⟨1, 3⟩⟩,
          ⟨.eof, ⟨1, 5⟩⟩]
      ∧ CutInTag [⟨.opening "a", ⟨1, 1⟩⟩, ⟨.selfClose, ⟨1, 3⟩⟩,
          ⟨.eof, ⟨1, 5⟩⟩] "<a/".toList ">".toList
      ∧ (∀ start, ¬ CutInQuotes [⟨.opening "a", ⟨1, 1⟩⟩,
          ⟨.selfClose, ⟨1, 3⟩⟩, ⟨.eof, ⟨1, 5⟩⟩] "<a/".toList ">".toList
          start)
      ∧ place "<a/".toList = ⟨1, 4⟩
      ∧ tokens? "<a/" = .error ⟨.unexpected .afterSlash, ⟨1, 4⟩⟩ := by
  refine ⟨rfl, ?_, ?_, rfl, rfl⟩
  · exact @CutInTag.mk _ _ _ [] ['/'] [] [] 'a' "a" [] []
      [⟨.eof, ⟨1, 5⟩⟩] ⟨.selfClose, ⟨1, 3⟩⟩
      rfl rfl rfl (List.forall_mem_nil _) (.selfClose ⟨1, 3⟩)
  · rintro _ ⟨-, -, -, hvalue⟩
    simp at hvalue

end EntityMarkup
