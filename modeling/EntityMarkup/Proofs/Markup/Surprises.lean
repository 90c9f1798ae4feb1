/-
Where a source surprises. What has been read of a source when a character
does not belong there is a layout of the tokens found so far and part of
one more, and the part tells what could have come next (`Misfit`): the
name of a tag, the end of a closing tag, the bracket behind a slash, a
value, or a further part of an opening tag.

A scan does not always notice at that character. Of what begins like a
comment but is none, and of a slash and a bracket in place of a value, it
has read more when it stops (`ScanState.Undecided`); the place of the
surprise is the right one there. It is not where the bracket of a closing
tag or the one behind a slash is missing: there the character has been
stepped over, and the place is the one behind it (`Surprise.overrun`).
-/
import Mathlib.Data.List.Basic
import EntityMarkup.Proofs.Markup.Fitting

namespace EntityMarkup

open ScanState (outside written)

-- ================================================================ misfits

/-- No part of an opening tag starts with the character. -/
structure Foreign (c : Char) : Prop where
  not_blank : Text.isBlank c = false
  not_name : isNameChar c = false
  not_mark : c ∉ ['>', '/', '=']

/-- Behind part of a lexeme, with the gap before it, the rest of a source
does not go on in any way that is allowed there. -/
inductive Misfit : Surprise → Region → List Char → List Char → Prop
  /-- Neither a tag's name comes, nor a closing tag, nor a comment. -/
  | tagName {gap rest : List Char} (hgap : Comments gap)
      (hname : ∀ c ∈ rest.head?, isNameChar c = false)
      (hslash : rest.head? ≠ some '/')
      (hcomment : ¬ ['!', '-', '-'] <+: rest) :
      Misfit .noTagName .outside (gap ++ ['<']) rest
  /-- No name comes in a closing tag. -/
  | closingName {gap rest : List Char} (hgap : Comments gap)
      (hname : ∀ c ∈ rest.head?, isNameChar c = false) :
      Misfit .noTagName .outside (gap ++ ['<', '/']) rest
  /-- The bracket does not come that ends a closing tag. -/
  | closingEnd {gap name blanks rest : List Char} (hgap : Comments gap)
      (hname : IsName name) (hblanks : Blanks blanks)
      (hend : rest.head? ≠ some '>')
      (hblank : ∀ c ∈ rest.head?, Text.isBlank c = false)
      (hmore : blanks = [] → ∀ c ∈ rest.head?, isNameChar c = false) :
      Misfit (.inClosing (String.ofList name)) .outside
        (gap ++ ('<' :: '/' :: name ++ blanks)) rest
  /-- The bracket does not come that ends an opening tag. -/
  | afterSlash {blanks rest : List Char} (hblanks : Blanks blanks)
      (hend : rest.head? ≠ some '>') :
      Misfit .afterSlash .tag (blanks ++ ['/']) rest
  /-- The tag ends where a value should be. -/
  | noValue {blanks rest : List Char} (hblanks : Blanks blanks)
      (hend : ['>'] <+: rest ∨ ['/', '>'] <+: rest) :
      Misfit .noValue .value blanks rest
  /-- Between the parts of a tag. -/
  | inTag {blanks rest : List Char} {c : Char} (hblanks : Blanks blanks)
      (hc : Foreign c) : Misfit (.character c) .tag blanks (c :: rest)
  /-- Behind the name of the tag. -/
  | behindOpening {gap name rest : List Char} {c : Char}
      (hgap : Comments gap) (hname : IsName name) (hc : Foreign c) :
      Misfit (.character c) .outside (gap ++ '<' :: name) (c :: rest)
  /-- Behind the name of an attribute. -/
  | behindName {blanks name rest : List Char} {c : Char}
      (hblanks : Blanks blanks) (hname : IsName name) (hc : Foreign c) :
      Misfit (.character c) .tag (blanks ++ name) (c :: rest)

/-- A source is read up to a character that does not belong there, or up
to its end: the tokens found so far are laid out in what has been read,
and behind them stands the part of a lexeme that does not go on. -/
inductive SurprisesAt (source : List Char) (what : Surprise) :
    List Char → List Char → Prop
  | mk {before part rest : List Char} {found : List Placed}
      {region : Region} {state : ScanState}
      (hsource : source = before ++ part ++ rest)
      (hlayout : Layout .outside [] before found region)
      (hscan : Scans (outside .start) .start (before ++ part) found state)
      (hmisfit : Misfit what region part rest) :
      SurprisesAt source what (before ++ part) rest

/-- What is stepped over of the rest before the surprise is reported. -/
def Surprise.overrun : Surprise → List Char → List Char
  | .inClosing _, rest | .afterSlash, rest => rest.take 1
  | .noTagName, _ | .noValue, _ | .character _, _ | .outside _, _
  | .inTag _ _, _ | .inBody _ _, _ | .forValue _ _, _
  | .described _, _ => []

-- ===================================================== where a scan stops

/-- The rest of a source stops a scan: by its first character, or by its
end. -/
def ScanState.Stops (state : ScanState) (here : Position)
    (e : MarkupError) : List Char → Prop
  | [] => state.finish here = .error e
  | c :: _ => state.step here c = .error e

/-- A scan that fails has come to where it is stopped. -/
theorem exists_stops {state : ScanState} {here : Position}
    {rest : List Char} {e : MarkupError}
    (h : tokensFrom? state here rest = .error e) :
    ∃ a b tokens, ∃ mid : ScanState, rest = a ++ b
      ∧ Scans state here a tokens mid ∧ mid.Stops (here.advance a) e b := by
  induction rest generalizing state here with
  | nil =>
      rw [tokensFrom?] at h
      cases hlast : state.finish here with
      | error e' =>
          rw [hlast] at h
          cases h
          exact ⟨[], [], [], state, rfl, .nil state here, hlast⟩
      | ok last =>
          rw [hlast] at h
          cases h
  | cons c rest ih =>
      cases hstep : state.step here c with
      | error e' =>
          rw [tokensFrom?_cons_error hstep] at h
          cases h
          exact ⟨[], c :: rest, [], state, rfl, .nil state here, hstep⟩
      | ok found =>
          obtain ⟨tokens, next⟩ := found
          rw [tokensFrom?_cons_ok hstep] at h
          cases hmore : tokensFrom? next (here.next c) rest with
          | ok more =>
              rw [hmore] at h
              cases h
          | error e' =>
              rw [hmore] at h
              cases h
              obtain ⟨a, b, tokens', mid, rfl, hscan, hstops⟩ := ih hmore
              exact ⟨c :: a, b, tokens ++ tokens', mid, rfl,
                .cons hstep hscan, hstops⟩

-- ================================================== how states are entered

/-- What a state tells of the step that led to it: from which state it
came, by which character, and which tokens it completed. -/
def ScanState.Entered (state : ScanState) (c : Char) (ts : List Placed) :
    ScanState → Prop
  | .bang _ | .bareSlash _ _ _ => ts = []
  | .bangDash start => ts = [] ∧ state = .bang start
  | .closingEnd _ _ => Text.isBlank c = true
  | .text _ _ | .angle _ | .comment _ _ | .closingName _ _
  | .openingName _ _ | .tag | .slash _ | .attrName _ _ | .value
  | .quoted _ _ _ | .bare _ _ => True

section

variable {here start : Position} {c : Char} {state next : ScanState}
  {chars name a : List Char} {ts : List Placed}

theorem stepTag_entered (h : ScanState.stepTag here c = .ok (ts, next))
    (state : ScanState) (ts' : List Placed) : state.Entered c ts' next := by
  unfold ScanState.stepTag at h
  repeat' split at h
  all_goals cases h
  all_goals trivial

theorem nameStep_entered {t : Placed}
    (h : (do
      let (tokens, next) ← ScanState.stepTag here c
      .ok (t :: tokens, next)) = Except.ok (ts, next)) :
    state.Entered c ts next := by
  cases hstep : ScanState.stepTag here c with
  | error e =>
      rw [hstep] at h
      cases h
  | ok found =>
      obtain ⟨tokens, last⟩ := found
      rw [hstep] at h
      cases h
      exact stepTag_entered hstep state _

theorem stepClosingEnd_entered
    (h : ScanState.step.stepClosingEnd start name here c = .ok (ts, next)) :
    state.Entered c ts next := by
  unfold ScanState.step.stepClosingEnd at h
  split at h
  case isTrue hblank =>
    cases h
    exact hblank
  case isFalse =>
    split at h <;> cases h
    trivial

theorem stepBare_entered
    (h : ScanState.stepBare start chars here c = (ts, next)) :
    state.Entered c ts next := by
  unfold ScanState.stepBare at h
  dsimp only at h
  repeat' split at h
  all_goals cases h
  all_goals trivial

/-- Every step leads to a state in such a way. -/
theorem step_entered (h : state.step here c = .ok (ts, next)) :
    state.Entered c ts next := by
  cases state with
  | text | angle | comment | slash | quoted =>
      simp only [ScanState.step] at h
      repeat' split at h
      all_goals cases h
      all_goals trivial
  | bang start =>
      simp only [ScanState.step] at h
      split at h <;> cases h
      exact ⟨rfl, rfl⟩
  | bangDash start =>
      simp only [ScanState.step] at h
      split at h <;> cases h
      trivial
  | closingName start name =>
      simp only [ScanState.step] at h
      split at h
      case isTrue =>
        cases h
        trivial
      split at h
      case isTrue => cases h
      case isFalse => exact stepClosingEnd_entered h
  | closingEnd start name => exact stepClosingEnd_entered h
  | openingName start name | attrName start name =>
      simp only [ScanState.step] at h
      split at h
      case isTrue =>
        cases h
        trivial
      case isFalse => exact nameStep_entered h
  | tag => exact stepTag_entered h _ _
  | value =>
      simp only [ScanState.step] at h
      split at h
      case isTrue =>
        cases h
        trivial
      split at h
      case isTrue =>
        cases h
        trivial
      split at h
      case isTrue => cases h
      case isFalse => exact stepBare_entered (Except.ok.inj h)
  | bare start chars => exact stepBare_entered (Except.ok.inj h)
  | bareSlash start chars last =>
      simp only [ScanState.step] at h
      split at h
      case isTrue =>
        split at h <;> cases h
        trivial
      case isFalse => exact stepBare_entered (Except.ok.inj h)

/-- The last character that was scanned led to the state. -/
theorem Scans.entered (h : Scans state here (a ++ [c]) ts next) :
    ∃ mid ts₁ ts₂, ts = ts₁ ++ ts₂ ∧ Scans state here a ts₁ mid
      ∧ mid.Entered c ts₂ next := by
  obtain ⟨mid, ts₁, ts₂, rfl, ha, hc⟩ := h.split
  cases hc with
  | @cons _ _ _ _ _ _ tokens tokens' hstep hrest =>
      cases hrest
      refine ⟨mid, ts₁, tokens, ?_, ha, step_entered hstep⟩
      rw [List.append_nil]

/-- No token is completed from the bracket of what begins like a comment
on. -/
theorem Scans.of_bang
    (h : Scans state here (a ++ ['!']) ts (.bang start)) :
    ∃ mid, Scans state here a ts mid := by
  obtain ⟨mid, ts₁, ts₂, rfl, hscan, hentered⟩ := h.entered
  replace hentered : ts₂ = [] := hentered
  rw [hentered, List.append_nil]
  exact ⟨mid, hscan⟩

theorem Scans.of_bangDash
    (h : Scans state here (a ++ ['!'] ++ ['-']) ts (.bangDash start)) :
    ∃ mid, Scans state here a ts mid := by
  obtain ⟨mid, ts₁, ts₂, rfl, hscan, hentered⟩ := h.entered
  obtain ⟨rfl, rfl⟩ : ts₂ = [] ∧ mid = .bang start := hentered
  rw [List.append_nil]
  exact hscan.of_bang

/-- Nor at a slash in a value. -/
theorem Scans.of_bareSlash {last : Position}
    (h : Scans state here (a ++ ['/']) ts (.bareSlash start chars last)) :
    ∃ mid, Scans state here a ts mid := by
  obtain ⟨mid, ts₁, ts₂, rfl, hscan, hentered⟩ := h.entered
  replace hentered : ts₂ = [] := hentered
  rw [hentered, List.append_nil]
  exact ⟨mid, hscan⟩

end

-- ======================================================== what surprises

/-- Between where a lexeme could have begun and where it is clear whether
it has. -/
def ScanState.Undecided : ScanState → Prop
  | .bang _ | .bangDash _ | .bareSlash _ _ _ => True
  | .text _ _ | .angle _ | .comment _ _ | .closingName _ _
  | .closingEnd _ _ | .openingName _ _ | .tag | .slash _ | .attrName _ _
  | .value | .quoted _ _ _ | .bare _ _ => False

section

variable {region : Region} {source before part rest : List Char}
  {state : ScanState} {found : List Placed} {what : Surprise}
  {here pos : Position} {c : Char}

/-- Where a part of an opening tag is expected. -/
theorem stepTag_foreign
    (h : ScanState.stepTag here c = .error ⟨.unexpected what, pos⟩) :
    what = .character c ∧ pos = here ∧ Foreign c := by
  unfold ScanState.stepTag at h
  split at h
  case isTrue => cases h
  split at h
  case isTrue => cases h
  split at h
  case isTrue => cases h
  split at h
  case isTrue => cases h
  split at h
  case isTrue => cases h
  case isFalse hblank hend hslash hequals hname =>
    cases h
    refine ⟨rfl, rfl, by simpa using hblank, by simpa using hname, ?_⟩
    simp [hend, hslash, hequals]

theorem nameStep_foreign {t : Placed}
    (h : (do
      let (tokens, next) ← ScanState.stepTag here c
      .ok (t :: tokens, next) :
        Except MarkupError (List Placed × ScanState))
      = .error ⟨.unexpected what, pos⟩) :
    what = .character c ∧ pos = here ∧ Foreign c := by
  cases hstep : ScanState.stepTag here c with
  | error e' =>
      rw [hstep] at h
      cases h
      exact stepTag_foreign hstep
  | ok found =>
      rw [hstep] at h
      cases h

/-- Behind the name of a closing tag. -/
theorem closingEnd_misfit {gap name blanks : List Char} {start : Position}
    (hgap : Comments gap) (hname : IsName name) (hblanks : Blanks blanks)
    (hmore : blanks = [] → ∀ c ∈ rest.head?, isNameChar c = false)
    (h : (ScanState.closingEnd start name.reverse).Stops here
      ⟨.unexpected what, pos⟩ rest) :
    Misfit what .outside (gap ++ ('<' :: '/' :: name ++ blanks)) rest
      ∧ pos = here.advance (what.overrun rest) := by
  have hwritten : written name.reverse = String.ofList name := by
    rw [written, List.reverse_reverse]
  cases rest with
  | nil =>
      cases h
      rw [hwritten]
      exact ⟨.closingEnd hgap hname hblanks (fun heq => by cases heq)
        (fun _ hc => by cases hc) hmore, rfl⟩
  | cons c rest =>
      simp only [ScanState.Stops, ScanState.step,
        ScanState.step.stepClosingEnd] at h
      split at h
      case isTrue => cases h
      split at h
      case isTrue => cases h
      case isFalse hblank hend =>
        cases h
        rw [hwritten]
        refine ⟨.closingEnd hgap hname hblanks ?_ ?_ hmore, rfl⟩
        · exact fun heq => hend (Option.some.inj heq)
        · intro c' hc'
          cases hc'
          simpa using hblank

/-- Behind the bracket of a tag. -/
theorem angle_misfit {gap : List Char} {start : Position}
    (hgap : Comments gap)
    (h : (ScanState.angle start).Stops here ⟨.unexpected what, pos⟩ rest) :
    Misfit what .outside (gap ++ ['<']) rest
      ∧ pos = here.advance (what.overrun rest) := by
  cases rest with
  | nil =>
      cases h
      exact ⟨.tagName hgap (fun _ hc => nomatch hc)
        (fun heq => nomatch heq) (fun h => nomatch h.length_le), rfl⟩
  | cons c rest =>
      simp only [ScanState.Stops, ScanState.step] at h
      split at h
      case isTrue => cases h
      split at h
      case isTrue => cases h
      split at h
      case isTrue => cases h
      case isFalse hslash hbang hname =>
        cases h
        refine ⟨.tagName hgap ?_ ?_ ?_, rfl⟩
        · intro c' hc'
          cases hc'
          simpa using hname
        · exact fun heq => hslash (Option.some.inj heq)
        · rintro ⟨more, heq⟩
          cases heq
          exact hbang rfl

/-- In the name of a closing tag. -/
theorem closingName_misfit {gap name : List Char} {start : Position}
    (hgap : Comments gap) (hname : ∀ c ∈ name, isNameChar c = true)
    (h : (ScanState.closingName start name.reverse).Stops here
      ⟨.unexpected what, pos⟩ rest) :
    Misfit what .outside (gap ++ '<' :: '/' :: name) rest
      ∧ pos = here.advance (what.overrun rest) := by
  -- no name has begun, or the scan stops as behind the name
  have hmisfit : (∀ c ∈ rest.head?, isNameChar c = false) →
      name = [] ∧ what = .noTagName ∧ pos = here
        ∨ name ≠ [] ∧ (ScanState.closingEnd start name.reverse).Stops here
          ⟨.unexpected what, pos⟩ rest →
      Misfit what .outside (gap ++ '<' :: '/' :: name) rest
        ∧ pos = here.advance (what.overrun rest) := by
    rintro hrest (⟨rfl, rfl, rfl⟩ | ⟨hne, hstops⟩)
    · exact ⟨.closingName hgap hrest, rfl⟩
    · have hend := closingEnd_misfit hgap ⟨hne, hname⟩
        (List.forall_mem_nil _) (fun _ => hrest) hstops
      rw [List.append_nil] at hend
      exact hend
  cases rest with
  | nil =>
      refine hmisfit (fun _ hc => nomatch hc) ?_
      simp only [ScanState.Stops, ScanState.finish] at h
      split at h
      case isTrue hempty =>
        cases h
        rw [List.isEmpty_reverse, List.isEmpty_iff] at hempty
        exact .inl ⟨hempty, rfl, rfl⟩
      case isFalse hne =>
        rw [List.isEmpty_reverse, List.isEmpty_iff] at hne
        exact .inr ⟨hne, h⟩
  | cons c rest =>
      simp only [ScanState.Stops, ScanState.step] at h
      split at h
      case isTrue => cases h
      case isFalse hc =>
        refine hmisfit (fun c' hc' => ?_) ?_
        · cases hc'
          simpa using hc
        split at h
        case isTrue hempty =>
          cases h
          rw [List.isEmpty_reverse, List.isEmpty_iff] at hempty
          exact .inl ⟨hempty, rfl, rfl⟩
        case isFalse hne =>
          rw [List.isEmpty_reverse, List.isEmpty_iff] at hne
          exact .inr ⟨hne, h⟩

/-- In a tag, behind a slash. -/
theorem slash_misfit {blanks : List Char} {start : Position}
    (hblanks : Blanks blanks)
    (h : (ScanState.slash start).Stops here ⟨.unexpected what, pos⟩ rest) :
    Misfit what .tag (blanks ++ ['/']) rest
      ∧ pos = here.advance (what.overrun rest) := by
  cases rest with
  | nil =>
      cases h
      exact ⟨.afterSlash hblanks (fun heq => nomatch heq), rfl⟩
  | cons c rest =>
      simp only [ScanState.Stops, ScanState.step] at h
      split at h
      case isTrue => cases h
      case isFalse hend =>
        cases h
        exact ⟨.afterSlash hblanks fun heq => hend (Option.some.inj heq),
          rfl⟩

/-- Behind an equals sign. -/
theorem value_misfit {blanks : List Char} (hblanks : Blanks blanks)
    (h : ScanState.value.Stops here ⟨.unexpected what, pos⟩ rest) :
    Misfit what .value blanks rest
      ∧ pos = here.advance (what.overrun rest) := by
  cases rest with
  | nil => cases h
  | cons c rest =>
      simp only [ScanState.Stops, ScanState.step] at h
      split at h
      case isTrue => cases h
      split at h
      case isTrue => cases h
      split at h
      case isTrue hend =>
        cases h
        rw [hend]
        exact ⟨.noValue hblanks (.inl ⟨rest, rfl⟩), rfl⟩
      case isFalse => cases h

/-- A name in a tag, and what comes behind it. -/
theorem name_misfit {t : Placed}
    (hmisfit : ∀ c rest, Foreign c →
      Misfit (.character c) region part (c :: rest))
    (h : (if isNameChar c = true then .ok ([], state)
      else do
        let (tokens, next) ← ScanState.stepTag here c
        .ok (t :: tokens, next) :
          Except MarkupError (List Placed × ScanState))
      = .error ⟨.unexpected what, pos⟩) :
    Misfit what region part (c :: rest)
      ∧ pos = here.advance (what.overrun (c :: rest)) := by
  split at h
  case isTrue => cases h
  case isFalse =>
    obtain ⟨rfl, rfl, hc⟩ := nameStep_foreign h
    exact ⟨hmisfit c rest hc, rfl⟩

/-- Where it is clear what has begun, the scan stops at the character that
does not belong there. -/
theorem Pending.misfit (h : Pending before region part state)
    (hscan : Scans (ScanState.outside .start) .start (before ++ part)
      found state)
    (hdecided : ¬ state.Undecided)
    (hstops : state.Stops here ⟨.unexpected what, pos⟩ rest) :
    Misfit what region part rest
      ∧ pos = here.advance (what.overrun rest) := by
  cases h with
  | text | comment | quoted =>
      cases rest with
      | nil => cases hstops
      | cons c rest =>
          simp only [ScanState.Stops, ScanState.step] at hstops
          repeat' split at hstops
          all_goals cases hstops
  | bang | bangDash | bareSlash => exact absurd trivial hdecided
  | angle hgap => exact angle_misfit hgap hstops
  | closingName hgap hname => exact closingName_misfit hgap hname hstops
  | @closingEnd gap name blanks hgap hname hblanks =>
      refine closingEnd_misfit hgap hname hblanks (fun hnone => ?_) hstops
      -- white space has led here, and not the last character of the name
      exfalso
      obtain ⟨stem, last, hlast⟩ : ∃ stem last, name = stem ++ [last] :=
        ⟨_, _, (List.dropLast_concat_getLast hname.ne_nil).symm⟩
      have hread : before ++ (gap ++ ('<' :: '/' :: name ++ blanks))
          = before ++ (gap ++ '<' :: '/' :: stem) ++ [last] := by
        rw [hnone, hlast]
        simp
      rw [hread] at hscan
      obtain ⟨_, _, _, _, _, hblank⟩ := hscan.entered
      replace hblank : Text.isBlank last = true := hblank
      have hnot := not_isBlank_of_nameChar (hname.chars last (by
        rw [hlast]
        exact List.mem_append_right stem (List.mem_singleton_self last)))
      rw [hblank] at hnot
      cases hnot
  | openingName hgap hname =>
      cases rest with
      | nil => cases hstops
      | cons c rest =>
          exact name_misfit (fun _ _ => .behindOpening hgap hname) hstops
  | tag hblanks =>
      cases rest with
      | nil => cases hstops
      | cons c rest =>
          obtain ⟨rfl, rfl, hc⟩ := stepTag_foreign hstops
          exact ⟨.inTag hblanks hc, rfl⟩
  | slash hblanks => exact slash_misfit hblanks hstops
  | attrName hblanks hname =>
      cases rest with
      | nil => cases hstops
      | cons c rest =>
          exact name_misfit (fun _ _ => .behindName hblanks hname) hstops
  | value hblanks => exact value_misfit hblanks hstops
  | bare =>
      cases rest with
      | nil | cons => cases hstops

/-- A comment that has begun has to go on with a dash. -/
theorem bang_stops {start : Position}
    (h : (ScanState.bang start).Stops here ⟨.unexpected what, pos⟩ rest
      ∨ (ScanState.bangDash start).Stops here ⟨.unexpected what, pos⟩
        rest) :
    what = .noTagName ∧ pos = start.next '<' ∧ ¬ ['-'] <+: rest := by
  cases rest with
  | nil =>
      rcases h with h | h
      all_goals
        cases h
        exact ⟨rfl, rfl, by decide⟩
  | cons c rest =>
      simp only [ScanState.Stops, ScanState.step] at h
      rcases h with h | h
      all_goals
        split at h
        case isTrue => cases h
        case isFalse hc =>
          cases h
          refine ⟨rfl, rfl, ?_⟩
          rintro ⟨more, heq⟩
          cases heq
          exact hc rfl

/-- What begins like a comment and is none surprises where it begins. -/
theorem surprisesAt_bang {gap ahead : List Char} (hgap : Comments gap)
    (hlayout : Layout .outside [] before found .outside)
    (hscan : Scans (ScanState.outside .start) .start
      (before ++ (gap ++ ['<'])) found state)
    (hcomment : ¬ ['!', '-', '-'] <+: '!' :: ahead) :
    ∃ read left,
      SurprisesAt (before ++ (gap ++ '<' :: '!' :: ahead)) .noTagName
        read left
      ∧ (place (before ++ gap)).next '<'
        = place (read ++ Surprise.noTagName.overrun left) := by
  refine ⟨before ++ (gap ++ ['<']), '!' :: ahead,
    .mk ?_ hlayout hscan (.tagName hgap ?_ ?_ hcomment), ?_⟩
  · simp
  · intro c hc
    cases hc
    exact not_nameChar_marks (by decide)
  · exact fun heq => absurd (Option.some.inj heq) (by decide)
  · rw [Surprise.overrun, List.append_nil, ← List.append_assoc,
      place_concat]

/-- A slash and a bracket in place of a value surprise at the slash. -/
theorem surprisesAt_noValue {blanks ahead : List Char}
    (hblanks : Blanks blanks)
    (hlayout : Layout .outside [] before found .value)
    (hscan : Scans (ScanState.outside .start) .start (before ++ blanks)
      found state) :
    ∃ read left,
      SurprisesAt (before ++ (blanks ++ '/' :: '>' :: ahead)) .noValue
        read left
      ∧ place (before ++ blanks)
        = place (read ++ Surprise.noValue.overrun left) := by
  refine ⟨before ++ blanks, '/' :: '>' :: ahead,
    .mk ?_ hlayout hscan (.noValue hblanks (.inr ⟨ahead, rfl⟩)), ?_⟩
  · rw [List.append_assoc]
  · rw [Surprise.overrun, List.append_nil]

/-- A scan that is stopped by a surprise has come to it, or a little
further. -/
theorem Pending.surprisesAt (h : Pending before region part state)
    (hlayout : Layout .outside [] before found region)
    (hscan : Scans (ScanState.outside .start) .start (before ++ part)
      found state)
    (hstops : state.Stops (place (before ++ part))
      ⟨.unexpected what, pos⟩ rest) :
    ∃ read left, SurprisesAt (before ++ (part ++ rest)) what read left
      ∧ pos = place (read ++ what.overrun left) := by
  have hdecided : ¬ state.Undecided →
      ∃ read left, SurprisesAt (before ++ (part ++ rest)) what read left
        ∧ pos = place (read ++ what.overrun left) := by
    intro hdecided
    obtain ⟨hmisfit, rfl⟩ := h.misfit hscan hdecided hstops
    exact ⟨_, rest, .mk (List.append_assoc ..).symm hlayout hscan hmisfit,
      (place_append _ _).symm⟩
  cases h with
  | @bang gap hgap =>
      obtain ⟨rfl, rfl, hdash⟩ := bang_stops (.inl hstops)
      have hread : before ++ (gap ++ ['<', '!'])
          = before ++ (gap ++ ['<']) ++ ['!'] := by
        simp
      rw [hread] at hscan
      obtain ⟨mid, hscan'⟩ := hscan.of_bang
      have hcomment : ¬ ['!', '-', '-'] <+: '!' :: rest := by
        rintro ⟨more, heq⟩
        cases heq
        exact hdash ⟨'-' :: more, rfl⟩
      rw [List.append_assoc gap]
      exact surprisesAt_bang hgap hlayout hscan' hcomment
  | @bangDash gap hgap =>
      obtain ⟨rfl, rfl, hdash⟩ := bang_stops (.inr hstops)
      have hread : before ++ (gap ++ ['<', '!', '-'])
          = before ++ (gap ++ ['<']) ++ ['!'] ++ ['-'] := by
        simp
      rw [hread] at hscan
      obtain ⟨mid, hscan'⟩ := hscan.of_bangDash
      have hcomment : ¬ ['!', '-', '-'] <+: '!' :: '-' :: rest := by
        rintro ⟨more, heq⟩
        cases heq
        exact hdash ⟨more, rfl⟩
      rw [List.append_assoc gap]
      exact surprisesAt_bang hgap hlayout hscan' hcomment
  | @bareSlash blanks chars hblanks hchars =>
      cases rest with
      | nil => cases hstops
      | cons c rest =>
          simp only [ScanState.Stops, ScanState.step] at hstops
          split at hstops
          case isFalse => cases hstops
          case isTrue hc =>
            split at hstops
            case isFalse => cases hstops
            case isTrue hempty =>
              -- nothing but the slash has been read of a value
              cases hstops
              rw [List.isEmpty_reverse, List.isEmpty_iff] at hempty
              have hread : before ++ (blanks ++ (chars ++ ['/']))
                  = before ++ blanks ++ ['/'] := by
                rw [hempty, List.append_assoc]
                rfl
              rw [hread] at hscan
              obtain ⟨mid, hscan'⟩ := hscan.of_bareSlash
              rw [hc, hempty, List.append_nil, List.append_assoc blanks]
              exact surprisesAt_noValue hblanks hlayout hscan'
  | text | angle | comment | closingName | closingEnd | openingName | tag
  | slash | attrName | value | quoted | bare => exact hdecided id

end

/-- When a character of a source surprises, or its end, the place of the
error is that of the character, or of the end. Where it is the bracket of
a closing tag that is missing, or the one behind a slash, the error stands
behind the character that was found instead. -/
theorem tokens?_surprise_reported {source : String} {what : Surprise}
    {pos : Position}
    (h : tokens? source = .error ⟨.unexpected what, pos⟩) :
    ∃ read left, SurprisesAt source.toList what read left
      ∧ pos = place (read ++ what.overrun left) := by
  rw [tokens?_eq] at h
  obtain ⟨a, b, found, state, hsource, hscan, hstops⟩ := exists_stops h
  obtain ⟨before, part, region, rfl, hlayout, hpending⟩ := hscan.advances
  rw [advance_start] at hstops
  rw [List.nil_append] at hpending
  rw [hsource, List.append_assoc]
  exact hpending.surprisesAt hlayout hscan hstops

/-- A sign that belongs in no tag, on the second line. -/
theorem tokens?_surprise_reported_sign :
    tokens? "<a\n @>" = .error ⟨.unexpected (.character '@'), ⟨2, 2⟩⟩
      ∧ ∃ read left, SurprisesAt "<a\n @>".toList (.character '@') read left
        ∧ (⟨2, 2⟩ : Position) = place (read ++ []) := by
  have htokens : tokens? "<a\n @>"
      = .error ⟨.unexpected (.character '@'), ⟨2, 2⟩⟩ := by rfl
  exact ⟨htokens, tokens?_surprise_reported htokens⟩

/-- A letter where the closing tag should end, and one where the opening
tag should end behind a slash. -/
theorem surprise_reported_behind :
    (tokens? "</a b>" = .error ⟨.unexpected (.inClosing "a"), ⟨1, 6⟩⟩
      ∧ ∀ read left,
        SurprisesAt "</a b>".toList (.inClosing "a") read left →
        place read = ⟨1, 5⟩)
    ∧ tokens? "<a/b>" = .error ⟨.unexpected .afterSlash, ⟨1, 5⟩⟩
      ∧ ∀ read left, SurprisesAt "<a/b>".toList .afterSlash read left →
        place read = ⟨1, 4⟩ := by
  refine ⟨⟨rfl, fun read left h => ?_⟩, rfl, fun read left h => ?_⟩
  · obtain @⟨before, part, _, _, _, _, hsource, -, -, hmisfit⟩ := h
    generalize hwhat : Surprise.inClosing "a" = what at hmisfit
    cases hmisfit with
    | @closingEnd gap name blanks _ hgap hname hblanks hend hblank _ =>
        have hsplit : [] ++ '<' :: ['/', 'a', ' ', 'b', '>']
            = before ++ gap ++ '<' :: ('/' :: name ++ blanks ++ left) := by
          simpa using hsource
        obtain ⟨hnone, -, hrest⟩ :=
          (List.append_cons_inj_of_notMem (by decide) (by decide)).mp hsplit
        obtain ⟨rfl, rfl⟩ := List.append_eq_nil_iff.mp hnone.symm
        obtain rfl : name = ['a'] := by
          rw [← String.toList_ofList (l := name),
            ← Surprise.inClosing.inj hwhat]
          rfl
        have hleft : ' ' :: ['b', '>'] = blanks ++ left := by
          simpa using hrest
        rcases List.cons_eq_append_iff.mp hleft with
          ⟨rfl, rfl⟩ | ⟨more, rfl, hbehind⟩
        · exact absurd (hblank ' ' rfl) (by decide)
        · rcases List.cons_eq_append_iff.mp hbehind with
            ⟨rfl, rfl⟩ | ⟨_, rfl, -⟩
          · rfl
          · exact absurd (hblanks 'b' (by simp)) (by decide)
    | _ => cases hwhat
  · obtain @⟨before, part, _, _, _, _, hsource, -, -, hmisfit⟩ := h
    cases hmisfit with
    | @afterSlash blanks _ hblanks hend =>
        have hsplit : ['<', 'a'] ++ '/' :: ['b', '>']
            = before ++ blanks ++ '/' :: left := by
          simpa using hsource
        obtain ⟨hread, -, -⟩ :=
          (List.append_cons_inj_of_notMem (by decide) (by decide)).mp hsplit
        rw [← List.append_assoc, ← hread]
        rfl

end EntityMarkup
