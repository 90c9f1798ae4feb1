/-
Which tokens a scan is in the middle of. A step completes tokens that the
state has begun (`ScanState.Begun`) or that begin with the character
itself (`ScanState.Begins`), and what the next state has begun is of the
same kinds. So of the tokens that are found from a place on, those that
stand before it are begun by the state there, and the others stand there
or behind (`tokensFrom?_begun`).
-/
import EntityMarkup.Proofs.Markup.Fitting

namespace EntityMarkup

open ScanState (outside textToken)

theorem Position.Before.irrefl (p : Position) : ¬ p.Before p := by
  unfold Position.Before
  omega

-- ===================================================== tokens begun before

/-- The tokens that a state may be in the middle of. -/
inductive ScanState.Begun : ScanState → Placed → Prop
  | text (start : Position) (run : List Char) (text : String) :
      Begun (.text start run) ⟨.text text, start⟩
  | opening (start : Position) (name : String) :
      Begun (.angle start) ⟨.opening name, start⟩
  | closing (start : Position) (name : String) :
      Begun (.angle start) ⟨.closing name, start⟩
  | closingName (start : Position) (before : List Char) (name : String) :
      Begun (.closingName start before) ⟨.closing name, start⟩
  | closingEnd (start : Position) (before : List Char) (name : String) :
      Begun (.closingEnd start before) ⟨.closing name, start⟩
  | openingName (start : Position) (before : List Char) (name : String) :
      Begun (.openingName start before) ⟨.opening name, start⟩
  | slash (start : Position) : Begun (.slash start) ⟨.selfClose, start⟩
  | attrName (start : Position) (before : List Char) (name : String) :
      Begun (.attrName start before) ⟨.attrName name, start⟩
  | quoted (start : Position) (quote : Char) (chars : List Char)
      (value : String) :
      Begun (.quoted start quote chars) ⟨.value value, start⟩
  | bare (start : Position) (chars : List Char) (value : String) :
      Begun (.bare start chars) ⟨.value value, start⟩
  | bareSlash (start : Position) (chars : List Char) (last : Position)
      (value : String) :
      Begun (.bareSlash start chars last) ⟨.value value, start⟩
  | bareEnd (start : Position) (chars : List Char) (last : Position) :
      Begun (.bareSlash start chars last) ⟨.selfClose, last⟩

/-- The token begins with a character, or with the text behind it. A value
begins behind an equals sign only. -/
structure ScanState.Begins (state : ScanState) (here : Position) (c : Char)
    (t : Placed) : Prop where
  pos : t.pos = here ∨ t.pos = here.next c
  value : ∀ value, t.token = .value value → state = .value

section

variable {here start last : Position} {c : Char} {state next : ScanState}
  {chars name rest : List Char} {ts : List Placed} {t : Placed}

theorem stepTag_begins (h : ScanState.stepTag here c = .ok (ts, next))
    (ht : t ∈ ts ∨ next.Begun t) (state : ScanState) :
    state.Begins here c t := by
  unfold ScanState.stepTag at h
  split at h
  case isTrue =>
    cases h
    rcases ht with ht | ht <;> cases ht
  split at h
  case isTrue =>
    cases h
    rcases ht with ht | ht
    · cases List.mem_singleton.mp ht
      exact ⟨.inl rfl, fun _ heq => nomatch heq⟩
    · cases ht
      exact ⟨.inr rfl, fun _ heq => nomatch heq⟩
  split at h
  case isTrue =>
    cases h
    rcases ht with ht | ht <;> cases ht
    exact ⟨.inl rfl, fun _ heq => nomatch heq⟩
  split at h
  case isTrue =>
    cases h
    rcases ht with ht | ht
    · cases List.mem_singleton.mp ht
      exact ⟨.inl rfl, fun _ heq => nomatch heq⟩
    · cases ht
  split at h
  case isTrue =>
    cases h
    rcases ht with ht | ht <;> cases ht
    exact ⟨.inl rfl, fun _ heq => nomatch heq⟩
  case isFalse => cases h

/-- In a name of a tag or an attribute: it goes on, or the token that it
belongs to is complete. -/
theorem stepName_begun {first : Placed} {goesOn : ScanState}
    (hfirst : state.Begun first)
    (hgoesOn : goesOn.Begun t → state.Begun t)
    (h : (if isNameChar c = true then .ok ([], goesOn)
      else do
        let (tokens, next) ← ScanState.stepTag here c
        .ok (first :: tokens, next)) = Except.ok (ts, next))
    (ht : t ∈ ts ∨ next.Begun t) :
    state.Begun t ∨ state.Begins here c t := by
  split at h
  case isTrue =>
    cases h
    rcases ht with ht | ht
    · cases ht
    · exact .inl (hgoesOn ht)
  case isFalse =>
    cases hstep : ScanState.stepTag here c with
    | error e =>
        rw [hstep] at h
        cases h
    | ok found =>
        obtain ⟨tokens, last⟩ := found
        rw [hstep] at h
        cases h
        rcases ht with ht | ht
        · rcases List.mem_cons.mp ht with rfl | ht
          · exact .inl hfirst
          · exact .inr (stepTag_begins hstep (.inl ht) state)
        · exact .inr (stepTag_begins hstep (.inr ht) state)

theorem stepClosingEnd_begun
    (hclosing : ∀ name, state.Begun ⟨.closing name, start⟩)
    (h : ScanState.step.stepClosingEnd start name here c = .ok (ts, next))
    (ht : t ∈ ts ∨ next.Begun t) :
    state.Begun t ∨ state.Begins here c t := by
  unfold ScanState.step.stepClosingEnd at h
  split at h
  case isTrue =>
    cases h
    rcases ht with ht | ht <;> cases ht
    exact .inl (hclosing _)
  split at h
  case isTrue =>
    cases h
    rcases ht with ht | ht
    · cases List.mem_singleton.mp ht
      exact .inl (hclosing _)
    · cases ht
      exact .inr ⟨.inr rfl, fun _ heq => nomatch heq⟩
  case isFalse => cases h

theorem stepBare_begun
    (hvalue : ∀ value, state.Begun ⟨.value value, start⟩
      ∨ start = here ∧ state = .value)
    (h : ScanState.stepBare start chars here c = (ts, next))
    (ht : t ∈ ts ∨ next.Begun t) :
    state.Begun t ∨ state.Begins here c t := by
  have hbegun : ∀ value, state.Begun ⟨.value value, start⟩
      ∨ state.Begins here c ⟨.value value, start⟩ := fun value =>
    (hvalue value).imp_right fun h => ⟨.inl h.1, fun _ _ => h.2⟩
  unfold ScanState.stepBare at h
  dsimp only at h
  split at h
  case isTrue =>
    cases h
    rcases ht with ht | ht
    · cases List.mem_singleton.mp ht
      exact hbegun _
    · cases ht
  split at h
  case isTrue =>
    cases h
    rcases ht with ht | ht
    · rcases List.mem_cons.mp ht with rfl | ht
      · exact hbegun _
      · cases List.mem_singleton.mp ht
        exact .inr ⟨.inl rfl, fun _ heq => nomatch heq⟩
    · cases ht
      exact .inr ⟨.inr rfl, fun _ heq => nomatch heq⟩
  split at h
  case isTrue =>
    cases h
    rcases ht with ht | ht <;> cases ht
    · exact hbegun _
    · exact .inr ⟨.inl rfl, fun _ heq => nomatch heq⟩
  case isFalse =>
    cases h
    rcases ht with ht | ht <;> cases ht
    exact hbegun _

theorem stepText_begun
    (h : (ScanState.text start chars).step here c = .ok (ts, next))
    (ht : t ∈ ts ∨ next.Begun t) :
    (ScanState.text start chars).Begun t
      ∨ (ScanState.text start chars).Begins here c t := by
  simp only [ScanState.step] at h
  split at h
  case isTrue =>
    cases h
    rcases ht with ht | ht
    · unfold textToken at ht
      split at ht
      · cases ht
      · cases List.mem_singleton.mp ht
        exact .inl (.text ..)
    · cases ht
      · exact .inr ⟨.inl rfl, fun _ heq => by cases heq⟩
      · exact .inr ⟨.inl rfl, fun _ heq => by cases heq⟩
  case isFalse =>
    cases h
    rcases ht with ht | ht <;> cases ht
    exact .inl (.text ..)

/-- Behind an angle bracket a tag goes on, or a comment begins, which is no
token. -/
theorem stepAngle_begun
    (h : (ScanState.angle start).step here c = .ok (ts, next))
    (ht : t ∈ ts ∨ next.Begun t) : (ScanState.angle start).Begun t := by
  simp only [ScanState.step] at h
  split at h
  case isTrue =>
    cases h
    rcases ht with ht | ht <;> cases ht
    exact .closing ..
  split at h
  case isTrue =>
    cases h
    rcases ht with ht | ht <;> cases ht
  split at h
  case isTrue =>
    cases h
    rcases ht with ht | ht <;> cases ht
    exact .opening ..
  case isFalse => cases h

/-- In a comment there are no tokens; behind it there is text. -/
theorem stepComment_begun {dashes : Nat}
    (h : (ScanState.comment start dashes).step here c = .ok (ts, next))
    (ht : t ∈ ts ∨ next.Begun t) :
    (ScanState.comment start dashes).Begins here c t := by
  simp only [ScanState.step] at h
  split at h
  case isTrue =>
    cases h
    rcases ht with ht | ht <;> cases ht
  split at h
  case isTrue =>
    cases h
    rcases ht with ht | ht <;> cases ht
    exact ⟨.inr rfl, fun _ heq => by cases heq⟩
  case isFalse =>
    cases h
    rcases ht with ht | ht <;> cases ht

theorem stepClosingName_begun
    (h : (ScanState.closingName start name).step here c = .ok (ts, next))
    (ht : t ∈ ts ∨ next.Begun t) :
    (ScanState.closingName start name).Begun t
      ∨ (ScanState.closingName start name).Begins here c t := by
  simp only [ScanState.step] at h
  split at h
  case isTrue =>
    cases h
    rcases ht with ht | ht <;> cases ht
    exact .inl (.closingName ..)
  split at h
  case isTrue => cases h
  case isFalse =>
    exact stepClosingEnd_begun (fun _ => .closingName ..) h ht

theorem stepSlash_begun
    (h : (ScanState.slash start).step here c = .ok (ts, next))
    (ht : t ∈ ts ∨ next.Begun t) :
    (ScanState.slash start).Begun t
      ∨ (ScanState.slash start).Begins here c t := by
  simp only [ScanState.step] at h
  split at h <;> cases h
  rcases ht with ht | ht
  · cases List.mem_singleton.mp ht
    exact .inl (.slash start)
  · cases ht
    exact .inr ⟨.inr rfl, fun _ heq => by cases heq⟩

/-- Behind an equals sign a value begins, if not white space. -/
theorem stepValue_begun (h : ScanState.value.step here c = .ok (ts, next))
    (ht : t ∈ ts ∨ next.Begun t) :
    ScanState.value.Begun t ∨ ScanState.value.Begins here c t := by
  simp only [ScanState.step] at h
  split at h
  case isTrue =>
    cases h
    rcases ht with ht | ht <;> cases ht
  split at h
  case isTrue =>
    cases h
    rcases ht with ht | ht <;> cases ht
    exact .inr ⟨.inl rfl, fun _ _ => rfl⟩
  split at h
  case isTrue => cases h
  case isFalse =>
    exact stepBare_begun (fun _ => .inr ⟨rfl, rfl⟩) (Except.ok.inj h) ht

theorem stepQuoted_begun {quote : Char}
    (h : (ScanState.quoted start quote chars).step here c
      = .ok (ts, next)) (ht : t ∈ ts ∨ next.Begun t) :
    (ScanState.quoted start quote chars).Begun t := by
  simp only [ScanState.step] at h
  split at h
  case isTrue =>
    cases h
    rcases ht with ht | ht
    · cases List.mem_singleton.mp ht
      exact .quoted ..
    · cases ht
  case isFalse =>
    cases h
    rcases ht with ht | ht <;> cases ht
    exact .quoted ..

/-- Behind a slash in a value the tag may end, and then the slash belongs
to the end. -/
theorem stepBareSlash_begun
    (h : (ScanState.bareSlash start chars last).step here c
      = .ok (ts, next)) (ht : t ∈ ts ∨ next.Begun t) :
    (ScanState.bareSlash start chars last).Begun t
      ∨ (ScanState.bareSlash start chars last).Begins here c t := by
  simp only [ScanState.step] at h
  split at h
  case isTrue =>
    split at h <;> cases h
    rcases ht with ht | ht
    · rcases List.mem_cons.mp ht with rfl | ht
      · exact .inl (.bareSlash ..)
      · cases List.mem_singleton.mp ht
        exact .inl (.bareEnd ..)
    · cases ht
      exact .inr ⟨.inr rfl, fun _ heq => by cases heq⟩
  case isFalse =>
    exact stepBare_begun (fun _ => .inl (.bareSlash ..))
      (Except.ok.inj h) ht

/-- What a step completes, and what it leaves the scan in the middle of,
the scan was in the middle of before, or else it begins. -/
theorem step_begun (h : state.step here c = .ok (ts, next))
    (ht : t ∈ ts ∨ next.Begun t) :
    state.Begun t ∨ state.Begins here c t := by
  cases state with
  | text start run => exact stepText_begun h ht
  | angle start => exact .inl (stepAngle_begun h ht)
  | bang start | bangDash start =>
      simp only [ScanState.step] at h
      split at h <;> cases h
      rcases ht with ht | ht <;> cases ht
  | comment start dashes => exact .inr (stepComment_begun h ht)
  | closingName start name => exact stepClosingName_begun h ht
  | closingEnd start name =>
      exact stepClosingEnd_begun (fun _ => .closingEnd ..) h ht
  | openingName start name =>
      refine stepName_begun (.openingName start name _) (fun ht => ?_) h ht
      cases ht
      exact .openingName ..
  | tag => exact .inr (stepTag_begins h ht _)
  | slash start => exact stepSlash_begun h ht
  | attrName start name =>
      refine stepName_begun (.attrName start name _) (fun ht => ?_) h ht
      cases ht
      exact .attrName ..
  | value => exact stepValue_begun h ht
  | quoted start quote chars => exact .inl (stepQuoted_begun h ht)
  | bare start chars =>
      exact stepBare_begun (fun _ => .inl (.bare ..)) (Except.ok.inj h) ht
  | bareSlash start chars last => exact stepBareSlash_begun h ht

/-- The first character of the rest, when there are tokens to the end. -/
theorem exists_step (h : tokensFrom? state here (c :: rest) = .ok ts) :
    ∃ tokens next more, state.step here c = .ok (tokens, next)
      ∧ tokensFrom? next (here.next c) rest = .ok more
      ∧ ts = tokens ++ more := by
  cases hstep : state.step here c with
  | error e =>
      rw [tokensFrom?_cons_error hstep] at h
      cases h
  | ok found =>
      obtain ⟨tokens, next⟩ := found
      rw [tokensFrom?_cons_ok hstep] at h
      cases hmore : tokensFrom? next (here.next c) rest with
      | error e =>
          rw [hmore] at h
          cases h
      | ok more =>
          rw [hmore] at h
          cases h
          exact ⟨tokens, next, more, rfl, hmore, rfl⟩

/-- The tokens of two runs of characters, read one after the other. -/
theorem exists_left {a b : List Char}
    (h : tokensFrom? state here (a ++ b) = .ok ts) :
    ∃ found left mid, ts = found ++ left ∧ Scans state here a found mid
      ∧ tokensFrom? mid (here.advance a) b = .ok left := by
  induction a generalizing state here ts with
  | nil => exact ⟨[], ts, state, rfl, .nil state here, h⟩
  | cons c a ih =>
      obtain ⟨tokens, next, more, hstep, hmore, rfl⟩ := exists_step h
      obtain ⟨found, left, mid, rfl, hscan, hleft⟩ := ih hmore
      exact ⟨tokens ++ found, left, mid, (List.append_assoc ..).symm,
        .cons hstep hscan, hleft⟩

theorem ScanState.Begins.not_before (h : state.Begins here c t) :
    ¬ t.pos.Before here := by
  intro hbefore
  rcases h.pos with hpos | hpos
  · rw [hpos] at hbefore
    exact Position.Before.irrefl _ hbefore
  · rw [hpos] at hbefore
    exact Position.Before.irrefl _
      (hbefore.trans (Position.before_next here c))

/-- A token that is found from a place on is one that the scan is in the
middle of there, or it stands there or behind. If it is a value and stands
there, it is behind an equals sign. -/
theorem tokensFrom?_begun (h : tokensFrom? state here rest = .ok ts)
    (ht : t ∈ ts) :
    state.Begun t ∨ ¬ t.pos.Before here
      ∧ (t.pos = here → ∀ value, t.token = .value value → state = .value) := by
  induction rest generalizing state here ts with
  | nil =>
      rw [tokensFrom?] at h
      cases hlast : state.finish here with
      | error e =>
          rw [hlast] at h
          cases h
      | ok last =>
          rw [hlast] at h
          cases h
          rcases List.mem_append.mp ht with ht | ht
          · cases state with
            | text start run =>
                cases hlast
                unfold textToken at ht
                split at ht
                · cases ht
                · cases List.mem_singleton.mp ht
                  exact .inl (.text ..)
            | closingName start name =>
                simp only [ScanState.finish] at hlast
                split at hlast <;> cases hlast
            | angle | bang | bangDash | comment | closingEnd | openingName
            | tag | slash | attrName | value | quoted | bare
            | bareSlash => cases hlast
          · cases List.mem_singleton.mp ht
            exact .inr ⟨Position.Before.irrefl here,
              fun _ _ heq => by cases heq⟩
  | cons c rest ih =>
      obtain ⟨tokens, next, more, hstep, hmore, rfl⟩ := exists_step h
      have hnew : t ∈ tokens ∨ next.Begun t →
          state.Begun t ∨ ¬ t.pos.Before here
            ∧ (t.pos = here → ∀ value, t.token = .value value →
              state = .value) := by
        intro hnew
        rcases step_begun hstep hnew with hbegun | hbegins
        · exact .inl hbegun
        · exact .inr ⟨hbegins.not_before, fun _ => hbegins.value⟩
      rcases List.mem_append.mp ht with ht | ht
      · exact hnew (.inl ht)
      rcases ih hmore ht with hbegun | ⟨hbehind, -⟩
      · exact hnew (.inr hbegun)
      · -- it stands behind the character
        have hnext := Position.before_next here c
        refine .inr ⟨fun hbefore => hbehind (hbefore.trans hnext), ?_⟩
        intro hpos
        rw [hpos] at hbehind
        exact absurd hnext hbehind

end

end EntityMarkup
