/-
How an opening tag is scanned. A name or a value without quotes is
complete only when the character behind it is seen. Until then the scan
is in a state that still owes its token (`Owes`), and it pays at white
space or at the end of the tag. So a tag is scanned from one owing state
to the next (`TagPiece`), and nothing has to be known of what follows a
piece but that it is again a piece, or the end of the tag.
-/
import EntityMarkup.Proofs.Markup.Scans

namespace EntityMarkup

open ScanState (written outside)

namespace ScanState

variable (here : Position) {start : Position} {c : Char}
  {name chars : List Char}

-- ================================================ between parts of a tag

theorem stepTag_blank (h : Text.isBlank c = true) :
    stepTag here c = .ok ([], .tag) := by
  rw [stepTag, if_pos h]

theorem stepTag_end :
    stepTag here '>' = .ok ([⟨.tagEnd, here⟩], outside (here.next '>')) := by
  rw [stepTag, if_neg (by decide +kernel), if_pos rfl]

theorem stepTag_slash : stepTag here '/' = .ok ([], .slash here) := by
  rw [stepTag, if_neg (by decide +kernel), if_neg (by decide), if_pos rfl]

theorem stepTag_equals :
    stepTag here '=' = .ok ([⟨.equals, here⟩], .value) := by
  rw [stepTag, if_neg (by decide +kernel), if_neg (by decide),
    if_neg (by decide), if_pos rfl]

theorem stepTag_name (h : isNameChar c = true) :
    stepTag here c = .ok ([], .attrName here [c]) := by
  have hend : c ≠ '>' := nameChar_ne h (not_nameChar_marks (by decide))
  have hslash : c ≠ '/' := nameChar_ne h (not_nameChar_marks (by decide))
  have hequals : c ≠ '=' := nameChar_ne h (not_nameChar_marks (by decide))
  rw [stepTag, not_isBlank_of_nameChar h, if_neg Bool.false_ne_true,
    if_neg hend, if_neg hslash, if_neg hequals, if_pos h]

-- ================================================ values without quotes

/-- In a value without quotes, after these characters, last first. After
a slash the scan remembers its place, in case the tag ends there. -/
inductive InBare (start : Position) : List Char → ScanState → Prop
  | plain {chars : List Char} : chars ≠ [] →
      InBare start chars (.bare start chars)
  | slash (chars : List Char) (last : Position) :
      InBare start ('/' :: chars) (.bareSlash start chars last)

theorem stepBare_char (start : Position) (chars : List Char)
    (h : IsBareChar c) :
    ∃ state, stepBare start chars here c = ([], state)
      ∧ InBare start (c :: chars) state := by
  have hblank : ¬ Text.isBlank c = true := by
    rw [h.not_blank]
    exact Bool.false_ne_true
  unfold stepBare
  rw [if_neg hblank, if_neg h.ne_end]
  by_cases hslash : c = '/'
  · rw [if_pos hslash, hslash]
    exact ⟨_, rfl, .slash chars here⟩
  · rw [if_neg hslash]
    exact ⟨_, rfl, .plain (List.cons_ne_nil _ _)⟩

/-- A value without quotes goes on. -/
theorem InBare.step {state : ScanState} (hstate : InBare start chars state)
    (h : IsBareChar c) :
    ∃ state', state.step here c = .ok ([], state')
      ∧ InBare start (c :: chars) state' := by
  obtain ⟨state', hbare, hin⟩ := stepBare_char here start chars h
  refine ⟨state', ?_, hin⟩
  cases hstate with
  | plain => exact congrArg Except.ok hbare
  | slash before last =>
      show (if c = '>' then _ else Except.ok _) = _
      rw [if_neg h.ne_end]
      exact congrArg Except.ok hbare

/-- White space ends it. -/
theorem InBare.blank {state : ScanState} (hstate : InBare start chars state)
    (h : Text.isBlank c = true) :
    state.step here c = .ok ([⟨.value (written chars), start⟩], .tag) := by
  have hbare : stepBare start chars here c
      = ([⟨.value (written chars), start⟩], .tag) := by
    unfold stepBare
    rw [if_pos h]
  cases hstate with
  | plain => exact congrArg Except.ok hbare
  | slash before last =>
      show (if c = '>' then _ else Except.ok _) = _
      rw [if_neg (isBlank_ne h (not_isBlank_marks (by decide)))]
      exact congrArg Except.ok hbare

/-- So does the end of a tag without a body, which leaves the slash that
belongs to it out. -/
theorem InBare.selfClose {state : ScanState}
    (hstate : InBare start chars state) :
    Scans state here ['/', '>']
      [⟨.value (written chars), start⟩, ⟨.selfClose, here⟩]
      (outside ((here.next '/').next '>')) := by
  have hslash : ∀ before, stepBare start before here '/'
      = ([], .bareSlash start before here) := by
    intro before
    unfold stepBare
    rw [if_neg (by decide +kernel), if_neg (by decide), if_pos rfl]
  have hfirst : state.step here '/'
      = .ok ([], .bareSlash start chars here) := by
    cases hstate with
    | plain => exact congrArg Except.ok (hslash chars)
    | slash before last => exact congrArg Except.ok (hslash _)
  have hne : chars.isEmpty = false := by
    cases hstate with
    | plain hne => exact List.isEmpty_eq_false_iff.mpr hne
    | slash => rfl
  have hlast : ScanState.step (.bareSlash start chars here)
      (here.next '/') '>'
      = .ok ([⟨.value (written chars), start⟩, ⟨.selfClose, here⟩],
        outside ((here.next '/').next '>')) := by
    simp only [ScanState.step, hne]
    rfl
  exact .cons hfirst (.single hlast)

-- ======================================================= owing states

/-- In an opening tag, behind a piece whose tokens are complete but for
these, which are owed. The flag tells whether the piece is a value
without quotes. -/
inductive Owes : Bool → ScanState → List Placed → Prop
  | tag : Owes false .tag []
  | opening (start : Position) (name : List Char) :
      Owes false (.openingName start name)
        [⟨.opening (written name), start⟩]
  | attrName (start : Position) (name : List Char) :
      Owes false (.attrName start name)
        [⟨.attrName (written name), start⟩]
  | bare {start : Position} {chars : List Char} {state : ScanState}
      (h : InBare start chars state) :
      Owes true state [⟨.value (written chars), start⟩]

section

variable {bare : Bool} {state : ScanState} {owed : List Placed}

/-- Behind anything but a value without quotes, a character that is not
of a name is treated as between the parts of a tag. -/
theorem Owes.step (h : Owes false state owed) (hc : isNameChar c = false)
    {tokens : List Placed} {state' : ScanState}
    (hstep : stepTag here c = .ok (tokens, state')) :
    state.step here c = .ok (owed ++ tokens, state') := by
  have hname : ¬ isNameChar c = true := by
    rw [hc]
    exact Bool.false_ne_true
  cases h with
  | tag => exact hstep
  | opening start name | attrName start name =>
      show (if isNameChar c then _ else stepTag here c >>= _) = _
      rw [if_neg hname, hstep]
      rfl

/-- White space has the tokens paid. -/
theorem Owes.blanks (h : Owes bare state owed) (hblank : Blanks chars)
    (hne : chars ≠ []) : Scans state here chars owed .tag := by
  cases chars with
  | nil => exact absurd rfl hne
  | cons c rest =>
      have hc := hblank c (List.mem_cons_self ..)
      have hfirst : state.step here c = .ok (owed, .tag) := by
        cases bare with
        | false =>
            have hstep := h.step here (not_nameChar_of_isBlank hc)
              (stepTag_blank here hc)
            rw [List.append_nil] at hstep
            exact hstep
        | true =>
            cases h with
            | bare hbare => exact hbare.blank here hc
      have hrest : Scans .tag (here.next c) rest [] .tag :=
        .skip (fun pos _ => stepTag_blank pos)
          fun c' hc' => hblank c' (List.mem_cons_of_mem c hc')
      have hall := Scans.cons hfirst hrest
      rw [List.append_nil] at hall
      exact hall

/-- The end of a tag without a body has them paid. -/
theorem Owes.selfClose (h : Owes bare state owed) :
    Scans state here ['/', '>'] (owed ++ [⟨.selfClose, here⟩])
      (outside ((here.next '/').next '>')) := by
  have hslash : isNameChar '/' = false :=
    not_nameChar_marks (by decide)
  cases bare with
  | false =>
      have hstep := h.step here hslash (stepTag_slash here)
      rw [List.append_nil] at hstep
      exact .cons hstep (.single rfl)
  | true =>
      cases h with
      | bare hbare => exact hbare.selfClose here

/-- Behind anything but a value without quotes, so has the end of a tag
with a body. -/
theorem Owes.tagEnd (h : Owes false state owed) :
    Scans state here ['>'] (owed ++ [⟨.tagEnd, here⟩])
      (outside (here.next '>')) :=
  .single (h.step here (not_nameChar_marks (by decide))
    (stepTag_end here))

theorem Owes.equals (h : Owes false state owed) :
    Scans state here ['='] (owed ++ [⟨.equals, here⟩]) .value :=
  .single (h.step here (not_nameChar_marks (by decide))
    (stepTag_equals here))

end

-- =============================================================== values

theorem scans_quoted {quote : Char} (hquote : quote = '"' ∨ quote = '\'')
    (h : quote ∉ chars) :
    Scans .value here (quote :: (chars ++ [quote]))
      [⟨.value (String.ofList chars), here⟩] .tag := by
  have hblank : Text.isBlank quote = false := by
    rcases hquote with rfl | rfl
    · exact not_isBlank_marks (by decide)
    · exact not_isBlank_marks (by decide)
  have hfirst : ScanState.value.step here quote
      = .ok ([], .quoted here quote []) := by
    rw [ScanState.step, hblank, if_neg Bool.false_ne_true, if_pos hquote]
  have hmid : Scans (.quoted here quote []) (here.next quote) chars []
      (.quoted here quote (chars.reverse ++ [])) := by
    have hstep : ∀ before pos c, c ≠ quote →
        (ScanState.quoted here quote before).step pos c
          = .ok ([], .quoted here quote (c :: before)) := by
      intro before pos c hne
      exact if_neg hne
    refine .gather (.quoted here quote) hstep [] fun c hc heq => ?_
    rw [heq] at hc
    exact h hc
  have hlast : (ScanState.quoted here quote (chars.reverse ++ [])).step
      ((here.next quote).advance chars) quote
      = .ok ([⟨.value (String.ofList chars), here⟩], .tag) := by
    rw [ScanState.step, if_pos rfl, written, List.append_nil,
      List.reverse_reverse]
  exact .cons hfirst (hmid.silent (.single hlast))

/-- A value without quotes goes on to its last character. -/
theorem InBare.scans {state : ScanState} {before : List Char}
    (hstate : InBare start before state) (h : ∀ c ∈ chars, IsBareChar c) :
    ∃ state', Scans state here chars [] state'
      ∧ InBare start (chars.reverse ++ before) state' := by
  induction chars generalizing state before here with
  | nil => exact ⟨state, .nil _ _, hstate⟩
  | cons c rest ih =>
      obtain ⟨mid, hfirst, hmid⟩ := hstate.step here
        (h c (List.mem_cons_self ..))
      obtain ⟨state', hrest, hstate'⟩ := ih (here.next c) hmid
        fun c' hc' => h c' (List.mem_cons_of_mem c hc')
      rw [List.reverse_cons, List.append_assoc]
      exact ⟨state', .cons hfirst hrest, hstate'⟩

theorem scans_bare (h : IsBareValue chars) :
    ∃ state, Scans .value here chars [] state
      ∧ InBare here chars.reverse state := by
  obtain ⟨hne, hchars, hdouble, hsingle⟩ := h
  cases chars with
  | nil => exact absurd rfl hne
  | cons c rest =>
      have hc := hchars c (List.mem_cons_self ..)
      obtain ⟨mid, hbare, hmid⟩ := stepBare_char here here [] hc
      have hquote : ¬ (c = '"' ∨ c = '\'') := by
        intro hquote
        rcases hquote with hquote | hquote
        · exact hdouble (congrArg some hquote)
        · exact hsingle (congrArg some hquote)
      have hfirst : ScanState.value.step here c = .ok ([], mid) := by
        rw [ScanState.step, hc.not_blank, if_neg Bool.false_ne_true,
          if_neg hquote, if_neg hc.ne_end, hbare]
      obtain ⟨state, hrest, hstate⟩ := hmid.scans (here.next c)
        fun c' hc' => hchars c' (List.mem_cons_of_mem c hc')
      rw [List.reverse_cons]
      exact ⟨state, .cons hfirst hrest, hstate⟩

theorem scans_value {value : List Char} {bare : Bool}
    (h : ValueSpelling value bare chars) :
    ∃ done state owed, Scans .value here chars done state
      ∧ Owes bare state owed
      ∧ done ++ owed = [⟨.value (String.ofList value), here⟩] := by
  cases h with
  | double h =>
      exact ⟨_, .tag, [], scans_quoted here (.inl rfl) h, .tag, rfl⟩
  | single h =>
      exact ⟨_, .tag, [], scans_quoted here (.inr rfl) h, .tag, rfl⟩
  | bare h =>
      obtain ⟨state, hscan, hstate⟩ := scans_bare here h
      refine ⟨[], state, _, hscan, .bare hstate, ?_⟩
      rw [written, List.reverse_reverse]
      rfl

end ScanState

-- ============================================================== pieces

/-- In an opening tag the characters lead from behind any piece of the
one kind to behind a piece of the other kind. Up to what is owed they
complete these tokens. -/
def TagPiece (bare : Bool) (here : Position) (chars : List Char)
    (tokens : List Placed) (bare' : Bool) : Prop :=
  ∀ state owed, ScanState.Owes bare state owed →
    ∃ done state' owed', Scans state here chars done state'
      ∧ ScanState.Owes bare' state' owed' ∧ done ++ owed' = owed ++ tokens

namespace TagPiece

variable {bare mid bare' : Bool} {here : Position}
  {a b chars name value blanks : List Char} {tokens tokens' : List Placed}

theorem nil : TagPiece bare here [] [] bare := by
  intro state owed howes
  refine ⟨[], state, owed, .nil _ _, howes, ?_⟩
  rw [List.append_nil]
  rfl

/-- One piece after the other. -/
theorem append (ha : TagPiece bare here a tokens mid)
    (hb : TagPiece mid (here.advance a) b tokens' bare') :
    TagPiece bare here (a ++ b) (tokens ++ tokens') bare' := by
  intro state owed howes
  obtain ⟨done, state₁, owed₁, hscan, howes₁, hdone⟩ := ha state owed howes
  obtain ⟨done', state₂, owed₂, hscan', howes₂, hdone'⟩ :=
    hb state₁ owed₁ howes₁
  refine ⟨done ++ done', state₂, owed₂, hscan.append hscan', howes₂, ?_⟩
  rw [List.append_assoc, hdone', ← List.append_assoc, hdone,
    List.append_assoc]

/-- White space, which there must be behind a value without quotes. -/
theorem ofBlanks (h : Blanks blanks) (hne : blanks ≠ []) :
    TagPiece bare here blanks [] false := by
  intro state owed howes
  exact ⟨owed, .tag, [], howes.blanks here h hne, .tag, rfl⟩

/-- White space elsewhere. -/
theorem optionalBlanks (h : Blanks blanks) :
    TagPiece false here blanks [] false := by
  by_cases hne : blanks = []
  · rw [hne]
    exact nil
  · exact ofBlanks h hne

/-- The name of an attribute, behind white space. -/
theorem attrName (hname : IsName name) (h : Blanks blanks)
    (hne : blanks ≠ []) :
    TagPiece bare here (blanks ++ name)
      [⟨.attrName (String.ofList name), here.advance blanks⟩] false := by
  intro state owed howes
  have hblanks := howes.blanks here h hne
  obtain ⟨hne', hchars⟩ := hname
  cases name with
  | nil => exact absurd rfl hne'
  | cons c rest =>
      have hfirst : ScanState.tag.step (here.advance blanks) c
          = .ok ([], .attrName (here.advance blanks) [c]) :=
        ScanState.stepTag_name _ (hchars c (List.mem_cons_self ..))
      have hrest : Scans (.attrName (here.advance blanks) [c])
          ((here.advance blanks).next c) rest []
          (.attrName (here.advance blanks) (rest.reverse ++ [c])) :=
        .gather (p := fun c => isNameChar c = true)
          (.attrName (here.advance blanks)) (fun _ _ _ hc => if_pos hc) [c]
          fun c' hc' => hchars c' (List.mem_cons_of_mem c hc')
      refine ⟨owed ++ [], _, _, hblanks.append (.cons hfirst hrest),
        .attrName _ _, ?_⟩
      rw [List.append_nil, ← List.reverse_cons, written,
        List.reverse_reverse]

/-- An equals sign and a value, with white space between them. -/
theorem equals (here : Position) (h : Blanks blanks)
    (hvalue : ValueSpelling value bare chars) :
    ∃ pos, TagPiece false here ('=' :: (blanks ++ chars))
      [⟨.equals, here⟩, ⟨.value (String.ofList value), pos⟩] bare := by
  refine ⟨(here.next '=').advance blanks, fun state owed howes => ?_⟩
  have hskip : Scans .value (here.next '=') blanks [] .value :=
    .skip (fun _ _ hc => if_pos hc) h
  obtain ⟨done, state', owed', hscan, howes', hdone⟩ :=
    ScanState.scans_value ((here.next '=').advance blanks) hvalue
  refine ⟨_, state', owed', (howes.equals here).append (hskip.silent hscan),
    howes', ?_⟩
  rw [List.append_assoc, hdone, List.append_assoc]
  rfl

end TagPiece

end EntityMarkup
