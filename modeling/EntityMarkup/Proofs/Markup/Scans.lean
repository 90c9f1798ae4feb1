/-
How a source is scanned piece by piece. `Scans` says that a run of
characters leads a scan from one state to another and completes certain
tokens, and it joins up along runs of characters (`Scans.append`). The
pieces of a source outside its opening tags follow: text, comments, the
names of opening tags, closing tags. Each of the last three completes the
text before it, if there is any.
-/
import EntityMarkup.Markup.Token.Scan
import EntityMarkup.Proofs.Markup.Grammar

namespace EntityMarkup

open ScanState (written textToken outside)

/-- The characters lead from one state to the other and complete these
tokens. -/
inductive Scans : ScanState → Position → List Char → List Placed →
    ScanState → Prop
  | nil (state : ScanState) (here : Position) : Scans state here [] [] state
  | cons {state mid state' : ScanState} {here : Position} {c : Char}
      {rest : List Char} {tokens tokens' : List Placed}
      (hstep : state.step here c = .ok (tokens, mid))
      (hrest : Scans mid (here.next c) rest tokens' state') :
      Scans state here (c :: rest) (tokens ++ tokens') state'

namespace Scans

variable {state mid state' : ScanState} {here start : Position}
  {c : Char} {a b chars run name : List Char}
  {tokens tokens' : List Placed}

theorem single (hstep : state.step here c = .ok (tokens, state')) :
    Scans state here [c] tokens state' := by
  have h := Scans.cons hstep (.nil state' (here.next c))
  rw [List.append_nil] at h
  exact h

theorem append (ha : Scans state here a tokens mid)
    (hb : Scans mid (here.advance a) b tokens' state') :
    Scans state here (a ++ b) (tokens ++ tokens') state' := by
  induction ha with
  | nil => exact hb
  | cons hstep hrest ih =>
      rw [List.cons_append, List.append_assoc]
      exact .cons hstep (ih hb)

/-- The first run completes nothing. -/
theorem silent (ha : Scans state here a [] mid)
    (hb : Scans mid (here.advance a) b tokens state') :
    Scans state here (a ++ b) tokens state' :=
  ha.append hb

/-- What the first run has completed only in part, the second one pays. -/
theorem pay {before done owed more : List Placed}
    (ha : Scans state here a (before ++ done) mid)
    (hb : Scans mid (here.advance a) b (owed ++ more) state')
    (hpaid : done ++ owed = tokens) :
    Scans state here (a ++ b) (before ++ (tokens ++ more)) state' := by
  have hall := ha.append hb
  rw [← hpaid, List.append_assoc done, ← List.append_assoc before]
  exact hall

/-- What the scan of a source does with the characters. -/
theorem run_eq (h : Scans state here chars tokens state')
    (found : List Placed) :
    (⟨found, here, state⟩ : Scan).run chars
      = .ok ⟨tokens.reverse ++ found, here.advance chars, state'⟩ := by
  induction h generalizing found with
  | nil => rfl
  | @cons state mid state' here c rest ts ts' hstep hrest ih =>
      have hfirst : Scan.step ⟨found, here, state⟩ c
          = .ok ⟨ts.reverse ++ found, here.next c, mid⟩ := by
        unfold Scan.step
        rw [hstep]
        rfl
      have hrun : Scan.run ⟨found, here, state⟩ (c :: rest)
          = Scan.step ⟨found, here, state⟩ c >>= (·.run rest) :=
        List.foldlM_cons
      rw [hrun, hfirst, List.reverse_append, List.append_assoc]
      exact ih (ts.reverse ++ found)

/-- The tokens of a source that ends here. -/
theorem tokens_eq {source : String} {last : List Placed}
    (h : Scans (outside .start) .start source.toList tokens state)
    (hlast : state.finish (Position.start.advance source.toList)
      = .ok last) :
    tokens? source = .ok (tokens ++ last
      ++ [⟨.eof, Position.start.advance source.toList⟩]) := by
  unfold tokens? Scan.start
  rw [h.run_eq]
  show Scan.finish _ = _
  unfold Scan.finish
  dsimp only
  rw [hlast, List.append_nil, List.reverse_reverse]
  rfl

-- ================================================================= runs

/-- A run of characters that a state gathers. -/
theorem gather {p : Char → Prop} (state : List Char → ScanState)
    (hstep : ∀ before here c, p c →
      (state before).step here c = .ok ([], state (c :: before)))
    (before : List Char) (hall : ∀ c ∈ chars, p c) :
    Scans (state before) here chars [] (state (chars.reverse ++ before)) := by
  induction chars generalizing before here with
  | nil => exact .nil _ _
  | cons c rest ih =>
      rw [List.reverse_cons, List.append_assoc]
      exact .cons (hstep before here c (hall c (List.mem_cons_self ..)))
        (ih (c :: before) fun c' hc' => hall c' (List.mem_cons_of_mem c hc'))

/-- A run of characters that leaves a state as it is. -/
theorem skip {p : Char → Prop}
    (hstep : ∀ here c, p c → state.step here c = .ok ([], state))
    (hall : ∀ c ∈ chars, p c) : Scans state here chars [] state := by
  induction chars generalizing here with
  | nil => exact .nil _ _
  | cons c rest ih =>
      exact .cons (hstep here c (hall c (List.mem_cons_self ..)))
        (ih fun c' hc' => hall c' (List.mem_cons_of_mem c hc'))

end Scans

namespace ScanState

variable (here : Position) {start : Position}
  {run name chars blanks : List Char}

theorem written_reverse (name : String) :
    written name.toList.reverse = name := by
  rw [written, List.reverse_reverse, String.ofList_toList]

-- ======================================================== outside tags

theorem scans_text (start : Position) (run : List Char)
    (h : '<' ∉ chars) :
    Scans (.text start run) here chars []
      (.text start (chars.reverse ++ run)) := by
  have hstep : ∀ before here c, c ≠ '<' →
      (ScanState.text start before).step here c
        = .ok ([], .text start (c :: before)) := by
    intro before here c hne
    exact if_neg hne
  refine .gather (.text start) hstep run fun c hc heq => ?_
  rw [heq] at hc
  exact h hc

/-- The bracket of a tag or a comment completes it. -/
theorem scans_angle (start : Position) (run : List Char) :
    Scans (.text start run) here ['<'] (textToken start run)
      (.angle here) :=
  .single (by rw [ScanState.step, if_pos rfl])

/-- A name that has begun is gathered. -/
theorem scans_openingName (h : ∀ c ∈ chars, isNameChar c = true) :
    Scans (.openingName start name) here chars []
      (.openingName start (chars.reverse ++ name)) :=
  .gather (p := fun c => isNameChar c = true) (.openingName start)
    (fun _ _ _ hc => if_pos hc) name h

/-- The start of an opening tag. -/
theorem scans_opening (start : Position) (run : List Char)
    (h : IsName name) :
    Scans (.text start run) here ('<' :: name) (textToken start run)
      (.openingName here name.reverse) := by
  obtain ⟨hne, hchars⟩ := h
  cases name with
  | nil => exact absurd rfl hne
  | cons c rest =>
      have hc := hchars c (List.mem_cons_self ..)
      have hfirst : (ScanState.angle here).step (here.next '<') c
          = .ok ([], .openingName here [c]) := by
        have hslash : c ≠ '/' :=
          nameChar_ne hc (not_nameChar_marks (by decide))
        have hbang : c ≠ '!' :=
          nameChar_ne hc (not_nameChar_marks (by decide))
        simp only [ScanState.step]
        rw [if_neg hslash, if_neg hbang, if_pos hc]
      have hrest : Scans (.openingName here [c]) ((here.next '<').next c)
          rest [] (.openingName here (rest.reverse ++ [c])) :=
        scans_openingName _ fun c' hc' =>
          hchars c' (List.mem_cons_of_mem c hc')
      have hall := (scans_angle here start run).append
        (.cons hfirst hrest)
      rw [List.reverse_cons]
      rwa [List.append_nil, List.append_nil] at hall

/-- Behind the name of a closing tag there may be white space. -/
theorem scans_closingEnd {state : ScanState}
    (hstep : ∀ here c, isNameChar c = false →
      state.step here c = step.stepClosingEnd start name here c)
    (hblanks : Blanks blanks) :
    ∃ last, Scans state here (blanks ++ ['>'])
      [⟨.closing (written name), start⟩] (outside last) := by
  induction blanks generalizing state here with
  | nil =>
      have hlast : state.step here '>'
          = .ok ([⟨.closing (written name), start⟩],
            outside (here.next '>')) := by
        rw [hstep here '>' (not_nameChar_marks (by decide)),
          step.stepClosingEnd, if_neg (by decide +kernel), if_pos rfl]
      exact ⟨_, .single hlast⟩
  | cons c rest ih =>
      have hc := hblanks c (List.mem_cons_self ..)
      have hfirst : state.step here c = .ok ([], .closingEnd start name) := by
        rw [hstep here c (not_nameChar_of_isBlank hc),
          step.stepClosingEnd, if_pos hc]
      have hrest : Blanks rest := fun c' hc' =>
        hblanks c' (List.mem_cons_of_mem c hc')
      obtain ⟨last, hlast⟩ : ∃ last, Scans (.closingEnd start name)
          (here.next c) (rest ++ ['>'])
          [⟨.closing (written name), start⟩] (outside last) :=
        ih (here.next c) (fun _ _ _ => rfl) hrest
      exact ⟨last, .cons hfirst hlast⟩

/-- A whole closing tag. -/
theorem scans_closing (start : Position) (run : List Char)
    (h : IsName name) (hblanks : Blanks blanks) :
    ∃ last, Scans (.text start run) here
      ('<' :: '/' :: name ++ (blanks ++ ['>']))
      (textToken start run ++ [⟨.closing (String.ofList name), here⟩])
      (outside last) := by
  have hslash : Scans (.angle here) (here.next '<') ['/'] []
      (.closingName here []) :=
    .single (by rw [ScanState.step, if_pos rfl])
  have hname : Scans (.closingName here []) ((here.next '<').next '/')
      name [] (.closingName here (name.reverse ++ [])) :=
    .gather (p := fun c => isNameChar c = true) (.closingName here)
      (fun _ _ _ hc => if_pos hc) [] h.chars
  have hstep : ∀ pos c, isNameChar c = false →
      (ScanState.closingName here (name.reverse ++ [])).step pos c
        = step.stepClosingEnd here (name.reverse ++ []) pos c := by
    intro pos c hc
    have hne : (name.reverse ++ []).isEmpty = false := by
      rw [List.append_nil, List.isEmpty_reverse]
      exact List.isEmpty_eq_false_iff.mpr h.ne_nil
    simp only [ScanState.step, hc, hne]
    rfl
  obtain ⟨last, hend⟩ := scans_closingEnd
    (((here.next '<').next '/').advance name) hstep hblanks
  have hall := (scans_angle here start run).append
    (hslash.silent (hname.silent hend))
  rw [written, List.append_nil, List.reverse_reverse] at hall
  exact ⟨last, hall⟩

-- ============================================================ comments

/-- What a comment goes on with leads to its end, when there is no end in
it, the dashes just read included. -/
theorem scans_commentRest {dashes : Nat} (hdashes : dashes ≤ 2)
    (h : ¬ ['-', '-', '>'] <:+: List.replicate dashes '-' ++ chars) :
    ∃ last, Scans (.comment start dashes) here (chars ++ ['-', '-', '>'])
      [] (outside last) := by
  induction chars generalizing dashes here with
  | nil =>
      have htwo : min 2 (min 2 (dashes + 1) + 1) = 2 := by omega
      have hsecond : (ScanState.comment start (min 2 (dashes + 1))).step
          (here.next '-') '-' = .ok ([], .comment start 2) := by
        rw [ScanState.step, if_pos rfl, htwo]
      have hfirst : (ScanState.comment start dashes).step here '-'
          = .ok ([], .comment start (min 2 (dashes + 1))) := by
        rw [ScanState.step, if_pos rfl]
      exact ⟨_, .cons hfirst (.cons hsecond (.single rfl))⟩
  | cons c rest ih =>
      by_cases hdash : c = '-'
      · -- one dash more, or two as before
        have hfirst : (ScanState.comment start dashes).step here c
            = .ok ([], .comment start (min 2 (dashes + 1))) := by
          rw [ScanState.step, if_pos hdash]
        have hsuffix : List.replicate (min 2 (dashes + 1)) '-' ++ rest
            <:+ List.replicate dashes '-' ++ c :: rest := by
          refine ⟨List.replicate (dashes + 1 - min 2 (dashes + 1)) '-', ?_⟩
          rw [← List.append_assoc, List.replicate_append_replicate, hdash,
            Nat.sub_add_cancel (Nat.min_le_right 2 (dashes + 1)),
            List.replicate_succ', List.append_assoc]
          rfl
        obtain ⟨last, hlast⟩ := ih (here.next c) (Nat.min_le_left 2 (dashes + 1))
          (fun hin => h (hin.trans hsuffix.isInfix))
        exact ⟨last, .cons hfirst hlast⟩
      · have hend : ¬ (c = '>' ∧ dashes = 2) := by
          intro hend
          rw [hend.1, hend.2] at h
          exact h ⟨[], rest, rfl⟩
        have hfirst : (ScanState.comment start dashes).step here c
            = .ok ([], .comment start 0) := by
          rw [ScanState.step, if_neg hdash, if_neg hend]
        have hsuffix : List.replicate 0 '-' ++ rest
            <:+ List.replicate dashes '-' ++ c :: rest := by
          refine ⟨List.replicate dashes '-' ++ [c], ?_⟩
          rw [List.append_assoc]
          rfl
        obtain ⟨last, hlast⟩ := ih (here.next c) (Nat.zero_le 2)
          (fun hin => h (hin.trans hsuffix.isInfix))
        exact ⟨last, .cons hfirst hlast⟩

/-- A whole comment leaves no token. -/
theorem scans_comment (start : Position) (run : List Char)
    (h : IsComment chars) :
    ∃ last, Scans (.text start run) here chars (textToken start run)
      (outside last) := by
  obtain @⟨body, hbody⟩ := h
  obtain ⟨last, hrest⟩ : ∃ last, Scans (.comment here 0)
      ((((here.next '<').next '!').next '-').next '-')
      (body ++ ['-', '-', '>']) [] (outside last) :=
    scans_commentRest _ (Nat.zero_le 2) hbody
  have hbang : (ScanState.angle here).step (here.next '<') '!'
      = .ok ([], .bang here) := by
    rw [ScanState.step, if_neg (by decide), if_pos rfl]
  have hdash : (ScanState.bang here).step ((here.next '<').next '!') '-'
      = .ok ([], .bangDash here) := by
    rw [ScanState.step, if_pos rfl]
  have hdash' : (ScanState.bangDash here).step
      (((here.next '<').next '!').next '-') '-'
      = .ok ([], .comment here 0) := by
    rw [ScanState.step, if_pos rfl]
  have hall := (scans_angle here start run).append
    (.cons hbang (.cons hdash (.cons hdash' hrest)))
  simp only [List.append_nil] at hall
  exact ⟨last, hall⟩

end ScanState

end EntityMarkup
