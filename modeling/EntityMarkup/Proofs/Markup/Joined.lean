/-
Two sources in a row. When the first is accepted, its scan ends outside
tags and its reading between tags, with nothing open. White space that it
may end in is taken into the text that the second begins with, and makes
no difference there: text outside tags must be blank in any case. From
the first bracket on, the second source is scanned and read as by itself,
only behind the first.
-/
import EntityMarkup.Proofs.Markup.Behind
import EntityMarkup.Proofs.Markup.Found

namespace EntityMarkup

open ScanState (outside textToken written)

-- ================================================== the text in between

/-- A text up to its first bracket. -/
theorem exists_cut (chars : List Char) :
    ∃ text rest, chars = text ++ rest ∧ '<' ∉ text
      ∧ ∀ c, rest.head? = some c → c = '<' := by
  induction chars with
  | nil => exact ⟨[], [], rfl, List.not_mem_nil, fun c hc => nomatch hc⟩
  | cons c chars ih =>
      by_cases hc : c = '<'
      · refine ⟨[], c :: chars, rfl, List.not_mem_nil, fun c' hc' => ?_⟩
        rw [← Option.some.inj hc', hc]
      · obtain ⟨text, rest, rfl, htext, hrest⟩ := ih
        refine ⟨c :: text, rest, rfl, ?_, hrest⟩
        rw [List.mem_cons]
        rintro (heq | hin)
        · exact hc heq.symm
        · exact htext hin

/-- The text before a bracket or the end is one token with the text that
has been read, if there is any; what follows does not depend on it. -/
theorem tokensFrom?_text {text rest : List Char} (start here : Position)
    (run : List Char) (htext : '<' ∉ text)
    (hrest : ∀ c, rest.head? = some c → c = '<') :
    tokensFrom? (.text start run) here (text ++ rest)
      = (textToken start (text.reverse ++ run) ++ ·) <$>
        tokensFrom? (outside (here.advance text)) (here.advance text)
          rest := by
  rw [(ScanState.scans_text here start run htext).tokensFrom_append]
  cases rest with
  | nil => rfl
  | cons c rest =>
      have hbracket : ∀ (start here : Position) (run : List Char),
          (ScanState.text start run).step here c
            = .ok (textToken start run, .angle here) :=
        fun _ _ _ => if_pos (hrest c rfl)
      rw [tokensFrom?_cons_ok (hbracket ..), outside,
        tokensFrom?_cons_ok (hbracket ..), map_append_map, map_append_map]
      simp [textToken]

theorem isBlankText_written (run : List Char) :
    Text.isBlankText (written run) = true ↔ Blanks run := by
  rw [Text.isBlankText, written, String.toList_ofList, List.all_reverse,
    List.all_eq_true]
  rfl

section

variable {run : List Char} (ts : List Placed)

/-- White space between tags is read over. -/
theorem run_blank (nest : Nest) (start last : Position) (h : Blanks run) :
    ∃ last', (Reading.content nest).run last (textToken start run ++ ts)
      = (Reading.content nest).run last' ts := by
  unfold textToken
  split
  · exact ⟨last, rfl⟩
  · have hstep : Reading.step (.content nest) ⟨.text (written run), start⟩
        = .ok (.content nest) := if_pos ((isBlankText_written run).mpr h)
    have hreads : Reads (.content nest) [⟨.text (written run), start⟩]
        (.content nest) := .single (by simp) hstep
    exact hreads.run_eq last ts

/-- Other text is an error outside every element. -/
theorem run_text (roots : List Element) (start last : Position)
    (h : ¬ Blanks run) :
    (Reading.content ⟨roots, []⟩).run last (textToken start run ++ ts)
      = .error ⟨.textOutsideTag, start⟩ := by
  have hne : run.isEmpty = false := by
    rw [List.isEmpty_eq_false_iff]
    intro hnil
    rw [hnil] at h
    exact h (List.forall_mem_nil _)
  have hblank : Text.isBlankText (written run) = false := by
    rw [← Bool.not_eq_true, isBlankText_written]
    exact h
  have hstep : Reading.step (.content ⟨roots, []⟩)
      ⟨.text (written run), start⟩ = .error ⟨.textOutsideTag, start⟩ := by
    simp only [Reading.step, Reading.stepContent, hblank]
    rfl
  have htoken : textToken start run = [⟨.text (written run), start⟩] := by
    rw [textToken, hne]
    rfl
  have hmore : ¬ Token.text (written run) = .eof := by simp
  rw [htoken, List.singleton_append, Reading.run, if_neg hmore, hstep]
  rfl

/-- Where no tag is open behind a text, none was open before, and the text
is blank. -/
theorem step_text_roots {reading : Reading} {text : String}
    {pos : Position} {roots : List Element}
    (h : reading.step ⟨.text text, pos⟩ = .ok (.content ⟨roots, []⟩)) :
    reading = .content ⟨roots, []⟩ ∧ Text.isBlankText text = true := by
  cases reading with
  | content nest =>
      simp only [Reading.step, Reading.stepContent] at h
      split at h
      case isTrue hblank =>
        cases h
        exact ⟨rfl, hblank⟩
      case isFalse =>
        obtain ⟨roots', opened⟩ := nest
        cases opened with
        | nil | cons => cases h
  | named nest head name =>
      simp only [Reading.step] at h
      cases hadd : head.add ⟨name, "true"⟩ pos with
      | ok | error =>
          rw [hadd] at h
          cases h
  | valued nest head last =>
      simp only [Reading.step] at h
      cases hadd : head.add last pos with
      | ok | error =>
          rw [hadd] at h
          cases h
  | tag | awaiting | missing => cases h

end

-- ==================================================== accepted sources

/-- A source may end in text only. -/
theorem ScanState.finish_ok {state : ScanState} {here : Position}
    {last : List Placed} (h : state.finish here = .ok last) :
    ∃ start run, state = .text start run ∧ last = textToken start run := by
  cases state with
  | text start run =>
      cases h
      exact ⟨start, run, rfl, rfl⟩
  | closingName start name =>
      simp only [finish] at h
      split at h <;> cases h
  | angle | bang | bangDash | comment | closingEnd | openingName | tag
  | slash | attrName | value | quoted | bare | bareSlash => cases h

/-- A source that is accepted leaves nothing but white space pending. -/
theorem exists_accepted {a : String} {d : Document}
    (h : Document.parse? a = .ok d) :
    ∃ tokens start run,
      Scans (outside .start) .start a.toList tokens (.text start run)
        ∧ Blanks run
        ∧ Reads (.content .empty) tokens
          (.content ⟨d.roots.reverse, []⟩) := by
  obtain ⟨-, -, ts, -, -, htokens, -, hflat⟩ := exists_flattening h
  rw [tokens?_eq] at htokens
  obtain ⟨tokens, last, mid, hscan, hlast, heq⟩ := exists_scans htokens
  obtain ⟨start, run, rfl, rfl⟩ := ScanState.finish_ok hlast
  rw [← List.append_assoc] at heq
  obtain ⟨rfl, -⟩ := List.append_inj' heq rfl
  obtain ⟨reading, hreads, hrun⟩ := hflat.reads_roots.split
  refine ⟨tokens, start, run, hscan, ?_⟩
  unfold textToken at hrun
  split at hrun
  case isTrue hnil =>
    cases hrun
    rw [List.isEmpty_iff.mp hnil]
    exact ⟨List.forall_mem_nil _, hreads⟩
  case isFalse =>
    cases hrun with
    | cons hne hstep hrest =>
        cases hrest
        obtain ⟨rfl, hblank⟩ := step_text_roots hstep
        exact ⟨(isBlankText_written run).mp hblank, hreads⟩

-- =================================================== the second source

/-- How a source behind an accepted one is read: as by itself, with its
elements behind the others and its lines further down, or else with the
same fault. -/
structure ReadBehind (a : String) (roots : List Element)
    (own joined : Except MarkupError Document) : Prop where
  ok : ∀ d, own = .ok d → joined = .ok
    ⟨roots ++ d.roots.map (Element.raised (a.toList.count '\n'))⟩
  error : ∀ e, own = .error e → ∃ pos, joined = .error ⟨e.fault, pos⟩

theorem ReadBehind.of_moved {a : String} {roots : List Element}
    {own joined : Except MarkupError Document}
    (h : joined = moved a.toList
      (Reading.documentOver roots.reverse (a.toList.count '\n')) own) :
    ReadBehind a roots own joined := by
  refine ⟨?_, ?_⟩
  · rintro d rfl
    rw [h, moved, Reading.documentOver, List.reverse_reverse]
  · rintro e rfl
    exact ⟨_, h⟩

theorem ReadBehind.of_fault {a : String} {roots : List Element}
    {own joined : Except MarkupError Document} {fault : MarkupFault}
    {pos pos' : Position} (hown : own = .error ⟨fault, pos⟩)
    (hjoined : joined = .error ⟨fault, pos'⟩) :
    ReadBehind a roots own joined := by
  refine ⟨?_, ?_⟩
  · rintro d rfl
    cases hown
  · rintro e rfl
    cases hown
    exact ⟨pos', hjoined⟩

/-- Between a token and the end, it does not matter what came before. -/
theorem Reading.run_last {reading : Reading} {ts : List Placed}
    (hne : ts ≠ []) (last last' : Position) :
    reading.run last ts = reading.run last' ts := by
  cases ts with
  | nil => exact absurd rfl hne
  | cons t rest => rfl

/-- A source behind an accepted one is read as by itself. -/
theorem parse?_append {a b : String} {d : Document}
    (h : Document.parse? a = .ok d) :
    ReadBehind a d.roots (Document.parse? b)
      (Document.parse? (a ++ b)) := by
  obtain ⟨tokens, start, run, hscan, hrun, hreads⟩ := exists_accepted h
  obtain ⟨text, rest, hb, htext, hrest⟩ := exists_cut b.toList
  -- both scans come to the same bracket, with different text before it
  let here := Position.start.advance text
  have hown : tokens? b = (textToken .start text.reverse ++ ·) <$>
      tokensFrom? (outside here) here rest := by
    have hall := tokensFrom?_text .start .start [] htext hrest
    rw [List.append_nil] at hall
    rw [tokens?_eq, hb]
    exact hall
  have hjoined : tokens? (a ++ b) = (tokens
        ++ textToken start (text.reverse ++ run) ++ ·) <$>
      moved a.toList (List.map (·.behind a.toList))
        (tokensFrom? (outside here) here rest) := by
    rw [tokens?_eq, String.toList_append, hscan.tokensFrom_append, hb,
      tokensFrom?_text start _ run htext hrest, map_append_map,
      advance_start, ← Position.behind_start,
      ← Position.behind_advance a.toList (Nat.le_refl 1),
      ← ScanState.behind_outside, tokensFrom?_behind a.toList _
        (Position.advance_line_pos (Nat.le_refl 1) text)]
  unfold Document.parse?
  cases hts : tokensFrom? (outside here) here rest with
  | error e =>
      rw [hts] at hown hjoined
      rw [hown, hjoined]
      exact .of_fault rfl rfl
  | ok ts =>
      rw [hts] at hown hjoined
      rw [hown, hjoined]
      obtain ⟨last, hread⟩ := hreads.run_eq .start
        (textToken start (text.reverse ++ run) ++ ts.map (·.behind a.toList))
      rw [← List.append_assoc] at hread
      show ReadBehind a d.roots
        ((Reading.content .empty).run .start
          (textToken .start text.reverse ++ ts))
        ((Reading.content .empty).run .start
          (tokens ++ textToken start (text.reverse ++ run)
            ++ ts.map (·.behind a.toList)))
      rw [hread]
      by_cases hblank : Blanks text
      · have hblank' : Blanks text.reverse := fun c hc =>
          hblank c (List.mem_reverse.mp hc)
        obtain ⟨own, hown'⟩ := run_blank ts .empty .start .start hblank'
        obtain ⟨joined, hjoined'⟩ := run_blank
          (ts.map (·.behind a.toList)) ⟨d.roots.reverse, []⟩ start last
          (List.forall_mem_append.mpr ⟨hblank', hrun⟩)
        have hne : ts ≠ [] := by
          obtain ⟨-, -, -, -, -, rfl⟩ := exists_scans hts
          simp
        rw [hown', hjoined']
        refine .of_moved ?_
        rw [← Reading.run_atop a.toList d.roots.reverse (.content .empty)]
        exact Reading.run_last (by simpa using hne) _ _
      · have hne : ∀ more, ¬ Blanks (text.reverse ++ more) := by
          intro more hall
          exact hblank fun c hc =>
            hall c (List.mem_append_left _ (List.mem_reverse.mpr hc))
        have hown' := run_text ts [] .start .start (hne [])
        rw [List.append_nil] at hown'
        exact .of_fault hown' (run_text _ _ _ _ (hne run))

end EntityMarkup
