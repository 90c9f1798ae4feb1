/-
How a text comes apart into lines. Cutting a text at a line feed cuts
between two of its lines (`trimmedLines_feed`), and so does cutting it
where the line around the cut is blank on one side (`trimmedLines_cut`):
trimming takes that side away in any case. So white space that is put in at
such a place makes no difference (`trimmedLines_insert`).
-/
import EntityMarkup.Proofs.Text.Trimmed
import Mathlib.Data.List.TakeWhile

namespace EntityMarkup.Text

variable {a b chars : List Char}

/-- The trimmed lines of some characters, the blank ones left out. -/
def trimmedLines (chars : List Char) : List (List Char) :=
  ((splitLines chars).map trimChars).filter (!·.isEmpty)

theorem lines_ofList (chars : List Char) :
    lines (String.ofList chars)
      = (trimmedLines chars).map String.ofList := by
  rw [lines, String.toList_ofList]
  rfl

-- ================================================================ pieces

theorem splitLines_feed (a b : List Char) :
    splitLines (a ++ '\n' :: b) = splitLines a ++ splitLines b := by
  induction a with
  | nil => rfl
  | cons c a ih =>
      rw [List.cons_append, splitLines, splitLines, ih]
      by_cases hc : c = '\n'
      · rw [if_pos hc, if_pos hc, List.cons_append]
      · rw [if_neg hc, if_neg hc]
        cases hlines : splitLines a with
        | nil => exact absurd hlines (splitLines_ne_nil a)
        | cons line lines => rfl

theorem splitLines_single (h : '\n' ∉ chars) : splitLines chars = [chars] := by
  induction chars with
  | nil => rfl
  | cons c rest ih =>
      rw [List.mem_cons, not_or] at h
      rw [splitLines, if_neg (Ne.symm h.1), ih h.2]

/-- The pieces hold every character but the line feeds. -/
theorem exists_piece_iff {c : Char} :
    (∃ piece ∈ splitLines chars, c ∈ piece) ↔ c ∈ chars ∧ c ≠ '\n' := by
  induction chars with
  | nil => simp [splitLines]
  | cons d rest ih =>
      unfold splitLines
      by_cases hd : d = '\n'
      · rw [if_pos hd, hd]
        simp only [List.mem_cons, exists_eq_or_imp, List.not_mem_nil,
          false_or, ih]
        exact ⟨fun h => ⟨Or.inr h.1, h.2⟩,
          fun h => ⟨h.1.resolve_left h.2, h.2⟩⟩
      · rw [if_neg hd]
        have hne : c = d → c ≠ '\n' := fun heq => heq ▸ hd
        cases hlines : splitLines rest with
        | nil => exact absurd hlines (splitLines_ne_nil rest)
        | cons line lines =>
            rw [hlines] at ih
            simp only [List.mem_cons, exists_eq_or_imp] at ih ⊢
            rw [or_assoc, ih, or_and_right, and_iff_left_of_imp hne]

/-- The pieces between line feeds have none. -/
theorem splitLines_unbroken {piece : List Char}
    (h : piece ∈ splitLines chars) : '\n' ∉ piece := fun hfeed =>
  (exists_piece_iff.mp ⟨piece, h, hfeed⟩).2 rfl

theorem trimmedLines_feed (a b : List Char) :
    trimmedLines (a ++ '\n' :: b) = trimmedLines a ++ trimmedLines b := by
  unfold trimmedLines
  rw [splitLines_feed, List.map_append, List.filter_append]

theorem trimmedLines_single (h : '\n' ∉ chars) :
    trimmedLines chars = [trimChars chars].filter (!·.isEmpty) := by
  unfold trimmedLines
  rw [splitLines_single h]
  rfl

-- ================================================================== cuts

/-- The cut between two texts is at an edge of its line: what the line has
before it, or behind it, is blank. -/
def LineEdge (a b : List Char) : Prop :=
  (∀ c ∈ a.reverse.takeWhile (· ≠ '\n'), isBlank c)
    ∨ ∀ c ∈ b.takeWhile (· ≠ '\n'), isBlank c

/-- A line feed ends its line. -/
theorem lineEdge_feed (a b : List Char) : LineEdge a ('\n' :: b) :=
  Or.inr fun _ hc => nomatch hc

theorem takeWhile_single (h : '\n' ∉ chars) :
    chars.takeWhile (· ≠ '\n') = chars := by
  rw [List.takeWhile_eq_self_iff]
  intro c hc
  refine decide_eq_true ?_
  rintro rfl
  exact h hc

theorem takeWhile_line {line : List Char} (h : '\n' ∉ line)
    (rest : List Char) :
    (line ++ '\n' :: rest).takeWhile (· ≠ '\n') = line := by
  have hall := List.takeWhile_eq_self_iff.mp (takeWhile_single h)
  rw [List.takeWhile_append_of_pos hall,
    List.takeWhile_cons_of_neg (by simp), List.append_nil]

/-- Within a line. -/
theorem trimmedLines_within (ha : '\n' ∉ a) (hb : '\n' ∉ b)
    (h : (∀ c ∈ a, isBlank c) ∨ ∀ c ∈ b, isBlank c) :
    trimmedLines (a ++ b) = trimmedLines a ++ trimmedLines b := by
  have hboth : '\n' ∉ a ++ b := by
    rw [List.mem_append, not_or]
    exact ⟨ha, hb⟩
  have hnone : ∀ c ∈ ([] : List Char), isBlank c := fun c hc => nomatch hc
  rw [trimmedLines_single hboth, trimmedLines_single ha,
    trimmedLines_single hb]
  rcases h with hblank | hblank
  · have htrim : trimChars (a ++ b ++ []) = trimChars b :=
      trimChars_between hblank hnone
    rw [List.append_nil] at htrim
    rw [htrim, trimChars_eq_nil_iff.mpr hblank]
    rfl
  · have htrim : trimChars ([] ++ a ++ b) = trimChars a :=
      trimChars_between hnone hblank
    rw [List.nil_append] at htrim
    rw [htrim, trimChars_eq_nil_iff.mpr hblank]
    exact (List.append_nil _).symm

/-- A cut at an edge of its line cuts no line in two. -/
theorem trimmedLines_cut (h : LineEdge a b) :
    trimmedLines (a ++ b) = trimmedLines a ++ trimmedLines b := by
  -- up to the last line feed before the cut, and from the first behind it
  have hbehind : ∀ {a b : List Char}, '\n' ∉ a → LineEdge a b →
      trimmedLines (a ++ b) = trimmedLines a ++ trimmedLines b := by
    intro a b ha h
    have ha' : '\n' ∉ a.reverse := by rwa [List.mem_reverse]
    by_cases hb : '\n' ∈ b
    · obtain ⟨line, rest, rfl, hline⟩ := List.eq_append_cons_of_mem hb
      unfold LineEdge at h
      rw [takeWhile_single ha', takeWhile_line hline] at h
      rw [← List.append_assoc, trimmedLines_feed, trimmedLines_feed,
        ← List.append_assoc, trimmedLines_within ha hline]
      simpa using h
    · unfold LineEdge at h
      rw [takeWhile_single ha', takeWhile_single hb] at h
      refine trimmedLines_within ha hb ?_
      simpa using h
  by_cases ha : '\n' ∈ a
  · have hlast : '\n' ∈ a.reverse := by rwa [List.mem_reverse]
    obtain ⟨line, rest, hsplit, hline⟩ := List.eq_append_cons_of_mem hlast
    have hwhole : a = rest.reverse ++ '\n' :: line.reverse := by
      rw [← List.reverse_reverse a, hsplit]
      simp
    have hedge : LineEdge line.reverse b := by
      unfold LineEdge at h ⊢
      rw [hsplit, takeWhile_line hline] at h
      rw [List.reverse_reverse, takeWhile_single hline]
      exact h
    have hline' : '\n' ∉ line.reverse := by rwa [List.mem_reverse]
    rw [hwhole, List.append_assoc, List.cons_append, trimmedLines_feed,
      trimmedLines_feed, hbehind hline' hedge, List.append_assoc]
  · exact hbehind ha h

/-- White space has no lines. -/
theorem trimmedLines_blank (h : ∀ c ∈ chars, isBlank c) :
    trimmedLines chars = [] := by
  unfold trimmedLines
  rw [List.filter_eq_nil_iff]
  intro line hmem
  obtain ⟨piece, hpiece, rfl⟩ := List.mem_map.mp hmem
  have hblank : trimChars piece = [] := by
    rw [trimChars_eq_nil_iff]
    intro c hc
    exact h c (exists_piece_iff.mp ⟨piece, hpiece, hc⟩).1
  rw [hblank]
  decide

/-- Only white space has no lines. -/
theorem trimmedLines_eq_nil_iff :
    trimmedLines chars = [] ↔ ∀ c ∈ chars, isBlank c := by
  refine ⟨fun h c hc => ?_, trimmedLines_blank⟩
  by_cases hfeed : c = '\n'
  · rw [hfeed]
    decide +kernel
  · obtain ⟨piece, hmem, hpiece⟩ := exists_piece_iff.mpr ⟨hc, hfeed⟩
    have hblank : trimChars piece = [] := by
      have hempty := List.filter_eq_nil_iff.mp h (trimChars piece)
        (List.mem_map_of_mem hmem)
      simpa using hempty
    exact trimChars_eq_nil_iff.mp hblank c hpiece

theorem lines_eq_nil_iff {text : String} :
    lines text = [] ↔ isBlankText text = true := by
  rw [← String.ofList_toList (s := text), lines_ofList,
    List.map_eq_nil_iff, trimmedLines_eq_nil_iff, isBlankText,
    List.all_eq_true, String.toList_ofList]

/-- White space that is put in at an edge of a line makes no
difference. -/
theorem trimmedLines_insert {blanks : List Char} (h : LineEdge a b)
    (hblanks : ∀ c ∈ blanks, isBlank c) :
    trimmedLines (a ++ blanks ++ b) = trimmedLines a ++ trimmedLines b := by
  have hnone := trimmedLines_blank hblanks
  have hpart : ∀ {p : Char → Bool}, ∀ c ∈ blanks.takeWhile p, isBlank c :=
    fun c hc => hblanks c ((List.takeWhile_sublist _).subset hc)
  rcases h with hbefore | hbehind
  · have hfirst : LineEdge a (blanks ++ b) := Or.inl hbefore
    have hrest : LineEdge blanks b := by
      refine Or.inl fun c hc => hblanks c ?_
      exact List.mem_reverse.mp ((List.takeWhile_sublist _).subset hc)
    rw [List.append_assoc, trimmedLines_cut hfirst, trimmedLines_cut hrest,
      hnone, List.nil_append]
  · have hfirst : LineEdge (a ++ blanks) b := Or.inr hbehind
    have hrest : LineEdge a blanks := Or.inr hpart
    rw [trimmedLines_cut hfirst, trimmedLines_cut hrest, hnone,
      List.append_nil]

end EntityMarkup.Text
