/-
How texts trim. A text is its trimmed form between white space
(`exists_trimmed`), and white space around a text makes no difference to
that form (`trimChars_between`); so trimming once is enough.
-/
import EntityMarkup.Text.Blank

namespace EntityMarkup.Text

variable {before chars after : List Char}

theorem dropBlankEnd_append_blank (hafter : ∀ c ∈ after, isBlank c) :
    dropBlankEnd (chars ++ after) = dropBlankEnd chars := by
  induction chars with
  | nil =>
      show dropBlankEnd after = []
      exact dropBlankEnd_eq_nil_iff.mpr hafter
  | cons c rest ih =>
      rw [List.cons_append, dropBlankEnd, dropBlankEnd, ih]

theorem exists_dropBlankEnd (chars : List Char) :
    ∃ after, chars = dropBlankEnd chars ++ after
      ∧ ∀ c ∈ after, isBlank c := by
  induction chars with
  | nil => exact ⟨[], rfl, fun c hc => nomatch hc⟩
  | cons c rest ih =>
      obtain ⟨after, hrest, hafter⟩ := ih
      cases hkept : dropBlankEnd rest with
      | cons d kept =>
          refine ⟨after, ?_, hafter⟩
          rw [dropBlankEnd, hkept]
          show c :: rest = c :: (d :: kept ++ after)
          rw [← hkept, ← hrest]
      | nil =>
          by_cases hc : isBlank c
          · refine ⟨c :: rest, ?_, ?_⟩
            · rw [dropBlankEnd, hkept]
              simp [hc]
            · intro b hb
              rcases List.mem_cons.mp hb with rfl | hb
              · exact hc
              · exact dropBlankEnd_eq_nil_iff.mp hkept b hb
          · refine ⟨rest, ?_, dropBlankEnd_eq_nil_iff.mp hkept⟩
            rw [dropBlankEnd, hkept]
            simp [hc]

/-- White space around a text makes no difference to its trimmed form. -/
theorem trimChars_between (hbefore : ∀ c ∈ before, isBlank c)
    (hafter : ∀ c ∈ after, isBlank c) :
    trimChars (before ++ chars ++ after) = trimChars chars := by
  unfold trimChars
  rw [List.append_assoc, List.dropWhile_append_of_pos hbefore,
    List.dropWhile_append]
  split
  · next hnil =>
    rw [List.isEmpty_iff] at hnil
    rw [hnil, dropBlankEnd_eq_nil_iff.mpr]
    · rfl
    · intro c hc
      exact hafter c ((List.dropWhile_sublist _).subset hc)
  · exact dropBlankEnd_append_blank hafter

/-- A text is its trimmed form between white space. -/
theorem exists_trimmed (chars : List Char) :
    ∃ before after, chars = before ++ trimChars chars ++ after
      ∧ (∀ c ∈ before, isBlank c) ∧ ∀ c ∈ after, isBlank c := by
  obtain ⟨after, hend, hafter⟩ :=
    exists_dropBlankEnd (chars.dropWhile isBlank)
  refine ⟨chars.takeWhile isBlank, after, ?_, ?_, hafter⟩
  · have hwhole : chars
        = chars.takeWhile isBlank ++ chars.dropWhile isBlank :=
      List.takeWhile_append_dropWhile.symm
    rw [List.append_assoc, trimChars, ← hend]
    exact hwhole
  · intro c hc
    exact List.all_eq_true.mp List.all_takeWhile c hc

theorem trimChars_trimChars (chars : List Char) :
    trimChars (trimChars chars) = trimChars chars := by
  obtain ⟨before, after, hchars, hbefore, hafter⟩ := exists_trimmed chars
  have hsame : trimChars (before ++ trimChars chars ++ after)
      = trimChars (trimChars chars) := trimChars_between hbefore hafter
  rw [← hchars] at hsame
  exact hsame.symm

@[simp] theorem trim_trim (text : String) : trim (trim text) = trim text := by
  unfold trim
  rw [String.toList_ofList, trimChars_trimChars]

/-- Only blank texts trim to nothing. -/
theorem trim_eq_empty {text : String} :
    trim text = "" ↔ isBlankText text = true := by
  unfold trim isBlankText
  rw [List.all_eq_true, ← trimChars_eq_nil_iff, ← String.ofList_nil,
    String.ofList_inj]

end EntityMarkup.Text
