/-
Texts without a line feed. Quoted texts and numbers have none, whatever
they stand for; and lines without any, each ended by a line feed, are read
back as they were (`splitLines_join`).
-/
import EntityMarkup.Number.Single
import EntityMarkup.Proofs.Text.Lines
import EntityMarkup.Text.Quoted
import Mathlib.Tactic.SplitIfs

namespace EntityMarkup

namespace Text

/-- There is no line feed in the text. -/
def Unbroken (text : String) : Prop := '\n' ∉ text.toList

instance (text : String) : Decidable (Unbroken text) :=
  inferInstanceAs (Decidable ('\n' ∉ text.toList))

-- ================================================================ pieces

theorem unbroken_ofList {chars : List Char} (h : '\n' ∉ chars) :
    Unbroken (String.ofList chars) := by
  unfold Unbroken
  rw [String.toList_ofList]
  exact h

theorem unbroken_append {a b : String} :
    Unbroken (a ++ b) ↔ Unbroken a ∧ Unbroken b := by
  unfold Unbroken
  rw [String.toList_append, List.mem_append, not_or]

theorem Unbroken.append {a b : String} (ha : Unbroken a)
    (hb : Unbroken b) : Unbroken (a ++ b) :=
  unbroken_append.mpr ⟨ha, hb⟩

theorem unbroken_intercalate {separator : String} {pieces : List String}
    (hseparator : Unbroken separator) :
    Unbroken (separator.intercalate pieces)
      ↔ ∀ piece ∈ pieces, Unbroken piece := by
  induction pieces with
  | nil =>
      rw [String.intercalate_nil]
      exact ⟨fun _ _ hmem => (nomatch hmem), fun _ => by decide⟩
  | cons piece rest ih =>
      rw [List.forall_mem_cons]
      cases rest with
      | nil =>
          rw [String.intercalate_singleton]
          exact ⟨fun h => ⟨h, fun _ hmem => (nomatch hmem)⟩, And.left⟩
      | cons next rest =>
          rw [String.intercalate_cons_cons, unbroken_append,
            unbroken_append, ih]
          exact ⟨fun h => ⟨h.1.1, h.2⟩, fun h => ⟨⟨h.1, hseparator⟩, h.2⟩⟩

-- =============================================================== digits

theorem digitChar_ne_newline (n : Nat) : Nat.digitChar n ≠ '\n' := by
  by_cases hn : n < 16
  · revert n
    decide
  · have hother : Nat.digitChar n = '*' := by
      unfold Nat.digitChar
      iterate 16 rw [if_neg (by omega)]
    rw [hother]
    decide

theorem toDigitsCore_unbroken (base fuel n : Nat) {digits : List Char}
    (h : '\n' ∉ digits) : '\n' ∉ Nat.toDigitsCore base fuel n digits := by
  induction fuel generalizing n digits with
  | zero => exact h
  | succ fuel ih =>
      have hmore : '\n' ∉ Nat.digitChar (n % base) :: digits := by
        rw [List.mem_cons, not_or]
        exact ⟨(digitChar_ne_newline _).symm, h⟩
      unfold Nat.toDigitsCore
      dsimp only
      split
      · exact hmore
      · exact ih (n / base) hmore

theorem toDigits_unbroken (base n : Nat) : '\n' ∉ Nat.toDigits base n :=
  toDigitsCore_unbroken base (n + 1) n List.not_mem_nil

-- ================================================================ quoted

theorem escapeChar_unbroken (quote c : Char) :
    '\n' ∉ escapeChar quote c := by
  unfold escapeChar
  split_ifs with htab hreturn hfeed hnull hslash hhidden
  · decide
  · decide
  · decide
  · decide
  · simp [Ne.symm hfeed]
  · simp [toDigits_unbroken]
  · simp [Ne.symm hfeed]

theorem quoted_unbroken (text : String) : Unbroken (quoted text) := by
  apply unbroken_ofList
  rw [List.mem_append, List.mem_cons, not_or, not_or]
  refine ⟨⟨by decide, ?_⟩, by decide⟩
  rw [List.mem_flatMap]
  rintro ⟨c, -, hc⟩
  exact escapeChar_unbroken _ c hc

-- ================================================================ lines

/-- Lines that are each ended are read back, with an empty piece after the
last. -/
theorem splitLines_join {lines : List String}
    (h : ∀ line ∈ lines, Unbroken line) :
    splitLines (String.join (lines.map (· ++ "\n"))).toList
      = lines.map String.toList ++ [[]] := by
  rw [String.toList_join]
  induction lines with
  | nil => rfl
  | cons line rest ih =>
      have hline := h line List.mem_cons_self
      have hrest := ih fun line' hmem =>
        h line' (List.mem_cons_of_mem _ hmem)
      rw [List.map_cons, List.flatMap_cons, String.toList_append,
        List.append_assoc]
      show splitLines (line.toList ++ '\n' :: (rest.map _).flatMap _) = _
      rw [splitLines_feed, splitLines_single hline, hrest]
      rfl

end Text

-- =============================================================== numbers

namespace Single

theorem decimalText_unbroken (d : Decimal) : Text.Unbroken d.text := by
  have hdigits := Text.toDigits_unbroken 10 d.digits
  have hzeros : ∀ n, '\n' ∉ List.replicate n '0' := by
    intro n hmem
    exact absurd (List.eq_of_mem_replicate hmem) (by decide)
  unfold Decimal.text
  dsimp only
  split
  · apply Text.unbroken_ofList
    rw [List.mem_append, not_or]
    exact ⟨hdigits, hzeros _⟩
  · apply Text.unbroken_ofList
    rw [List.mem_append, List.mem_cons, not_or, not_or]
    have hpadded : ∀ n, '\n' ∉ List.replicate n '0'
        ++ Nat.toDigits 10 d.digits := by
      intro n
      rw [List.mem_append, not_or]
      exact ⟨hzeros n, hdigits⟩
    exact ⟨fun h => hpadded _ (List.mem_of_mem_take h), by decide,
      fun h => hpadded _ (List.mem_of_mem_drop h)⟩

theorem text_unbroken (n : Single) : Text.Unbroken n.text := by
  cases n with
  | nan => decide
  | infinite negative => cases negative <;> decide
  | finite negative integer exponent =>
      apply Text.Unbroken.append
      · cases negative <;> decide
      · split
        · decide
        · exact decimalText_unbroken _

end Single

end EntityMarkup
