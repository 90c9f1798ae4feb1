/-
The classes of characters that markup is cut by. White space, the
characters of names, and the marks that end names and values are apart
from one another, so that a name ends where white space or a mark begins.
-/
import EntityMarkup.Markup.Token
import EntityMarkup.Text.Blank

namespace EntityMarkup

/-- The code points of white space. -/
def blankPoints : List Nat :=
  Text.blankRanges.flatMap fun (first, last) =>
    List.range' first (last + 1 - first)

private theorem not_nameChar_of_mem :
    ∀ n ∈ blankPoints, isNameChar (Char.ofNat n) = false := by
  decide +kernel

theorem mem_blankPoints {c : Char} (h : Text.isBlank c = true) :
    c.toNat ∈ blankPoints := by
  unfold Text.isBlank Text.Ranges.contains at h
  obtain ⟨⟨first, last⟩, hmem, hin⟩ := List.any_eq_true.mp h
  rw [Bool.and_eq_true, decide_eq_true_iff, decide_eq_true_iff] at hin
  refine List.mem_flatMap.mpr ⟨(first, last), hmem, ?_⟩
  rw [List.mem_range'_1]
  omega

/-- White space does not occur in names. -/
theorem not_nameChar_of_isBlank {c : Char} (h : Text.isBlank c = true) :
    isNameChar c = false := by
  have hpoint := not_nameChar_of_mem c.toNat (mem_blankPoints h)
  rw [Char.ofNat_toNat] at hpoint
  exact hpoint

theorem not_isBlank_of_nameChar {c : Char} (h : isNameChar c = true) :
    Text.isBlank c = false := by
  cases hblank : Text.isBlank c with
  | false => rfl
  | true =>
      rw [not_nameChar_of_isBlank hblank] at h
      cases h

theorem nameChar_ne {c mark : Char} (h : isNameChar c = true)
    (hmark : isNameChar mark = false) : c ≠ mark := by
  intro heq
  rw [heq, hmark] at h
  cases h

theorem isBlank_ne {c mark : Char} (h : Text.isBlank c = true)
    (hmark : Text.isBlank mark = false) : c ≠ mark := by
  intro heq
  rw [heq, hmark] at h
  cases h

/-- The marks of tags are not in names. -/
theorem not_nameChar_marks {mark : Char}
    (h : mark ∈ ['<', '>', '/', '=', '!', '"', '\'']) :
    isNameChar mark = false := by
  have hall : ['<', '>', '/', '=', '!', '"', '\''].all
      (!isNameChar ·) = true := by
    decide +kernel
  rw [← Bool.not_eq_true']
  exact List.all_eq_true.mp hall mark h

/-- Nor are they white space. -/
theorem not_isBlank_marks {mark : Char}
    (h : mark ∈ ['<', '>', '/', '=', '!', '"', '\'']) :
    Text.isBlank mark = false := by
  have hall : ['<', '>', '/', '=', '!', '"', '\''].all
      (!Text.isBlank ·) = true := by
    decide +kernel
  rw [← Bool.not_eq_true']
  exact List.all_eq_true.mp hall mark h

end EntityMarkup
