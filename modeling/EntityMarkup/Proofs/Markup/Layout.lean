/-
How tokens are laid out in a source. Every character of a source belongs
either to a token, whose exact spelling is its lexeme, or to a gap between
two tokens: comments outside tags, white space inside. A `Layout` cuts a
text into gaps and lexemes, and the place of each token is counted from
the text before its lexeme.

A layout joins up along texts and falls apart along lists of tokens
(`Layout.append`, `Layout.split`). Lexemes are not empty, so from one
token to the next the places only go forward.
-/
import EntityMarkup.Markup.Token
import EntityMarkup.Proofs.Markup.Grammar

namespace EntityMarkup

-- =============================================================== places

/-- The place behind a text: its line is one more than there are line
feeds, its column one more than there are characters behind the last of
them. -/
def place (before : List Char) : Position :=
  ⟨1 + before.count '\n', 1 + (before.reverse.takeWhile (· ≠ '\n')).length⟩

theorem place_concat (before : List Char) (c : Char) :
    place (before ++ [c]) = (place before).next c := by
  unfold place Position.next
  rw [List.count_append, List.reverse_append, List.reverse_singleton,
    List.singleton_append]
  by_cases hc : c = '\n'
  · rw [if_pos hc, hc, List.count_singleton_self,
      List.takeWhile_cons_of_neg (by simp)]
    rfl
  · rw [if_neg hc, List.count_singleton, List.takeWhile_cons_of_pos
      (by simpa using hc)]
    simp [hc, Nat.add_assoc]

theorem place_append (before after : List Char) :
    place (before ++ after) = (place before).advance after := by
  induction after generalizing before with
  | nil => rw [List.append_nil, Position.advance_nil]
  | cons c rest ih =>
      rw [Position.advance_cons, ← place_concat, ← ih, List.append_assoc]
      rfl

/-- Counting is what a scan does from the start on. -/
theorem advance_start (text : List Char) :
    Position.start.advance text = place text :=
  (place_append [] text).symm

namespace Position

/-- On an earlier line, or earlier on the same. -/
def Before (a b : Position) : Prop :=
  a.line < b.line ∨ a.line = b.line ∧ a.col < b.col

instance (a b : Position) : Decidable (Before a b) :=
  inferInstanceAs (Decidable (_ ∨ _))

theorem Before.trans {a b c : Position} (hab : Before a b)
    (hbc : Before b c) : Before a c := by
  unfold Before at *
  omega

theorem before_next (here : Position) (c : Char) :
    Before here (here.next c) := by
  unfold Before next
  split
  · left
    exact Nat.lt_succ_self here.line
  · right
    exact ⟨rfl, Nat.lt_succ_self here.col⟩

end Position

/-- Behind more text the place is a later one. -/
theorem place_before {before after : List Char} (hne : after ≠ []) :
    (place before).Before (place (before ++ after)) := by
  induction after generalizing before with
  | nil => exact absurd rfl hne
  | cons c rest ih =>
      have hfirst : (place before).Before (place (before ++ [c])) := by
        rw [place_concat]
        exact Position.before_next _ c
      have hsplit : before ++ c :: rest = before ++ [c] ++ rest := by
        rw [List.append_assoc]
        rfl
      rw [hsplit]
      by_cases hrest : rest = []
      · rw [hrest, List.append_nil]
        exact hfirst
      · exact hfirst.trans (ih hrest)

-- ==================================================== gaps and lexemes

/-- Where a token may stand. -/
inductive Region where
  /-- Outside tags. -/
  | outside
  /-- In an opening tag, between its parts. -/
  | tag
  /-- In an opening tag, behind an equals sign. -/
  | value
deriving DecidableEq

/-- Where the text goes on behind a token. -/
def Token.region : Token → Region
  | .opening _ | .attrName _ | .value _ => .tag
  | .equals => .value
  | .closing _ | .text _ | .tagEnd | .selfClose | .eof => .outside

/-- Any number of complete comments. -/
inductive Comments : List Char → Prop
  | nil : Comments []
  | cons {comment rest : List Char} (hcomment : IsComment comment)
      (hrest : Comments rest) : Comments (comment ++ rest)

/-- What may stand between tokens. -/
def Gap : Region → List Char → Prop
  | .outside, gap => Comments gap
  | .tag, gap => Blanks gap
  | .value, gap => Blanks gap

/-- The spelling of a token where it may stand. The mark of the end has
none. -/
inductive Lexeme : Region → Token → List Char → Prop
  | opening {name : String} (hname : IsName name.toList) :
      Lexeme .outside (.opening name) ('<' :: name.toList)
  | closing {name : String} {blanks : List Char}
      (hname : IsName name.toList) (hblanks : Blanks blanks) :
      Lexeme .outside (.closing name)
        ('<' :: '/' :: name.toList ++ (blanks ++ ['>']))
  | text {run : String} (hne : run.toList ≠ []) (hrun : '<' ∉ run.toList) :
      Lexeme .outside (.text run) run.toList
  | attrName {name : String} (hname : IsName name.toList) :
      Lexeme .tag (.attrName name) name.toList
  | equals : Lexeme .tag .equals ['=']
  | tagEnd : Lexeme .tag .tagEnd ['>']
  | selfClose : Lexeme .tag .selfClose ['/', '>']
  | value {value : String} {bare : Bool} {chars : List Char}
      (hvalue : ValueSpelling value.toList bare chars) :
      Lexeme .value (.value value) chars

theorem Comments.append {a b : List Char} (ha : Comments a)
    (hb : Comments b) : Comments (a ++ b) := by
  induction ha with
  | nil => exact hb
  | cons hcomment hrest ih =>
      rw [List.append_assoc]
      exact .cons hcomment ih

theorem Lexeme.ne_nil {region : Region} {t : Token} {chars : List Char}
    (h : Lexeme region t chars) : chars ≠ [] := by
  cases h with
  | text hne => exact hne
  | attrName hname => exact hname.ne_nil
  | value hvalue =>
      cases hvalue with
      | double | single => exact List.cons_ne_nil _ _
      | bare h => exact h.ne_nil
  | opening | closing | equals | tagEnd | selfClose =>
      exact List.cons_ne_nil _ _

theorem Lexeme.ne_eof {region : Region} {t : Token} {chars : List Char}
    (h : Lexeme region t chars) : t ≠ .eof := by
  intro heof
  rw [heof] at h
  cases h

-- ============================================================== layouts

/-- Behind a text that ends in the one region, the characters are gaps and
the lexemes of these tokens, and end in the other region. -/
inductive Layout : Region → List Char → List Char → List Placed →
    Region → Prop
  | nil (region : Region) (before : List Char) :
      Layout region before [] [] region
  | cons {region region' : Region} {before gap lexeme rest : List Char}
      {t : Token} {ts : List Placed} (hgap : Gap region gap)
      (hlexeme : Lexeme region t lexeme)
      (hrest : Layout t.region (before ++ (gap ++ lexeme)) rest ts
        region') :
      Layout region before (gap ++ lexeme ++ rest)
        (⟨t, place (before ++ gap)⟩ :: ts) region'

namespace Layout

variable {region mid region' : Region}
  {before a b chars gap lexeme : List Char} {t : Token}
  {ts ts' : List Placed}

theorem single (region : Region) (before : List Char)
    (hgap : Gap region gap)
    (hlexeme : Lexeme region t lexeme) :
    Layout region before (gap ++ lexeme) [⟨t, place (before ++ gap)⟩]
      t.region := by
  have h := Layout.cons hgap hlexeme
    (.nil t.region (before ++ (gap ++ lexeme)))
  rw [List.append_nil] at h
  exact h

theorem append (ha : Layout region before a ts mid)
    (hb : Layout mid (before ++ a) b ts' region') :
    Layout region before (a ++ b) (ts ++ ts') region' := by
  induction ha with
  | nil region before =>
      rw [List.append_nil] at hb
      exact hb
  | cons hgap hlexeme hrest ih =>
      rw [List.append_assoc, List.cons_append]
      rw [← List.append_assoc] at hb
      exact .cons hgap hlexeme (ih hb)

/-- Tokens one after the other are laid out one after the other. -/
theorem split (h : Layout region before chars (ts ++ ts') region') :
    ∃ a b mid, chars = a ++ b ∧ Layout region before a ts mid
      ∧ Layout mid (before ++ a) b ts' region' := by
  induction ts generalizing region before chars with
  | nil =>
      refine ⟨[], chars, region, rfl, .nil region before, ?_⟩
      rw [List.append_nil]
      exact h
  | cons t ts ih =>
      cases h with
      | cons hgap hlexeme hrest =>
          obtain ⟨a, b, mid, rfl, ha, hb⟩ := ih hrest
          rw [List.append_assoc] at hb
          exact ⟨_, b, mid, (List.append_assoc ..).symm,
            .cons hgap hlexeme ha, hb⟩

/-- The mark of the end is not laid out. -/
theorem ne_eof (h : Layout region before chars ts region') :
    ∀ t ∈ ts, t.token ≠ .eof := by
  induction h with
  | nil => exact fun t ht => absurd ht List.not_mem_nil
  | cons hgap hlexeme hrest ih =>
      intro t ht
      rcases List.mem_cons.mp ht with rfl | ht
      · exact hlexeme.ne_eof
      · exact ih t ht

/-- Each token is spelled somewhere in the text, and stands there. -/
theorem exists_lexeme (h : Layout region before chars ts region') :
    ∀ t ∈ ts, ∃ spot a lexeme b, chars = a ++ (lexeme ++ b)
      ∧ Lexeme spot t.token lexeme ∧ t.pos = place (before ++ a) := by
  induction h with
  | nil => exact fun t ht => absurd ht List.not_mem_nil
  | @cons region region' before gap lexeme rest token ts hgap hlexeme hrest
      ih =>
      intro t ht
      rcases List.mem_cons.mp ht with rfl | ht
      · exact ⟨region, gap, lexeme, rest, List.append_assoc .., hlexeme, rfl⟩
      · obtain ⟨spot, a, lexeme', b, rfl, hlexeme', hpos⟩ := ih t ht
        refine ⟨spot, gap ++ lexeme ++ a, lexeme', b,
          (List.append_assoc ..).symm, hlexeme', ?_⟩
        rw [hpos, List.append_assoc before]

/-- From token to token the places go forward. -/
theorem pairwise_before (h : Layout region before chars ts region') :
    ts.Pairwise fun t t' => t.pos.Before t'.pos := by
  induction h with
  | nil => exact .nil
  | @cons region region' before gap lexeme rest token ts hgap hlexeme hrest
      ih =>
      refine .cons (fun t ht => ?_) ih
      obtain ⟨-, a, -, -, -, -, hpos⟩ := hrest.exists_lexeme t ht
      have hsplit : before ++ (gap ++ lexeme) ++ a
          = before ++ gap ++ (lexeme ++ a) := by
        simp only [List.append_assoc]
      rw [hpos, hsplit]
      exact place_before
        (List.append_ne_nil_of_left_ne_nil hlexeme.ne_nil a)

end Layout

end EntityMarkup
