/-
Scans and readings go together. When the tokens that a scan has found are
read, the reading stands where the scan does: between tags, in an opening
tag, or behind an equals sign (`Reads.region_eq`). This holds at every
character of a source, by induction over the tokens found so far, since a
lexeme of a region is read only where the region is, and leads to where
the next one begins.
-/
import EntityMarkup.Proofs.Markup.Coverage
import EntityMarkup.Proofs.Markup.Flattening

namespace EntityMarkup

open ScanState (outside)

-- =============================================================== scans

section

variable {state state' : ScanState} {here : Position}
  {a b before chars rest : List Char} {region : Region} {ts : List Placed}

/-- A scan of two runs of characters comes to a state between them. -/
theorem Scans.split (h : Scans state here (a ++ b) ts state') :
    ∃ mid ts₁ ts₂, ts = ts₁ ++ ts₂ ∧ Scans state here a ts₁ mid
      ∧ Scans mid (here.advance a) b ts₂ state' := by
  induction a generalizing state here ts with
  | nil => exact ⟨state, [], ts, rfl, .nil state here, h⟩
  | cons c a ih =>
      cases h with
      | @cons _ next _ _ _ _ tokens tokens' hstep hrest =>
          obtain ⟨mid, ts₁, ts₂, rfl, ha, hb⟩ := ih hrest
          exact ⟨mid, tokens ++ ts₁, ts₂, (List.append_assoc ..).symm,
            .cons hstep ha, hb⟩

/-- The tokens of a source, the first part of it being scanned. -/
theorem Scans.tokens?_eq (h : Scans (outside .start) .start a ts state)
    (b : List Char) :
    tokens? (String.ofList (a ++ b))
      = (ts ++ ·) <$> tokensFrom? state (place a) b := by
  rw [EntityMarkup.tokens?_eq, String.toList_ofList, h.tokensFrom_append,
    advance_start]

/-- Characters lay out the tokens that they complete. -/
theorem Pending.scans (h : Pending before region rest state)
    (hscan : Scans state (place (before ++ rest)) chars ts state') :
    Advances region before (rest ++ chars) ts state' := by
  induction chars generalizing before region rest state ts with
  | nil =>
      cases hscan
      rw [List.append_nil]
      exact h.goesOn
  | cons c chars ih =>
      cases hscan with
      | @cons _ mid _ _ _ _ tokens tokens' hstep hrest =>
          obtain ⟨done, rest', region', hsplit, hdone, hpending⟩ :=
            h.step hstep
          have hhere : (place (before ++ rest)).next c
              = place (before ++ done ++ rest') := by
            rw [← place_concat, List.append_assoc, hsplit,
              List.append_assoc]
          have hwhole : rest ++ c :: chars = done ++ (rest' ++ chars) := by
            rw [← List.append_assoc, ← hsplit, List.append_assoc]
            rfl
          rw [hhere] at hrest
          rw [hwhole]
          exact Advances.after hdone (ih hpending hrest)

/-- So do those of a source. -/
theorem Scans.advances
    (h : Scans (outside .start) .start chars ts state) :
    Advances .outside [] chars ts state :=
  (Pending.outside []).scans h

end

-- ============================================================== regions

/-- Where the lexeme belongs that the state is in the middle of. -/
def ScanState.region : ScanState → Region
  | .text _ _ | .angle _ | .bang _ | .bangDash _ | .comment _ _
  | .closingName _ _ | .closingEnd _ _ | .openingName _ _ => .outside
  | .tag | .slash _ | .attrName _ _ => .tag
  | .value | .quoted _ _ _ | .bare _ _ | .bareSlash _ _ _ => .value

theorem Pending.region_eq {before chars : List Char} {region : Region}
    {state : ScanState} (h : Pending before region chars state) :
    region = state.region := by
  cases h <;> rfl

/-- Where the next lexeme must belong for the reading to go on. -/
def Reading.region? : Reading → Option Region
  | .content _ => some .outside
  | .tag _ _ | .named _ _ _ | .valued _ _ _ => some .tag
  | .awaiting _ _ _ => some .value
  | .missing _ _ => none

section

variable {region region' : Region} {reading reading' : Reading}
  {nest : Nest} {head : OpenTag} {t : Token} {pos : Position}
  {before chars : List Char} {ts : List Placed}

/-- In an opening tag, the tokens that belong there lead on. -/
theorem stepTag_region (ht : Lexeme .tag t chars)
    (hstep : Reading.stepTag nest head ⟨t, pos⟩ = .ok reading') :
    reading'.region? = some t.region := by
  cases ht with
  | attrName hname =>
      cases hstep
      rfl
  | equals => cases hstep
  | tagEnd =>
      cases hstep
      rfl
  | selfClose =>
      cases hstep
      rfl

theorem addStep_region {a : Attribute} (ht : Lexeme .tag t chars)
    (hstep : (do Reading.stepTag nest (← head.add a pos) ⟨t, pos⟩)
      = .ok reading') : reading'.region? = some t.region := by
  cases hadd : head.add a pos with
  | error e =>
      rw [hadd] at hstep
      cases hstep
  | ok head' =>
      rw [hadd] at hstep
      exact stepTag_region ht hstep

/-- A lexeme where it belongs leads to where the text goes on. -/
theorem Lexeme.step_region (ht : Lexeme region t chars)
    (hregion : reading.region? = some region)
    (hstep : reading.step ⟨t, pos⟩ = .ok reading') :
    reading'.region? = some t.region := by
  cases reading with
  | content nest =>
      cases hregion
      obtain ⟨roots, opened⟩ := nest
      cases ht with
      | opening hname =>
          cases hstep
          rfl
      | closing hname hblanks =>
          cases opened with
          | nil => cases hstep
          | cons inner outer =>
              simp only [Reading.step, Reading.stepContent] at hstep
              split at hstep
              · cases hstep
                rfl
              · cases hstep
      | text hne hrun =>
          simp only [Reading.step, Reading.stepContent] at hstep
          split at hstep
          · cases hstep
            rfl
          · cases opened with
            | nil => cases hstep
            | cons inner outer =>
                cases hstep
                rfl
  | tag nest head =>
      cases hregion
      exact stepTag_region ht hstep
  | named nest head name =>
      cases hregion
      simp only [Reading.step] at hstep
      split at hstep
      · next hequals =>
        cases hstep
        show some Region.value = some t.region
        rw [show t = .equals from hequals]
        rfl
      · exact addStep_region ht hstep
  | valued nest head last =>
      cases hregion
      exact addStep_region ht hstep
  | awaiting nest head name =>
      cases hregion
      cases ht with
      | value hvalue =>
          cases hstep
          rfl
  | missing name found => cases hregion

/-- Tokens as they are laid out lead from region to region. -/
theorem Layout.reads_region (h : Layout region before chars ts region')
    (hregion : reading.region? = some region)
    (hreads : Reads reading ts reading') :
    reading'.region? = some region' := by
  induction h generalizing reading with
  | nil =>
      cases hreads
      exact hregion
  | cons hgap hlexeme hrest ih =>
      cases hreads with
      | cons hne hstep hreads =>
          exact ih (hlexeme.step_region hregion hstep) hreads

/-- A reading stands where the scan of its tokens does. -/
theorem Reads.region_eq {state : ScanState}
    (hreads : Reads (.content .empty) ts reading)
    (hscan : Scans (outside .start) .start chars ts state) :
    reading.region? = some state.region := by
  obtain ⟨done, rest, region, -, hlayout, hpending⟩ := hscan.advances
  rw [← hpending.region_eq]
  exact hlayout.reads_region rfl hreads

/-- Outside tags this is between tags. -/
theorem Reads.exists_nest {start : Position} {run : List Char}
    (hreads : Reads (.content .empty) ts reading)
    (hscan : Scans (outside .start) .start chars ts (.text start run)) :
    ∃ nest, reading = .content nest := by
  have hregion := hreads.region_eq hscan
  cases reading with
  | content nest => exact ⟨nest, rfl⟩
  | tag | named | valued | awaiting | missing => cases hregion

end

end EntityMarkup
