/-
The tokens of what is left of a source. A scan that has come to a place
in some state finds the rest of the tokens in the rest of the source, and
what it has found before has no say in that. So the tokens of a source
can be told by recursion over its characters (`tokensFrom?`, which is
what `tokens?` comes to by `tokens?_eq`): a text that is read in part
leaves a state, and the tokens of the whole are those found so far and
then those found from that state on (`Scans.tokensFrom_append`).
-/
import EntityMarkup.Proofs.Markup.Scans

namespace EntityMarkup

open ScanState (outside)

/-- The tokens from a state on, the mark of the end included. -/
def tokensFrom? (state : ScanState) (here : Position) :
    List Char → Except MarkupError (List Placed)
  | [] => do
    let tokens ← state.finish here
    return tokens ++ [⟨.eof, here⟩]
  | c :: rest => do
    let (tokens, next) ← state.step here c
    let more ← tokensFrom? next (here.next c) rest
    return tokens ++ more

section

variable {state next : ScanState} {here : Position} {c : Char}
  {a rest : List Char} {tokens ts : List Placed} {e : MarkupError}

/-- Tokens before tokens, and those before what is found. -/
theorem map_append_map (a b : List Placed)
    (found : Except MarkupError (List Placed)) :
    (a ++ ·) <$> (b ++ ·) <$> found = (a ++ b ++ ·) <$> found := by
  cases found with
  | error e => rfl
  | ok ts => exact congrArg Except.ok (List.append_assoc a b ts).symm

theorem tokensFrom?_cons_ok
    (hstep : state.step here c = .ok (tokens, next)) :
    tokensFrom? state here (c :: rest)
      = (tokens ++ ·) <$> tokensFrom? next (here.next c) rest := by
  rw [tokensFrom?, hstep]
  show (tokensFrom? next (here.next c) rest).bind _ = _
  cases tokensFrom? next (here.next c) rest with
  | ok more => rfl
  | error e => rfl

theorem tokensFrom?_cons_error (hstep : state.step here c = .error e) :
    tokensFrom? state here (c :: rest) = .error e := by
  rw [tokensFrom?, hstep]
  rfl

/-- What a scan has found before stands before what it finds. -/
theorem Scan.run_finish (found : List Placed) :
    (⟨found, here, state⟩ : Scan).run rest >>= Scan.finish
      = (found.reverse ++ ·) <$> tokensFrom? state here rest := by
  induction rest generalizing found state here with
  | nil =>
      show Scan.finish ⟨found, here, state⟩ = _
      rw [tokensFrom?, Scan.finish]
      cases state.finish here with
      | error e => rfl
      | ok last =>
          show Except.ok _ = Except.ok _
          rw [List.append_assoc]
  | cons c rest ih =>
      have hrun : Scan.run ⟨found, here, state⟩ (c :: rest)
          = Scan.step ⟨found, here, state⟩ c >>= (·.run rest) :=
        List.foldlM_cons
      rw [hrun, Scan.step]
      cases hstep : state.step here c with
      | error e =>
          rw [tokensFrom?_cons_error hstep]
          rfl
      | ok found' =>
          obtain ⟨tokens, next⟩ := found'
          rw [tokensFrom?_cons_ok hstep]
          show Scan.run ⟨tokens.reverse ++ found, here.next c, next⟩ rest
            >>= Scan.finish = _
          rw [ih, List.reverse_append, List.reverse_reverse,
            map_append_map]

/-- The tokens of a source are those from its first character on. -/
theorem tokens?_eq (source : String) :
    tokens? source = tokensFrom? (outside .start) .start source.toList := by
  show (Scan.run ⟨[], .start, outside .start⟩ source.toList).bind _ = _
  exact (Scan.run_finish []).trans (id_map _)

/-- A first part of the rest, read to the state that it leaves. -/
theorem Scans.tokensFrom_append {mid : ScanState} (b : List Char)
    (h : Scans state here a tokens mid) :
    tokensFrom? state here (a ++ b)
      = (tokens ++ ·) <$> tokensFrom? mid (here.advance a) b := by
  induction h with
  | nil state here => exact (id_map _).symm
  | @cons state mid mid' here c rest tokens tokens' hstep hrest ih =>
      rw [List.cons_append, tokensFrom?_cons_ok hstep, ih,
        Position.advance_cons, map_append_map]

/-- When there are tokens to the end, the characters lead to a state that
a source may end in. -/
theorem exists_scans (h : tokensFrom? state here rest = .ok ts) :
    ∃ tokens last, ∃ mid : ScanState, Scans state here rest tokens mid
      ∧ mid.finish (here.advance rest) = .ok last
      ∧ ts = tokens ++ (last ++ [⟨.eof, here.advance rest⟩]) := by
  induction rest generalizing state here ts with
  | nil =>
      rw [tokensFrom?] at h
      cases hlast : state.finish here with
      | error e =>
          rw [hlast] at h
          cases h
      | ok last =>
          rw [hlast] at h
          cases h
          exact ⟨[], last, state, .nil state here, hlast, rfl⟩
  | cons c rest ih =>
      cases hstep : state.step here c with
      | error e =>
          rw [tokensFrom?_cons_error hstep] at h
          cases h
      | ok found =>
          obtain ⟨tokens, next⟩ := found
          rw [tokensFrom?_cons_ok hstep] at h
          cases hmore : tokensFrom? next (here.next c) rest with
          | error e =>
              rw [hmore] at h
              cases h
          | ok more =>
              rw [hmore] at h
              cases h
              obtain ⟨tokens', last, mid, hscan, hlast, rfl⟩ := ih hmore
              exact ⟨tokens ++ tokens', last, mid, .cons hstep hscan, hlast,
                (List.append_assoc ..).symm⟩

end

end EntityMarkup
