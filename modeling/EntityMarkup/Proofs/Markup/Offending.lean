/-
Where a list of tokens goes wrong. A list can be completed if some list
that begins with it is read as a document; the offending token of a list
is the first one behind which that is over.

Which tokens can be completed is told by the reading that they lead to. As
long as no name is repeated in the opening tag where it stands and no
value is missing, a reading is `Promising`: it comes to an end by closing
what is open. No step leads back from a reading that is not
(`Reading.step_promising`), so the tokens that can be completed are those
that lead to a promising one (`completable_iff`).

A promising reading that cannot step on reports the token that stops it,
at its place. But it steps on when a name is repeated or a value missing,
and what comes of it finds the fault behind the attribute, where the next
token stands (`ReportedAt`).
-/
import EntityMarkup.Proofs.Markup.Refusals

namespace EntityMarkup

-- ========================================================== completing

/-- Some document is read from a list of tokens that begins so. -/
def Completable (ts : List Placed) : Prop :=
  ∃ more d, Document.ofTokens? (ts ++ more) = .ok d

/-- The tokens are those before the offending one, that one, and the
rest: no document begins with the tokens up to and including it, and one
begins with those before it. -/
structure Offending (ts before : List Placed) (t : Placed)
    (rest : List Placed) : Prop where
  split : ts = before ++ t :: rest
  completable : Completable before
  not_completable : ¬ Completable (before ++ [t])

/-- A document may still come of the reading: the attribute it has come
to is not a repeated one, and no value is missing. -/
def Reading.Promising : Reading → Prop
  | .content _ | .tag _ _ => True
  | .named _ head name | .awaiting _ head name =>
    name ∉ head.attributes.map (·.name)
  | .valued _ head last => last.name ∉ head.attributes.map (·.name)
  | .missing _ _ => False

section

variable {ts ts' before rest : List Placed} {t : Placed} {nest : Nest}
  {head : OpenTag} {reading reading' : Reading} {d : Document}

/-- What begins a list that can be completed can be completed. -/
theorem Completable.of_append (h : Completable (ts ++ ts')) :
    Completable ts := by
  obtain ⟨more, d, hread⟩ := h
  rw [List.append_assoc] at hread
  exact ⟨ts' ++ more, d, hread⟩

/-- So a list has one offending token, if any. -/
theorem Offending.unique {before' rest' : List Placed} {t' : Placed}
    (h : Offending ts before t rest) (h' : Offending ts before' t' rest') :
    before = before' ∧ t = t' ∧ rest = rest' := by
  have hsplit := h.split.symm.trans h'.split
  rcases List.append_eq_append_iff.mp hsplit with
    ⟨between, hbefore, hrest⟩ | ⟨between, hbefore, hrest⟩
  · cases between with
    | nil =>
        rw [List.append_nil] at hbefore
        cases hrest
        exact ⟨hbefore.symm, rfl, rfl⟩
    | cons first between =>
        cases hrest
        have hfirst := h'.completable
        rw [hbefore, List.append_cons] at hfirst
        exact absurd hfirst.of_append h.not_completable
  · cases between with
    | nil =>
        rw [List.append_nil] at hbefore
        cases hrest
        exact ⟨hbefore, rfl, rfl⟩
    | cons first between =>
        cases hrest
        have hfirst := h.completable
        rw [hbefore, List.append_cons] at hfirst
        exact absurd hfirst.of_append h'.not_completable

-- ==================================================== promising readings

theorem Nest.length_add (nest : Nest) (e : Element) :
    (nest.add e).opened.length = nest.opened.length := by
  obtain ⟨roots, opened⟩ := nest
  cases opened with
  | nil => rfl
  | cons inner outer => rfl

/-- Between tags, the open elements can be closed one after the other. -/
theorem Nest.exists_reads_roots (nest : Nest) :
    ∃ more roots, Reads (.content nest) more (.content ⟨roots, []⟩) := by
  obtain ⟨count, hcount⟩ : ∃ count, nest.opened.length = count := ⟨_, rfl⟩
  induction count generalizing nest with
  | zero =>
      obtain ⟨roots, opened⟩ := nest
      cases List.length_eq_zero_iff.mp hcount
      exact ⟨[], roots, .nil _⟩
  | succ count ih =>
      obtain ⟨roots, opened⟩ := nest
      cases opened with
      | nil => cases hcount
      | cons inner outer =>
          have hclose := reads_closing roots inner outer .start
          obtain ⟨more, roots', hmore⟩ :=
            ih (Nest.add ⟨roots, outer⟩ inner.element) (by
              rw [Nest.length_add]
              exact Nat.succ.inj hcount)
          exact ⟨_, roots', hclose.append hmore⟩

/-- In an opening tag, the tag can be ended first. -/
theorem Stands.exists_reads_roots (h : Stands nest head reading) :
    ∃ more roots, Reads reading more (.content ⟨roots, []⟩) := by
  have hstep := h.step_eq ⟨.selfClose, .start⟩ (fun heq => nomatch heq)
  obtain ⟨more, roots, hmore⟩ := (nest.add head.element).exists_reads_roots
  exact ⟨⟨.selfClose, .start⟩ :: more, roots,
    .cons (fun heq => nomatch heq) hstep hmore⟩

/-- A promising reading keeps its promise. -/
theorem Reading.Promising.exists_reads_roots (h : reading.Promising) :
    ∃ more roots, Reads reading more (.content ⟨roots, []⟩) := by
  cases reading with
  | content nest => exact nest.exists_reads_roots
  | tag nest head => exact (Stands.tag head).exists_reads_roots
  | named nest head name =>
      exact (Stands.named (OpenTag.add_of_notMem (a := ⟨name, "true"⟩)
        h)).exists_reads_roots
  | awaiting nest head name =>
      have hvalue : Reading.step (.awaiting nest head name)
          ⟨.value "", .start⟩ = .ok (.valued nest head ⟨name, ""⟩) := rfl
      obtain ⟨more, roots, hmore⟩ :=
        (show Stands nest _ _ from .valued (OpenTag.add_of_notMem
          (a := ⟨name, ""⟩) h)).exists_reads_roots
      exact ⟨⟨.value "", .start⟩ :: more, roots,
        .cons (fun heq => nomatch heq) hvalue hmore⟩
  | valued nest head last =>
      exact (Stands.valued (OpenTag.add_of_notMem h)).exists_reads_roots
  | missing name found => exact h.elim

theorem addStep_notMem {a : Attribute} {pos : Position}
    (hstep : (do Reading.stepTag nest (← head.add a pos) t)
      = .ok reading') : a.name ∉ head.attributes.map (·.name) := by
  cases hadd : head.add a pos with
  | error e =>
      rw [hadd] at hstep
      cases hstep
  | ok head' => exact (OpenTag.add_eq_ok hadd).1

/-- No step makes a reading promising. -/
theorem Reading.step_promising (hstep : reading.step t = .ok reading')
    (h : reading'.Promising) : reading.Promising := by
  cases reading with
  | content | tag => trivial
  | named nest head name =>
      simp only [Reading.step] at hstep
      split at hstep
      case isTrue =>
        cases hstep
        exact h
      case isFalse => exact addStep_notMem hstep
  | awaiting nest head name =>
      obtain ⟨token, pos⟩ := t
      cases token with
      | value chars =>
          cases hstep
          exact h
      | opening | closing | attrName | text | equals | tagEnd | selfClose
      | eof =>
          cases hstep
          exact h.elim
  | valued nest head last => exact addStep_notMem hstep
  | missing name found => cases hstep

theorem Reads.promising (hreads : Reads reading ts reading')
    (h : reading'.Promising) : reading.Promising := by
  induction hreads with
  | nil => exact h
  | cons hne hstep hrest ih => exact Reading.step_promising hstep (ih h)

-- ============================================ tokens that can be completed

theorem beforeEnd_append (hts : ∀ t ∈ ts, t.token ≠ .eof)
    (more : List Placed) : beforeEnd (ts ++ more) = ts ++ beforeEnd more :=
  List.takeWhile_append_of_pos fun t ht => decide_eq_true (hts t ht)

/-- The tokens that can be completed lead to a promising reading. -/
theorem completable_iff (hts : ∀ t ∈ ts, t.token ≠ .eof) :
    Completable ts ↔ ∃ reading, Reads (.content .empty) ts reading
      ∧ reading.Promising := by
  constructor
  · rintro ⟨more, d, hread⟩
    rw [Document.ofTokens?, Reading.run_eq_ok_iff, beforeEnd_append hts]
      at hread
    obtain ⟨reading, hreads, hmore⟩ := hread.split
    exact ⟨reading, hreads, hmore.promising trivial⟩
  · rintro ⟨reading, hreads, h⟩
    obtain ⟨more, roots, hmore⟩ := h.exists_reads_roots
    obtain ⟨last, hrun⟩ := (hreads.append hmore).run_eq .start []
    rw [List.append_nil] at hrun
    exact ⟨more, ⟨roots.reverse⟩, hrun⟩

/-- The mark of the end cannot be completed where a document may not
end. -/
theorem not_completable_eof {pos : Position}
    (hts : ∀ t ∈ ts, t.token ≠ .eof)
    (hreads : Reads (.content .empty) ts reading)
    (hstop : ∀ d : Document, reading ≠ .content ⟨d.roots.reverse, []⟩) :
    ¬ Completable (ts ++ [⟨.eof, pos⟩]) := by
  rintro ⟨more, d, hread⟩
  rw [Document.ofTokens?, Reading.run_eq_ok_iff, List.append_assoc,
    beforeEnd_append hts, List.singleton_append, beforeEnd_eof rfl,
    List.append_nil] at hread
  exact hstop d (hreads.unique hread)

/-- Nor can a token behind which the reading is not promising, if there
is a reading behind it at all. -/
theorem not_completable_step (hts : ∀ t ∈ ts, t.token ≠ .eof)
    (ht : t.token ≠ .eof) (hreads : Reads (.content .empty) ts reading)
    (hstep : ∀ reading', reading.step t = .ok reading' →
      ¬ reading'.Promising) : ¬ Completable (ts ++ [t]) := by
  have hall : ∀ t' ∈ ts ++ [t], t'.token ≠ .eof :=
    List.forall_mem_append.mpr ⟨hts, List.forall_mem_singleton.mpr ht⟩
  rw [completable_iff hall]
  rintro ⟨reading', hreads', h⟩
  obtain ⟨mid, hmid, hlast⟩ := hreads'.split
  cases hreads.unique hmid
  cases hlast with
  | cons hne hnext hrest =>
      cases hrest
      exact hstep _ hnext h

end

-- ================================================ where a fault is shown

/-- The fault is with the token itself, which has no place where it
stands. -/
inductive Blames : MarkupFault → Token → Prop
  | strayClose (name : String) : Blames (.strayClose name) (.closing name)
  | mismatchedClose (expected found : String) :
      Blames (.mismatchedClose expected found) (.closing found)
  | textOutsideTag (run : String) : Blames .textOutsideTag (.text run)
  | unclosedTag (name : String) : Blames (.unclosedTag name) .eof
  | outside (t : Token) : Blames (.unexpected (.outside t)) t
  | inBody (t : Token) (tag : String) :
      Blames (.unexpected (.inBody t tag)) t
  | inTag (t : Token) (tag : String) : Blames (.unexpected (.inTag t tag)) t

/-- The token is not a value. -/
def Token.NoValue (t : Token) : Prop :=
  ∀ chars, t ≠ .value chars

/-- The mark of the end comes once, as the last token. -/
inductive Marked : List Placed → Prop
  | eof (pos : Position) : Marked [⟨.eof, pos⟩]
  | cons {t : Placed} {rest : List Placed} (hne : t.token ≠ .eof)
      (hrest : Marked rest) : Marked (t :: rest)

theorem Marked.exists_cons {ts : List Placed} (h : Marked ts) :
    ∃ t rest, ts = t :: rest := by
  cases h with
  | eof pos => exact ⟨_, [], rfl⟩
  | cons hne hrest => exact ⟨_, _, rfl⟩

/-- The place of the first of these tokens, or of the one before them if
there are none. -/
def placeBehind (t : Placed) (rest : List Placed) : Position :=
  (rest.head?.getD t).pos

/-- What is reported of a list with this offending token and this rest
behind it. -/
inductive ReportedAt : Placed → List Placed → MarkupError → Prop
  /-- The token has no place there: it is reported where it stands. -/
  | itself {t : Placed} {fault : MarkupFault} (rest : List Placed)
      (h : Blames fault t.token) : ReportedAt t rest ⟨fault, t.pos⟩
  /-- The token is no value, and follows an equals sign: it is reported
  where the next one stands, if there is a next one. -/
  | missing {t : Placed} (rest : List Placed) (name : String)
      (h : t.token.NoValue) :
      ReportedAt t rest
        ⟨.unexpected (.forValue t.token name), placeBehind t rest⟩
  /-- The token is the first of a repeated attribute: that is reported
  where the token behind the attribute stands. -/
  | repeated {last : Attribute} {t next : Placed} {behind : List Placed}
      (rest : List Placed) (tag : String)
      (hlast : AttributeTokens last (t :: behind))
      (hnext : behind = [] → next.token ≠ .equals) :
      ReportedAt t (behind ++ next :: rest)
        ⟨.duplicateAttribute tag last.name, next.pos⟩
  /-- The token is a repeated name, and an equals sign and no value come
  behind it: only that the value is missing is reported. -/
  | repeatedMissing {found : Placed} (rest : List Placed) (name : String)
      (first mid : Position) (h : found.token.NoValue) :
      ReportedAt ⟨.attrName name, first⟩ (⟨.equals, mid⟩ :: found :: rest)
        ⟨.unexpected (.forValue found.token name), placeBehind found rest⟩

section

variable {ts rest : List Placed} {t : Placed} {nest : Nest}
  {head : OpenTag} {reading mid : Reading} {last here eof : Position}
  {e : MarkupError}

theorem stepContent_blames
    (hstep : Reading.stepContent nest t = .error e) :
    Blames e.fault t.token ∧ e.pos = t.pos := by
  obtain ⟨token, pos⟩ := t
  obtain ⟨roots, opened⟩ := nest
  cases token with
  | opening name => cases hstep
  | text run =>
      simp only [Reading.stepContent] at hstep
      split at hstep
      case isTrue => cases hstep
      case isFalse =>
        cases opened with
        | nil =>
            cases hstep
            exact ⟨.textOutsideTag run, rfl⟩
        | cons inner outer => cases hstep
  | closing name =>
      cases opened with
      | nil =>
          cases hstep
          exact ⟨.strayClose name, rfl⟩
      | cons inner outer =>
          simp only [Reading.stepContent] at hstep
          split at hstep
          case isTrue => cases hstep
          case isFalse =>
            cases hstep
            exact ⟨.mismatchedClose inner.name name, rfl⟩
  | attrName | value | equals | tagEnd | selfClose | eof =>
      cases opened with
      | nil =>
          cases hstep
          exact ⟨.outside _, rfl⟩
      | cons inner outer =>
          cases hstep
          exact ⟨.inBody _ inner.name, rfl⟩

theorem stepTag_blames (hstep : Reading.stepTag nest head t = .error e) :
    Blames e.fault t.token ∧ e.pos = t.pos := by
  obtain ⟨token, pos⟩ := t
  cases token with
  | attrName | tagEnd | selfClose => cases hstep
  | opening | closing | value | text | equals | eof =>
      cases hstep
      exact ⟨.inTag _ head.name, rfl⟩

/-- Behind an attribute that is not repeated, the tag goes on with it. -/
theorem stepTag_added {a : Attribute} {pos : Position}
    (h : a.name ∉ head.attributes.map (·.name)) :
    (do Reading.stepTag nest (← head.add a pos) t)
      = Reading.stepTag nest
        { head with attributes := a :: head.attributes } t := by
  rw [OpenTag.add_of_notMem h]
  rfl

/-- A token that stops a promising reading is reported where it
stands. -/
theorem Reading.Promising.step_blames (h : reading.Promising)
    (hstep : reading.step t = .error e) :
    Blames e.fault t.token ∧ e.pos = t.pos := by
  cases reading with
  | content nest => exact stepContent_blames hstep
  | tag nest head => exact stepTag_blames hstep
  | named nest head name =>
      simp only [Reading.step] at hstep
      split at hstep
      case isTrue => cases hstep
      case isFalse =>
        rw [stepTag_added (a := ⟨name, "true"⟩) h] at hstep
        exact stepTag_blames hstep
  | awaiting nest head name =>
      obtain ⟨token, pos⟩ := t
      cases token with
      | opening | closing | attrName | value | text | equals | tagEnd
      | selfClose | eof => cases hstep
  | valued nest head last =>
      simp only [Reading.step] at hstep
      rw [stepTag_added h] at hstep
      exact stepTag_blames hstep
  | missing name found => exact h.elim

/-- So is the mark of the end. -/
theorem Reading.Promising.stop_reported (h : reading.Promising)
    (hstop : reading.stop here here = .error e) :
    ReportedAt ⟨.eof, here⟩ [] e := by
  cases reading with
  | content nest =>
      obtain ⟨roots, opened⟩ := nest
      cases opened with
      | nil => cases hstop
      | cons inner outer =>
          cases hstop
          exact .itself [] (.unclosedTag inner.name)
  | tag nest head =>
      cases hstop
      exact .itself [] (.inTag .eof head.name)
  | named nest head name =>
      rw [Reading.stop, OpenTag.add_of_notMem (a := ⟨name, "true"⟩) h]
        at hstop
      cases hstop
      exact .itself [] (.inTag .eof head.name)
  | awaiting nest head name =>
      cases hstop
      exact .missing [] name fun _ heq => by cases heq
  | valued nest head last =>
      rw [Reading.stop, OpenTag.add_of_notMem h] at hstop
      cases hstop
      exact .itself [] (.inTag .eof head.name)
  | missing name found => exact h.elim

-- ======================================================== broken promises

theorem stepTag_unpromising
    (hstep : Reading.stepTag nest head t = .ok mid)
    (hmid : ¬ mid.Promising) :
    ∃ name, mid = .named nest head name ∧ t.token = .attrName name
      ∧ name ∈ head.attributes.map (·.name) := by
  obtain ⟨token, pos⟩ := t
  cases token with
  | attrName name =>
      cases hstep
      exact ⟨name, rfl, rfl, Classical.not_not.mp hmid⟩
  | tagEnd | selfClose =>
      cases hstep
      exact absurd trivial hmid
  | opening | closing | value | text | equals | eof => cases hstep

/-- A reading ceases to be promising at a token in place of a value, and
at a repeated name. -/
theorem Reading.Promising.step_unpromising (h : reading.Promising)
    (hstep : reading.step t = .ok mid) (hmid : ¬ mid.Promising) :
    (∃ name, mid = .missing name t.token ∧ t.token.NoValue)
      ∨ ∃ nest head name, mid = .named nest head name
        ∧ t.token = .attrName name
        ∧ name ∈ head.attributes.map (·.name) := by
  cases reading with
  | content nest =>
      -- between tags, any step leads to a promising reading
      obtain ⟨token, pos⟩ := t
      obtain ⟨roots, opened⟩ := nest
      refine absurd ?_ hmid
      cases token with
      | opening name =>
          cases hstep
          trivial
      | text run =>
          simp only [Reading.step, Reading.stepContent] at hstep
          split at hstep
          · cases hstep
            trivial
          · cases opened with
            | nil => cases hstep
            | cons inner outer =>
                cases hstep
                trivial
      | closing name =>
          cases opened with
          | nil => cases hstep
          | cons inner outer =>
              simp only [Reading.step, Reading.stepContent] at hstep
              split at hstep <;> cases hstep
              trivial
      | attrName | value | equals | tagEnd | selfClose | eof =>
          cases opened with
          | nil | cons => cases hstep
  | tag nest head =>
      obtain ⟨name, rfl, ht, hname⟩ := stepTag_unpromising hstep hmid
      exact .inr ⟨nest, head, name, rfl, ht, hname⟩
  | named nest head name =>
      simp only [Reading.step] at hstep
      split at hstep
      case isTrue =>
        cases hstep
        exact absurd h hmid
      case isFalse =>
        rw [stepTag_added (a := ⟨name, "true"⟩) h] at hstep
        obtain ⟨name, rfl, ht, hname⟩ := stepTag_unpromising hstep hmid
        exact .inr ⟨nest, _, name, rfl, ht, hname⟩
  | awaiting nest head name =>
      obtain ⟨token, pos⟩ := t
      cases token with
      | value chars =>
          cases hstep
          exact absurd h hmid
      | opening | closing | attrName | text | equals | tagEnd | selfClose
      | eof =>
          cases hstep
          exact .inl ⟨name, rfl, fun _ heq => by cases heq⟩
  | valued nest head last =>
      simp only [Reading.step] at hstep
      rw [stepTag_added h] at hstep
      obtain ⟨name, rfl, ht, hname⟩ := stepTag_unpromising hstep hmid
      exact .inr ⟨nest, _, name, rfl, ht, hname⟩
  | missing name found => exact h.elim

/-- A missing value is found at the next token. -/
theorem Reading.run_missing (name : String) (found : Token)
    (last : Position) (t : Placed) (rest : List Placed) :
    (Reading.missing name found).run last (t :: rest)
      = .error ⟨.unexpected (.forValue found name), t.pos⟩ := by
  rw [Reading.run]
  split <;> rfl

/-- A repeated name that an equals sign follows is found behind its
attribute, unless that has no value. -/
theorem Reading.run_repeated_valued {name : String}
    (hname : name ∈ head.attributes.map (·.name)) (first mid : Position)
    (hrest : Marked rest)
    (hrun : (Reading.awaiting nest head name).run mid rest = .error e) :
    ReportedAt ⟨.attrName name, first⟩ (⟨.equals, mid⟩ :: rest) e := by
  cases hrest with
  | eof pos =>
      cases hrun
      exact .repeatedMissing [] name first mid fun _ heq => nomatch heq
  | @cons t rest hne hrest =>
      obtain ⟨next, rest, rfl⟩ := hrest.exists_cons
      obtain ⟨token, pos⟩ := t
      cases token with
      | value chars =>
          have hvalued : (Reading.valued nest head ⟨name, chars⟩).run pos
              (next :: rest) = .error e := hrun
          have hrefuses : Refuses (.valued nest head ⟨name, chars⟩) next _ :=
            .repeated nest next hname
          cases (hrefuses.run_eq pos rest).symm.trans hvalued
          exact .repeated rest head.name
            (.valued name chars first mid pos) fun heq => nomatch heq
      | eof => exact absurd rfl hne
      | opening | closing | attrName | text | equals | tagEnd
      | selfClose =>
          cases (Reading.run_missing name _ pos next rest).symm.trans hrun
          exact .repeatedMissing (next :: rest) name first mid
            fun _ heq => nomatch heq

/-- A repeated name is found behind its attribute, unless that has an
equals sign and no value. -/
theorem Reading.run_repeated {name : String}
    (hname : name ∈ head.attributes.map (·.name)) (first : Position)
    (hrest : Marked rest)
    (hrun : (Reading.named nest head name).run last rest = .error e) :
    ReportedAt ⟨.attrName name, first⟩ rest e := by
  obtain ⟨next, behind, rfl⟩ := hrest.exists_cons
  by_cases hequals : next.token = .equals
  · obtain ⟨token, mid⟩ := next
    cases hequals
    cases hrest with
    | cons hne hrest => exact run_repeated_valued hname first mid hrest hrun
  · have hrefuses : Refuses (.named nest head name) next _ :=
      .repeatedFlag nest hequals hname
    cases (hrefuses.run_eq last behind).symm.trans hrun
    exact .repeated behind head.name (.flag name first) fun _ => hequals

/-- A token at which a reading ceases to be promising is offending, and
what comes behind it decides where that is reported. -/
theorem Reading.Promising.unpromising_reported (h : reading.Promising)
    (hstep : reading.step t = .ok mid) (hmid : ¬ mid.Promising)
    (hrest : Marked rest) (hrun : mid.run t.pos rest = .error e) :
    ReportedAt t rest e := by
  obtain ⟨name, rfl, hvalue⟩ | ⟨nest, head, name, rfl, ht, hname⟩ :=
    h.step_unpromising hstep hmid
  · obtain ⟨next, rest, rfl⟩ := hrest.exists_cons
    cases (Reading.run_missing name t.token t.pos next rest).symm.trans hrun
    exact .missing (next :: rest) name hvalue
  · obtain ⟨token, pos⟩ := t
    cases ht
    exact run_repeated hname pos hrest hrun

/-- Reading on from a promising reading, up to the offending token. -/
theorem Reading.Promising.run_reported {before : List Placed}
    (h : reading.Promising) (hbefore : ∀ t ∈ before, t.token ≠ .eof)
    (hreads : Reads (.content .empty) before reading) (hts : Marked ts)
    (hrun : reading.run last ts = .error e) :
    ∃ behind t rest, Offending (before ++ ts) (before ++ behind) t rest
      ∧ ReportedAt t rest e := by
  induction hts generalizing before reading last with
  | eof pos =>
      refine ⟨[], ⟨.eof, pos⟩, [], ⟨?_, ?_, ?_⟩, h.stop_reported hrun⟩
      · rw [List.append_nil]
      · rw [List.append_nil]
        exact (completable_iff hbefore).mpr ⟨reading, hreads, h⟩
      · rw [List.append_nil]
        refine not_completable_eof hbefore hreads fun d heq => ?_
        rw [heq] at hrun
        cases hrun
  | @cons t rest hne hrest ih =>
      have hcompletable : Completable (before ++ []) := by
        rw [List.append_nil]
        exact (completable_iff hbefore).mpr ⟨reading, hreads, h⟩
      have hspoiled : (∀ mid, reading.step t = .ok mid → ¬ mid.Promising) →
          Offending (before ++ t :: rest) (before ++ []) t rest := by
        intro hstep
        refine ⟨by rw [List.append_nil], hcompletable, ?_⟩
        rw [List.append_nil]
        exact not_completable_step hbefore hne hreads hstep
      rw [Reading.run, if_neg hne] at hrun
      cases hstep : reading.step t with
      | error e' =>
          rw [hstep] at hrun
          cases hrun
          obtain ⟨hblames, hpos⟩ := h.step_blames hstep
          have hoffending := hspoiled fun mid hmid => by
            rw [hstep] at hmid
            cases hmid
          obtain ⟨fault, pos⟩ := e
          cases hpos
          exact ⟨[], t, rest, hoffending, .itself rest hblames⟩
      | ok mid =>
          rw [hstep] at hrun
          by_cases hmid : mid.Promising
          · have hbefore' : ∀ t' ∈ before ++ [t], t'.token ≠ .eof :=
              List.forall_mem_append.mpr
                ⟨hbefore, List.forall_mem_singleton.mpr hne⟩
            obtain ⟨behind, t', rest', hoffending, hreported⟩ :=
              ih hmid hbefore' (hreads.append (.single hne hstep)) hrun
            rw [List.append_assoc, List.append_assoc] at hoffending
            exact ⟨t :: behind, t', rest', hoffending, hreported⟩
          · have hoffending := hspoiled fun mid' hmid' => by
              cases hstep.symm.trans hmid'
              exact hmid
            exact ⟨[], t, rest, hoffending,
              h.unpromising_reported hstep hmid hrest hrun⟩

end

/-- When the tokens up to the mark of the end are no document, one of them
is offending. The fault is with this token and reported at its place,
apart from two faults that are reported at the next token behind them: a
missing value, and a repeated attribute. -/
theorem ofTokens?_error_reported {ts : List Placed} {e : MarkupError}
    (hts : Marked ts) (h : Document.ofTokens? ts = .error e) :
    ∃ before t rest, Offending ts before t rest ∧ ReportedAt t rest e := by
  have hstart : (Reading.content .empty).Promising := trivial
  exact hstart.run_reported (List.forall_mem_nil _) (.nil _) hts h

/-- A tag with a repeated name, and no values. -/
def repeatedTokens : List Placed :=
  [⟨.opening "a", ⟨1, 1⟩⟩, ⟨.attrName "x", ⟨1, 4⟩⟩,
    ⟨.attrName "x", ⟨1, 6⟩⟩, ⟨.selfClose, ⟨1, 7⟩⟩, ⟨.eof, ⟨1, 9⟩⟩]

/-- A tag that ends where a value should be. -/
def missingTokens : List Placed :=
  [⟨.opening "a", ⟨1, 1⟩⟩, ⟨.attrName "x", ⟨1, 4⟩⟩, ⟨.equals, ⟨1, 5⟩⟩,
    ⟨.selfClose, ⟨1, 6⟩⟩, ⟨.eof, ⟨1, 8⟩⟩]

theorem ofTokens?_error_reported_repeated :
    Marked repeatedTokens
      ∧ Document.ofTokens? repeatedTokens
        = .error ⟨.duplicateAttribute "a" "x", ⟨1, 7⟩⟩
      ∧ ∃ before t rest, Offending repeatedTokens before t rest
        ∧ ReportedAt t rest ⟨.duplicateAttribute "a" "x", ⟨1, 7⟩⟩ := by
  have hmarked : Marked repeatedTokens :=
    .cons (by decide) (.cons (by decide) (.cons (by decide)
      (.cons (by decide) (.eof _))))
  have hread : Document.ofTokens? repeatedTokens
      = .error ⟨.duplicateAttribute "a" "x", ⟨1, 7⟩⟩ := by rfl
  exact ⟨hmarked, hread, ofTokens?_error_reported hmarked hread⟩

/-- In the first list the second name is offending, and in the second
list the end of the tag. Neither is where the fault is reported. -/
theorem reported_behind_offending :
    (Document.ofTokens? repeatedTokens
        = .error ⟨.duplicateAttribute "a" "x", ⟨1, 7⟩⟩
      ∧ ∀ before t rest, Offending repeatedTokens before t rest →
        t.pos = ⟨1, 6⟩)
    ∧ Document.ofTokens? missingTokens
        = .error ⟨.unexpected (.forValue .selfClose "x"), ⟨1, 8⟩⟩
      ∧ ∀ before t rest, Offending missingTokens before t rest →
        t.pos = ⟨1, 6⟩ := by
  have hrepeated : Offending repeatedTokens
      [⟨.opening "a", ⟨1, 1⟩⟩, ⟨.attrName "x", ⟨1, 4⟩⟩]
      ⟨.attrName "x", ⟨1, 6⟩⟩ [⟨.selfClose, ⟨1, 7⟩⟩, ⟨.eof, ⟨1, 9⟩⟩] := by
    refine ⟨rfl, ⟨[⟨.selfClose, ⟨1, 7⟩⟩], _, rfl⟩, ?_⟩
    refine not_completable_step (by decide) (by decide)
      (.cons (by decide) rfl (.cons (by decide) rfl (.nil _)))
      fun reading hstep => ?_
    cases hstep
    exact fun hpromising => hpromising (List.mem_singleton.mpr rfl)
  have hmissing : Offending missingTokens
      [⟨.opening "a", ⟨1, 1⟩⟩, ⟨.attrName "x", ⟨1, 4⟩⟩,
        ⟨.equals, ⟨1, 5⟩⟩]
      ⟨.selfClose, ⟨1, 6⟩⟩ [⟨.eof, ⟨1, 8⟩⟩] := by
    refine ⟨rfl, ⟨[⟨.value "", ⟨1, 6⟩⟩, ⟨.selfClose, ⟨1, 7⟩⟩], _, rfl⟩, ?_⟩
    refine not_completable_step (by decide) (by decide)
      (.cons (by decide) rfl (.cons (by decide) rfl
        (.cons (by decide) rfl (.nil _)))) fun reading hstep => ?_
    cases hstep
    exact id
  refine ⟨⟨rfl, fun before t rest h => ?_⟩, rfl, fun before t rest h => ?_⟩
  · obtain ⟨-, rfl, -⟩ := hrepeated.unique h
    rfl
  · obtain ⟨-, rfl, -⟩ := hmissing.unique h
    rfl

end EntityMarkup
