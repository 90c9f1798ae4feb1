/-
A document is read from nothing but a flattening of its elements. This is
the converse of what `Flattening` shows: there a flattening is read as its
elements, here a list of tokens that is read is one.

The induction is on the tokens, and its invariant says for each reading
which tokens lead to it (`Held`). Of an element that is still open these
are the tokens of its opening tag and of its body so far, behind those of
the elements around it (`NestTokens`). A token adds to the body, opens an
element, or closes the innermost one, which is then an item like others.

With both directions a list of tokens, however it is made, is read as a
document exactly when the tokens before its end are a flattening of that
document (`Document.ofTokens?_eq_ok_iff_flattening`). As tokens lead to
one reading only, they are a flattening of no other.
-/
import EntityMarkup.Proofs.Markup.Flattening

namespace EntityMarkup

-- ======================================================= open elements

/-- Bodies one after the other. -/
theorem BodyTokens.append {body body' : List Content}
    {ts ts' : List Placed} (ha : BodyTokens body ts)
    (hb : BodyTokens body' ts') :
    BodyTokens (body ++ body') (ts ++ ts') :=
  match ha with
  | .nil => hb
  | .blank pos hblank hrest => .blank pos hblank (hrest.append hb)
  | .text pos hblank hrest => .text pos hblank (hrest.append hb)
  | .element he hrest => by
      rw [List.append_assoc]
      exact .element he (hrest.append hb)

/-- The tokens that lead between tags. -/
inductive NestTokens : Nest → List Placed → Prop
  | roots {roots : List Element} {ts : List Placed}
      (h : BodyTokens (roots.reverse.map .element) ts) :
      NestTokens ⟨roots, []⟩ ts
  | inside {roots : List Element} {outer : List OpenElement}
      {inner : OpenElement} {before ts inside : List Placed}
      (first last : Position) (houter : NestTokens ⟨roots, outer⟩ before)
      (hattributes : AttributesTokens inner.attributes ts)
      (hdistinct : (inner.attributes.map (·.name)).Nodup)
      (hline : inner.line = first.line)
      (hbody : BodyTokens inner.body.reverse inside) :
      NestTokens ⟨roots, inner :: outer⟩
        (before ++ (⟨.opening inner.name, first⟩
          :: (ts ++ [⟨.tagEnd, last⟩]) ++ inside))

section

variable {nest : Nest} {roots : List Element} {inner : OpenElement}
  {outer : List OpenElement} {e : Element} {run : String}
  {ts ts' : List Placed}

/-- A complete element. -/
theorem NestTokens.add (h : NestTokens nest ts)
    (he : ElementTokens e ts') :
    NestTokens (nest.add e) (ts ++ ts') := by
  have hitem : BodyTokens [.element e] ts' := by
    have hboth := BodyTokens.element he .nil
    rw [List.append_nil] at hboth
    exact hboth
  cases h with
  | roots hroots =>
      refine .roots ?_
      rw [List.reverse_cons, List.map_append]
      exact hroots.append hitem
  | inside first last houter hattributes hdistinct hline hbody =>
      rw [List.append_assoc, List.append_assoc]
      refine .inside first last houter hattributes hdistinct hline ?_
      rw [List.reverse_cons]
      exact hbody.append hitem

/-- Blank text. -/
theorem NestTokens.blank (h : NestTokens nest ts) (pos : Position)
    (hblank : Text.isBlankText run = true) :
    NestTokens nest (ts ++ [⟨.text run, pos⟩]) := by
  have hnothing := BodyTokens.blank pos hblank .nil
  cases h with
  | roots hroots =>
      have hboth := hroots.append hnothing
      rw [List.append_nil] at hboth
      exact .roots hboth
  | inside first last houter hattributes hdistinct hline hbody =>
      have hboth := hbody.append hnothing
      rw [List.append_nil] at hboth
      rw [List.append_assoc, List.append_assoc]
      exact .inside first last houter hattributes hdistinct hline hboth

/-- Other text, in an element. -/
theorem NestTokens.text (h : NestTokens ⟨roots, inner :: outer⟩ ts)
    (pos : Position) (hblank : Text.isBlankText run = false) :
    NestTokens
      ⟨roots, { inner with body := .text run :: inner.body } :: outer⟩
      (ts ++ [⟨.text run, pos⟩]) := by
  cases h with
  | inside first last houter hattributes hdistinct hline hbody =>
      rw [List.append_assoc, List.append_assoc]
      refine .inside first last houter hattributes hdistinct hline ?_
      rw [List.reverse_cons]
      exact hbody.append (.text pos hblank .nil)

/-- The closing tag of the innermost open element. -/
theorem NestTokens.close (h : NestTokens ⟨roots, inner :: outer⟩ ts)
    (pos : Position) :
    NestTokens (Nest.add ⟨roots, outer⟩ inner.element)
      (ts ++ [⟨.closing inner.name, pos⟩]) := by
  cases h with
  | inside first last houter hattributes hdistinct hline hbody =>
      rw [List.append_assoc, List.append_assoc]
      refine houter.add ?_
      rw [OpenElement.element, hline]
      exact .closed first last pos hattributes hdistinct hbody

end

-- ======================================================== opening tags

/-- The tokens that lead into an opening tag, up to the attributes that
are known to have different names. -/
def TagTokens (nest : Nest) (head : OpenTag) (ts : List Placed) : Prop :=
  ∃ before first inside, NestTokens nest before
    ∧ AttributesTokens head.attributes.reverse inside
    ∧ (head.attributes.reverse.map (·.name)).Nodup
    ∧ head.line = first.line
    ∧ ts = before ++ ⟨.opening head.name, first⟩ :: inside

section

variable {nest : Nest} {head head' : OpenTag} {a : Attribute}
  {pos : Position} {ts ts' : List Placed}

/-- The end of a tag that has a body. -/
theorem TagTokens.enter (h : TagTokens nest head ts) (pos : Position) :
    NestTokens (nest.enter head) (ts ++ [⟨.tagEnd, pos⟩]) := by
  obtain ⟨before, first, inside, houter, hattributes, hdistinct, hline,
    rfl⟩ := h
  have hinside : NestTokens (nest.enter head) _ :=
    .inside first pos houter hattributes hdistinct hline .nil
  rw [List.append_nil] at hinside
  rw [List.append_assoc]
  exact hinside

/-- The end of a tag without one. -/
theorem TagTokens.selfClose (h : TagTokens nest head ts)
    (pos : Position) :
    NestTokens (nest.add head.element) (ts ++ [⟨.selfClose, pos⟩]) := by
  obtain ⟨before, first, inside, houter, hattributes, hdistinct, hline,
    rfl⟩ := h
  rw [List.append_assoc]
  refine houter.add ?_
  rw [OpenTag.element, hline]
  exact .selfClosed first pos hattributes hdistinct

/-- An attribute is added when no earlier one has its name. -/
theorem OpenTag.add_eq_ok (h : head.add a pos = .ok head') :
    a.name ∉ head.attributes.map (·.name)
      ∧ head' = { head with attributes := a :: head.attributes } := by
  unfold add at h
  split at h
  case isTrue => cases h
  case isFalse hnew =>
    cases h
    refine ⟨fun hmem => hnew ?_, rfl⟩
    obtain ⟨b, hb, hname⟩ := List.mem_map.mp hmem
    exact List.any_eq_true.mpr ⟨b, hb, beq_iff_eq.mpr hname⟩

theorem TagTokens.add (h : TagTokens nest head ts)
    (ha : AttributeTokens a ts') (hadd : head.add a pos = .ok head') :
    TagTokens nest head' (ts ++ ts') := by
  obtain ⟨before, first, inside, houter, hattributes, hdistinct, hline,
    rfl⟩ := h
  obtain ⟨hnew, rfl⟩ := OpenTag.add_eq_ok hadd
  refine ⟨before, first, inside ++ ts', houter, ?_, ?_, hline, ?_⟩
  · rw [List.reverse_cons]
    exact hattributes.snoc ha
  · rw [List.reverse_cons, List.map_append, List.nodup_append]
    refine ⟨hdistinct, List.pairwise_singleton _ _, ?_⟩
    intro name hmem name' hmem' heq
    rw [List.map_reverse, List.mem_reverse] at hmem
    rw [heq, List.mem_singleton.mp hmem'] at hmem
    exact hnew hmem
  · rw [List.append_assoc]
    rfl

end

-- ============================================================= readings

/-- The tokens that lead to a reading. Behind a token in place of a value
no document can be read any more. -/
inductive Held : Reading → List Placed → Prop
  | content {nest : Nest} {ts : List Placed} (h : NestTokens nest ts) :
      Held (.content nest) ts
  | tag {nest : Nest} {head : OpenTag} {ts : List Placed}
      (h : TagTokens nest head ts) : Held (.tag nest head) ts
  | named {nest : Nest} {head : OpenTag} {name : String}
      {ts : List Placed} (pos : Position) (h : TagTokens nest head ts) :
      Held (.named nest head name) (ts ++ [⟨.attrName name, pos⟩])
  | awaiting {nest : Nest} {head : OpenTag} {name : String}
      {ts : List Placed} (pos mid : Position)
      (h : TagTokens nest head ts) :
      Held (.awaiting nest head name)
        (ts ++ [⟨.attrName name, pos⟩, ⟨.equals, mid⟩])
  | valued {nest : Nest} {head : OpenTag} {last : Attribute}
      {ts ts' : List Placed} (h : TagTokens nest head ts)
      (hlast : AttributeTokens last ts') :
      Held (.valued nest head last) (ts ++ ts')
  | missing (name : String) (found : Token) (ts : List Placed) :
      Held (.missing name found) ts

section

variable {nest : Nest} {head : OpenTag} {reading reading' : Reading}
  {t : Placed} {ts : List Placed}

theorem held_stepContent (h : NestTokens nest ts)
    (hstep : Reading.stepContent nest t = .ok reading') :
    Held reading' (ts ++ [t]) := by
  obtain ⟨token, pos⟩ := t
  obtain ⟨roots, opened⟩ := nest
  cases token with
  | opening name =>
      cases hstep
      exact .tag ⟨ts, pos, [], h, .nil, List.Pairwise.nil, rfl, rfl⟩
  | text run =>
      simp only [Reading.stepContent] at hstep
      split at hstep
      case isTrue hblank =>
        cases hstep
        exact .content (h.blank pos hblank)
      case isFalse hblank =>
        rw [Bool.not_eq_true] at hblank
        cases opened with
        | nil => cases hstep
        | cons inner outer =>
            cases hstep
            exact .content (h.text pos hblank)
  | closing name =>
      cases opened with
      | nil => cases hstep
      | cons inner outer =>
          simp only [Reading.stepContent] at hstep
          split at hstep
          case isTrue hname =>
            cases hstep
            rw [hname]
            exact .content (h.close pos)
          case isFalse => cases hstep
  | attrName | value | equals | tagEnd | selfClose | eof =>
      cases opened with
      | nil | cons => cases hstep

theorem held_stepTag (h : TagTokens nest head ts)
    (hstep : Reading.stepTag nest head t = .ok reading') :
    Held reading' (ts ++ [t]) := by
  obtain ⟨token, pos⟩ := t
  cases token with
  | attrName name =>
      cases hstep
      exact .named pos h
  | tagEnd =>
      cases hstep
      exact .content (h.enter pos)
  | selfClose =>
      cases hstep
      exact .content (h.selfClose pos)
  | opening | closing | value | text | equals | eof => cases hstep

/-- Behind an attribute, the token comes after it is added. -/
theorem held_addStep {a : Attribute} {ts' : List Placed}
    (h : TagTokens nest head ts) (ha : AttributeTokens a ts')
    (hstep : (do Reading.stepTag nest (← head.add a t.pos) t)
      = .ok reading') :
    Held reading' (ts ++ ts' ++ [t]) := by
  cases hadd : head.add a t.pos with
  | error e =>
      rw [hadd] at hstep
      cases hstep
  | ok head' =>
      rw [hadd] at hstep
      exact held_stepTag (h.add ha hadd) hstep

/-- One token more. -/
theorem Held.step (h : Held reading ts)
    (hstep : reading.step t = .ok reading') :
    Held reading' (ts ++ [t]) := by
  cases h with
  | content h => exact held_stepContent h hstep
  | tag h => exact held_stepTag h hstep
  | @named nest head name ts pos h =>
      simp only [Reading.step] at hstep
      split at hstep
      case isTrue hequals =>
        obtain ⟨token, mid⟩ := t
        cases hequals
        cases hstep
        rw [List.append_assoc]
        exact .awaiting pos mid h
      case isFalse => exact held_addStep h (.flag name pos) hstep
  | @awaiting nest head name ts pos mid h =>
      obtain ⟨token, last⟩ := t
      cases token with
      | value chars =>
          cases hstep
          rw [List.append_assoc]
          exact .valued h (.valued name chars pos mid last)
      | opening | closing | attrName | text | equals | tagEnd | selfClose
      | eof =>
          cases hstep
          exact .missing _ _ _
  | valued h hlast => exact held_addStep h hlast hstep
  | missing => cases hstep

/-- Between tags with nothing open, the tokens are those of the elements
that are complete. -/
theorem Held.roots {roots : List Element}
    (h : Held (.content ⟨roots.reverse, []⟩) ts) :
    BodyTokens (roots.map .element) ts := by
  cases h with
  | content h =>
      cases h with
      | roots hroots =>
          rw [List.reverse_reverse] at hroots
          exact hroots

/-- More tokens. -/
theorem Held.reads {more : List Placed} (h : Held reading ts)
    (hreads : Reads reading more reading') :
    Held reading' (ts ++ more) := by
  induction hreads generalizing ts with
  | nil =>
      rw [List.append_nil]
      exact h
  | cons hne hstep hrest ih =>
      have hall := ih (h.step hstep)
      rw [List.append_assoc] at hall
      exact hall

end

-- ============================================================ documents

/-- The tokens before the mark of the end, or all of them if there is no
such mark. -/
def beforeEnd (ts : List Placed) : List Placed :=
  ts.takeWhile (·.token ≠ .eof)

theorem beforeEnd_eof {t : Placed} (heof : t.token = .eof)
    (rest : List Placed) : beforeEnd (t :: rest) = [] :=
  List.takeWhile_cons_of_neg (by simpa using heof)

theorem beforeEnd_cons {t : Placed} (hne : t.token ≠ .eof)
    (rest : List Placed) : beforeEnd (t :: rest) = t :: beforeEnd rest :=
  List.takeWhile_cons_of_pos (by simpa using hne)

theorem beforeEnd_concat {ts : List Placed} {eof : Position}
    (hts : ∀ t ∈ ts, t.token ≠ .eof) :
    beforeEnd (ts ++ [⟨.eof, eof⟩]) = ts := by
  have hall : ∀ t ∈ ts, decide (t.token ≠ .eof) = true :=
    fun t ht => decide_eq_true (hts t ht)
  rw [beforeEnd, List.takeWhile_append_of_pos hall,
    List.takeWhile_cons_of_neg (by simp), List.append_nil]

section

variable {reading reading₁ reading₂ : Reading} {ts : List Placed}
  {d : Document}

theorem Reads.nil_iff : Reads reading [] reading₁ ↔ reading = reading₁ := by
  constructor
  · intro h
    cases h
    rfl
  · rintro rfl
    exact .nil reading

/-- Tokens lead to one reading only. -/
theorem Reads.unique (h₁ : Reads reading ts reading₁)
    (h₂ : Reads reading ts reading₂) : reading₁ = reading₂ := by
  induction h₁ with
  | nil =>
      cases h₂
      rfl
  | cons hne hstep hrest ih =>
      cases h₂ with
      | cons hne₂ hstep₂ hrest₂ =>
          cases hstep.symm.trans hstep₂
          exact ih hrest₂

/-- A document may end only between tags, with nothing open. -/
theorem Reading.stop_eq_ok_iff {here behind : Position} :
    reading.stop here behind = .ok d
      ↔ reading = .content ⟨d.roots.reverse, []⟩ := by
  constructor
  · intro hstop
    cases reading with
    | content nest =>
        obtain ⟨roots, opened⟩ := nest
        cases opened with
        | nil =>
            cases hstop
            rw [List.reverse_reverse]
        | cons => cases hstop
    | tag | awaiting | missing => cases hstop
    | named nest head name =>
        simp only [Reading.stop] at hstop
        cases hadd : head.add ⟨name, "true"⟩ here with
        | ok | error =>
            rw [hadd] at hstop
            cases hstop
    | valued nest head last =>
        simp only [Reading.stop] at hstop
        cases hadd : head.add last here with
        | ok | error =>
            rw [hadd] at hstop
            cases hstop
  · rintro rfl
    rw [Reading.stop, List.reverse_reverse]

/-- A list is read as a document when the tokens before its end lead to
where the document may end. -/
theorem Reading.run_eq_ok_iff {last : Position} :
    reading.run last ts = .ok d
      ↔ Reads reading (beforeEnd ts) (.content ⟨d.roots.reverse, []⟩) := by
  induction ts generalizing reading last with
  | nil =>
      rw [Reading.run, Reading.stop_eq_ok_iff]
      exact Reads.nil_iff.symm
  | cons t rest ih =>
      rw [Reading.run]
      split
      case isTrue heof =>
        rw [Reading.stop_eq_ok_iff, beforeEnd_eof heof, Reads.nil_iff]
      case isFalse hne =>
        rw [beforeEnd_cons hne]
        constructor
        · intro hrun
          cases hstep : reading.step t with
          | error e =>
              rw [hstep] at hrun
              cases hrun
          | ok mid =>
              rw [hstep] at hrun
              exact .cons hne hstep (ih.mp hrun)
        · intro hreads
          cases hreads with
          | cons hne hstep hrest =>
              rw [hstep]
              exact ih.mpr hrest

end

namespace Document

variable {d d' : Document} {ts : List Placed}

/-- The flattenings of a document are those of its outermost elements one
after the other, with blank text around them. -/
def Flattening (d : Document) (ts : List Placed) : Prop :=
  BodyTokens (d.roots.map .element) ts

/-- They are the tokens that lead to the document. -/
theorem flattening_iff_reads :
    d.Flattening ts
      ↔ Reads (.content .empty) ts (.content ⟨d.roots.reverse, []⟩) := by
  constructor
  · exact BodyTokens.reads_roots
  · intro hreads
    have hstart : NestTokens .empty [] := by
      have hnone : BodyTokens (([] : List Element).map .element) [] := .nil
      exact .roots hnone
    exact ((Held.content hstart).reads hreads).roots

/-- No list is a flattening of two documents. -/
theorem Flattening.unique (h : d.Flattening ts) (h' : d'.Flattening ts) :
    d' = d := by
  have hreads := flattening_iff_reads.mp h
  have hreads' := flattening_iff_reads.mp h'
  cases d
  cases d'
  simpa using hreads'.unique hreads

/-- Any list of tokens is read as a document exactly when what stands
before the mark of the end is a flattening of that document, and then of
no other. -/
theorem ofTokens?_eq_ok_iff_flattening (ts : List Placed)
    (d : Document) :
    (ofTokens? ts = .ok d ↔ d.Flattening (beforeEnd ts))
      ∧ (ofTokens? ts = .ok d →
        ∀ d', d'.Flattening (beforeEnd ts) → d' = d) := by
  have hiff : ofTokens? ts = .ok d ↔ d.Flattening (beforeEnd ts) := by
    rw [ofTokens?, Reading.run_eq_ok_iff, flattening_iff_reads]
  exact ⟨hiff, fun h d' h' => (hiff.mp h).unique h'⟩

/-- A list need not be marked at its end. -/
example (pos : Position) :
    ofTokens? [⟨.opening "a", pos⟩, ⟨.attrName "x", pos⟩,
        ⟨.selfClose, pos⟩]
      = .ok ⟨[⟨"a", [⟨"x", "true"⟩], [], pos.line⟩]⟩ := rfl

end Document

/-- Tokens that are read as a document are a flattening of its elements. -/
theorem BodyTokens.of_document {ts : List Placed} {eof : Position}
    {d : Document} (hts : ∀ t ∈ ts, t.token ≠ .eof)
    (h : Document.ofTokens? (ts ++ [⟨.eof, eof⟩]) = .ok d) :
    BodyTokens (d.roots.map .element) ts := by
  rw [Document.ofTokens?, Reading.run_eq_ok_iff, beforeEnd_concat hts,
    ← Document.flattening_iff_reads] at h
  exact h

end EntityMarkup
