/-
Trees as lists of tokens. A flattening of an element is its tokens in
written order: the start of its tag, its attributes, the end of the tag
and, if it has a body, the body's tokens and the closing tag. Blank text
may stand between items and means nothing.

Reading a flattening gives the tree back. `Reads` says what a list of
tokens does to a reading, and it joins up along lists (`Reads.append`).
The one thing that reaches over the end of a piece is an attribute, which
is compared with the earlier ones only when the next token is there; a
reading that has such a comparison to make stands in the same place
already (`Stands`).
-/
import EntityMarkup.Markup.Element.Read

namespace EntityMarkup

-- ======================================================== flattenings

/-- The tokens of an attribute. One with the value `true` may be its name
alone. -/
inductive AttributeTokens : Attribute → List Placed → Prop
  | flag (name : String) (pos : Position) :
      AttributeTokens ⟨name, "true"⟩ [⟨.attrName name, pos⟩]
  | valued (name value : String) (first mid last : Position) :
      AttributeTokens ⟨name, value⟩
        [⟨.attrName name, first⟩, ⟨.equals, mid⟩, ⟨.value value, last⟩]

/-- The tokens of the attributes of a tag, in written order. -/
inductive AttributesTokens : List Attribute → List Placed → Prop
  | nil : AttributesTokens [] []
  | snoc {attributes : List Attribute} {a : Attribute}
      {ts ts' : List Placed} (hbefore : AttributesTokens attributes ts)
      (ha : AttributeTokens a ts') :
      AttributesTokens (attributes ++ [a]) (ts ++ ts')

mutual

/-- The flattenings of an element. It starts on the line of its first
token, and its attributes have different names. -/
inductive ElementTokens : Element → List Placed → Prop
  | selfClosed {name : String} {attributes : List Attribute}
      {ts : List Placed} (first last : Position)
      (hattributes : AttributesTokens attributes ts)
      (hdistinct : (attributes.map (·.name)).Nodup) :
      ElementTokens ⟨name, attributes, [], first.line⟩
        (⟨.opening name, first⟩ :: (ts ++ [⟨.selfClose, last⟩]))
  | closed {name : String} {attributes : List Attribute}
      {body : List Content} {ts inside : List Placed}
      (first mid last : Position)
      (hattributes : AttributesTokens attributes ts)
      (hdistinct : (attributes.map (·.name)).Nodup)
      (hbody : BodyTokens body inside) :
      ElementTokens ⟨name, attributes, body, first.line⟩
        (⟨.opening name, first⟩ :: (ts ++ [⟨.tagEnd, mid⟩])
          ++ (inside ++ [⟨.closing name, last⟩]))

/-- The flattenings of a body. -/
inductive BodyTokens : List Content → List Placed → Prop
  | nil : BodyTokens [] []
  | blank {run : String} {body : List Content} {ts : List Placed}
      (pos : Position) (hblank : Text.isBlankText run = true)
      (hrest : BodyTokens body ts) :
      BodyTokens body (⟨.text run, pos⟩ :: ts)
  | text {run : String} {body : List Content} {ts : List Placed}
      (pos : Position) (hblank : Text.isBlankText run = false)
      (hrest : BodyTokens body ts) :
      BodyTokens (.text run :: body) (⟨.text run, pos⟩ :: ts)
  | element {e : Element} {body : List Content} {ts ts' : List Placed}
      (he : ElementTokens e ts) (hrest : BodyTokens body ts') :
      BodyTokens (.element e :: body) (ts ++ ts')

end

-- ============================================================ reading

/-- The tokens lead from one reading to the other, and none is the mark
of the end. -/
inductive Reads : Reading → List Placed → Reading → Prop
  | nil (reading : Reading) : Reads reading [] reading
  | cons {reading mid reading' : Reading} {t : Placed}
      {ts : List Placed} (hne : t.token ≠ .eof)
      (hstep : reading.step t = .ok mid) (hrest : Reads mid ts reading') :
      Reads reading (t :: ts) reading'

namespace Reads

variable {reading mid reading' : Reading} {t : Placed}
  {ts ts' : List Placed}

theorem single (hne : t.token ≠ .eof)
    (hstep : reading.step t = .ok reading') :
    Reads reading [t] reading' :=
  .cons hne hstep (.nil reading')

theorem append (ha : Reads reading ts mid) (hb : Reads mid ts' reading') :
    Reads reading (ts ++ ts') reading' := by
  induction ha with
  | nil => exact hb
  | cons hne hstep hrest ih => exact .cons hne hstep (ih hb)

/-- Tokens one after the other lead to a reading in between. -/
theorem split (h : Reads reading (ts ++ ts') reading') :
    ∃ mid, Reads reading ts mid ∧ Reads mid ts' reading' := by
  induction ts generalizing reading with
  | nil => exact ⟨reading, .nil reading, h⟩
  | cons t ts ih =>
      cases h with
      | cons hne hstep hrest =>
          obtain ⟨mid, hfirst, hlast⟩ := ih hrest
          exact ⟨mid, .cons hne hstep hfirst, hlast⟩

/-- What the reading of a whole list does with the tokens. -/
theorem run_eq (h : Reads reading ts reading') (last : Position)
    (rest : List Placed) :
    ∃ last', reading.run last (ts ++ rest) = reading'.run last' rest := by
  induction h generalizing last with
  | nil => exact ⟨last, rfl⟩
  | @cons reading mid reading' t ts hne hstep hrest ih =>
      obtain ⟨last', heq⟩ := ih t.pos
      refine ⟨last', ?_⟩
      rw [List.cons_append, Reading.run, if_neg hne, hstep]
      exact heq

end Reads

-- ========================================================= attributes

/-- In the opening tag the reading stands between attributes, or will
when it has compared the last one with the others. -/
inductive Stands (nest : Nest) : OpenTag → Reading → Prop
  | tag (head : OpenTag) : Stands nest head (.tag nest head)
  | named {head head' : OpenTag} {name : String}
      (hadd : ∀ pos, head.add ⟨name, "true"⟩ pos = .ok head') :
      Stands nest head' (.named nest head name)
  | valued {head head' : OpenTag} {last : Attribute}
      (hadd : ∀ pos, head.add last pos = .ok head') :
      Stands nest head' (.valued nest head last)

section

variable {nest : Nest} {head head' : OpenTag} {reading : Reading}
  {ts : List Placed} {a : Attribute} {attributes : List Attribute}

/-- So it treats a token as there, unless it is the equals sign of a name
that has no value yet. -/
theorem Stands.step_eq (h : Stands nest head reading) (t : Placed)
    (hne : t.token ≠ .equals) :
    reading.step t = Reading.stepTag nest head t := by
  cases h with
  | tag => rfl
  | named hadd =>
      simp only [Reading.step]
      rw [if_neg hne, hadd]
      rfl
  | valued hadd =>
      simp only [Reading.step]
      rw [hadd]
      rfl

/-- The tokens of one more attribute. -/
theorem AttributeTokens.reads (h : AttributeTokens a ts)
    (hadd : ∀ pos, head.add a pos = .ok head')
    (hstands : Stands nest head reading) :
    ∃ reading', Reads reading ts reading' ∧ Stands nest head' reading' := by
  cases h with
  | flag name pos =>
      have hstep := hstands.step_eq ⟨.attrName name, pos⟩
        (fun heq => nomatch heq)
      exact ⟨.named nest head name, .single (fun heq => nomatch heq) hstep,
        .named hadd⟩
  | valued name value first mid last =>
      have hstep := hstands.step_eq ⟨.attrName name, first⟩
        (fun heq => nomatch heq)
      have hequals : Reading.step (.named nest head name) ⟨.equals, mid⟩
          = .ok (.awaiting nest head name) := by
        rw [Reading.step, if_pos rfl]
      have hvalue : Reading.step (.awaiting nest head name)
          ⟨.value value, last⟩ = .ok (.valued nest head ⟨name, value⟩) := by
        rw [Reading.step]
      exact ⟨.valued nest head ⟨name, value⟩,
        .cons (fun heq => nomatch heq) hstep
          (.cons (fun heq => nomatch heq) hequals
            (.single (fun heq => nomatch heq) hvalue)),
        .valued hadd⟩

/-- An attribute of a new name is added. -/
theorem OpenTag.add_of_notMem
    (h : a.name ∉ head.attributes.map (·.name)) (pos : Position) :
    head.add a pos
      = .ok { head with attributes := a :: head.attributes } := by
  have hany : ¬ head.attributes.any (·.name == a.name) = true := by
    intro hany
    obtain ⟨b, hb, heq⟩ := List.any_eq_true.mp hany
    exact h (List.mem_map.mpr ⟨b, hb, beq_iff_eq.mp heq⟩)
  rw [add, if_neg hany]

/-- The tokens of all attributes of a tag. -/
theorem AttributesTokens.reads (nest : Nest) (name : String) (line : Nat)
    (h : AttributesTokens attributes ts)
    (hdistinct : (attributes.map (·.name)).Nodup) :
    ∃ reading, Reads (.tag nest ⟨name, [], line⟩) ts reading
      ∧ Stands nest ⟨name, attributes.reverse, line⟩ reading := by
  induction h with
  | nil => exact ⟨_, .nil _, .tag _⟩
  | @snoc attributes a ts ts' hbefore ha ih =>
      rw [List.map_append, List.nodup_append] at hdistinct
      obtain ⟨hnodup, -, hapart⟩ := hdistinct
      obtain ⟨reading, hreads, hstands⟩ := ih hnodup
      have hnew : a.name ∉ attributes.reverse.map (·.name) := by
        intro hmem
        rw [List.map_reverse, List.mem_reverse] at hmem
        exact hapart a.name hmem a.name (List.mem_singleton.mpr rfl) rfl
      have hadd : ∀ pos,
          OpenTag.add ⟨name, attributes.reverse, line⟩ a pos
            = .ok ⟨name, a :: attributes.reverse, line⟩ :=
        OpenTag.add_of_notMem hnew
      obtain ⟨reading', hreads', hstands'⟩ := ha.reads hadd hstands
      refine ⟨reading', hreads.append hreads', ?_⟩
      rw [List.reverse_append]
      exact hstands'

end

-- ============================================================ elements

/-- With one more item at the innermost open place. -/
def Nest.take (nest : Nest) : Content → Nest
  | .element e => nest.add e
  | .text run =>
      match nest.opened with
      | [] => nest
      | inner :: outer =>
          { nest with
            opened := { inner with body := .text run :: inner.body }
              :: outer }

theorem Nest.foldl_take_inner (roots : List Element)
    (inner : OpenElement) (outer : List OpenElement)
    (body : List Content) :
    body.foldl Nest.take ⟨roots, inner :: outer⟩
      = ⟨roots, { inner with body := body.reverse ++ inner.body }
          :: outer⟩ := by
  induction body generalizing inner with
  | nil => rfl
  | cons item rest ih =>
      have hitem : Nest.take ⟨roots, inner :: outer⟩ item
          = ⟨roots, { inner with body := item :: inner.body } :: outer⟩ := by
        cases item with
        | text | element => rfl
      rw [List.foldl_cons, hitem, ih, List.reverse_cons, List.append_assoc]
      rfl

theorem Nest.foldl_take_roots (before roots : List Element) :
    (roots.map Content.element).foldl Nest.take ⟨before, []⟩
      = ⟨roots.reverse ++ before, []⟩ := by
  induction roots generalizing before with
  | nil => rfl
  | cons e rest ih =>
      rw [List.map_cons, List.foldl_cons, List.reverse_cons,
        List.append_assoc]
      exact ih (e :: before)

/-- Text only stands inside an element. -/
def Nest.Accepts (nest : Nest) (body : List Content) : Prop :=
  nest.opened = [] → ∀ run, Content.text run ∉ body

section

variable {nest : Nest} {attributes : List Attribute} {ts : List Placed}
  {run : String} {item : Content} {body : List Content}

theorem Nest.Accepts.rest (h : nest.Accepts (item :: body)) :
    (nest.take item).Accepts body := by
  intro hopened run hmem
  refine h ?_ run (List.mem_cons_of_mem item hmem)
  cases hnest : nest.opened with
  | nil => rfl
  | cons inner outer =>
      cases item with
      | text | element =>
          simp only [take, add, hnest] at hopened
          cases hopened

/-- An opening tag is read up to the token that ends it. -/
theorem reads_openTag (nest : Nest) (name : String) (first : Position)
    (t : Placed) {reading : Reading}
    (hattributes : AttributesTokens attributes ts)
    (hdistinct : (attributes.map (·.name)).Nodup)
    (heof : t.token ≠ .eof) (hequals : t.token ≠ .equals)
    (hstep : Reading.stepTag nest ⟨name, attributes.reverse, first.line⟩ t
      = .ok reading) :
    Reads (.content nest) (⟨.opening name, first⟩ :: (ts ++ [t]))
      reading := by
  have hfirst : Reading.step (.content nest) ⟨.opening name, first⟩
      = .ok (.tag nest ⟨name, [], first.line⟩) := rfl
  obtain ⟨mid, hreads, hstands⟩ :=
    hattributes.reads nest name first.line hdistinct
  have hlast : mid.step t = .ok reading := by
    rw [hstands.step_eq t hequals, hstep]
  exact .cons (fun heq => nomatch heq) hfirst
    (hreads.append (.single heof hlast))

/-- A token of text is read as one more item, if it is not blank. -/
theorem reads_text (pos : Position)
    (haccepts : nest.Accepts (.text run :: body))
    (hblank : Text.isBlankText run = false) :
    Reads (.content nest) [⟨.text run, pos⟩]
      (.content (nest.take (.text run))) := by
  cases hopened : nest.opened with
  | nil => exact absurd (List.mem_cons_self ..) (haccepts hopened run)
  | cons inner outer =>
      refine .single (fun heq => nomatch heq) ?_
      simp only [Reading.step, Reading.stepContent, Nest.take, hopened,
        hblank]
      rfl

/-- A closing tag of the right name is read as the end of the innermost
open element. -/
theorem reads_closing (roots : List Element) (inner : OpenElement)
    (outer : List OpenElement) (pos : Position) :
    Reads (.content ⟨roots, inner :: outer⟩)
      [⟨.closing inner.name, pos⟩]
      (.content (Nest.add ⟨roots, outer⟩ inner.element)) :=
  .single (fun heq => nomatch heq) (if_pos rfl)

end

mutual

/-- Reading a flattening of an element adds the element. -/
theorem ElementTokens.reads {e : Element} {ts : List Placed} (nest : Nest) :
    ElementTokens e ts →
      Reads (.content nest) ts (.content (nest.add e))
  | @ElementTokens.selfClosed name attributes ts first last hattributes
      hdistinct => by
      refine reads_openTag nest name first ⟨.selfClose, last⟩ hattributes
        hdistinct (fun heq => nomatch heq) (fun heq => nomatch heq) ?_
      rw [Reading.stepTag, OpenTag.element, List.reverse_reverse]
  | @ElementTokens.closed name attributes body ts inside first mid last
      hattributes hdistinct hbody => by
      have hopen := reads_openTag nest name first ⟨.tagEnd, mid⟩ hattributes
        hdistinct (fun heq => nomatch heq) (fun heq => nomatch heq) rfl
      have haccepts : (nest.enter
          ⟨name, attributes.reverse, first.line⟩).Accepts body :=
        fun hopened => nomatch hopened
      have hinside := BodyTokens.reads _ haccepts hbody
      rw [Nest.enter, Nest.foldl_take_inner, List.append_nil] at hinside
      have hclose := reads_closing nest.roots
        ⟨name, attributes.reverse.reverse, first.line, body.reverse⟩
        nest.opened last
      rw [OpenElement.element] at hclose
      have hall := hopen.append (hinside.append hclose)
      rw [List.reverse_reverse, List.reverse_reverse] at hall
      exact hall

/-- Reading a flattening of a body adds its items one by one. -/
theorem BodyTokens.reads {body : List Content} {ts : List Placed}
    (nest : Nest) (haccepts : nest.Accepts body) :
    BodyTokens body ts →
      Reads (.content nest) ts (.content (body.foldl Nest.take nest))
  | .nil => .nil _
  | .blank pos hblank hrest =>
      .cons (fun heq => nomatch heq) (if_pos hblank)
        (BodyTokens.reads nest haccepts hrest)
  | .text pos hblank hrest =>
      (reads_text pos haccepts hblank).append
        (BodyTokens.reads _ haccepts.rest hrest)
  | .element he hrest =>
      (ElementTokens.reads nest he).append
        (BodyTokens.reads _ haccepts.rest hrest)

end

/-- Reading a flattening of some elements leads back between tags, with
these elements complete. -/
theorem BodyTokens.reads_roots {roots : List Element} {ts : List Placed}
    (h : BodyTokens (roots.map .element) ts) :
    Reads (.content .empty) ts (.content ⟨roots.reverse, []⟩) := by
  have haccepts : Nest.empty.Accepts (roots.map .element) := by
    intro _ run hmem
    obtain ⟨e, -, heq⟩ := List.mem_map.mp hmem
    cases heq
  have hreads := BodyTokens.reads .empty haccepts h
  rw [Nest.empty, Nest.foldl_take_roots, List.append_nil] at hreads
  exact hreads

/-- The document that a flattening of some elements denotes consists of
these elements. -/
theorem BodyTokens.document_eq {roots : List Element} {ts : List Placed}
    (h : BodyTokens (roots.map .element) ts) (last : Position) :
    Document.ofTokens? (ts ++ [⟨.eof, last⟩]) = .ok ⟨roots⟩ := by
  obtain ⟨pos, hrun⟩ := h.reads_roots.run_eq .start [⟨.eof, last⟩]
  have hstop : Reading.run (.content ⟨roots.reverse, []⟩) pos
      [⟨.eof, last⟩] = .ok ⟨roots⟩ := by
    rw [Reading.run, if_pos rfl, Reading.stop, List.reverse_reverse]
  rw [← hstop]
  exact hrun

end EntityMarkup
