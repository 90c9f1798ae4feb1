/-
The gist of a document: its elements with their names, their attributes
and, for each run of text, its lines. Which runs these lines are grouped
into and where the elements stand in the source is left out.

Readings with the same gist read the same tokens alike, wherever these
stand (`Reading.Alike.run`), and text tokens with the same lines make the
same difference, whether they are one or several (`exists_reads_texts`).
-/
import EntityMarkup.Proofs.Markup.Flattening
import EntityMarkup.Proofs.Text.Lines

namespace EntityMarkup

open ScanState (written textToken)

-- =============================================================== gists

/-- A line of text, or an element with its body. -/
inductive Gist where
  | line (text : String)
  | element (name : String) (attributes : List Attribute)
      (body : List Gist)

mutual

/-- The lines of a text run, or the gist of an element. -/
def Content.gists : Content → List Gist
  | .text run => (Text.lines run).map .line
  | .element e => [Element.gist e]

/-- The gist of an element. -/
def Element.gist : ElementOf Content → Gist
  | ⟨name, attributes, content, _⟩ =>
    .element name attributes (Content.gistsAll content)

/-- The gists of a body. -/
def Content.gistsAll : List Content → List Gist
  | [] => []
  | c :: rest => Content.gists c ++ Content.gistsAll rest

end

/-- The gists of a document. -/
def Document.gists (d : Document) : List Gist :=
  d.roots.map Element.gist

theorem Content.gistsAll_append (a b : List Content) :
    Content.gistsAll (a ++ b)
      = Content.gistsAll a ++ Content.gistsAll b := by
  induction a with
  | nil => rfl
  | cons c a ih =>
      rw [List.cons_append, Content.gistsAll, Content.gistsAll, ih,
        List.append_assoc]

theorem Content.gistsAll_snoc (body : List Content) (c : Content) :
    Content.gistsAll (body ++ [c])
      = Content.gistsAll body ++ Content.gists c := by
  rw [Content.gistsAll_append, Content.gistsAll, Content.gistsAll,
    List.append_nil]

/-- The gist of an open element: its name, its attributes, and its body so
far. -/
def OpenElement.gist (inner : OpenElement) :
    String × List Attribute × List Gist :=
  (inner.name, inner.attributes, Content.gistsAll inner.body.reverse)

/-- The gist of what is complete and what is open. -/
structure NestGist where
  roots : List Gist
  opened : List (String × List Attribute × List Gist)

def Nest.gist (nest : Nest) : NestGist :=
  ⟨nest.roots.map Element.gist, nest.opened.map OpenElement.gist⟩

namespace NestGist

/-- With gists at the end of the innermost open body. -/
def put (gists : List Gist) : NestGist → NestGist
  | ⟨roots, []⟩ => ⟨roots, []⟩
  | ⟨roots, (name, attributes, body) :: outer⟩ =>
    ⟨roots, (name, attributes, body ++ gists) :: outer⟩

theorem put_nil (g : NestGist) : g.put [] = g := by
  obtain ⟨roots, opened⟩ := g
  cases opened with
  | nil => rfl
  | cons inner outer =>
      obtain ⟨name, attributes, body⟩ := inner
      rw [put, List.append_nil]

theorem put_append (g : NestGist) (a b : List Gist) :
    g.put (a ++ b) = (g.put a).put b := by
  obtain ⟨roots, opened⟩ := g
  cases opened with
  | nil => rfl
  | cons inner outer =>
      obtain ⟨name, attributes, body⟩ := inner
      rw [put, put, put, List.append_assoc]

end NestGist

section

variable {nest nest' : Nest}

theorem OpenElement.gist_element (inner : OpenElement) :
    Element.gist inner.element
      = .element inner.gist.1 inner.gist.2.1 inner.gist.2.2 := by
  rw [OpenElement.element, Element.gist]
  rfl

/-- A nest with nothing open has a gist with nothing open. -/
theorem Nest.opened_eq_nil_iff (nest : Nest) :
    nest.gist.opened = [] ↔ nest.opened = [] :=
  List.map_eq_nil_iff

theorem Nest.gist_add (h : nest.gist = nest'.gist) {e e' : Element}
    (he : Element.gist e = Element.gist e') :
    (nest.add e).gist = (nest'.add e').gist := by
  obtain ⟨roots, opened⟩ := nest
  obtain ⟨roots', opened'⟩ := nest'
  obtain ⟨hroots, hopened⟩ := NestGist.mk.inj h
  cases opened with
  | nil =>
      obtain rfl := List.map_eq_nil_iff.mp hopened.symm
      simp only [Nest.add, Nest.gist, List.map_cons, he, hroots]
  | cons inner outer =>
      cases opened' with
      | nil => cases hopened
      | cons inner' outer' =>
          obtain ⟨hinner, houter⟩ := List.cons.inj hopened
          obtain ⟨hname, hrest⟩ := Prod.mk.inj hinner
          obtain ⟨hattributes, hbody⟩ := Prod.mk.inj hrest
          have hmore : Content.gistsAll (.element e :: inner.body).reverse
              = Content.gistsAll (.element e' :: inner'.body).reverse := by
            rw [List.reverse_cons, List.reverse_cons,
              Content.gistsAll_snoc, Content.gistsAll_snoc, hbody,
              Content.gists, Content.gists, he]
          simp only [Nest.add, Nest.gist, List.map_cons, OpenElement.gist,
            hname, hattributes, hmore, hroots, houter]

end

-- ============================================================= readings

/-- The same but for where elements stand and how text is grouped. -/
inductive Reading.Alike : Reading → Reading → Prop
  | content {nest nest' : Nest} (h : nest.gist = nest'.gist) :
      Alike (.content nest) (.content nest')
  | tag {nest nest' : Nest} (h : nest.gist = nest'.gist) (tag : String)
      (attributes : List Attribute) (line line' : Nat) :
      Alike (.tag nest ⟨tag, attributes, line⟩)
        (.tag nest' ⟨tag, attributes, line'⟩)
  | named {nest nest' : Nest} (h : nest.gist = nest'.gist) (tag : String)
      (attributes : List Attribute) (line line' : Nat) (name : String) :
      Alike (.named nest ⟨tag, attributes, line⟩ name)
        (.named nest' ⟨tag, attributes, line'⟩ name)
  | awaiting {nest nest' : Nest} (h : nest.gist = nest'.gist)
      (tag : String) (attributes : List Attribute) (line line' : Nat)
      (name : String) :
      Alike (.awaiting nest ⟨tag, attributes, line⟩ name)
        (.awaiting nest' ⟨tag, attributes, line'⟩ name)
  | valued {nest nest' : Nest} (h : nest.gist = nest'.gist) (tag : String)
      (attributes : List Attribute) (line line' : Nat)
      (last : Attribute) :
      Alike (.valued nest ⟨tag, attributes, line⟩ last)
        (.valued nest' ⟨tag, attributes, line'⟩ last)
  | missing (name : String) (found : Token) :
      Alike (.missing name found) (.missing name found)

theorem Reading.Alike.refl (reading : Reading) : reading.Alike reading := by
  cases reading with
  | content nest => exact .content rfl
  | tag nest head => exact .tag rfl _ _ _ _
  | named nest head name => exact .named rfl _ _ _ _ _
  | awaiting nest head name => exact .awaiting rfl _ _ _ _ _
  | valued nest head last => exact .valued rfl _ _ _ _ _
  | missing name found => exact .missing name found

/-- The gist of the element that a self-closing tag denotes. -/
theorem OpenTag.gist_element (tag : String) (attributes : List Attribute)
    (line line' : Nat) :
    Element.gist (OpenTag.element ⟨tag, attributes, line⟩)
      = Element.gist (OpenTag.element ⟨tag, attributes, line'⟩) := by
  rw [OpenTag.element, OpenTag.element, Element.gist, Element.gist]

theorem Nest.gist_enter {nest nest' : Nest} (h : nest.gist = nest'.gist)
    (tag : String) (attributes : List Attribute) (line line' : Nat) :
    (nest.enter ⟨tag, attributes, line⟩).gist
      = (nest'.enter ⟨tag, attributes, line'⟩).gist := by
  obtain ⟨hroots, hopened⟩ := NestGist.mk.inj h
  simp only [Nest.enter, Nest.gist, List.map_cons, OpenElement.gist, hroots,
    hopened]

section

variable {nest nest' : Nest} {reading reading' next : Reading}
  {t t' : Placed}

/-- A step of one reading, of which the other takes one alike. -/
def StepsAlike (reading : Except MarkupError Reading) (next : Reading) :
    Prop :=
  ∃ next', reading = .ok next' ∧ next.Alike next'

theorem stepTag_alike (h : nest.gist = nest'.gist) (tag : String)
    (attributes : List Attribute) (line line' : Nat)
    (ht : t.token = t'.token)
    (hstep : Reading.stepTag nest ⟨tag, attributes, line⟩ t = .ok next) :
    StepsAlike (Reading.stepTag nest' ⟨tag, attributes, line'⟩ t')
      next := by
  obtain ⟨token, pos⟩ := t
  obtain ⟨token', pos'⟩ := t'
  cases ht
  cases token with
  | attrName name =>
      cases hstep
      exact ⟨_, rfl, .named h tag attributes line line' name⟩
  | tagEnd =>
      cases hstep
      exact ⟨_, rfl, .content (Nest.gist_enter h ..)⟩
  | selfClose =>
      cases hstep
      exact ⟨_, rfl,
        .content (Nest.gist_add h (OpenTag.gist_element ..))⟩
  | opening | closing | value | text | equals | eof => cases hstep

theorem addStep_alike (h : nest.gist = nest'.gist) (tag : String)
    (attributes : List Attribute) (line line' : Nat) (a : Attribute)
    (pos pos' : Position) (ht : t.token = t'.token)
    (hstep : (OpenTag.add ⟨tag, attributes, line⟩ a pos
      >>= fun head => Reading.stepTag nest head t) = .ok next) :
    StepsAlike (OpenTag.add ⟨tag, attributes, line'⟩ a pos'
      >>= fun head => Reading.stepTag nest' head t') next := by
  unfold OpenTag.add at hstep ⊢
  split at hstep
  · cases hstep
  · next hnew =>
    rw [if_neg hnew]
    exact stepTag_alike h tag (a :: attributes) line line' ht hstep

/-- Text puts its lines into the gist. Outside every element it has
none. -/
theorem stepContent_text {run : String} {pos : Position}
    (hstep : Reading.stepContent nest ⟨.text run, pos⟩ = .ok next) :
    ∃ nest₁, next = .content nest₁
      ∧ nest₁.gist = nest.gist.put ((Text.lines run).map .line)
      ∧ (nest.opened = [] → Text.lines run = []) := by
  obtain ⟨roots, opened⟩ := nest
  simp only [Reading.stepContent] at hstep
  split at hstep
  · next hblank =>
    cases hstep
    have hnone := Text.lines_eq_nil_iff.mpr hblank
    rw [hnone, List.map_nil, NestGist.put_nil]
    exact ⟨_, rfl, rfl, fun _ => rfl⟩
  · cases opened with
    | nil => cases hstep
    | cons inner outer =>
        cases hstep
        refine ⟨_, rfl, ?_, fun hnil => absurd hnil (List.cons_ne_nil _ _)⟩
        simp only [Nest.gist, List.map_cons, OpenElement.gist, NestGist.put,
          List.reverse_cons, Content.gistsAll_snoc, Content.gists]

theorem exists_stepContent_text (nest : Nest) (run : String)
    (pos : Position) (hopen : nest.opened = [] → Text.lines run = []) :
    ∃ next, Reading.stepContent nest ⟨.text run, pos⟩ = .ok next := by
  obtain ⟨roots, opened⟩ := nest
  simp only [Reading.stepContent]
  split
  · exact ⟨_, rfl⟩
  · next hblank =>
    cases opened with
    | nil => exact absurd (Text.lines_eq_nil_iff.mp (hopen rfl)) hblank
    | cons inner outer => exact ⟨_, rfl⟩

theorem stepContent_alike (h : nest.gist = nest'.gist)
    (ht : t.token = t'.token)
    (hstep : Reading.stepContent nest t = .ok next) :
    StepsAlike (Reading.stepContent nest' t') next := by
  obtain ⟨token, pos⟩ := t
  obtain ⟨token', pos'⟩ := t'
  cases ht
  have hnil : nest'.opened = [] → nest.opened = [] := by
    rw [← Nest.opened_eq_nil_iff, ← Nest.opened_eq_nil_iff, h]
    exact id
  cases token with
  | opening name =>
      cases hstep
      exact ⟨_, rfl, .tag h name [] pos.line pos'.line⟩
  | text run =>
      obtain ⟨nest₁, rfl, hgist, hopen⟩ := stepContent_text hstep
      obtain ⟨next', hstep'⟩ := exists_stepContent_text nest' run pos'
        fun hopened => hopen (hnil hopened)
      obtain ⟨nest₁', rfl, hgist', -⟩ := stepContent_text hstep'
      refine ⟨_, hstep', .content ?_⟩
      rw [hgist, hgist', h]
  | closing name =>
      obtain ⟨roots, opened⟩ := nest
      obtain ⟨roots', opened'⟩ := nest'
      obtain ⟨hroots, hopened⟩ := NestGist.mk.inj h
      cases opened with
      | nil => cases hstep
      | cons inner outer =>
          cases opened' with
          | nil => cases hopened
          | cons inner' outer' =>
              obtain ⟨hinner, houter⟩ := List.cons.inj hopened
              have hname : inner.name = inner'.name :=
                (Prod.mk.inj hinner).1
              simp only [Reading.stepContent] at hstep ⊢
              split at hstep
              · next heq =>
                cases hstep
                rw [if_pos (heq.trans hname)]
                refine ⟨_, rfl, .content (Nest.gist_add ?_ ?_)⟩
                · exact congrArg₂ NestGist.mk hroots houter
                · rw [OpenElement.gist_element, OpenElement.gist_element,
                    hinner]
              · cases hstep
  | attrName | value | equals | tagEnd | selfClose | eof =>
      obtain ⟨roots, opened⟩ := nest
      cases opened with
      | nil | cons => cases hstep

/-- The same token leads to readings that are alike again. -/
theorem Reading.Alike.step (h : reading.Alike reading')
    (ht : t.token = t'.token) (hstep : reading.step t = .ok next) :
    StepsAlike (reading'.step t') next := by
  cases h with
  | content h => exact stepContent_alike h ht hstep
  | tag h tag attributes line line' =>
      exact stepTag_alike h tag attributes line line' ht hstep
  | named h tag attributes line line' name =>
      simp only [Reading.step] at hstep ⊢
      split at hstep
      · next hequals =>
        cases hstep
        rw [if_pos (ht.symm.trans hequals)]
        exact ⟨_, rfl, .awaiting h tag attributes line line' name⟩
      · next hother =>
        rw [if_neg (ht ▸ hother)]
        exact addStep_alike h tag attributes line line' _ _ _ ht hstep
  | awaiting h tag attributes line line' name =>
      obtain ⟨token, pos⟩ := t
      obtain ⟨token', pos'⟩ := t'
      cases ht
      cases token with
      | value chars =>
          cases hstep
          exact ⟨_, rfl, .valued h tag attributes line line' ⟨name, chars⟩⟩
      | opening | closing | attrName | text | equals | tagEnd | selfClose
      | eof =>
          cases hstep
          exact ⟨_, rfl, .missing _ _⟩
  | valued h tag attributes line line' last =>
      exact addStep_alike h tag attributes line line' _ _ _ ht hstep
  | missing name found => cases hstep

/-- Readings that are alike stop at documents with the same gist. -/
theorem Reading.Alike.stop (h : reading.Alike reading')
    {here here' behind behind' : Position} {d : Document}
    (hstop : reading.stop here behind = .ok d) :
    ∃ d', reading'.stop here' behind' = .ok d'
      ∧ d.gists = d'.gists := by
  cases h with
  | @content nest nest' h =>
      obtain ⟨roots, opened⟩ := nest
      obtain ⟨roots', opened'⟩ := nest'
      obtain ⟨hroots, hopened⟩ := NestGist.mk.inj h
      cases opened with
      | nil =>
          obtain rfl := List.map_eq_nil_iff.mp hopened.symm
          cases hstop
          refine ⟨_, rfl, ?_⟩
          dsimp only [Document.gists] at hroots ⊢
          rw [List.map_reverse, List.map_reverse, hroots]
      | cons inner outer => cases hstop
  | tag h tag attributes line line' => cases hstop
  | named h tag attributes line line' name =>
      simp only [Reading.stop] at hstop
      cases hadd : OpenTag.add ⟨tag, attributes, line⟩ ⟨name, "true"⟩
          here with
      | ok | error =>
          rw [hadd] at hstop
          cases hstop
  | awaiting h tag attributes line line' name => cases hstop
  | valued h tag attributes line line' last =>
      simp only [Reading.stop] at hstop
      cases hadd : OpenTag.add ⟨tag, attributes, line⟩ last here with
      | ok | error =>
          rw [hadd] at hstop
          cases hstop
  | missing name found => cases hstop

/-- Readings that are alike read the same tokens as documents with the
same gist. -/
theorem Reading.Alike.run {ts ts' : List Placed} {last last' : Position}
    {d : Document} (h : reading.Alike reading')
    (hts : ts.map (·.token) = ts'.map (·.token))
    (hrun : reading.run last ts = .ok d) :
    ∃ d', reading'.run last' ts' = .ok d'
      ∧ d.gists = d'.gists := by
  induction ts generalizing reading reading' last last' ts' with
  | nil =>
      obtain rfl := List.map_eq_nil_iff.mp hts.symm
      exact h.stop hrun
  | cons t ts ih =>
      cases ts' with
      | nil => cases hts
      | cons t' ts' =>
          obtain ⟨ht, hrest⟩ := List.cons.inj hts
          unfold Reading.run at hrun ⊢
          split at hrun
          · next heof =>
            rw [if_pos (ht.symm.trans heof)]
            exact h.stop hrun
          · next heof =>
            rw [if_neg (fun heof' => heof (ht.trans heof'))]
            cases hstep : reading.step t with
            | error e =>
                rw [hstep] at hrun
                cases hrun
            | ok next =>
                rw [hstep] at hrun
                obtain ⟨next', hstep', hnext⟩ := h.step ht hstep
                rw [hstep']
                exact ih hnext hrest hrun

end

-- ============================================================ text runs

/-- Tokens of text with these lines. -/
inductive Texts : List Placed → List String → Prop
  | nil : Texts [] []
  | cons (run : String) (pos : Position) {ts : List Placed}
      {lines : List String} (h : Texts ts lines) :
      Texts (⟨.text run, pos⟩ :: ts) (Text.lines run ++ lines)

section

variable {nest : Nest} {reading : Reading} {ts ts' : List Placed}
  {lines lines' : List String}

theorem Texts.append (h : Texts ts lines) (h' : Texts ts' lines') :
    Texts (ts ++ ts') (lines ++ lines') := by
  induction h with
  | nil => exact h'
  | cons run pos h ih =>
      rw [List.append_assoc]
      exact .cons run pos ih

theorem texts_textToken (start : Position) (run : List Char) :
    Texts (textToken start run) (Text.lines (written run)) := by
  unfold textToken
  split
  · next hnil =>
    rw [List.isEmpty_iff.mp hnil]
    exact .nil
  · have h := Texts.cons (written run) start .nil
    rw [List.append_nil] at h
    exact h

/-- Text that is read puts its lines into the gist. -/
theorem Texts.gist_eq (h : Texts ts lines)
    (hreads : Reads (.content nest) ts reading) :
    ∃ nest₁, reading = .content nest₁
      ∧ nest₁.gist = nest.gist.put (lines.map .line)
      ∧ (nest.opened = [] → lines = []) := by
  induction h generalizing nest with
  | nil =>
      cases hreads
      rw [List.map_nil, NestGist.put_nil]
      exact ⟨nest, rfl, rfl, fun _ => rfl⟩
  | cons run pos h ih =>
      cases hreads with
      | cons hne hstep hrest =>
          obtain ⟨mid, rfl, hmid, hopen⟩ := stepContent_text hstep
          obtain ⟨nest₁, rfl, hlast, hopen'⟩ := ih hrest
          refine ⟨nest₁, rfl, ?_, fun hnil => ?_⟩
          · rw [hlast, hmid, List.map_append, NestGist.put_append]
          · have hmidnil : mid.opened = [] := by
              rw [← Nest.opened_eq_nil_iff, hmid]
              obtain ⟨roots, opened⟩ := nest
              cases hnil
              rfl
            rw [hopen hnil, hopen' hmidnil]
            rfl

/-- Text is read where an element is open, or if it has no lines. -/
theorem Texts.reads (h : Texts ts lines)
    (hopen : nest.opened = [] → lines = []) :
    ∃ reading, Reads (.content nest) ts reading := by
  induction h generalizing nest with
  | nil => exact ⟨_, .nil _⟩
  | @cons run pos _ rest h ih =>
      have hfirst : nest.opened = [] → Text.lines run = [] := fun hnil =>
        (List.append_eq_nil_iff.mp (hopen hnil)).1
      obtain ⟨next, hstep⟩ := exists_stepContent_text nest run pos hfirst
      obtain ⟨mid, rfl, hmid, -⟩ := stepContent_text hstep
      have hrest : mid.opened = [] → rest = [] := by
        intro hmidnil
        rw [← Nest.opened_eq_nil_iff, hmid] at hmidnil
        obtain ⟨roots, opened⟩ := nest
        cases opened with
        | nil => exact (List.append_eq_nil_iff.mp (hopen rfl)).2
        | cons inner outer => cases hmidnil
      obtain ⟨reading, hreads⟩ := ih hrest
      exact ⟨reading, .cons (by simp) hstep hreads⟩

/-- Texts with the same lines make the same difference. -/
theorem exists_reads_texts (h : Texts ts lines) (h' : Texts ts' lines)
    (hreads : Reads (.content nest) ts reading) :
    ∃ reading', Reads (.content nest) ts' reading'
      ∧ reading.Alike reading' := by
  obtain ⟨nest₁, rfl, hgist, hopen⟩ := h.gist_eq hreads
  obtain ⟨reading', hreads'⟩ := h'.reads hopen
  obtain ⟨nest₁', rfl, hgist', -⟩ := h'.gist_eq hreads'
  refine ⟨_, hreads', .content ?_⟩
  rw [hgist, hgist']

end

end EntityMarkup
