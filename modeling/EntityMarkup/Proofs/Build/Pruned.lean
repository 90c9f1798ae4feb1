/-
Builds of documents from which useless attributes are taken out: such as
are passed over and that no building handler gets. The build of the rest
makes the same entities by the same calls, and all that it does not
report are the warnings about what was taken out
(`useless_attributes_removed`).

The document and the rest of it are related element by element, with the
warnings that go (`Pruned`). Both builds open the same tags but for those
warnings (`openTag_remaining`), so they fill and close the same tags; the
induction is along the elements, as builds are.
-/
import EntityMarkup.Proofs.Build.Blame
import EntityMarkup.Proofs.Build.Muted
import EntityMarkup.Proofs.Scenario.Kept

namespace EntityMarkup

namespace Event

/-- The events that are left without some of the warnings, which are also
told, in order. -/
inductive Without : List Event → List Event → List Event → Prop
  | nil : Without [] [] []
  | keep (e : Event) {removed events rest : List Event}
      (h : Without removed events rest) :
      Without removed (e :: events) (e :: rest)
  | drop {e : Event} (he : e.isIgnored = true)
      {removed events rest : List Event}
      (h : Without removed events rest) :
      Without (e :: removed) (e :: events) rest

variable {removed removed' events events' rest rest' : List Event}

theorem Without.refl (events : List Event) : Without [] events events := by
  induction events with
  | nil => exact .nil
  | cons e events ih => exact .keep e ih

theorem Without.append (h : Without removed events rest)
    (h' : Without removed' events' rest') :
    Without (removed ++ removed') (events ++ events') (rest ++ rest') := by
  induction h with
  | nil => exact h'
  | keep e _ ih => exact .keep e ih
  | drop he _ ih => exact .drop he ih

/-- Taking out all warnings about some names. -/
theorem Without.filter (names : List String) (events : List Event) :
    Without (events.filter (passes names)) events
      (events.filter fun e => !e.passes names) := by
  induction events with
  | nil => exact .nil
  | cons e events ih =>
      cases he : e.passes names with
      | true =>
          rw [List.filter_cons_of_pos he, List.filter_cons_of_neg (by simp
            [he])]
          exact .drop (isIgnored_of_passes he) ih
      | false =>
          rw [List.filter_cons_of_neg (by simp [he]),
            List.filter_cons_of_pos (by simp [he])]
          exact .keep e ih

/-- There are as many warnings left as are not taken out. -/
theorem Without.length_ignored (h : Without removed events rest) :
    (events.filter isIgnored).length
      = removed.length + (rest.filter isIgnored).length := by
  induction h with
  | nil => rfl
  | keep e _ ih =>
      simp only [List.filter_cons]
      split
      · simp only [List.length_cons]
        omega
      · exact ih
  | drop he _ ih =>
      simp only [List.filter_cons, he, if_true, List.length_cons]
      omega

/-- Events that are no warnings are all left. -/
theorem Without.skip {before : List Event}
    (hbefore : ∀ e ∈ before, e.isIgnored = false)
    (h : Without removed (before ++ events) rest) :
    ∃ rest', rest = before ++ rest' ∧ Without removed events rest' := by
  induction before generalizing rest with
  | nil => exact ⟨rest, rfl, h⟩
  | cons e before ih =>
      obtain ⟨hfirst, hothers⟩ := List.forall_mem_cons.mp hbefore
      cases h with
      | drop he =>
          rw [hfirst] at he
          cases he
      | keep _ h =>
          obtain ⟨rest', rfl, h'⟩ := ih hothers h
          exact ⟨rest', rfl, h'⟩

end Event

/-- What is left tells of the same calls. -/
theorem Told.without {E : Type} {calls : List (Call E)}
    {removed events rest : List Event} (htold : Told calls events)
    (h : Event.Without removed events rest) : Told calls rest := by
  induction htold generalizing removed rest with
  | nil =>
      cases h
      exact .nil
  | record area level text _ ih =>
      cases h with
      | keep _ h => exact .record area level text (ih h)
      | drop he => cases he
  | ignored tag owner name _ ih =>
      cases h with
      | keep _ h => exact .ignored tag owner name (ih h)
      | drop _ h => exact ih h
  | call c _ ih =>
      cases h with
      | drop he => cases he
      | keep _ h =>
          have hentries : ∀ e ∈ c.entries.map Event.entry,
              e.isIgnored = false := by
            intro e he
            obtain ⟨entry, -, rfl⟩ := List.mem_map.mp he
            rfl
          obtain ⟨rest', rfl, h'⟩ := h.skip hentries
          exact .call c (ih h')

namespace Run

variable {α β : Type} {removed removed' : List Event}

/-- If `x` has an answer then `y` has it too, and does the same but for
these warnings. -/
def Drops (removed : List Event) (x y : Run α) : Prop :=
  ∀ a, x.result = .ok a →
    y.result = .ok a ∧ Event.Without removed x.events y.events

theorem Drops.refl (x : Run α) : Drops [] x x :=
  fun _ ha => ⟨ha, .refl _⟩

theorem Drops.bind {x y : Run α} {f g : α → Run β}
    (hx : Drops removed x y)
    (hf : ∀ a, x.result = .ok a → Drops removed' (f a) (g a)) :
    Drops (removed ++ removed') (x >>= f) (y >>= g) := by
  intro b hb
  obtain ⟨a, ha, hfa⟩ := bind_result_ok hb
  obtain ⟨hy, hevents⟩ := hx a ha
  obtain ⟨hg, hevents'⟩ := hf a ha b hfa
  rw [bind_of_ok ha, bind_of_ok hy]
  exact ⟨hg, hevents.append hevents'⟩

/-- What follows is the same. -/
theorem Drops.before {x y : Run α} (hx : Drops removed x y)
    (f : α → Run β) : Drops removed (x >>= f) (y >>= f) := by
  have h := hx.bind fun a _ => Drops.refl (f a)
  rwa [List.append_nil] at h

/-- What comes before is the same. -/
theorem Drops.after (x : Run α) {f g : α → Run β}
    (hf : ∀ a, x.result = .ok a → Drops removed (f a) (g a)) :
    Drops removed (x >>= f) (x >>= g) :=
  (Drops.refl x).bind hf

/-- What a joined run passes over. -/
theorem filter_bind {x : Run α} {a : α} (hx : x.result = .ok a)
    (f : α → Run β) :
    (x >>= f).events.filter Event.isIgnored
      = x.events.filter Event.isIgnored
        ++ (f a).events.filter Event.isIgnored := by
  rw [bind_of_ok hx, List.filter_append]

theorem Quiet.filter_eq {x : Run α} (h : x.Quiet) :
    x.events.filter Event.isIgnored = [] := by
  rw [List.filter_eq_nil_iff]
  intro e he
  rw [h e he]
  exact Bool.false_ne_true

end Run

namespace Build

open Run (Drops Quiet bind_result_ok filter_bind)

variable {E D : Type} [Entity E] [Draft D E] {setting : Setting E D}

-- ======================================================= what is removed

mutual

/-- The second element is the first without some useless attributes, in
its tag or in tags inside it. The warnings about them are told. -/
inductive Pruned (setting : Setting E D) :
    Element → Element → List Event → Prop
  | intro {x : Element} (names : List String)
      (huseless : ∀ name ∈ names, Useless setting x name)
      {content : List Content} {removed : List Event}
      (hbody : PrunedBody setting x.body content removed) :
      Pruned setting x
        ⟨x.name, remaining x.attributes names, content, x.line⟩
        ((warnings setting x).filter (Event.passes names) ++ removed)

/-- The second body is the first without some useless attributes. -/
inductive PrunedBody (setting : Setting E D) :
    List Content → List Content → List Event → Prop
  | nil : PrunedBody setting [] [] []
  | text (run : String) {rest rest' : List Content} {removed : List Event}
      (hrest : PrunedBody setting rest rest' removed) :
      PrunedBody setting (.text run :: rest) (.text run :: rest') removed
  | element {x x' : Element} {rest rest' : List Content}
      {first removed : List Event} (hfirst : Pruned setting x x' first)
      (hrest : PrunedBody setting rest rest' removed) :
      PrunedBody setting (.element x :: rest) (.element x' :: rest')
        (first ++ removed)

end

/-- The second document is the first without some useless attributes. -/
def PrunedDocument (setting : Setting E D) (d d' : Document)
    (removed : List Event) : Prop :=
  PrunedBody setting (d.roots.map .element) (d'.roots.map .element) removed

-- ============================================================ the builds

theorem openTag_drops {parent : Option String} {x : Element}
    {names : List String} (hdistinct : (x.attributes.map (·.name)).Nodup)
    (huseless : ∀ name ∈ names, Useless setting x name) :
    Drops ((warnings setting x).filter (Event.passes names))
      (openTag setting parent x.name x.attributes x.line)
      (openTag setting parent x.name (remaining x.attributes names)
        x.line) := by
  intro opened hok
  have hpasses : (warnings setting x).filter (Event.passes names)
      = (openTag setting parent x.name x.attributes
          x.line).events.filter (Event.passes names) := by
    rw [← openTag_warnings setting parent x, List.filter_filter]
    refine List.filter_congr fun e _ => ?_
    cases he : e.passes names with
    | false => rfl
    | true => rw [Event.isIgnored_of_passes he, Bool.and_self]
  rw [openTag_remaining hdistinct hok huseless, hpasses]
  exact ⟨hok, .filter names _⟩

/-- The names of attributes are distinct in each of these tags. -/
def Distinct (elements : List Element) : Prop :=
  ∀ x ∈ elements, (x.attributes.map (·.name)).Nodup

mutual

/-- Building an element without useless attributes. -/
theorem element_drops (parent : Option String) :
    (x : ElementOf Content) → {x' : Element} → {removed : List Event} →
    (hdistinct : Distinct (Element.all x)) →
    (h : Pruned setting x x' removed) →
    Drops removed (element setting parent x) (element setting parent x')
  | ⟨name, attributes, content, line⟩, _, _, hdistinct,
      .intro names huseless hbody => by
    rw [Element.all] at hdistinct
    obtain ⟨hown, hinside⟩ := List.forall_mem_cons.mp hdistinct
    unfold element
    refine (openTag_drops hown huseless).bind fun tag _ => ?_
    exact (body_drops content hinside hbody).before closeTag

theorem body_drops : (content : List Content) →
    {content' : List Content} → {removed : List Event} →
    {tag : OpenedTag E D} →
    (hdistinct : Distinct (Content.elementsAll content)) →
    (h : PrunedBody setting content content' removed) →
    Drops removed (body setting content tag) (body setting content' tag)
  | [], _, _, tag, _, .nil => .refl _
  | c :: rest, _, _, tag, hdistinct, h => by
    rw [Content.elementsAll] at hdistinct
    obtain ⟨hfirst, hothers⟩ := List.forall_mem_append.mp hdistinct
    cases h with
    | text run hrest =>
        unfold body
        exact .after _ fun filled _ => body_drops rest hothers hrest
    | @element x x' _ _ _ _ hpruned hrest =>
        unfold body item
        have hname : x'.name = x.name := by
          cases hpruned
          rfl
        rw [hname]
        have hitem := (element_drops (some tag.name) x hfirst hpruned).before
          (placeChild tag x.name)
        exact hitem.bind fun filled _ => body_drops rest hothers hrest

end

/-- Building a document without useless attributes. -/
theorem document_drops {d d' : Document} {removed : List Event}
    (hdistinct : Distinct d.elements)
    (h : PrunedDocument setting d d' removed) :
    Drops removed (document setting d) (document setting d') := by
  obtain ⟨roots⟩ := d
  obtain ⟨roots'⟩ := d'
  unfold PrunedDocument at h
  unfold Document.elements at hdistinct
  unfold document
  dsimp only at h hdistinct ⊢
  induction roots generalizing roots' removed with
  | nil =>
      cases roots' with
      | cons x' roots' => cases h
      | nil =>
          cases h
          exact .refl _
  | cons x roots ih =>
      cases roots' with
      | nil => cases h
      | cons x' roots' =>
          rw [List.map_cons, Content.elementsAll] at hdistinct
          obtain ⟨hfirst, hothers⟩ := List.forall_mem_append.mp hdistinct
          rw [List.map_cons, List.map_cons] at h
          cases h with
          | element hpruned hrest =>
              rw [List.mapM_cons, List.mapM_cons]
              refine (element_drops none x hfirst hpruned).bind ?_
              intro entity _
              exact (ih hothers _ hrest).before _

-- ========================================================= the warnings

mutual

/-- A build passes over what the openings of its tags pass over, in
document order. -/
theorem element_warnings {parent : Option String} :
    (x : ElementOf Content) → {entity : E} →
    (h : (element setting parent x).result = .ok entity) →
    (element setting parent x).events.filter Event.isIgnored
      = (Element.all x).flatMap (warnings setting)
  | ⟨name, attributes, content, line⟩, entity, h => by
    let x : Element := ⟨name, attributes, content, line⟩
    rw [Element.all, List.flatMap_cons,
      ← openTag_warnings setting parent x]
    unfold element at h ⊢
    obtain ⟨tag, hopened, h⟩ := bind_result_ok h
    obtain ⟨filled, hfilled, -⟩ := bind_result_ok h
    have hclose : (closeTag filled).Quiet := .of_cut (cut_closeTag filled)
    rw [filter_bind hopened, filter_bind hfilled,
      body_warnings content hfilled, hclose.filter_eq,
      List.append_nil]

theorem body_warnings : (content : List Content) →
    {tag tag' : OpenedTag E D} →
    (h : (body setting content tag).result = .ok tag') →
    (body setting content tag).events.filter Event.isIgnored
      = (Content.elementsAll content).flatMap (warnings setting)
  | [], tag, tag', _ => rfl
  | c :: rest, tag, tag', h => by
    unfold body at h ⊢
    obtain ⟨filled, hfirst, hrest⟩ := bind_result_ok h
    rw [Content.elementsAll, List.flatMap_append, filter_bind hfirst,
      item_warnings c hfirst, body_warnings rest hrest]

theorem item_warnings : (c : Content) → {tag tag' : OpenedTag E D} →
    (h : (item setting c tag).result = .ok tag') →
    (item setting c tag).events.filter Event.isIgnored
      = (Content.elements c).flatMap (warnings setting)
  | .text run, tag, tag', _ => by
    unfold item
    rw [Content.elements]
    exact (Quiet.of_cut (cut_placeText tag run)).filter_eq
  | .element x, tag, tag', h => by
    unfold item at h ⊢
    obtain ⟨child, hchild, -⟩ := bind_result_ok h
    have hplace : (placeChild tag x.name child).Quiet :=
      .of_cut (cut_placeChild ..)
    rw [Content.elements, filter_bind hchild, element_warnings x hchild,
      hplace.filter_eq, List.append_nil]

end

theorem document_warnings {d : Document} {entities : List E}
    (h : (document setting d).result = .ok entities) :
    (document setting d).events.filter Event.isIgnored
      = d.elements.flatMap (warnings setting) := by
  obtain ⟨roots⟩ := d
  unfold Document.elements
  unfold document at h ⊢
  dsimp only at h ⊢
  induction roots generalizing entities with
  | nil => rfl
  | cons x roots ih =>
      rw [List.mapM_cons] at h ⊢
      obtain ⟨entity, hfirst, h⟩ := bind_result_ok h
      obtain ⟨others, hothers, -⟩ := bind_result_ok h
      rw [List.map_cons, Content.elementsAll, Content.elements,
        List.flatMap_append, filter_bind hfirst, filter_bind hothers,
        element_warnings x hfirst, ih hothers]
      exact congrArg _ (List.append_nil _)

/-- Attributes that are passed over and that no building handler gets
have no effect: without them a lenient build makes the same entities by
the same calls, and reports the same but for the warnings about them.
What a run passes over is what the openings of its tags pass over. If no
warning is left then a strict build does the same. -/
theorem useless_attributes_removed (setting : Setting E D)
    {d d' : Document} {removed : List Event} {entities : List E}
    (hdistinct : Distinct d.elements)
    (hpruned : PrunedDocument (setting.withStrict false) d d' removed)
    (hok : (document (setting.withStrict false) d).result
      = .ok entities) :
    let run := document (setting.withStrict false) d
    let run' := document (setting.withStrict false) d'
    run.events.filter Event.isIgnored
        = d.elements.flatMap (warnings (setting.withStrict false))
      ∧ run'.result = .ok entities
      ∧ Event.Without removed run.events run'.events
      ∧ (∃ calls, Told calls run.events ∧ Told calls run'.events
        ∧ ∀ c ∈ calls, c.Made (setting.withStrict false))
      ∧ (removed = run.events.filter Event.isIgnored →
        document (setting.withStrict true) d' = run') := by
  intro run run'
  have hdrops : Drops removed run run' := document_drops hdistinct hpruned
  obtain ⟨hok', hwithout⟩ := hdrops entities hok
  have hblaming : run.Blaming (Call.Made (setting.withStrict false)) _ :=
    document_blaming d
  obtain ⟨calls, htold, hmade, -⟩ := hblaming.exists_calls
  refine ⟨document_warnings hok, hok', hwithout,
    ⟨calls, htold, htold.without hwithout, hmade⟩, fun hall => ?_⟩
  have hlength := hwithout.length_ignored
  rw [hall] at hlength
  have hnone : run'.events.filter Event.isIgnored = [] := by
    apply List.eq_nil_of_length_eq_zero
    omega
  rw [document_strict]
  apply Run.cut_eq_self
  intro tag owner name hmem
  exact List.filter_eq_nil_iff.mp hnone _ hmem rfl

/-- A leaf with an attribute that leaves do not know. -/
def strayLeaf : Element := ⟨"leaf", [⟨"odd", "1"⟩, ⟨"text", "t"⟩], [], 1⟩

def strayWidget : Element :=
  ⟨"widget", [⟨"bogus", "x"⟩, ⟨"style", "a"⟩], [.element strayLeaf], 1⟩

/-- The same widget without what is not known. -/
def tidyWidget : Element :=
  ⟨"widget", [⟨"style", "a"⟩],
    [.element ⟨"leaf", [⟨"text", "t"⟩], [], 1⟩], 1⟩

/-- Without what it warns about, the widget is built strictly. -/
theorem useless_attributes_removed_widget :
    let lenient := Scenario.markSetting.withStrict false
    ∃ entities, Distinct (Document.elements ⟨[strayWidget]⟩)
      ∧ PrunedDocument lenient ⟨[strayWidget]⟩ ⟨[tidyWidget]⟩
        [.ignored "widget" "widget" "bogus", .ignored "leaf" "leaf" "odd"]
      ∧ (document lenient ⟨[strayWidget]⟩).result = .ok entities
      ∧ (document lenient ⟨[tidyWidget]⟩).result = .ok entities
      ∧ document (Scenario.markSetting.withStrict true) ⟨[tidyWidget]⟩
        = document lenient ⟨[tidyWidget]⟩ := by
  intro lenient
  have hdistinct : Distinct (Document.elements ⟨[strayWidget]⟩) := by
    intro x hx
    have hx : x ∈ [strayWidget, strayLeaf] := hx
    rcases List.mem_pair.mp hx with rfl | rfl <;> decide
  have hwidget : warnings lenient strayWidget
      = [.ignored "widget" "widget" "bogus"] := by decide +kernel
  have hleaf : warnings lenient strayLeaf
      = [.ignored "leaf" "leaf" "odd"] := by decide +kernel
  have huseless : ∀ (x : Element) kind owner name,
      lenient.registry.kind? x.name = some kind →
      (lenient.registry.building? kind.declaredType name).isNone = true →
      warnings lenient x = [.ignored x.name owner name] →
      ∀ n ∈ [name], Useless lenient x n := by
    intro x kind owner name hkind hnone hwarned n hn
    cases List.mem_singleton.mp hn
    refine ⟨⟨owner, by rw [hwarned]; exact List.mem_singleton.mpr rfl⟩, ?_⟩
    intro kind' hkind'
    cases hkind.symm.trans hkind'
    exact Option.isNone_iff_eq_none.mp hnone
  have hkind : lenient.registry.kind? "widget"
      = some Scenario.widgetTag := by cbv
  have hkind' : lenient.registry.kind? "leaf"
      = some (Scenario.plainTag "leaf" fun _ => .leaf "" none) := by cbv
  have hpruned : PrunedDocument lenient ⟨[strayWidget]⟩ ⟨[tidyWidget]⟩
      [.ignored "widget" "widget" "bogus", .ignored "leaf" "leaf" "odd"] := by
    have h := PrunedBody.element (.intro (x := strayWidget) ["bogus"]
      (huseless _ _ _ _ hkind (by decide +kernel) hwidget)
      (.element (.intro (x := strayLeaf) ["odd"]
        (huseless _ _ _ _ hkind' (by decide +kernel) hleaf) .nil) .nil))
      .nil
    rw [hwidget, hleaf] at h
    exact h
  obtain ⟨entities, hok⟩ : ∃ entities,
      (document lenient ⟨[strayWidget]⟩).result = .ok entities :=
    Run.exists_of_isOk (by decide +kernel)
  have hall : [.ignored "widget" "widget" "bogus",
      .ignored "leaf" "leaf" "odd"]
      = (document lenient ⟨[strayWidget]⟩).events.filter
        Event.isIgnored := by decide +kernel
  obtain ⟨-, hok', -, -, hstrict⟩ :=
    useless_attributes_removed Scenario.markSetting hdistinct hpruned hok
  exact ⟨entities, hdistinct, hpruned, hok, hok', hstrict hall⟩

end Build

end EntityMarkup
