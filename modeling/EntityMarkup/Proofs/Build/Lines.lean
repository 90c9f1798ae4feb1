/-
What the lines of a document do in a build. They are reported when a tag
is opened, and an error about a tag without a kind names its line; no
handler gets to see them. So the builds of two documents that differ in
lines alone take the same steps to the same entities, and the build of
two sources in a row is the builds of both, one after the other.
-/
import EntityMarkup.Proofs.Build.Run
import EntityMarkup.Proofs.Markup.Joined
import EntityMarkup.Proofs.Scenario.Kept

namespace EntityMarkup

/-- The same event, or the report of the same tag so many lines further
down. -/
inductive Event.Raised (n : Nat) : Event → Event → Prop
  | same (e : Event) : Raised n e e
  | opening (tag declared : String) (parent : Option String)
      (line : Nat) :
      Raised n
        (.entry (.record .tag .debug
          (Build.openingText tag declared parent line)))
        (.entry (.record .tag .debug
          (Build.openingText tag declared parent (line + n))))

/-- The same error, or the same tag without a kind so many lines further
down. -/
inductive BuildError.Raised (n : Nat) : BuildError → BuildError → Prop
  | same (e : BuildError) : Raised n e e
  | unknownTag (name : String) (line : Nat) :
      Raised n (.unknownTag name line) (.unknownTag name (line + n))

namespace Run

variable {α β : Type} {n : Nat}

/-- The same run, but for lines so many further down. -/
structure Raised (n : Nat) (x y : Run α) : Prop where
  events : List.Forall₂ (Event.Raised n) x.events y.events
  ok : ∀ a, x.result = .ok a → y.result = .ok a
  error : ∀ e, x.result = .error e →
    ∃ e', y.result = .error e' ∧ BuildError.Raised n e e'

theorem raised_iff {x y : Run α} : x.Raised n y
    ↔ x.Related (Event.Raised n) (BuildError.Raised n) y :=
  ⟨fun h => ⟨h.events, h.ok, h.error⟩, fun h => ⟨h.events, h.ok, h.error⟩⟩

theorem Raised.refl (x : Run α) : x.Raised n x :=
  raised_iff.mpr (Related.refl .same .same x)

theorem Raised.bind {x y : Run α} {f g : α → Run β} (hx : x.Raised n y)
    (hf : ∀ a, (f a).Raised n (g a)) : (x >>= f).Raised n (y >>= g) :=
  raised_iff.mpr
    (Related.bind (raised_iff.mp hx) fun a => raised_iff.mp (hf a))

end Run

namespace Build

variable {E D : Type} [Entity E] [Draft D E] (setting : Setting E D)
  (n : Nat)

/-- The line of a tag is reported, and nothing else is done with it. -/
theorem openTag_related {R : Event → Event → Prop}
    {Q : BuildError → BuildError → Prop} (hR : ∀ e, R e e)
    (hQ : ∀ e, Q e e) {parent : Option String} {name : String}
    {line line' : Nat}
    (hopening : ∀ declared,
      R (.entry (.record .tag .debug
          (openingText name declared parent line)))
        (.entry (.record .tag .debug
          (openingText name declared parent line'))))
    (hunknown : Q (.unknownTag name line) (.unknownTag name line'))
    (attributes : List Attribute) :
    (openTag setting parent name attributes line).Related R Q
      (openTag setting parent name attributes line') := by
  unfold openTag
  cases setting.registry.kind? name with
  | none =>
      refine ⟨.nil, fun a ha => (nomatch ha), fun e he => ?_⟩
      cases he
      exact ⟨_, rfl, hunknown⟩
  | some kind =>
      refine Run.Related.bind ⟨?_, fun _ h => h, fun e he => nomatch he⟩
        fun _ => .refl hR hQ _
      exact .cons (hopening kind.declaredType) .nil

theorem openTag_raised (parent : Option String) (name : String)
    (attributes : List Attribute) (line : Nat) :
    (openTag setting parent name attributes line).Raised n
      (openTag setting parent name attributes (line + n)) :=
  Run.raised_iff.mpr <| openTag_related setting .same .same
    (fun declared => .opening name declared parent line)
    (.unknownTag name line) attributes

mutual

theorem element_raised (parent : Option String) : (e : ElementOf Content) →
    (element setting parent e).Raised n
      (element setting parent (Element.raised n e))
  | ⟨name, attributes, content, line⟩ => by
    rw [Element.raised]
    unfold element
    exact (openTag_raised setting n parent name attributes line).bind
      fun tag => (body_raised content tag).bind fun _ => .refl _

theorem body_raised : (content : List Content) → (tag : OpenedTag E D) →
    (body setting content tag).Raised n
      (body setting (Content.raisedAll n content) tag)
  | [], tag => .refl _
  | c :: rest, tag => by
    rw [Content.raisedAll]
    unfold body
    exact (item_raised c tag).bind fun tag => body_raised rest tag

theorem item_raised : (c : Content) → (tag : OpenedTag E D) →
    (item setting c tag).Raised n (item setting (Content.raised n c) tag)
  | .text run, tag => .refl _
  | .element e, tag => by
    obtain ⟨name, attributes, content, line⟩ := e
    rw [Content.raised]
    unfold item
    exact (element_raised (some tag.name)
      ⟨name, attributes, content, line⟩).bind fun _ => .refl _

end

/-- A document further down is built alike. -/
theorem document_raised (roots : List Element) :
    (document setting ⟨roots⟩).Raised n
      (document setting ⟨roots.map (Element.raised n)⟩) := by
  unfold document
  dsimp only
  induction roots with
  | nil => exact .refl _
  | cons e roots ih =>
      rw [List.map_cons, List.mapM_cons, List.mapM_cons]
      exact (element_raised setting n none e).bind fun _ =>
        ih.bind fun _ => .refl _

/-- Elements one after the other are built one after the other. -/
theorem document_append {roots roots' : List Element} {as bs : List E}
    (h : (document setting ⟨roots⟩).result = .ok as)
    (h' : (document setting ⟨roots'⟩).result = .ok bs) :
    document setting ⟨roots ++ roots'⟩
      = ⟨(document setting ⟨roots⟩).events
          ++ (document setting ⟨roots'⟩).events, .ok (as ++ bs)⟩ := by
  unfold document at *
  dsimp only at *
  rw [List.mapM_append, Run.bind_of_ok h, Run.bind_of_ok h',
    Run.pure_events, Run.pure_result, List.append_nil]

/-- What a source denotes, and what is built from it, when it comes behind
a source that is accepted. Its elements come after the others, further
down; a fault in it is a fault of the whole; and where both build, the
whole builds to the entities of both, by the events of both, in which
nothing changes but the lines of opened tags. -/
theorem source_append {a b : String} {d : Document}
    (h : Document.parse? a = .ok d) :
    ReadBehind a d.roots (Document.parse? b) (Document.parse? (a ++ b))
    ∧ ∀ as bs, (source setting a).result = .ok as →
      (source setting b).result = .ok bs →
      ∃ events, source setting (a ++ b)
          = ⟨(source setting a).events ++ events, .ok (as ++ bs)⟩
        ∧ List.Forall₂ (Event.Raised (a.toList.count '\n'))
          (source setting b).events events := by
  have hread := parse?_append (b := b) h
  refine ⟨hread, fun as bs has hbs => ?_⟩
  cases hb : Document.parse? b with
  | error e =>
      rw [source, hb] at hbs
      cases hbs
  | ok d' =>
      rw [source, hb] at hbs
      rw [source, h] at has
      have hraised := document_raised setting (a.toList.count '\n') d'.roots
      have hwhole := document_append setting has (hraised.ok bs hbs)
      rw [source, hread.ok d' hb, source, h, source, hb]
      exact ⟨_, hwhole, hraised.events⟩

/-- A leaf, and a line feed. -/
def leafSource : String := "<leaf text='x'/>\n"

def widgetSource : String := "<widget>hi</widget>"

/-- The widget comes behind the leaf, on the line below. -/
theorem source_append_widget :
    Document.parse? leafSource
      = .ok ⟨[⟨"leaf", [⟨"text", "x"⟩], [], 1⟩]⟩
    ∧ (source Scenario.markSetting leafSource).result
      = .ok [.leaf "x" none]
    ∧ (source Scenario.markSetting widgetSource).result
      = .ok [.widget { Scenario.Widget.styled "default" with
          lines := ["hi"] }]
    ∧ ReadBehind leafSource [⟨"leaf", [⟨"text", "x"⟩], [], 1⟩]
      (Document.parse? widgetSource)
      (Document.parse? (leafSource ++ widgetSource))
    ∧ ∃ events, source Scenario.markSetting (leafSource ++ widgetSource)
        = ⟨(source Scenario.markSetting leafSource).events ++ events,
          .ok ([.leaf "x" none]
            ++ [.widget { Scenario.Widget.styled "default" with
              lines := ["hi"] }])⟩
      ∧ List.Forall₂ (Event.Raised (leafSource.toList.count '\n'))
        (source Scenario.markSetting widgetSource).events events := by
  have hparse : Document.parse? leafSource
      = .ok ⟨[⟨"leaf", [⟨"text", "x"⟩], [], 1⟩]⟩ := by rfl
  have hparse' : Document.parse? widgetSource
      = .ok ⟨[⟨"widget", [], [.text "hi"], 1⟩]⟩ := by rfl
  have ha : (source Scenario.markSetting leafSource).result
      = .ok [.leaf "x" none] := by
    rw [source, hparse]
    cbv
  have hb : (source Scenario.markSetting widgetSource).result
      = .ok [.widget { Scenario.Widget.styled "default" with
          lines := ["hi"] }] := by
    rw [source, hparse']
    cbv
  obtain ⟨hread, hbuild⟩ :=
    source_append Scenario.markSetting (b := widgetSource) hparse
  exact ⟨hparse, ha, hb, hread, hbuild _ _ ha hb⟩

end Build

end EntityMarkup
