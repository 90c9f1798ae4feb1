/-
What the strict flag decides: a strict build is the lenient build of the
same document, cut off at the first attribute that the lenient build
passes over. Up to there both do and report the same; there the strict
build fails, and names that attribute.

Cutting a run off is a function on runs (`Run.cut`), and it commutes with
joining runs (`cut_bind`): a cut in the first part cuts off the second,
and else the second is cut by itself. So the two builds are related part
by part, along the definition of a build, and no part but
`rejectUnknown` ever looks at the flag.
-/
import EntityMarkup.Proofs.Build.Failure

namespace EntityMarkup

namespace Setting

variable {E D : Type}

/-- The same setting with the flag set or not. -/
def withStrict (setting : Setting E D) (strict : Bool) : Setting E D :=
  { setting with config := ⟨strict⟩ }

@[simp] theorem withStrict_registry (setting : Setting E D)
    (strict : Bool) :
    (setting.withStrict strict).registry = setting.registry := rfl

@[simp] theorem withStrict_actions (setting : Setting E D)
    (strict : Bool) :
    (setting.withStrict strict).actions = setting.actions := rfl

@[simp] theorem withStrict_config (setting : Setting E D)
    (strict : Bool) :
    (setting.withStrict strict).config = ⟨strict⟩ := rfl

end Setting

namespace Event

/-- The events before the first attribute that is passed over, and that
attribute's name and owner. -/
def splitIgnored : List Event → Option (List Event × String × String)
  | [] => none
  | .ignored _ owner name :: _ => some ([], name, owner)
  | .entry said :: rest =>
    (splitIgnored rest).map fun (before, found) =>
      (.entry said :: before, found)
  | .step tag taken :: rest =>
    (splitIgnored rest).map fun (before, found) =>
      (.step tag taken :: before, found)

/-- Events of two parts are split in the first, or else in the second. -/
theorem splitIgnored_append (a b : List Event) :
    splitIgnored (a ++ b)
      = match splitIgnored a with
        | some found => some found
        | none =>
          (splitIgnored b).map fun (before, found) =>
            (a ++ before, found) := by
  induction a with
  | nil => cases hb : splitIgnored b <;> simp [splitIgnored, hb]
  | cons e a ih =>
      cases e with
      | ignored tag owner name => rfl
      | entry said | step tag taken =>
          rw [List.cons_append, splitIgnored, ih, splitIgnored]
          cases splitIgnored a with
          | some found => rfl
          | none =>
              cases splitIgnored b with
              | some found => rfl
              | none => rfl

/-- Events without an attribute that is passed over are not split. -/
theorem splitIgnored_eq_none {events : List Event}
    (h : ∀ tag owner name, .ignored tag owner name ∉ events) :
    splitIgnored events = none := by
  induction events with
  | nil => rfl
  | cons e events ih =>
      have ih := ih fun tag owner name hmem =>
        h tag owner name (List.mem_cons_of_mem e hmem)
      cases e with
      | entry said | step tag taken => rw [splitIgnored, ih]; rfl
      | ignored tag owner name =>
          exact absurd (List.mem_cons_self ..) (h tag owner name)

/-- Events are split at the first attribute that is passed over. -/
theorem splitIgnored_eq_some {events before : List Event}
    {name owner : String}
    (h : splitIgnored events = some (before, name, owner)) :
    ∃ tag after, events = before ++ .ignored tag owner name :: after
      ∧ ∀ tag owner name, .ignored tag owner name ∉ before := by
  induction events generalizing before with
  | nil => cases h
  | cons e events ih =>
      cases e with
      | ignored tag owner' name' =>
          cases h
          exact ⟨tag, events, rfl, by simp⟩
      | entry said | step tag taken =>
          rw [splitIgnored, Option.map_eq_some_iff] at h
          obtain ⟨⟨before', found⟩, hs, heq⟩ := h
          cases heq
          obtain ⟨tag', after, hev, hfirst⟩ := ih hs
          exact ⟨tag', after, by rw [hev]; rfl, by simpa using hfirst⟩

/-- Events that are not split hold no attribute that is passed over. -/
theorem not_mem_of_splitIgnored {events : List Event}
    (h : splitIgnored events = none) (tag owner name : String) :
    .ignored tag owner name ∉ events := by
  intro hmem
  obtain ⟨before, after, rfl⟩ := List.append_of_mem hmem
  rw [splitIgnored_append] at h
  cases hb : splitIgnored before with
  | some found => simp [hb] at h
  | none => simp [hb, splitIgnored] at h

end Event

namespace Run

variable {σ α β : Type}

/-- The run cut off at the first attribute that it passes over, which
becomes its error. -/
def cut (x : Run α) : Run α :=
  match Event.splitIgnored x.events with
  | none => x
  | some (before, name, owner) =>
    ⟨before, .error (.unknownAttribute name owner)⟩

-- ================================================== cutting joined runs

/-- A run that passes nothing over is not cut. -/
theorem cut_eq_self {x : Run α}
    (h : ∀ tag owner name, .ignored tag owner name ∉ x.events) :
    x.cut = x := by
  unfold cut
  rw [Event.splitIgnored_eq_none h]

/-- A run that passes an attribute over is cut at the first one. -/
theorem cut_of_mem {x : Run α} {tag owner name : String}
    (h : .ignored tag owner name ∈ x.events) :
    ∃ before tag owner name after,
      x.events = before ++ .ignored tag owner name :: after
        ∧ (∀ tag owner name, .ignored tag owner name ∉ before)
        ∧ x.cut = ⟨before, .error (.unknownAttribute name owner)⟩ := by
  cases hs : Event.splitIgnored x.events with
  | none => exact absurd h (Event.not_mem_of_splitIgnored hs tag owner name)
  | some found =>
      obtain ⟨before, name', owner'⟩ := found
      obtain ⟨tag', after, hev, hfirst⟩ := Event.splitIgnored_eq_some hs
      refine ⟨before, tag', owner', name', after, hev, hfirst, ?_⟩
      unfold cut
      rw [hs]

/-- A run that is cut fails by the attribute it passes over, and a run
that is not is its own cut. -/
theorem cut_cases (x : Run α) :
    x.cut = x ∨ ∃ name owner,
      x.cut.result = .error (.unknownAttribute name owner) := by
  unfold cut
  split
  · exact Or.inl rfl
  · exact Or.inr ⟨_, _, rfl⟩

/-- A cut in the first part of a joined run cuts off the second part, and
else the second part is cut by itself. -/
@[simp] theorem cut_bind (x : Run α) (f : α → Run β) :
    (x >>= f).cut = x.cut >>= fun a => (f a).cut := by
  cases hs : Event.splitIgnored x.events with
  | some found =>
      obtain ⟨before, name, owner⟩ := found
      have hcut : x.cut = ⟨before, .error (.unknownAttribute name owner)⟩ := by
        unfold cut
        rw [hs]
      rw [hcut]
      show _ = (⟨before, .error (.unknownAttribute name owner)⟩ : Run β)
      cases hx : x.result with
      | ok a =>
          rw [bind_of_ok hx, cut, Event.splitIgnored_append, hs]
      | error e =>
          rw [bind_of_error hx, cut, hs]
  | none =>
      have hcut : x.cut = x := by
        unfold cut
        rw [hs]
      rw [hcut]
      cases hx : x.result with
      | error e =>
          rw [bind_of_error hx, bind_of_error hx, cut, hs]
      | ok a =>
          rw [bind_of_ok hx, bind_of_ok hx, cut,
            Event.splitIgnored_append, hs, cut]
          cases Event.splitIgnored (f a).events with
          | none => rfl
          | some found => rfl

theorem cut_foldlM (f : σ → α → Run σ) (s : σ) (l : List α) :
    (l.foldlM f s).cut = l.foldlM (fun s a => (f s a).cut) s := by
  induction l generalizing s with
  | nil => rfl
  | cons a l ih =>
      rw [List.foldlM_cons, List.foldlM_cons, cut_bind]
      congr 1
      funext s'
      exact ih s'

theorem cut_mapM (f : α → Run β) (l : List α) :
    (l.mapM f).cut = l.mapM fun a => (f a).cut := by
  induction l with
  | nil => rfl
  | cons a l ih =>
      simp only [List.mapM_cons, cut_bind, ih]
      rfl

-- ======================================================== uncut parts

@[simp] theorem cut_pure (a : α) : (pure a : Run α).cut = pure a := rfl

@[simp] theorem cut_fail (e : BuildError) :
    (fail e : Run α).cut = fail e := rfl

@[simp] theorem cut_record (area : Area) (level : Level) (text : String) :
    (record area level text).cut = record area level text := rfl

@[simp] theorem cut_step (tag : String) (s : Step) :
    (step tag s).cut = step tag s := rfl

/-- Passing an attribute over is where a run is cut. -/
@[simp] theorem cut_ignore (tag owner name : String) :
    (ignore tag owner name).cut = fail (.unknownAttribute name owner) :=
  rfl

@[simp] theorem cut_call (handler : Handler σ α) (state : σ)
    (blame : σ → Cause → BuildError) :
    (call handler state blame).cut = call handler state blame :=
  cut_eq_self (by simp [call])

@[simp] theorem cut_act {E : Type} (action : Action E) (e : E) :
    (act action e).cut = act action e :=
  cut_eq_self (by simp [act])

@[simp] theorem cut_map (f : α → β) (x : Run α) :
    (f <$> x).cut = f <$> x.cut := by
  simp only [map_eq_pure_bind, cut_bind, cut_pure]

end Run

-- =================================================== the two builds

namespace Build

variable {E D : Type}

/-- The one place where the flag counts: what is an error to a strict
build is where a lenient build is cut. -/
theorem rejectUnknown_strict (tag owner name : String) :
    rejectUnknown ⟨true⟩ tag owner name
      = (rejectUnknown ⟨false⟩ tag owner name).cut := rfl

/-- Building handlers never pass an attribute over. -/
theorem cut_buildAttributes (registry : Registry E D)
    (tag declared : String) (draft : D) (attributes : List Attribute) :
    (buildAttributes registry tag declared draft attributes).cut
      = buildAttributes registry tag declared draft attributes := by
  unfold buildAttributes
  rw [Run.cut_foldlM]
  congr 1
  funext state a
  unfold buildAttribute
  split
  · rfl
  · simp

theorem cut_instantiate [Entity E] [Draft D E] (tag : String)
    (kind : TagKind E D) (draft : D) :
    (instantiate tag kind draft : Run E).cut
      = instantiate tag kind draft := by
  unfold instantiate
  simp

theorem cut_runActions (tag : String) (moment : Moment) (slot : Slot)
    (index : Nat) (actions : List (Action E)) (e : E) :
    (runActions tag moment slot index actions e).cut
      = runActions tag moment slot index actions e := by
  induction actions generalizing index e with
  | nil => rfl
  | cons action rest ih =>
      unfold runActions
      simp [ih]

theorem cut_runPartHooks (tag : String) (moment : Moment) (index : Nat)
    (parts : List E) (hooks : List (Hooks E)) :
    (runPartHooks tag moment index parts hooks).cut
      = runPartHooks tag moment index parts hooks := by
  induction parts generalizing index hooks with
  | nil => cases hooks <;> rfl
  | cons part parts ih =>
      cases hooks with
      | nil => rfl
      | cons h rest =>
          unfold runPartHooks
          simp [cut_runActions, ih]

variable [Entity E] (setting : Setting E D)

/-- One attribute is bound alike, or it is where the run is cut. -/
theorem bindAttribute_strict (tag owner : String) (slot : Slot)
    (judging : Bool) (b : Binding E) (a : Attribute) :
    bindAttribute (setting.withStrict true) tag owner slot judging b a
      = (bindAttribute (setting.withStrict false) tag owner slot judging
          b a).cut := by
  unfold bindAttribute
  split
  · rfl
  · simp only [Setting.withStrict_registry, Setting.withStrict_config,
      Setting.withStrict_actions]
    cases setting.registry.binding? (Entity.typeName b.target) a.name with
    | none =>
        cases judging with
        | false => rfl
        | true => simp [rejectUnknown_strict]
    | some found => simp

theorem bindPass_strict (tag owner : String) (slot : Slot)
    (judging : Bool) (attributes : List Attribute) (b : Binding E) :
    bindPass (setting.withStrict true) tag owner slot judging attributes b
      = (bindPass (setting.withStrict false) tag owner slot judging
          attributes b).cut := by
  unfold bindPass
  rw [Run.cut_foldlM]
  congr 1
  funext b a
  exact bindAttribute_strict setting tag owner slot judging b a

theorem bindParts_strict (tag owner : String)
    (attributes : List Attribute) (index : Nat) (taken : List String)
    (parts : List E) :
    bindParts (setting.withStrict true) tag owner attributes index taken
        parts
      = (bindParts (setting.withStrict false) tag owner attributes index
          taken parts).cut := by
  induction parts generalizing index taken with
  | nil => rfl
  | cons part parts ih =>
      unfold bindParts
      simp [bindPass_strict, ih]

theorem bindComposite_strict (tag owner : String)
    (attributes : List Attribute) (b : Binding E) :
    bindComposite (setting.withStrict true) tag owner attributes b
      = (bindComposite (setting.withStrict false) tag owner attributes
          b).cut := by
  unfold bindComposite
  rw [Run.cut_bind, ← bindPass_strict]
  congr 1
  funext b
  split
  · rfl
  · simp [bindParts_strict]

theorem bindAttributes_strict (tag : String)
    (attributes : List Attribute) (taken : List String) (entity : E) :
    bindAttributes (setting.withStrict true) tag attributes taken entity
      = (bindAttributes (setting.withStrict false) tag attributes taken
          entity).cut := by
  unfold bindAttributes
  split
  · simp [bindPass_strict]
  · simp [bindPass_strict]
  · simp [bindPass_strict, bindComposite_strict]

-- ======================================================= hooks and bodies

theorem cut_runHooks (tag : String) (moment : Moment) (entity : E)
    (hooks : Hooks E) (partHooks : List (Hooks E)) :
    (runHooks tag moment entity hooks partHooks).cut
      = runHooks tag moment entity hooks partHooks := by
  unfold runHooks
  split <;> simp [cut_runActions, cut_runPartHooks]

theorem cut_placeText (tag : OpenedTag E D) (run : String) :
    (placeText tag run).cut = placeText tag run := by
  unfold placeText
  rw [Run.cut_foldlM]
  congr 1
  funext tag line
  unfold placeLine
  split <;> simp

theorem cut_placeChild (tag : OpenedTag E D) (childTag : String)
    (child : E) :
    (placeChild tag childTag child).cut = placeChild tag childTag child := by
  unfold placeChild
  split
  · simp
  · split <;> simp

theorem cut_closeTag (tag : OpenedTag E D) :
    (closeTag tag).cut = closeTag tag := by
  unfold closeTag
  simp [cut_runHooks]

variable [Draft D E]

theorem openTag_strict (parent : Option String) (name : String)
    (attributes : List Attribute) (line : Nat) :
    openTag (setting.withStrict true) parent name attributes line
      = (openTag (setting.withStrict false) parent name attributes
          line).cut := by
  unfold openTag
  simp only [Setting.withStrict_registry]
  split
  · rfl
  · simp [cut_buildAttributes, cut_instantiate, cut_runHooks,
      bindAttributes_strict]

-- ========================================================= whole elements

mutual

/-- A strict build of an element is the lenient one, cut. -/
theorem element_strict (parent : Option String) :
    (e : ElementOf Content) →
    element (setting.withStrict true) parent e
      = (element (setting.withStrict false) parent e).cut
  | ⟨name, attributes, content, line⟩ => by
    unfold element
    simp [openTag_strict, body_strict content, cut_closeTag]

theorem body_strict : (content : List Content) → (tag : OpenedTag E D) →
    body (setting.withStrict true) content tag
      = (body (setting.withStrict false) content tag).cut
  | [], tag => rfl
  | c :: rest, tag => by
    unfold body
    simp [item_strict c, body_strict rest]

theorem item_strict : (c : Content) → (tag : OpenedTag E D) →
    item (setting.withStrict true) c tag
      = (item (setting.withStrict false) c tag).cut
  | .text run, tag => by
    unfold item
    exact (cut_placeText tag run).symm
  | .element e, tag => by
    unfold item
    simp [element_strict (some tag.name) e, cut_placeChild]

end

/-- A strict build of a document is the lenient one, cut. -/
theorem document_strict (d : Document) :
    document (setting.withStrict true) d
      = (document (setting.withStrict false) d).cut := by
  unfold document
  rw [Run.cut_mapM]
  congr 1
  funext e
  exact element_strict setting none e

/-- A strict and a lenient build of one document. As long as the lenient
build passes no attribute over, the two are the same: entities or error,
calls and reports. The first attribute it passes over is where the strict
build, after the same events, fails by that attribute. So a lenient build
never fails by an attribute, and whatever else a build fails by does not
depend on the flag. -/
theorem strict_document_eq_lenient_until_ignored (setting : Setting E D)
    (d : Document) :
    let lenient := document (setting.withStrict false) d
    let strict := document (setting.withStrict true) d
    ((∀ tag owner name, .ignored tag owner name ∉ lenient.events) →
        strict = lenient)
      ∧ (∀ tag owner name, .ignored tag owner name ∈ lenient.events →
          ∃ before tag owner name after,
            lenient.events = before ++ .ignored tag owner name :: after
              ∧ (∀ tag owner name, .ignored tag owner name ∉ before)
              ∧ strict = ⟨before, .error (.unknownAttribute name owner)⟩)
      ∧ (∀ name owner,
          lenient.result ≠ .error (.unknownAttribute name owner))
      ∧ (∀ e, (∀ name owner, e ≠ .unknownAttribute name owner) →
          strict.result = .error e → strict = lenient)
      ∧ ∀ e, lenient.result = .error e →
          strict.result = .error e
            ∨ ∃ name owner,
                strict.result = .error (.unknownAttribute name owner) := by
  intro lenient strict
  have hcut : strict = lenient.cut := document_strict setting d
  refine ⟨fun h => ?_, fun tag owner name h => ?_, fun name owner h => ?_,
    fun e hne he => ?_, fun e he => ?_⟩
  · rw [hcut, Run.cut_eq_self h]
  · rw [hcut]
    exact Run.cut_of_mem h
  · have hflag : (false : Bool) = true :=
      (document_fails_by (setting.withStrict false) d).of_error _ h
    cases hflag
  · rcases lenient.cut_cases with hself | ⟨name, owner, hun⟩
    · rw [hcut, hself]
    · rw [hcut, hun] at he
      injection he with he
      exact absurd he.symm (hne name owner)
  · rcases lenient.cut_cases with hself | hun
    · exact Or.inl (by rw [hcut, hself, he])
    · exact Or.inr (by rw [hcut]; exact hun)

end Build

end EntityMarkup
