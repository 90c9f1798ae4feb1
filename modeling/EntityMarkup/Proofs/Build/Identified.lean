/-
What an error of a build from a source tells. Errors name the making of an
entity and the closing of a tag in place of an attribute, by names that
are no names of attributes (`ne_reserved`). So the name and the phase that
an error tells, and the call that failed, determine one another
(`Identified`).
-/
import EntityMarkup.Proofs.Build.Blame
import EntityMarkup.Proofs.Scenario.Kept

namespace EntityMarkup

namespace Build

variable {E D : Type} [Entity E] [Draft D E] {setting : Setting E D}
  {x : Element}

-- ================================================================ names

/-- How errors name the step and its phase, if they name a step at all
when it fails. -/
def stepName? : Step → Option (String × Phase)
  | .building _ name _ => some (name, .building)
  | .instantiate | .finish => some (buildStep, .building)
  | .binding _ _ name _ => some (name, .binding)
  | .close => some (closeStep, .binding)
  | .hook _ _ _ | .line _ _ | .child _ _ => none

/-- The step and the phase that an error names. -/
def namedStep? : BuildError → Option (String × Phase)
  | .handlerFailure name _ phase _ => some (name, phase)
  | _ => none

theorem namedStep?_eq_some_iff {e : BuildError} {name : String}
    {phase : Phase} :
    namedStep? e = some (name, phase)
      ↔ ∃ type cause, e = .handlerFailure name type phase cause := by
  cases e <;> simp [namedStep?]

section

variable {e : BuildError} {c : Call E}

/-- An error names the step of the call that it blames. -/
theorem Blames.namedStep?_eq {last : Option (Call E)}
    (h : Blames setting x e last) :
    namedStep? e = last.bind fun c => stepName? c.step := by
  cases h <;> rfl

/-- A call that is blamed is given none but attributes of the tag. -/
theorem Blames.given_mem (h : Blames setting x e (some c))
    (phase : Phase) {a : Attribute}
    (ha : Step.applied? phase c.step = some a) : a ∈ x.attributes := by
  cases h with
  | building hkind hmem =>
      cases phase
      · cases ha
        exact hmem
      · cases ha
  | binding hkind hmade htarget hmem =>
      cases phase
      · cases ha
      · cases ha
        exact hmem
  | instantiate | finish | line | child | attaching | close =>
      cases phase <;> cases ha

omit [Entity E] [Draft D E] in
/-- Names are no reserved names. -/
theorem ne_reserved {name : String} (h : IsName name.toList) :
    name ≠ buildStep ∧ name ≠ closeStep := by
  have hangle : ∀ step : String, '<' ∈ step.toList → name ≠ step := by
    intro step hmem heq
    rw [← heq] at hmem
    have hno : isNameChar '<' = false := not_nameChar_marks (by simp)
    rw [h.chars '<' hmem] at hno
    cases hno
  exact ⟨hangle buildStep (by decide), hangle closeStep (by decide)⟩

variable (hnames : ∀ a ∈ x.attributes,
  a.name ≠ buildStep ∧ a.name ≠ closeStep)

include hnames

/-- Where no attribute has a reserved name, a blamed step that is named as
the making of an entity is that. -/
theorem Blames.making_iff (h : Blames setting x e (some c)) :
    stepName? c.step = some (buildStep, .building)
      ↔ c.step = .instantiate ∨ c.step = .finish := by
  have hgiven := fun a => h.given_mem .building (a := a)
  cases hstep : c.step with
  | building owner name value =>
      rw [hstep] at hgiven
      have hne := (hnames _ (hgiven _ rfl)).1
      simpa [stepName?] using hne
  | instantiate | finish | binding | hook | line | child | close =>
      simp [stepName?]

theorem Blames.closing_iff (h : Blames setting x e (some c)) :
    stepName? c.step = some (closeStep, .binding) ↔ c.step = .close := by
  have hgiven := fun a => h.given_mem .binding (a := a)
  cases hstep : c.step with
  | binding slot owner name value =>
      rw [hstep] at hgiven
      have hne := (hnames _ (hgiven _ rfl)).2
      simpa [stepName?] using hne
  | building | instantiate | finish | hook | line | child | close =>
      simp [stepName?]

end

theorem stepName?_building_iff {step : Step} {name : String}
    (hname : name ≠ buildStep) :
    stepName? step = some (name, .building)
      ↔ ∃ owner value, step = .building owner name value := by
  cases step <;> simp [stepName?, hname.symm]

theorem stepName?_binding_iff {step : Step} {name : String}
    (hname : name ≠ closeStep) :
    stepName? step = some (name, .binding)
      ↔ ∃ slot owner value, step = .binding slot owner name value := by
  cases step <;> simp [stepName?, hname.symm]

-- =============================================================== sources

/-- What an error tells of a build that made these calls from this
document. -/
structure Identified (setting : Setting E D) (source : String)
    (d : Document) (calls : List (Call E)) (e : BuildError) : Prop where
  /-- It is about the tag of an element that stands in the source, and all
  tags before that one have kinds. None of the calls failed, or the last
  one did, and that is the one to blame. -/
  blamed : ∃ (before : List (Call E)) (last : Option (Call E)),
    calls = before ++ last.toList ∧ (∀ c ∈ before, c.failure = none)
      ∧ (∀ c ∈ last, c.failure ≠ none)
      ∧ FirstTo setting.registry d.elements fun x =>
        FoundIn source.toList x ∧ Blames setting x e last
  /-- It names the making of an entity just when that failed. -/
  making_iff : (∃ type cause,
      e = .handlerFailure buildStep type .building cause)
    ↔ ∃ c ∈ calls, c.failure ≠ none
      ∧ (c.step = .instantiate ∨ c.step = .finish)
  /-- It names a close hook just when that failed. -/
  closing_iff : (∃ type cause,
      e = .handlerFailure closeStep type .binding cause)
    ↔ ∃ c ∈ calls, c.failure ≠ none ∧ c.step = .close
  /-- It names any other attribute, and the phase, just when a handler of
  the phase failed that was given the attribute. -/
  building_iff : ∀ name, name ≠ buildStep →
    ((∃ type cause, e = .handlerFailure name type .building cause)
      ↔ ∃ c ∈ calls, c.failure ≠ none
        ∧ ∃ owner value, c.step = .building owner name value)
  binding_iff : ∀ name, name ≠ closeStep →
    ((∃ type cause, e = .handlerFailure name type .binding cause)
      ↔ ∃ c ∈ calls, c.failure ≠ none
        ∧ ∃ slot owner value, c.step = .binding slot owner name value)
  /-- It is none of those that are not about a tag. -/
  about_tag : (∀ name, e ≠ .unknownAction name)
    ∧ (∀ fault, e ≠ .invalidRegistry fault) ∧ ∀ fault, e ≠ .markup fault

/-- An error that blames a tag found in the source identifies the step. -/
theorem Identified.of_blamed {source : String} {d : Document}
    {before : List (Call E)} {last : Option (Call E)} {e : BuildError}
    (hbefore : ∀ c ∈ before, c.failure = none)
    (hlast : ∀ c ∈ last, c.failure ≠ none)
    (hfirst : FirstTo setting.registry d.elements fun x =>
      FoundIn source.toList x ∧ Blames setting x e last) :
    Identified setting source d (before ++ last.toList) e := by
  obtain ⟨earlier, x, later, -, -, hfound, hx⟩ := id hfirst
  have hnames := fun a ha => ne_reserved (hfound.names a ha)
  -- the call that failed is the one that is blamed
  have hfailed : ∀ P : Call E → Prop,
      (∃ c ∈ before ++ last.toList, c.failure ≠ none ∧ P c)
        ↔ ∃ c, last = some c ∧ P c := by
    intro P
    constructor
    · rintro ⟨c, hc, hfailure, hP⟩
      rcases List.mem_append.mp hc with hc | hc
      · exact absurd (hbefore c hc) hfailure
      · exact ⟨c, Option.mem_toList.mp hc, hP⟩
    · rintro ⟨c, rfl, hP⟩
      exact ⟨c, by simp, hlast c rfl, hP⟩
  have hnamed : ∀ name phase,
      (∃ type cause, e = .handlerFailure name type phase cause)
        ↔ ∃ c, last = some c ∧ stepName? c.step = some (name, phase) := by
    intro name phase
    rw [← namedStep?_eq_some_iff, hx.namedStep?_eq]
    exact Option.bind_eq_some_iff
  refine ⟨⟨before, last, rfl, hbefore, hlast, hfirst⟩, ?_, ?_,
    fun name hname => ?_, fun name hname => ?_, ?_⟩
  · rw [hfailed, hnamed]
    refine exists_congr fun c => and_congr_right ?_
    rintro rfl
    exact hx.making_iff hnames
  · rw [hfailed, hnamed]
    refine exists_congr fun c => and_congr_right ?_
    rintro rfl
    exact hx.closing_iff hnames
  · rw [hfailed, hnamed]
    exact exists_congr fun c =>
      and_congr_right fun _ => stepName?_building_iff hname
  · rw [hfailed, hnamed]
    exact exists_congr fun c =>
      and_congr_right fun _ => stepName?_binding_iff hname
  · refine ⟨fun name heq => ?_, fun fault heq => ?_, fun fault heq => ?_⟩
    all_goals
      rw [heq] at hx
      cases hx

/-- What an error of a build from a source is about. Markup that cannot be
read is its own error, before anything is done. Else no attribute is named
as one of the steps that are none, and an error identifies the call that
failed, which is the last one, or the tag that it is about. -/
theorem source_error_identified (setting : Setting E D) (text : String) :
    (∀ fault, Document.parse? text = .error fault →
      source setting text = ⟨[], .error (.markup fault)⟩)
    ∧ ∀ d, Document.parse? text = .ok d →
      (∀ x ∈ d.elements, ∀ a ∈ x.attributes,
        a.name ≠ buildStep ∧ a.name ≠ closeStep)
      ∧ ∃ calls, Told calls (source setting text).events
        ∧ (∀ c ∈ calls, c.Made setting)
        ∧ (∀ entities, (source setting text).result = .ok entities →
          ∀ c ∈ calls, c.failure = none)
        ∧ ∀ e, (source setting text).result = .error e →
          Identified setting text d calls e := by
  refine ⟨fun fault hfault => ?_, fun d hd => ?_⟩
  · rw [source, hfault]
    rfl
  · obtain ⟨covered, gap, ts, hsource, -, -, hlayout, hflat⟩ :=
      exists_flattening hd
    have hfound : ∀ x ∈ d.elements, FoundIn text.toList x :=
      hflat.foundIn hlayout hsource
    have hrun : source setting text = document setting d := by
      rw [source, hd]
    have hblaming : (document setting d).Blaming (Call.Made setting) _ :=
      document_blaming d
    obtain ⟨calls, htold, hmade, hend⟩ := hblaming.exists_calls
    rw [hrun]
    refine ⟨fun x hx a ha => ne_reserved ((hfound x hx).names a ha), calls,
      htold, hmade, fun entities hok => ?_, fun e he => ?_⟩
    · rw [hok] at hend
      exact hend
    · rw [he] at hend
      obtain ⟨before, last, rfl, hbefore, hlast, hfirst⟩ := hend
      refine .of_blamed hbefore hlast ?_
      obtain ⟨earlier, x, later, hsplit, hearlier, hx⟩ := hfirst
      have hmem : x ∈ d.elements := by
        rw [hsplit]
        exact List.mem_append_right _ (List.mem_cons_self ..)
      exact ⟨earlier, x, later, hsplit, hearlier, hfound x hmem, hx⟩

/-- The width is no number. -/
def wideSource : String :=
  "<holder>\n<panel text='x' width='wide'/>\n</holder>"

/-- The handler that fails is one for the first component of the panel.
The error tells the panel's type. -/
theorem source_error_identified_component :
    ∃ d, Document.parse? wideSource = .ok d
      ∧ ∃ calls, Told calls (source Scenario.markSetting wideSource).events
        ∧ Identified Scenario.markSetting wideSource d calls
          (.handlerFailure "width" "panel" .binding
            (.message "invalid digit found in string")) := by
  have hparse : Document.parse? wideSource
      = .ok ⟨[⟨"holder", [], [.element ⟨"panel",
        [⟨"text", "x"⟩, ⟨"width", "wide"⟩], [], 2⟩], 1⟩]⟩ := by rfl
  have hresult : (source Scenario.markSetting wideSource).result
      = .error (.handlerFailure "width" "panel" .binding
        (.message "invalid digit found in string")) := by
    rw [source, hparse]
    exact Run.eq_error_of_map (by decide +kernel)
  obtain ⟨-, calls, htold, -, -, herror⟩ :=
    (source_error_identified Scenario.markSetting wideSource).2 _ hparse
  exact ⟨_, hparse, calls, htold, herror _ hresult⟩

end Build

end EntityMarkup
