/-
Which attributes a strict build accepts, and what the registry lists. A
tag is opened in two phases, each of which finds its handlers along the
ancestry of the declared type, as the listing of that type does. So an
attribute without a row is taken by nobody, and an attribute with a row
for binding is bound unless building has consumed it.

What the rows do not tell is what a building handler answers. It may leave
its attribute to be bound, and if no binding handler is there, the
attribute is as unknown as one without a row. So a strict build fails at
the first attribute that is not consumed and has no row for binding
(`openTag_endsAt`), and these are the attributes without a row as long as
no building handler leaves one that cannot be bound.
-/
import EntityMarkup.Proofs.Build.Opening
import EntityMarkup.Proofs.Build.Failure
import EntityMarkup.Proofs.Registry.Describe

namespace EntityMarkup

-- ========================================================= ends of runs

namespace Run

variable {α β : Type}

/-- The error that a run ends with, if it fails. -/
def error? (x : Run α) : Option BuildError :=
  match x.result with
  | .ok _ => none
  | .error e => some e

theorem result_of_error? {x : Run α} {e : BuildError}
    (h : x.error? = some e) : x.result = .error e := by
  unfold error? at h
  split at h
  case h_1 => cases h
  case h_2 hresult =>
    cases h
    exact hresult

/-- No handler fails in the run. -/
def Unfailing (x : Run α) : Prop :=
  ∀ name type phase cause,
    x.result ≠ .error (.handlerFailure name type phase cause)

/-- The run fails at the first of these attributes, which a type does not
know, and has an answer if there are none. -/
def EndsAt (x : Run α) (type : String) : List Attribute → Prop
  | [] => ∃ a, x.result = .ok a
  | a :: _ => x.result = .error (.unknownAttribute a.name type)

section

variable {x : Run α} {a : α} {f : α → Run β} {type : String}
  {unknown : List Attribute}

theorem Unfailing.first (h : (x >>= f).Unfailing) : x.Unfailing := by
  intro name type phase cause hx
  exact h name type phase cause (by rw [bind_of_error hx])

theorem Unfailing.next (h : (x >>= f).Unfailing)
    (hok : x.result = .ok a) : (f a).Unfailing := by
  rw [bind_of_ok hok] at h
  exact h

/-- A handler that is called in such a run has an answer. -/
theorem Unfailing.call_ok {σ : Type} {handler : Handler σ α} {state : σ}
    {blame : σ → Cause → BuildError} {f : α × σ → Run β}
    (hblame : ∀ s cause, ∃ name type phase,
      blame s cause = .handlerFailure name type phase cause)
    (h : (Run.call handler state blame >>= f).Unfailing) :
    ∃ a, (Run.call handler state blame).result
        = .ok (a, (handler state).state)
      ∧ (handler state).result = .ok a := by
  cases hr : (handler state).result with
  | ok a => exact ⟨a, by rw [call_of_ok hr], rfl⟩
  | error cause =>
      obtain ⟨name, type, phase, hsame⟩ :=
        hblame (handler state).state cause
      have hcall : (Run.call handler state blame).result
          = .error (.handlerFailure name type phase cause) := by
        simp only [Run.call, hr, hsame]
      exact absurd hcall (h.first name type phase cause)

theorem EndsAt.next (hok : x.result = .ok a)
    (h : (f a).EndsAt type unknown) : (x >>= f).EndsAt type unknown := by
  rw [bind_of_ok hok]
  cases unknown with
  | nil | cons => exact h

/-- What follows such an end and cannot fail leaves it as it is. -/
theorem EndsAt.before (h : x.EndsAt type unknown)
    (hf : ∀ a, ∃ b, (f a).result = .ok b) :
    (x >>= f).EndsAt type unknown := by
  cases unknown with
  | nil =>
      obtain ⟨a, hok⟩ := h
      obtain ⟨b, hb⟩ := hf a
      rw [bind_of_ok hok]
      exact ⟨b, hb⟩
  | cons a rest =>
      have herror : x.result = .error (.unknownAttribute a.name type) := h
      rw [bind_of_error herror]
      rfl

/-- The error of such an end, if there is one. -/
theorem EndsAt.error_iff (h : x.EndsAt type unknown)
    (name type' : String) :
    x.result = .error (.unknownAttribute name type')
      ↔ type' = type ∧ unknown.head?.map (·.name) = some name := by
  cases unknown with
  | nil =>
      obtain ⟨a, hok⟩ := h
      rw [hok]
      constructor
      · exact fun heq => nomatch heq
      · rintro ⟨-, hnone⟩
        cases hnone
  | cons a rest =>
      have herror : x.result = .error (.unknownAttribute a.name type) := h
      rw [herror]
      constructor
      · intro heq
        cases heq
        exact ⟨rfl, rfl⟩
      · rintro ⟨rfl, hname⟩
        cases hname
        rfl

end

end Run

namespace Build

open Relation (ReflTransGen)
open Run (bind_result_ok)

variable {E D : Type} [Entity E] {setting : Setting E D}
  {tag owner type : String} {slot : Slot}

-- ===================================================== the judging pass

omit [Entity E] in
/-- When a name is done with that has a handler for a type, this takes
nothing away from what is free of the type. -/
theorem free_remaining_concat {registry : Registry E D} {name : String}
    {found : String × BindingHandler E}
    (hfound : registry.binding? type name = some found)
    (attributes : List Attribute) (taken : List String) :
    free registry [type] (remaining attributes (taken ++ [name]))
      = free registry [type] (remaining attributes taken) := by
  unfold free remaining
  rw [List.filter_filter, List.filter_filter]
  refine List.filter_congr fun a _ => ?_
  by_cases hname : a.name = name
  · simp [hname, hfound]
  · simp [hname]

/-- A pass that judges ends at the first attribute that is not done with
and has no handler for the target's type. -/
theorem bindPass_endsAt {attributes : List Attribute} {b : Binding E}
    (hstrict : setting.config.strict = true)
    (htype : ∀ e, ReflTransGen (Rebound setting) b.target e →
      Entity.typeName e = type)
    (hsound : (bindPass setting tag owner slot true attributes
      b).Unfailing) :
    (bindPass setting tag owner slot true attributes b).EndsAt owner
      (free setting.registry [type] (remaining attributes b.taken)) := by
  induction attributes generalizing b with
  | nil => exact ⟨b, rfl⟩
  | cons a rest ih =>
      have hpass : bindPass setting tag owner slot true (a :: rest) b
          = bindAttribute setting tag owner slot true b a
            >>= bindPass setting tag owner slot true rest :=
        List.foldlM_cons
      rw [hpass] at hsound ⊢
      by_cases hmem : a.name ∈ b.taken
      · -- it is done with
        have hfirst : bindAttribute setting tag owner slot true b a
            = pure b := if_pos hmem
        have hleft : remaining (a :: rest) b.taken
            = remaining rest b.taken :=
          List.filter_cons_of_neg (by simpa using hmem)
        rw [hfirst] at hsound ⊢
        rw [hleft]
        exact .next rfl (ih htype (hsound.next rfl))
      have hleft : remaining (a :: rest) b.taken
          = a :: remaining rest b.taken :=
        List.filter_cons_of_pos (by simpa using hmem)
      rw [hleft]
      unfold bindAttribute at hsound ⊢
      rw [if_neg hmem, htype b.target .refl] at hsound ⊢
      cases hfound : setting.registry.binding? type a.name with
      | none =>
          -- nobody takes it
          have hfree : free setting.registry [type]
                (a :: remaining rest b.taken)
              = a :: free setting.registry [type]
                (remaining rest b.taken) :=
            List.filter_cons_of_pos (by simp [hfound])
          rw [hfree]
          simp only [if_true]
          unfold rejectUnknown
          rw [if_pos hstrict]
          rfl
      | some found =>
          obtain ⟨declaredBy, handler⟩ := found
          have hfree : free setting.registry [type]
                (a :: remaining rest b.taken)
              = free setting.registry [type] (remaining rest b.taken) :=
            List.filter_cons_of_neg (by simp [hfound])
          rw [hfound] at hsound
          simp only [bind_assoc, pure_bind] at hsound ⊢
          have hrest := (hsound.next rfl).next rfl
          obtain ⟨answer, hcall, hok⟩ :=
            hrest.call_ok fun _ _ => ⟨_, _, _, rfl⟩
          have hbound : Rebound setting b.target _ :=
            .intro tag a.value (by rw [htype _ .refl]; exact hfound) hok
          rw [hfree, ← free_remaining_concat hfound]
          exact .next rfl (.next rfl (.next hcall
            (ih (fun e he => htype e (.head hbound he))
              (hrest.next hcall))))

-- ============================================================== opening

/-- The attributes of a tag that nobody takes: building does not consume
them, and the declared type has no row for their binding. -/
def untaken (registry : Registry E D) (kind : TagKind E D)
    (attributes : List Attribute) : List Attribute :=
  attributes.filter fun a =>
    a.name ∉ consumed registry kind.declaredType kind.newDraft attributes
      ∧ ¬ registry.Lists kind.declaredType .binding a.name

/-- The attributes without any row for the type. -/
def unlisted (registry : Registry E D) (type : String)
    (attributes : List Attribute) : List Attribute :=
  attributes.filter fun a =>
    ∀ row ∈ registry.describe type, row.name ≠ a.name

omit [Entity E] in
theorem untaken_eq (registry : Registry E D) (kind : TagKind E D)
    (attributes : List Attribute) :
    untaken registry kind attributes
      = free registry [kind.declaredType] (remaining attributes
        (consumed registry kind.declaredType kind.newDraft
          attributes)) := by
  unfold untaken free remaining
  rw [List.filter_filter]
  refine List.filter_congr fun a _ => ?_
  rw [Bool.eq_iff_iff, decide_eq_true_iff, Registry.lists_binding_iff]
  simp [and_comm]

theorem runHooks_ok (tag : String) (moment : Moment) (e : E)
    (hooks : Hooks E) (partHooks : List (Hooks E)) :
    ∃ e', (runHooks tag moment e hooks partHooks).result = .ok e' := by
  cases hresult : (runHooks tag moment e hooks partHooks).result with
  | ok e' => exact ⟨e', rfl⟩
  | error cause =>
      exact ((runHooks_fails_by (fun _ => False) ..).of_error cause
        hresult).elim

/-- Opening a tag strictly, with an entity of the declared type and
without components, ends at the first attribute that nobody takes. -/
theorem openTag_endsAt [Draft D E] {parent : Option String}
    {attributes : List Attribute} {line : Nat} {kind : TagKind E D} {e : E}
    (hstrict : setting.config.strict = true)
    (hkind : setting.registry.kind? tag = some kind)
    (hmade : (make setting.registry tag kind attributes).result = .ok e)
    (hwhole : Entity.components? e = none)
    (htype : ∀ e', ReflTransGen (Rebound setting) e e' →
      Entity.typeName e' = kind.declaredType)
    (hsound : (openTag setting parent tag attributes line).Unfailing) :
    (openTag setting parent tag attributes line).EndsAt kind.declaredType
      (untaken setting.registry kind attributes) := by
  obtain ⟨⟨draft, taken⟩, hbuilt, hinstance⟩ := bind_result_ok hmade
  obtain ⟨-, htaken⟩ := buildAttributes_offers hbuilt
  rw [List.nil_append] at htaken
  rw [untaken_eq, ← htaken]
  unfold openTag at hsound ⊢
  rw [hkind] at hsound ⊢
  have hbinding := ((hsound.next rfl).next hbuilt).next hinstance
  refine .next rfl (.next hbuilt (.next hinstance (.before ?_ ?_)))
  · have hpass := hbinding.first
    unfold bindAttributes at hpass ⊢
    rw [hwhole, htype e .refl] at hpass ⊢
    exact .next rfl (.before
      (bindPass_endsAt hstrict htype (hpass.next rfl).first)
      fun b => ⟨_, rfl⟩)
  · rintro ⟨b, partHooks⟩
    obtain ⟨created, hcreated⟩ :=
      runHooks_ok tag .create b.target b.hooks partHooks
    exact ⟨⟨tag, kind, created, b.hooks, partHooks⟩,
      congrArg Run.result (Run.bind_of_ok hcreated _)⟩

omit [Entity E] in
/-- What is consumed has a row for building. -/
theorem lists_of_consumed {registry : Registry E D} {draft : D}
    {attributes : List Attribute} {name : String}
    (h : name ∈ consumed registry type draft attributes) :
    registry.Lists type .building name := by
  induction attributes generalizing draft with
  | nil => cases h
  | cons a rest ih =>
      rw [consumed] at h
      split at h
      case h_1 => exact ih h
      case h_2 declaredBy handler hfound =>
        dsimp only at h
        split at h
        case h_1 =>
          rcases List.mem_cons.mp h with rfl | h
          · rw [Registry.lists_iff, Registry.owner?, hfound]
            rfl
          · exact ih h
        case h_2 => exact ih h

omit [Entity E] in
/-- An attribute without a row is taken by nobody. -/
theorem not_taken_of_unlisted {registry : Registry E D} {draft : D}
    {attributes : List Attribute} {name : String}
    (hno : ∀ phase, ¬ registry.Lists type phase name) :
    name ∉ consumed registry type draft attributes
      ∧ ¬ registry.Lists type .binding name :=
  ⟨fun hconsumed => hno .building (lists_of_consumed hconsumed),
    hno .binding⟩

omit [Entity E] in
theorem mem_unlisted_iff {registry : Registry E D}
    {attributes : List Attribute} {a : Attribute} :
    a ∈ unlisted registry type attributes
      ↔ a ∈ attributes ∧ ∀ phase, ¬ registry.Lists type phase a.name := by
  rw [unlisted, List.mem_filter, decide_eq_true_iff,
    Registry.forall_describe_ne_iff]

/-- What the rows of the declared type tell about opening a tag strictly,
if no handler fails, the entity is of that type and stays so, and it has
no components. -/
theorem openTag_rejects [Draft D E] (setting : Setting E D)
    (parent : Option String) (name : String) (attributes : List Attribute)
    (line : Nat) {kind : TagKind E D} {e : E}
    (hstrict : setting.config.strict = true)
    (hkind : setting.registry.kind? name = some kind)
    (hmade : (make setting.registry name kind attributes).result = .ok e)
    (hwhole : Entity.components? e = none)
    (htype : ∀ e', ReflTransGen (Rebound setting) e e' →
      Entity.typeName e' = kind.declaredType)
    (hsound : (openTag setting parent name attributes line).Unfailing) :
    let run := openTag setting parent name attributes line
    let rejected := untaken setting.registry kind attributes
    let strange := unlisted setting.registry kind.declaredType attributes
    (∀ n type, run.result = .error (.unknownAttribute n type)
        ↔ type = kind.declaredType
          ∧ rejected.head?.map (·.name) = some n)
      ∧ (rejected = [] → ∃ opened, run.result = .ok opened)
      ∧ (∀ a ∈ strange, a ∈ rejected)
      ∧ ((∀ a ∈ attributes,
          setting.registry.Lists kind.declaredType .building a.name →
          ¬ setting.registry.Lists kind.declaredType .binding a.name →
          a.name ∈ consumed setting.registry kind.declaredType
            kind.newDraft attributes) →
        rejected = strange) := by
  intro run rejected strange
  have hends : run.EndsAt kind.declaredType rejected :=
    openTag_endsAt hstrict hkind hmade hwhole htype hsound
  refine ⟨hends.error_iff, fun hnone => ?_, fun a ha => ?_,
    fun hbindable => ?_⟩
  · rw [hnone] at hends
    exact hends
  · obtain ⟨hmem, hno⟩ := mem_unlisted_iff.mp ha
    exact List.mem_filter.mpr
      ⟨hmem, decide_eq_true (not_taken_of_unlisted hno)⟩
  · refine List.filter_congr fun a ha => ?_
    rw [decide_eq_decide, Registry.forall_describe_ne_iff]
    constructor
    · rintro ⟨hleft, hbinding⟩ phase
      cases phase with
      | building =>
          exact fun hbuilding => hleft (hbindable a ha hbuilding hbinding)
      | binding => exact hbinding
    · exact not_taken_of_unlisted

/-- A widget whose tone is declined and then bound; one attribute more is
rejected. -/
theorem openTag_rejects_widget :
    let setting := Scenario.markSetting
    let kind := Scenario.widgetTag
    let attributes : List Attribute :=
      [⟨"tone", "warm"⟩, ⟨"bogus", "x"⟩]
    let run := openTag setting none "widget" attributes 1
    let made := Scenario.Object.widget (.styled "default")
    setting.config.strict = true
      ∧ setting.registry.kind? "widget" = some kind
      ∧ (make setting.registry "widget" kind attributes).result = .ok made
      ∧ Entity.components? made = none
      ∧ (∀ e', ReflTransGen (Rebound setting) made e' →
        Entity.typeName e' = kind.declaredType)
      ∧ run.Unfailing
      ∧ run.result = .error (.unknownAttribute "bogus" "widget")
      ∧ ∀ n type, run.result = .error (.unknownAttribute n type)
        ↔ type = kind.declaredType
          ∧ (untaken setting.registry kind attributes).head?.map (·.name)
            = some n := by
  intro setting kind attributes run made
  have hkind : setting.registry.kind? "widget" = some kind := by cbv
  have hmade : (make setting.registry "widget" kind attributes).result
      = .ok made := by cbv
  have htype : ∀ e', ReflTransGen (Rebound setting) made e' →
      Entity.typeName e' = kind.declaredType :=
    fun e' he' => Scenario.rebounds_type Scenario.markSetting_uses he'
  have hresult : run.result
      = .error (.unknownAttribute "bogus" "widget") := by
    have herror : run.error?
        = some (.unknownAttribute "bogus" "widget") := by decide +kernel
    exact Run.result_of_error? herror
  have hsound : run.Unfailing := by
    intro name type phase cause hfails
    rw [hresult] at hfails
    cases hfails
  exact ⟨rfl, hkind, hmade, rfl, htype, hsound, hresult,
    (openTag_rejects setting none "widget" attributes 1 rfl hkind hmade rfl
      htype hsound).1⟩

-- ================================================= a declined attribute

/-- Widgets with one attribute, whose building handler leaves it to be
bound. There is no handler to bind it. -/
def declining : Registrations Scenario.Object StyleDraft :=
  Registrations.start
    |>.tag "widget" Scenario.widgetTag
    |>.onBuilding "widget" "tone" Scenario.declineTone

/-- Strict builds with these widgets. -/
def decliningSetting : Setting Scenario.Object StyleDraft where
  registry :=
    { ancestries := Std.TreeMap.insert ∅ rootType [rootType]
      kinds := declining.kinds
      building := declining.building
      binding := declining.binding }
  config := {}
  actions := .empty

/-- The attribute has a row for the type, and is rejected. -/
theorem declined_rejected :
    let attributes : List Attribute := [⟨"tone", "warm"⟩]
    let run := openTag decliningSetting none "widget" attributes 1
    let made := Scenario.Object.widget (.styled "default")
    declining.finish = .ok decliningSetting.registry
      ∧ decliningSetting.config.strict = true
      ∧ decliningSetting.registry.kind? "widget" = some Scenario.widgetTag
      ∧ (make decliningSetting.registry "widget" Scenario.widgetTag
          attributes).result = .ok made
      ∧ Entity.components? made = none
      ∧ Entity.typeName made = Scenario.widgetTag.declaredType
      ∧ (attributes.map (·.name)).Nodup
      ∧ run.Unfailing
      ∧ unlisted decliningSetting.registry "widget" attributes = []
      ∧ run.result = .error (.unknownAttribute "tone" "widget") := by
  intro attributes run made
  have hready : declining.finish = .ok decliningSetting.registry := by rfl
  have hkind : decliningSetting.registry.kind? "widget"
      = some Scenario.widgetTag := by rfl
  have hmade : (make decliningSetting.registry "widget" Scenario.widgetTag
      attributes).result = .ok made := by rfl
  have hlisted : unlisted decliningSetting.registry "widget" attributes
      = [] := by
    have hrow : decliningSetting.registry.Lists "widget" .building
        "tone" := by
      rw [Registry.lists_iff]
      rfl
    rw [List.eq_nil_iff_forall_not_mem]
    intro a ha
    obtain ⟨hmem, hno⟩ := mem_unlisted_iff.mp ha
    rw [List.mem_singleton.mp hmem] at hno
    exact hno .building hrow
  have hresult : run.result
      = .error (.unknownAttribute "tone" "widget") := by rfl
  refine ⟨hready, rfl, hkind, hmade, rfl, rfl, by decide, ?_,
    hlisted, hresult⟩
  intro name type phase cause hfails
  rw [hresult] at hfails
  cases hfails

end Build

end EntityMarkup
