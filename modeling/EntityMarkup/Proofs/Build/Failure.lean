/-
The errors that a build can end with. Of the reasons why building from
markup can fail, an element or a document that is already read gives four:
a tag without a kind, a refusal by a handler or hook, a refused placement,
a composite without components; and one more only if the build is strict,
an attribute that nobody takes (`document_fails_by`).
-/
import EntityMarkup.Build.Assemble
import EntityMarkup.Proofs.Build.Run

namespace EntityMarkup

/-- A build with these options can end with the error. -/
def BuildError.Arises (config : Config) : BuildError → Prop
  | .unknownAttribute _ _ => config.strict = true
  | .handlerFailure _ _ _ _ => True
  | .missingComponents _ => True
  | .invalidPlacement _ _ _ => True
  | .unknownTag _ _ => True
  | .unknownAction _ => False
  | .invalidRegistry _ => False
  | .markup _ => False

namespace Run

variable {σ α β : Type}

/-- If the run fails, then by an error of this set. -/
structure FailsBy (P : BuildError → Prop) (x : Run α) : Prop where
  of_error : ∀ e, x.result = .error e → P e

variable {P : BuildError → Prop}

theorem FailsBy.of_ok {x : Run α} {a : α} (hx : x.result = .ok a) :
    x.FailsBy P :=
  ⟨fun e he => by rw [hx] at he; cases he⟩

theorem FailsBy.pure (a : α) : (Pure.pure a : Run α).FailsBy P :=
  .of_ok rfl

theorem FailsBy.fail {e : BuildError} (he : P e) :
    (Run.fail e : Run α).FailsBy P :=
  ⟨fun e' he' => by cases he'; exact he⟩

/-- A joined run fails by the errors of its parts. -/
theorem FailsBy.bind {x : Run α} {f : α → Run β} (hx : x.FailsBy P)
    (hf : ∀ a, (f a).FailsBy P) : (x >>= f).FailsBy P := by
  refine ⟨fun e he => ?_⟩
  rcases bind_result_error he with h | ⟨a, -, h⟩
  · exact hx.of_error e h
  · exact (hf a).of_error e h

/-- What only reports or marks a step cannot fail. -/
theorem FailsBy.after {x : Run Unit} {y : Run β} (hx : x.result = .ok ())
    (hy : y.FailsBy P) : (x >>= fun _ => y).FailsBy P :=
  (FailsBy.of_ok hx).bind fun _ => hy

theorem FailsBy.map (f : α → β) {x : Run α} (hx : x.FailsBy P) :
    (f <$> x).FailsBy P := by
  rw [map_eq_pure_bind]
  exact hx.bind fun a => .pure (f a)

/-- A call fails by what is made of the cause. -/
theorem FailsBy.call {handler : Handler σ α} {state : σ}
    {blame : σ → Cause → BuildError} (h : ∀ s cause, P (blame s cause)) :
    (Run.call handler state blame).FailsBy P := by
  refine ⟨fun e he => ?_⟩
  unfold Run.call at he
  dsimp only at he
  split at he
  · cases he
  · cases he
    exact h _ _

theorem FailsBy.foldlM {f : σ → α → Run σ}
    (hf : ∀ s a, (f s a).FailsBy P) (s : σ) (l : List α) :
    (l.foldlM f s).FailsBy P := by
  induction l generalizing s with
  | nil => exact .pure s
  | cons a l ih =>
      rw [List.foldlM_cons]
      exact (hf s a).bind ih

theorem FailsBy.mapM {f : α → Run β} (hf : ∀ a, (f a).FailsBy P)
    (l : List α) : (l.mapM f).FailsBy P := by
  induction l with
  | nil => exact .pure []
  | cons a l ih =>
      rw [List.mapM_cons]
      exact (hf a).bind fun b => ih.bind fun bs => .pure (b :: bs)

end Run

-- ============================================================ the parts

namespace Build

open Run (FailsBy)

variable {E D : Type}

/-- Offering attributes to building handlers fails by a handler. -/
theorem buildAttributes_fails_by (config : Config)
    (registry : Registry E D) (tag declared : String) (draft : D)
    (attributes : List Attribute) :
    (buildAttributes registry tag declared draft attributes).FailsBy
      (BuildError.Arises config) := by
  refine FailsBy.foldlM (fun state a => ?_) _ _
  unfold buildAttribute
  split
  · exact .pure _
  · exact .after rfl (.after rfl
      ((FailsBy.call fun _ _ => trivial).bind fun _ => .pure _))

/-- An attribute that nobody takes is an error to a strict build only. -/
theorem rejectUnknown_fails_by (config : Config)
    (tag owner name : String) :
    (rejectUnknown config tag owner name).FailsBy
      (BuildError.Arises config) := by
  unfold rejectUnknown
  split
  case isTrue hstrict => exact .fail hstrict
  case isFalse => exact .of_ok rfl

theorem runActions_fails_by (P : BuildError → Prop) (tag : String)
    (moment : Moment) (slot : Slot) (index : Nat)
    (actions : List (Action E)) (e : E) :
    (runActions tag moment slot index actions e).FailsBy P := by
  induction actions generalizing index e with
  | nil => exact .pure e
  | cons action rest ih =>
      unfold runActions
      exact .after rfl ((FailsBy.of_ok rfl).bind fun e' => ih ..)

variable [Entity E] (setting : Setting E D)

/-- A pass over the attributes fails by a handler, or as the flag says. -/
theorem bindPass_fails_by (tag owner : String) (slot : Slot)
    (judging : Bool) (attributes : List Attribute) (b : Binding E) :
    (bindPass setting tag owner slot judging attributes b).FailsBy
      (BuildError.Arises setting.config) := by
  refine FailsBy.foldlM (fun b a => ?_) _ _
  unfold bindAttribute
  split
  · exact .pure b
  · split
    · split
      · exact (rejectUnknown_fails_by ..).bind fun _ => .pure b
      · exact .pure b
    · exact .after rfl (.after rfl
        ((FailsBy.call fun _ _ => trivial).bind fun _ => .pure _))

theorem bindParts_fails_by (tag owner : String)
    (attributes : List Attribute) (index : Nat) (taken : List String)
    (parts : List E) :
    (bindParts setting tag owner attributes index taken parts).FailsBy
      (BuildError.Arises setting.config) := by
  induction parts generalizing index taken with
  | nil => exact .pure _
  | cons part parts ih =>
      unfold bindParts
      exact (bindPass_fails_by ..).bind fun b =>
        (ih (index + 1) b.taken).bind fun _ => .pure _

/-- Binding fails in one of its passes, or for want of components. -/
theorem bindAttributes_fails_by (tag : String)
    (attributes : List Attribute) (taken : List String) (entity : E) :
    (bindAttributes setting tag attributes taken entity).FailsBy
      (BuildError.Arises setting.config) := by
  unfold bindAttributes
  split
  · exact (FailsBy.pure _).bind fun _ =>
      (bindPass_fails_by ..).bind fun _ => .pure _
  · exact (FailsBy.fail trivial).bind fun _ =>
      (bindPass_fails_by ..).bind fun _ => .pure _
  · refine FailsBy.bind ?_ fun _ =>
      (bindPass_fails_by ..).bind fun _ => .pure _
    refine (bindPass_fails_by ..).bind fun b => ?_
    split
    · exact .pure _
    · exact (bindParts_fails_by ..).bind fun _ => .pure _

theorem runHooks_fails_by (P : BuildError → Prop) (tag : String)
    (moment : Moment) (entity : E) (hooks : Hooks E)
    (partHooks : List (Hooks E)) :
    (runHooks tag moment entity hooks partHooks).FailsBy P := by
  have hparts : ∀ (parts : List E) (index : Nat) (hs : List (Hooks E)),
      (runPartHooks tag moment index parts hs).FailsBy P := by
    intro parts
    induction parts with
    | nil =>
        intro index hs
        cases hs <;> exact .pure []
    | cons part parts ih =>
        intro index hs
        cases hs with
        | nil => exact .pure _
        | cons h rest =>
            exact (runActions_fails_by ..).bind fun _ =>
              (ih ..).bind fun _ => .pure _
  unfold runHooks
  split
  · exact (FailsBy.pure _).bind fun _ => runActions_fails_by ..
  · exact ((hparts ..).map _).bind fun _ => runActions_fails_by ..

theorem placeText_fails_by (tag : OpenedTag E D) (run : String) :
    (placeText tag run).FailsBy (BuildError.Arises setting.config) := by
  refine FailsBy.foldlM (fun tag line => ?_) _ _
  unfold placeLine
  split
  · exact .after rfl (.pure _)
  · exact .after rfl ((FailsBy.call fun _ _ => trivial).bind fun _ =>
      .pure _)

theorem placeChild_fails_by (tag : OpenedTag E D) (childTag : String)
    (child : E) :
    (placeChild tag childTag child).FailsBy
      (BuildError.Arises setting.config) := by
  unfold placeChild
  split
  · exact .after rfl (.after rfl
      ((FailsBy.call fun _ _ => trivial).bind fun _ => .pure _))
  · split
    · exact .after rfl (.after rfl (.pure _))
    · exact .after rfl (.after rfl
        ((FailsBy.call fun _ _ => trivial).bind fun _ => .pure _))

theorem closeTag_fails_by (tag : OpenedTag E D) :
    (closeTag tag).FailsBy (BuildError.Arises setting.config) := by
  unfold closeTag
  exact .after rfl (.after rfl ((FailsBy.call fun _ _ => trivial).bind
    fun _ => runHooks_fails_by ..))

variable [Draft D E]

/-- Opening a tag fails for want of a kind, or in one of its phases. -/
theorem openTag_fails_by (parent : Option String) (name : String)
    (attributes : List Attribute) (line : Nat) :
    (openTag setting parent name attributes line).FailsBy
      (BuildError.Arises setting.config) := by
  unfold openTag
  split
  · exact .fail trivial
  · refine .after rfl ((buildAttributes_fails_by ..).bind fun _ => ?_)
    refine FailsBy.bind ?_ fun _ => (bindAttributes_fails_by ..).bind
      fun _ => (runHooks_fails_by ..).bind fun _ => .pure _
    exact .after rfl ((FailsBy.call fun _ _ => trivial).bind fun _ =>
      .after rfl ((FailsBy.call fun _ _ => trivial).bind fun _ => .pure _))

-- ========================================================= whole elements

mutual

theorem element_fails_by (parent : Option String) :
    (e : ElementOf Content) → (element setting parent e).FailsBy
      (BuildError.Arises setting.config)
  | ⟨name, attributes, content, line⟩ => by
    unfold element
    exact (openTag_fails_by ..).bind fun tag =>
      (body_fails_by content tag).bind fun tag => closeTag_fails_by ..

theorem body_fails_by : (content : List Content) →
    (tag : OpenedTag E D) → (body setting content tag).FailsBy
      (BuildError.Arises setting.config)
  | [], tag => .pure tag
  | c :: rest, tag => by
    unfold body
    exact (item_fails_by c tag).bind fun tag => body_fails_by rest tag

theorem item_fails_by : (c : Content) → (tag : OpenedTag E D) →
    (item setting c tag).FailsBy (BuildError.Arises setting.config)
  | .text run, tag => by
    unfold item
    exact placeText_fails_by ..
  | .element e, tag => by
    unfold item
    exact (element_fails_by (some tag.name) e).bind fun child =>
      placeChild_fails_by ..

end

/-- The errors that building a document can end with. -/
theorem document_fails_by (d : Document) :
    (document setting d).FailsBy (BuildError.Arises setting.config) :=
  FailsBy.mapM (fun e => element_fails_by setting none e) d.roots

end Build

end EntityMarkup
