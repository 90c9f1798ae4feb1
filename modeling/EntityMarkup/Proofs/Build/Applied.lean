/-
How often the attributes of a tag are applied when it is opened. Building
handlers get the attributes that they are registered for, each as often as
it occurs, so an attribute that is repeated is built more than once.
Binding handlers get an attribute once at most, in whichever pass, and not
if a building handler has consumed it (`openTag_applied`).

What makes the difference is the list of names that are done with: the
passes look into it, and building only adds to it. The invariant of the
passes is that it holds the consumed names and those of the attributes
that have been bound (`BoundOnce`). If it is the type of the entity that
decides from first to last, an attribute that is bound is the first of its
name: an earlier one would have been bound or have had no handler, either.
-/
import EntityMarkup.Proofs.Build.Opening

namespace EntityMarkup

-- ================================================== what is applied

/-- The attribute that a step gives to a handler of the phase. -/
def Step.applied? : Phase → Step → Option Attribute
  | .building, .building _ name value => some ⟨name, value⟩
  | .binding, .binding _ _ name value => some ⟨name, value⟩
  | _, _ => none

/-- The attribute that is given to a handler of the phase, if one is. -/
def Event.applied? (phase : Phase) : Event → Option Attribute
  | .step _ taken => Step.applied? phase taken
  | .entry _ | .ignored _ _ _ => none

namespace Build

open Relation (ReflTransGen)
open Run (Makes)

/-- The attributes that handlers of the phase are given, in order. -/
def applied (phase : Phase) (events : List Event) : List Attribute :=
  events.filterMap (Event.applied? phase)

/-- The same for calls. -/
def given {E : Type} (phase : Phase) (calls : List (Call E)) :
    List Attribute :=
  calls.filterMap fun c => Step.applied? phase c.step

section

variable {E : Type} {calls rest : List (Call E)}

@[simp] theorem given_append (phase : Phase) :
    given phase (calls ++ rest) = given phase calls ++ given phase rest :=
  List.filterMap_append

/-- The events tell of the attributes that the calls are given. -/
theorem applied_eq_given {events : List Event} (h : Told calls events)
    (phase : Phase) : applied phase events = given phase calls :=
  h.filterMap_eq (fun _ => rfl) fun _ _ _ => rfl

end

-- ============================================================= building

variable {E D : Type} {setting : Setting E D} {tag : String}

/-- There is a building handler for the attribute. -/
def buildable (registry : Registry E D) (type : String) (a : Attribute) :
    Bool :=
  (registry.building? type a.name).isSome

variable {attributes : List Attribute}

/-- Among distinct names, an attribute is the first of its own. -/
theorem find?_name (hnodup : (attributes.map (·.name)).Nodup)
    {a : Attribute} (ha : a ∈ attributes) :
    attributes.find? (·.name == a.name) = some a := by
  obtain ⟨before, rest, rfl⟩ := List.append_of_mem ha
  rw [List.find?_eq_some_iff_append]
  refine ⟨beq_self_eq_true _, before, rest, rfl, fun a' ha' => ?_⟩
  rw [List.map_append, List.nodup_append] at hnodup
  have hne : a'.name ≠ a.name := hnodup.2.2 _ (List.mem_map_of_mem ha') _
    (by simp)
  simpa using hne

/-- What is built first under a name is the first attribute that has
it. -/
theorem find?_built {registry : Registry E D} {type : String}
    {built : List Attribute}
    (h : built <+: attributes.filter (buildable registry type))
    {name : String} {a : Attribute}
    (ha : built.find? (·.name == name) = some a) :
    attributes.find? (·.name == name) = some a := by
  obtain ⟨rest, hrest⟩ := h
  have hfiltered : (attributes.filter (buildable registry type)).find?
      (·.name == name) = some a := by
    rw [← hrest, List.find?_append, ha]
    rfl
  have hname := List.find?_some ha
  rw [beq_iff_eq] at hname
  have hbuildable : buildable registry type a = true :=
    (List.mem_filter.mp (List.mem_of_find?_eq_some hfiltered)).2
  rw [List.find?_filter] at hfiltered
  rw [← hfiltered]
  congr 1
  funext a'
  rw [Bool.eq_iff_iff, decide_eq_true_eq]
  refine ⟨fun hsame => ⟨?_, hsame⟩, And.right⟩
  -- whether there is a handler depends on the name only
  rw [beq_iff_eq, ← hname] at hsame
  unfold buildable at hbuildable ⊢
  rw [hsame]
  exact hbuildable

section

variable [Entity E] [Draft D E] {kind : TagKind E D}

/-- One attribute is built if there is a handler for it. -/
theorem buildAttribute_given
    (hkind : setting.registry.kind? tag = some kind)
    (state : D × List String) (a : Attribute) :
    (buildAttribute setting.registry tag kind.declaredType state a).Makes
      (Call.Made setting)
      (fun _ calls => given .building calls
          = [a].filter (buildable setting.registry kind.declaredType)
        ∧ given .binding calls = [])
      fun calls => given .building calls
          = [a].filter (buildable setting.registry kind.declaredType)
        ∧ given .binding calls = [] := by
  obtain ⟨draft, taken⟩ := state
  unfold buildAttribute
  split
  · next hnone =>
    refine .pure ⟨?_, rfl⟩
    rw [List.filter_cons_of_neg (by simp [buildable, hnone])]
    rfl
  · next owner handler hfound =>
    have hgiven : [a].filter
        (buildable setting.registry kind.declaredType) = [a] :=
      List.filter_cons_of_pos (by simp [buildable, hfound])
    rw [hgiven]
    exact .record (.call _ (.building a.value draft hkind hfound)
      ⟨rfl, rfl, rfl, rfl⟩ (fun _ _ => rfl)
      (fun _ _ => .pure ⟨rfl, rfl⟩) fun _ _ => ⟨rfl, rfl⟩)

/-- Building gives out all attributes that there are handlers for, or the
first of them if it fails. -/
theorem buildAttributes_given
    (hkind : setting.registry.kind? tag = some kind)
    (attributes : List Attribute) (state : D × List String) :
    (attributes.foldlM (buildAttribute setting.registry tag
      kind.declaredType) state).Makes (Call.Made setting)
      (fun _ calls => given .building calls
          = attributes.filter
              (buildable setting.registry kind.declaredType)
        ∧ given .binding calls = [])
      fun calls => given .building calls
          <+: attributes.filter
              (buildable setting.registry kind.declaredType)
        ∧ given .binding calls = [] := by
  induction attributes generalizing state with
  | nil => exact .pure ⟨rfl, rfl⟩
  | cons a rest ih =>
      have hsplit : (a :: rest).filter
            (buildable setting.registry kind.declaredType)
          = [a].filter (buildable setting.registry kind.declaredType)
            ++ rest.filter
              (buildable setting.registry kind.declaredType) := by
        rw [← List.filter_append]
        rfl
      rw [List.foldlM_cons, hsplit]
      refine (buildAttribute_given hkind state a).bind
        (fun state' calls _ hcalls => ?_) fun calls hcalls => ?_
      · obtain ⟨hbuilt, hbound⟩ := hcalls
        refine (ih state').mono (fun _ rest' _ hrest => ?_)
          fun rest' hrest => ?_
        · rw [given_append, given_append, hbuilt, hbound, hrest.1, hrest.2]
          exact ⟨rfl, rfl⟩
        · rw [given_append, given_append, hbuilt, hbound, hrest.2]
          exact ⟨(List.prefix_append_right_inj _).mpr hrest.1, rfl⟩
      · rw [hcalls.1]
        exact ⟨List.prefix_append .., hcalls.2⟩

end

-- ============================================================== binding

/-- Each of these attributes is bound for the first time: its name is not
spent, and no other of them has it. If binding leaves the types as they
are, none of the tag's attributes before it has the name, either. -/
structure BoundOnce (kept : Prop) (attributes : List Attribute)
    (spent : List String) (bound : List Attribute) : Prop where
  mem : ∀ a ∈ bound, a ∈ attributes
  unspent : ∀ a ∈ bound, a.name ∉ spent
  nodup : (bound.map (·.name)).Nodup
  first : kept → ∀ a ∈ bound,
    attributes.find? (·.name == a.name) = some a

section

variable {kept : Prop} {attributes seen rest : List Attribute}
  {spent : List String}

theorem BoundOnce.nil : BoundOnce kept attributes spent [] :=
  ⟨by simp, by simp, List.nodup_nil, by simp⟩

/-- One more attribute may be bound if its name is new. -/
theorem BoundOnce.concat {bound : List Attribute} {a : Attribute}
    (h : BoundOnce kept attributes spent bound)
    (hsplit : attributes = seen ++ a :: rest)
    (hnew : a.name ∉ spent ++ bound.map (·.name))
    (hfirst : kept → ∀ a' ∈ seen, a'.name ≠ a.name) :
    BoundOnce kept attributes spent (bound ++ [a]) := by
  have hspent : a.name ∉ spent :=
    fun hin => hnew (List.mem_append_left _ hin)
  have hbound : a.name ∉ bound.map (·.name) :=
    fun hin => hnew (List.mem_append_right _ hin)
  have hmem : a ∈ attributes := by
    rw [hsplit]
    exact List.mem_append_right _ (List.mem_cons_self ..)
  refine ⟨List.forall_mem_append.mpr
      ⟨h.mem, List.forall_mem_singleton.mpr hmem⟩,
    List.forall_mem_append.mpr
      ⟨h.unspent, List.forall_mem_singleton.mpr hspent⟩, ?_,
    fun hkept => List.forall_mem_append.mpr
      ⟨h.first hkept, List.forall_mem_singleton.mpr ?_⟩⟩
  · rw [List.map_append, List.nodup_append]
    refine ⟨h.nodup, by simp, ?_⟩
    intro name hname name' hname' heq
    rw [List.map_singleton, List.mem_singleton] at hname'
    rw [heq, hname'] at hname
    exact hbound hname
  · have hnone : seen.find? (·.name == a.name) = none := by
      rw [List.find?_eq_none]
      intro a' ha' heq
      exact hfirst hkept a' ha' (eq_of_beq heq)
    rw [hsplit, List.find?_append, hnone, List.find?_cons_of_pos (by simp)]
    rfl

/-- These calls bind attributes and build none, and the names of what
they bind have been added to those that are spent. -/
structure Tally (kept : Prop) (attributes : List Attribute)
    (spent : List String) (calls : List (Call E)) (taken : List String) :
    Prop where
  building_eq : given .building calls = []
  once : BoundOnce kept attributes spent (given .binding calls)
  taken_eq : taken = spent ++ (given .binding calls).map (·.name)

/-- One more binding call, of an attribute whose name is new. -/
theorem Tally.call {calls : List (Call E)} {taken : List String}
    {a : Attribute} {c : Call E}
    (h : Tally kept attributes spent calls taken)
    (hsplit : attributes = seen ++ a :: rest) (hnew : a.name ∉ taken)
    (hfirst : kept → ∀ a' ∈ seen, a'.name ≠ a.name)
    (hbuilding : given .building [c] = [])
    (hbinding : given .binding [c] = [a]) :
    Tally kept attributes spent (calls ++ [c]) (taken ++ [a.name]) := by
  refine ⟨?_, ?_, ?_⟩
  · rw [given_append, h.building_eq, hbuilding]
    rfl
  · rw [given_append, hbinding]
    refine h.once.concat hsplit ?_ hfirst
    rw [← h.taken_eq]
    exact hnew
  · rw [given_append, hbinding, List.map_append, ← List.append_assoc,
      ← h.taken_eq]
    rfl

variable [Entity E]

/-- A pass over the attributes has seen some. It started at an entity, of
which binding has made another. -/
structure Stage (setting : Setting E D) (kept : Prop)
    (attributes : List Attribute) (spent : List String) (start : E)
    (seen : List Attribute) (calls : List (Call E)) (b : Binding E) :
    Prop where
  tally : Tally kept attributes spent calls b.taken
  reached : ReflTransGen (Rebound setting) start b.target
  seen_taken : kept → ∀ a ∈ seen, a.name ∈ b.taken
    ∨ setting.registry.binding? (Entity.typeName start) a.name = none

/-- An attribute may be seen without being bound if its name is done with
or has no handler. -/
theorem Stage.pass {start : E} {calls : List (Call E)} {b : Binding E}
    {a : Attribute}
    (h : Stage setting kept attributes spent start seen calls b)
    (ha : kept → a.name ∈ b.taken
      ∨ setting.registry.binding? (Entity.typeName start) a.name = none) :
    Stage setting kept attributes spent start (seen ++ [a]) calls b :=
  ⟨h.tally, h.reached, fun hkept => List.forall_mem_append.mpr
    ⟨h.seen_taken hkept, List.forall_mem_singleton.mpr (ha hkept)⟩⟩

/-- Provided that `kept` holds, binding leaves the type of the entity as
it is. -/
def TypeKept (setting : Setting E D) (kept : Prop) (start : E) : Prop :=
  kept → ∀ e, ReflTransGen (Rebound setting) start e →
    Entity.typeName e = Entity.typeName start

variable [Draft D E] {start : E} {calls : List (Call E)} {b : Binding E}

/-- The next attribute is bound if its name is not done with, and there
is a handler. -/
theorem bindAttribute_stage (htype : TypeKept setting kept start)
    (owner : String) (slot : Slot) (judging : Bool) {a : Attribute}
    (hsplit : attributes = seen ++ a :: rest)
    (h : Stage setting kept attributes spent start seen calls b) :
    (bindAttribute setting tag owner slot judging b a).Makes
      (Call.Made setting)
      (fun b' more => Stage setting kept attributes spent start
        (seen ++ [a]) (calls ++ more) b')
      fun more => ∃ taken,
        Tally kept attributes spent (calls ++ more) taken := by
  unfold bindAttribute
  split
  · next htaken =>
    refine .pure ?_
    rw [List.append_nil]
    exact h.pass fun _ => .inl htaken
  · next hnew =>
    split
    · next hnone =>
      have hseen : Stage setting kept attributes spent start (seen ++ [a])
          (calls ++ []) b := by
        rw [List.append_nil]
        refine h.pass fun hkept => .inr ?_
        rw [← htype hkept _ h.reached]
        exact hnone
      split
      · unfold rejectUnknown
        split
        · exact Makes.bind (P := fun _ _ => False)
            (.fail rfl ⟨_, hseen.tally⟩) (fun _ _ _ h => h.elim)
            fun _ h => h
        · exact .ignore (.pure hseen)
      · exact .pure hseen
    · next declaredBy handler hfound =>
      -- one of its name that was seen would have been bound
      have hfirst : kept → ∀ a' ∈ seen, a'.name ≠ a.name := by
        intro hkept a' ha' heq
        rcases h.seen_taken hkept a' ha' with hin | hnone
        · exact hnew (heq ▸ hin)
        · rw [htype hkept _ h.reached, ← heq, hnone] at hfound
          cases hfound
      have hcall := h.tally.call (c := .ofBinding setting tag slot
        declaredBy a.name a.value handler b.target) hsplit hnew hfirst rfl rfl
      refine .record (.call _ (.binding tag slot a.value hfound)
        ⟨rfl, rfl, rfl, rfl⟩ (fun _ _ => rfl) (fun _ hok => .pure ?_)
        fun _ _ => ⟨_, hcall⟩)
      refine ⟨hcall, h.reached.tail (.intro tag a.value hfound hok),
        fun hkept => List.forall_mem_append.mpr ⟨fun a' ha' => ?_,
          List.forall_mem_singleton.mpr (.inl (by simp))⟩⟩
      exact (h.seen_taken hkept a' ha').imp_left
        (List.mem_append_left _ ·)

/-- A pass goes through the attributes that it has not seen. -/
theorem bindPass_stage (htype : TypeKept setting kept start)
    (owner : String) (slot : Slot) (judging : Bool)
    (hsplit : attributes = seen ++ rest)
    (h : Stage setting kept attributes spent start seen calls b) :
    (bindPass setting tag owner slot judging rest b).Makes
      (Call.Made setting)
      (fun b' more => Stage setting kept attributes spent start attributes
        (calls ++ more) b')
      fun more => ∃ taken,
        Tally kept attributes spent (calls ++ more) taken := by
  unfold bindPass
  induction rest generalizing seen calls b with
  | nil =>
      rw [List.append_nil] at hsplit
      subst hsplit
      exact .pure (by rw [List.append_nil]; exact h)
  | cons a rest ih =>
      rw [List.foldlM_cons]
      refine (bindAttribute_stage htype owner slot judging hsplit h).bind
        (fun b' more _ h' => ?_) fun _ h => h
      refine (ih (by rw [hsplit, List.append_assoc]; rfl) h').mono
        (fun _ _ _ h => ?_) fun _ h => ?_
      · rw [← List.append_assoc]
        exact h
      · rw [← List.append_assoc]
        exact h

/-- A pass binds attributes whose names are not done with, each name
once. -/
theorem bindPass_tally (owner : String) (slot : Slot) (judging : Bool)
    (htype : TypeKept setting kept b.target)
    (h : Tally kept attributes spent calls b.taken) :
    (bindPass setting tag owner slot judging attributes b).Makes
      (Call.Made setting)
      (fun b' more => Tally kept attributes spent (calls ++ more) b'.taken
        ∧ ReflTransGen (Rebound setting) b.target b'.target)
      fun more => ∃ taken,
        Tally kept attributes spent (calls ++ more) taken := by
  have hnone : Stage setting kept attributes spent b.target [] calls b :=
    ⟨h, .refl, by simp⟩
  have hsplit : attributes = [] ++ attributes := rfl
  exact (bindPass_stage htype owner slot judging hsplit hnone).mono
    (fun _ _ _ h => ⟨h.tally, h.reached⟩) fun _ h => h

/-- So do the passes over the components. -/
theorem bindParts_tally (owner : String) (index : Nat)
    {taken : List String} (parts : List E)
    (htype : ∀ part ∈ parts, TypeKept setting kept part)
    (h : Tally kept attributes spent calls taken) :
    (bindParts setting tag owner attributes index taken parts).Makes
      (Call.Made setting)
      (fun (parts', _, taken') more =>
        Tally kept attributes spent (calls ++ more) taken'
          ∧ List.Forall₂ (ReflTransGen (Rebound setting)) parts parts')
      fun more => ∃ taken',
        Tally kept attributes spent (calls ++ more) taken' := by
  induction parts generalizing index taken calls with
  | nil => exact .pure ⟨by rw [List.append_nil]; exact h, .nil⟩
  | cons part parts ih =>
      obtain ⟨hpart, hparts⟩ := List.forall_mem_cons.mp htype
      unfold bindParts
      refine (bindPass_tally (b := ⟨part, .empty, taken⟩) owner _ false
        hpart h).bind (fun b more _ h' => ?_) fun _ h => h
      refine (ih (index + 1) hparts h'.1).bind
        (fun _ last _ hlast => .pure ?_) fun last hlast => ?_
      · rw [List.append_nil, ← List.append_assoc]
        exact ⟨hlast.1, .cons h'.2 hlast.2⟩
      · rw [← List.append_assoc]
        exact hlast

omit [Draft D E] in
/-- Binding has led from one entity to another, and if it leaves the types
as they are, so does what follows. -/
theorem typeKept_of_settled {made e : E} (h : kept → Settled setting made)
    (hchange : ReflTransGen (BindingChange setting) made e) :
    TypeKept setting kept e := by
  intro hkept e' hreached
  have hsame := (h hkept).type_eq e'
    (hchange.trans (BindingChange.of_rebound hreached))
  rw [hsame, (h hkept).type_eq e hchange]

/-- A composite entity is bound, then its components. -/
theorem bindComposite_tally (owner : String)
    (hsettled : kept → Settled setting b.target)
    (h : Tally kept attributes spent calls b.taken) :
    (bindComposite setting tag owner attributes b).Makes
      (Call.Made setting)
      (fun r more => Tally kept attributes spent (calls ++ more) r.1.taken
        ∧ ReflTransGen (BindingChange setting) b.target r.1.target)
      fun more => ∃ taken,
        Tally kept attributes spent (calls ++ more) taken := by
  unfold bindComposite
  refine (bindPass_tally owner .whole false
    (typeKept_of_settled hsettled .refl) h).bind
    (fun b' more _ h' => ?_) fun _ h => h
  obtain ⟨htally, hrebound⟩ := h'
  have hreached := BindingChange.of_rebound hrebound
  split
  · exact .pure (by rw [List.append_nil]; exact ⟨htally, hreached⟩)
  · next parts hparts =>
    have htypes : ∀ part ∈ parts, TypeKept setting kept part :=
      fun part hpart hkept =>
        (hsettled hkept).partType_eq _ parts hreached hparts part hpart
    refine (bindParts_tally owner 0 parts htypes htally).bind
      (fun (parts', _, taken') last _ hlast => .pure ?_) fun last h => ?_
    · rw [List.append_nil, ← List.append_assoc]
      exact ⟨hlast.1, hreached.tail (.parts hparts hlast.2)⟩
    · rw [← List.append_assoc]
      exact h

/-- All of the passes together bind each name once, and none that is
spent. -/
theorem bindAttributes_tally (made : E)
    (hsettled : kept → Settled setting made) :
    (bindAttributes setting tag attributes spent made).Makes
      (Call.Made setting)
      (fun _ calls => ∃ taken, Tally kept attributes spent calls taken)
      fun calls => ∃ taken, Tally kept attributes spent calls taken := by
  have hstart : Tally kept attributes spent ([] : List (Call E)) spent :=
    ⟨rfl, .nil, (List.append_nil _).symm⟩
  have hlast : ∀ (r : Binding E × List (Hooks E)) (calls : List (Call E)),
      Tally kept attributes spent calls r.1.taken
        ∧ ReflTransGen (BindingChange setting) made r.1.target →
      (bindPass setting tag (Entity.typeName made) .whole true attributes
        r.1 >>= fun b => Pure.pure (b, r.2)).Makes (Call.Made setting)
        (fun _ more => ∃ taken,
          Tally kept attributes spent (calls ++ more) taken)
        fun more => ∃ taken,
          Tally kept attributes spent (calls ++ more) taken := by
    intro r calls h
    refine (bindPass_tally _ .whole true
      (typeKept_of_settled hsettled h.2) h.1).bind
      (fun _ more _ h' => .pure ?_) fun _ h => h
    rw [List.append_nil]
    exact ⟨_, h'.1⟩
  unfold bindAttributes
  split
  · exact hlast (⟨made, .empty, spent⟩, []) [] ⟨hstart, .refl⟩
  · exact Makes.bind (P := fun _ _ => False) (.fail rfl ⟨_, hstart⟩)
      (fun _ _ _ h => h.elim) fun _ h => h
  · exact (bindComposite_tally (b := ⟨made, .empty, spent⟩) _ hsettled
      hstart).bind (fun r calls _ h => hlast r calls h) fun _ h => h

end

-- ======================================================= neither phase

/-- The calls give attributes to no handler. -/
def Idle (calls : List (Call E)) : Prop :=
  ∀ phase, given phase calls = []

theorem Idle.nil : Idle ([] : List (Call E)) := fun _ => rfl

theorem Idle.append {calls rest : List (Call E)} (h : Idle calls)
    (hrest : Idle rest) : Idle (calls ++ rest) := by
  intro phase
  rw [given_append, h phase, hrest phase, List.append_nil]

theorem Idle.left {calls rest : List (Call E)}
    (h : Idle (calls ++ rest)) : Idle calls := by
  intro phase
  have hgiven := h phase
  rw [given_append] at hgiven
  exact (List.append_eq_nil_iff.mp hgiven).1

theorem Idle.cons {c : Call E} {rest : List (Call E)}
    (hstep : ∀ phase, Step.applied? phase c.step = none) (h : Idle rest) :
    Idle (c :: rest) := by
  intro phase
  have hnone : Step.applied? phase c.step = none := hstep phase
  rw [given, List.filterMap_cons, hnone]
  exact h phase

section

variable [Entity E] [Draft D E]

/-- The run makes idle calls only. -/
def RunsIdle (setting : Setting E D) {α : Type} (x : Run α) : Prop :=
  x.Makes (Call.Made setting) (fun _ => Idle) Idle

theorem RunsIdle.bind {α β : Type} {x : Run α} {f : α → Run β}
    (hx : RunsIdle setting x) (hf : ∀ a, RunsIdle setting (f a)) :
    RunsIdle setting (x >>= f) :=
  Makes.bind hx (fun a _ _ hcalls => (hf a).mono
    (fun _ _ _ hrest => hcalls.append hrest)
    fun _ hrest => hcalls.append hrest) fun _ h => h

theorem RunsIdle.pure {α : Type} (a : α) :
    RunsIdle setting (Pure.pure a) :=
  Makes.pure .nil

/-- Making the entity gives no attribute to a handler. -/
theorem instantiate_idle {kind : TagKind E D}
    (hkind : setting.registry.kind? tag = some kind) (draft : D) :
    RunsIdle setting (instantiate tag kind draft) := by
  have hidle : ∀ calls (e : E), Instantiates tag kind draft calls e →
      Idle calls := by
    intro calls e h
    obtain ⟨_, _, _⟩ := h
    exact .cons (fun phase => by cases phase <;> rfl)
      (.cons (fun phase => by cases phase <;> rfl) .nil)
  refine (instantiate_makes hkind draft).mono
    (fun e calls _ h => hidle calls e h) fun calls h => ?_
  obtain ⟨rest, e, h⟩ := h
  exact (hidle _ e h).left

theorem runActions_idle (moment : Moment) (slot : Slot) (index : Nat)
    (actions : List (Action E)) (e : E) :
    RunsIdle setting (runActions tag moment slot index actions e) := by
  have hcalls : ∀ index (e : E),
      Idle (actionCalls tag moment slot index actions e) := by
    induction actions with
    | nil => exact fun _ _ => .nil
    | cons action rest ih =>
        exact fun index e => .cons (fun phase => by cases phase <;> rfl)
          (ih (index + 1) (action e).2)
  refine (runActions_makes ..).mono (fun _ calls _ h => ?_)
    fun _ h => h.elim
  rw [h.1]
  exact hcalls index e

theorem runPartHooks_idle (moment : Moment) (index : Nat)
    (parts : List E) (hooks : List (Hooks E)) :
    RunsIdle setting (runPartHooks tag moment index parts hooks) := by
  induction parts generalizing index hooks with
  | nil => cases hooks <;> exact .pure _
  | cons part parts ih =>
      cases hooks with
      | nil => exact .pure _
      | cons own rest =>
          exact (runActions_idle ..).bind fun _ =>
            (ih ..).bind fun _ => .pure _

/-- Hooks are given no attributes. -/
theorem runHooks_idle (moment : Moment) (e : E) (hooks : Hooks E)
    (partHooks : List (Hooks E)) :
    RunsIdle setting (runHooks tag moment e hooks partHooks) := by
  unfold runHooks
  split
  · exact RunsIdle.bind (.pure e) fun _ => runActions_idle ..
  · rw [map_eq_pure_bind]
    exact ((runPartHooks_idle ..).bind fun _ => .pure _).bind fun _ =>
      runActions_idle ..

-- ============================================================== opening

variable {kind : TagKind E D}

/-- Binding leaves the types of what a tag makes as they are. -/
def LeavesTypes (setting : Setting E D) (tag : String)
    (kind : TagKind E D) (attributes : List Attribute) : Prop :=
  ∀ made, (make setting.registry tag kind attributes).result = .ok made →
    Settled setting made

/-- The calls build what there are handlers for, or the first of it, and
bind each name once and none that is consumed. -/
structure GivenOnce (setting : Setting E D) (tag : String)
    (kind : TagKind E D) (attributes : List Attribute)
    (calls : List (Call E)) : Prop where
  built : given .building calls
    <+: attributes.filter (buildable setting.registry kind.declaredType)
  bound : BoundOnce (LeavesTypes setting tag kind attributes) attributes
    (consumed setting.registry kind.declaredType kind.newDraft attributes)
    (given .binding calls)

theorem GivenOnce.idle {calls rest : List (Call E)}
    (h : GivenOnce setting tag kind attributes calls) (hrest : Idle rest) :
    GivenOnce setting tag kind attributes (calls ++ rest) := by
  refine ⟨?_, ?_⟩
  · rw [given_append, hrest, List.append_nil]
    exact h.built
  · rw [given_append, hrest, List.append_nil]
    exact h.bound

/-- What is bound comes after what is built. -/
theorem GivenOnce.binding {calls rest : List (Call E)}
    (h : GivenOnce setting tag kind attributes calls)
    (hnone : given .binding calls = [])
    (hrest : ∃ taken, Tally (LeavesTypes setting tag kind attributes)
      attributes (consumed setting.registry kind.declaredType
        kind.newDraft attributes) rest taken) :
    GivenOnce setting tag kind attributes (calls ++ rest) := by
  obtain ⟨taken, htally⟩ := hrest
  refine ⟨?_, ?_⟩
  · rw [given_append, htally.building_eq, List.append_nil]
    exact h.built
  · rw [given_append, hnone, List.nil_append]
    exact htally.once

/-- Opening a tag builds its attributes and then binds those that are not
consumed, also if it fails. If it does not fail, all that there are
handlers for have been built. -/
theorem openTag_given (parent : Option String)
    (attributes : List Attribute) (line : Nat)
    (hkind : setting.registry.kind? tag = some kind) :
    (openTag setting parent tag attributes line).Makes (Call.Made setting)
      (fun _ calls => GivenOnce setting tag kind attributes calls
        ∧ given .building calls = attributes.filter
          (buildable setting.registry kind.declaredType))
      (GivenOnce setting tag kind attributes) := by
  unfold openTag
  rw [hkind]
  refine .record ?_
  refine (buildAttributes_given hkind attributes
    (kind.newDraft, [])).result.bind (fun (draft, taken) calls _ hbuilt => ?_)
    fun calls h => ⟨h.1, by rw [h.2]; exact .nil⟩
  obtain ⟨hok, hbuilding, hbinding⟩ := hbuilt
  obtain ⟨-, htaken⟩ := buildAttributes_offers hok
  rw [List.nil_append] at htaken
  subst htaken
  have hcalls : GivenOnce setting tag kind attributes calls := by
    refine ⟨⟨[], ?_⟩, ?_⟩
    · rw [List.append_nil]
      exact hbuilding
    · rw [hbinding]
      exact .nil
  refine (instantiate_idle hkind draft).result.bind
    (fun made more _ hmade => ?_) fun _ h => hcalls.idle h
  obtain ⟨hinstance, hmore⟩ := hmade
  have hmake : (make setting.registry tag kind attributes).result
      = .ok made := by
    unfold make buildAttributes
    rw [Run.bind_of_ok hok]
    exact hinstance
  have hnone : given .binding (calls ++ more) = [] := by
    rw [given_append, hbinding, hmore]
    rfl
  have hsettled : LeavesTypes setting tag kind attributes →
      Settled setting made := fun hkept => hkept made hmake
  refine (bindAttributes_tally made hsettled).bind
    (fun (b, partHooks) bound _ htally => ?_) fun bound htally => ?_
  · have hbound := (hcalls.idle hmore).binding hnone htally
    obtain ⟨taken, htally⟩ := htally
    refine Makes.bind (runHooks_idle ..) (fun _ hooks _ hhooks => .pure ?_)
      fun hooks hhooks => ?_
    · rw [List.append_nil, ← List.append_assoc, ← List.append_assoc]
      refine ⟨hbound.idle hhooks, ?_⟩
      simp only [given_append, hbuilding, hmore .building,
        htally.building_eq, hhooks .building, List.append_nil]
    · rw [← List.append_assoc, ← List.append_assoc]
      exact hbound.idle hhooks
  · rw [← List.append_assoc]
    exact (hcalls.idle hmore).binding hnone htally

/-- What handlers are given when a tag is opened. -/
structure Applied (setting : Setting E D) (kind : TagKind E D)
    (e : Element) (built bound : List Attribute) : Prop where
  /-- Building gives out what it has handlers for, as often as it
  occurs. -/
  built_prefix : built <+: e.attributes.filter
    (buildable setting.registry kind.declaredType)
  /-- What is built first under a name has the value of that name. -/
  built_value : ∀ (name : String) (a : Attribute),
    built.find? (·.name == name) = some a → e.get? name = some a.value
  /-- Only attributes of the tag are bound. -/
  bound_mem : ∀ a ∈ bound, a ∈ e.attributes
  /-- No name is bound twice. -/
  bound_nodup : (bound.map (·.name)).Nodup
  /-- No name is bound that a building handler has consumed. -/
  bound_unspent : ∀ a ∈ bound, a.name ∉ consumed setting.registry
    kind.declaredType kind.newDraft e.attributes
  /-- What is bound has the value of its name, as long as binding leaves
  the types as they are. -/
  bound_value : LeavesTypes setting e.name kind e.attributes →
    ∀ a ∈ bound, e.get? a.name = some a.value
  /-- If no name is repeated, none is built twice, either, and all values
  are those of their names. -/
  distinct : (e.attributes.map (·.name)).Nodup →
    (built.map (·.name)).Nodup
      ∧ ∀ a ∈ built ++ bound, e.get? a.name = some a.value

/-- The calls tell what handlers are given. -/
theorem GivenOnce.applied {e : Element} {calls : List (Call E)}
    (h : GivenOnce setting e.name kind e.attributes calls) :
    Applied setting kind e (given .building calls)
      (given .binding calls) := by
  obtain ⟨hbuilt, hbound⟩ := h
  refine ⟨hbuilt, fun name a ha => ?_, hbound.mem, hbound.nodup,
    hbound.unspent, fun hkept a ha => ?_, fun hnodup => ⟨?_, ?_⟩⟩
  · rw [Element.get?, valueOf, find?_built hbuilt ha]
    rfl
  · rw [Element.get?, valueOf, hbound.first hkept a ha]
    rfl
  · exact hnodup.sublist
      ((hbuilt.sublist.trans List.filter_sublist).map _)
  · intro a ha
    have hmem : a ∈ e.attributes := by
      rcases List.mem_append.mp ha with ha | ha
      · exact (List.mem_filter.mp (hbuilt.subset ha)).1
      · exact hbound.mem a ha
    rw [Element.get?, valueOf, find?_name hnodup hmem]
    rfl

/-- Opening a tag gives each of its attributes to the building handler
that it has, and binds each name at most once and none that a building
handler has consumed. So if no name is repeated, none is applied twice in
the same phase. When it fails, building may have come to the first of
them only. A tag that is not known is given nothing. The events tell of
all calls that are made. -/
theorem openTag_applied (setting : Setting E D) (parent : Option String)
    (e : Element) :
    let run := openTag setting parent e.name e.attributes e.line
    (setting.registry.kind? e.name = none → run.events = [])
      ∧ (∀ kind, setting.registry.kind? e.name = some kind →
        Applied setting kind e (applied .building run.events)
          (applied .binding run.events)
        ∧ ∀ opened, run.result = .ok opened →
          applied .building run.events = e.attributes.filter
            (buildable setting.registry kind.declaredType))
      ∧ ∃ calls, Told calls run.events ∧ ∀ c ∈ calls, c.Made setting := by
  intro run
  refine ⟨fun hnone => ?_, fun kind hkind => ?_, ?_⟩
  · show (openTag setting parent e.name e.attributes e.line).events = []
    unfold openTag
    rw [hnone]
    rfl
  · obtain ⟨calls, htold, -, -, hok, herror⟩ :=
      (openTag_given parent e.attributes e.line hkind).exists_calls
    have hgiven : GivenOnce setting e.name kind e.attributes calls := by
      cases hresult : run.result with
      | ok opened => exact (hok opened hresult).1
      | error fault => exact herror fault hresult
    rw [applied_eq_given htold, applied_eq_given htold]
    exact ⟨hgiven.applied, fun opened hopened => (hok opened hopened).2⟩
  · obtain ⟨calls, htold, hmade, -⟩ :=
      (openTag_told setting parent e.name e.attributes e.line).exists_calls
    exact ⟨calls, htold, hmade⟩

end

/-- A widget whose style is built, whose tone is offered to building and
then bound, and whose caption is bound. -/
theorem openTag_applied_widget :
    let e : Element := ⟨"widget",
      [⟨"style", "a"⟩, ⟨"caption", "c"⟩, ⟨"tone", "t"⟩], [], 1⟩
    let run := openTag Scenario.markSetting none e.name e.attributes e.line
    Scenario.markSetting.registry.kind? "widget" = some Scenario.widgetTag
      ∧ Applied Scenario.markSetting Scenario.widgetTag e
          (applied .building run.events) (applied .binding run.events)
      ∧ (∃ opened, run.result = .ok opened
        ∧ applied .building run.events = e.attributes.filter
          (buildable Scenario.markSetting.registry "widget"))
      ∧ (∃ calls, Told calls run.events
          ∧ ∀ c ∈ calls, c.Made Scenario.markSetting)
      ∧ applied .building run.events = [⟨"style", "a"⟩, ⟨"tone", "t"⟩]
      ∧ applied .binding run.events
        = [⟨"caption", "c"⟩, ⟨"tone", "t"⟩] := by
  intro e run
  have hkind : Scenario.markSetting.registry.kind? "widget"
      = some Scenario.widgetTag := by cbv
  obtain ⟨-, happlied, hcalls⟩ :=
    openTag_applied Scenario.markSetting none e
  obtain ⟨happlied, hall⟩ := happlied _ hkind
  have hok : run.result.isOk = true := by decide +kernel
  cases hopened : run.result with
  | error fault =>
      rw [hopened] at hok
      cases hok
  | ok opened =>
      exact ⟨hkind, happlied, ⟨opened, rfl, hall opened hopened⟩, hcalls,
        by decide +kernel, by decide +kernel⟩

/-- A style that is repeated is built twice, the second time with a value
that is not the one of its name. -/
theorem built_twice :
    let e : Element := ⟨"widget", [⟨"style", "a"⟩, ⟨"style", "b"⟩], [], 1⟩
    let run := openTag Scenario.markSetting none e.name e.attributes e.line
    run.result.isOk = true
      ∧ applied .building run.events = [⟨"style", "a"⟩, ⟨"style", "b"⟩]
      ∧ ¬ ((applied .building run.events).map (·.name)).Nodup
      ∧ e.get? "style" = some "a" := by
  decide +kernel

end Build

end EntityMarkup
