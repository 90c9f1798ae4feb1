/-
Who gets the attributes of a tag. They are offered to building handlers
first. What these leave goes to the binding handlers for the entity's own
type, what those leave to the binding handlers for the first component's
type, and so on; what is left in the end is unknown. All of this is
settled by the registry, the types, and what building handlers answer.

The invariant is about the names that are done with: taking them out of
the attributes leaves the attributes that are free of the types gone
through so far (`remaining`, `free`). A pass in one slot keeps it, by
induction over the attributes (`bindPass_offers`); so do the passes over
components, by induction over these; and the last pass over a composite
entity finds nothing to bind, since it goes through a type for the second
time.
-/
import EntityMarkup.Proofs.Build.Bound

namespace EntityMarkup

namespace Event

/-- An attribute is given to a handler. -/
def isOffer : Event → Bool
  | .step _ (.building _ _ _) => true
  | .step _ (.binding _ _ _ _) => true
  | _ => false

/-- An attribute is passed over. -/
def isIgnored : Event → Bool
  | .ignored _ _ _ => true
  | _ => false

/-- The name of the attribute that is bound, if one is. -/
def boundName? : Event → Option String
  | .step _ (.binding _ _ name _) => some name
  | _ => none

end Event

namespace Run

variable {σ α β : Type}

/-- The run gives attributes to handlers and passes attributes over as
these two lists of events say. -/
structure Offers (x : Run α) (offered passed : List Event) : Prop where
  offered_eq : x.events.filter Event.isOffer = offered
  passed_eq : x.events.filter Event.isIgnored = passed

theorem Offers.pure (a : α) : (Pure.pure a : Run α).Offers [] [] :=
  ⟨rfl, rfl⟩

/-- A joined run offers what its parts offer. -/
theorem Offers.bind {x : Run α} {a : α} {f : α → Run β}
    {s s' p p' : List Event} (hok : x.result = .ok a) (hx : x.Offers s p)
    (hf : (f a).Offers s' p') : (x >>= f).Offers (s ++ s') (p ++ p') := by
  rw [bind_of_ok hok]
  constructor
  · rw [List.filter_append, hx.offered_eq, hf.offered_eq]
  · rw [List.filter_append, hx.passed_eq, hf.passed_eq]

theorem Offers.next {x : Run α} {a : α} {f : α → Run β}
    {s s' p : List Event} (hok : x.result = .ok a) (hx : x.Offers s [])
    (hf : (f a).Offers s' p) : (x >>= f).Offers (s ++ s') p :=
  hx.bind hok hf

theorem Offers.after {x : Run α} {a : α} {f : α → Run β}
    {s p : List Event} (hok : x.result = .ok a) (hx : x.Offers s [])
    (hf : (f a).Offers [] p) : (x >>= f).Offers s p := by
  have hboth := hx.bind hok hf
  rw [List.append_nil] at hboth
  exact hboth

theorem Offers.none {x : Run α} {f : α → Run β} (hx : x.Offers [] [])
    (hf : ∀ a, (f a).Offers [] []) : (x >>= f).Offers [] [] := by
  cases hr : x.result with
  | ok a => exact hx.bind hr (hf a)
  | error e =>
      rw [bind_of_error hr]
      exact ⟨hx.offered_eq, hx.passed_eq⟩

theorem Offers.idle {x : Run α} {a : α} {f : α → Run β}
    {s p : List Event} (hok : x.result = .ok a) (hx : x.Offers s p)
    (hf : (f a).Offers [] []) : (x >>= f).Offers s p := by
  have hboth := hx.bind hok hf
  rw [List.append_nil, List.append_nil] at hboth
  exact hboth

/-- What handlers and actions report are no offers. -/
theorem filter_entries (p : Event → Bool) (hp : ∀ e, p (.entry e) = false)
    (entries : List Entry) :
    (entries.map Event.entry).filter p = [] := by
  rw [List.filter_eq_nil_iff]
  intro event hevent
  obtain ⟨e, -, rfl⟩ := List.mem_map.mp hevent
  rw [hp]
  exact Bool.false_ne_true

/-- Calling a handler or an action offers nothing by itself. -/
theorem Offers.call {handler : Handler σ α} {state : σ}
    {blame : σ → Cause → BuildError} {f : α × σ → Run β} {a : α}
    {s p : List Event} (hok : (handler state).result = .ok a)
    (hf : (f (a, (handler state).state)).Offers s p) :
    (Run.call handler state blame >>= f).Offers s p := by
  have hcall : (Run.call handler state blame).result
      = .ok (a, (handler state).state) := by
    rw [call_of_ok hok]
  have hx : (Run.call handler state blame).Offers [] [] :=
    ⟨filter_entries _ (fun _ => rfl) _, filter_entries _ (fun _ => rfl) _⟩
  exact hx.bind hcall hf

theorem Offers.act {E : Type} {action : Action E} {e : E}
    {f : E → Run β} {s p : List Event}
    (hf : (f (action e).2).Offers s p) :
    (Run.act action e >>= f).Offers s p := by
  have hx : (Run.act action e).Offers [] [] :=
    ⟨filter_entries _ (fun _ => rfl) _, filter_entries _ (fun _ => rfl) _⟩
  exact hx.bind rfl hf

section

variable {y : Run β} {s p : List Event}

theorem Offers.record {area : Area} {level : Level} {text : String}
    (hy : y.Offers s p) :
    (Run.record area level text >>= fun _ => y).Offers s p :=
  .bind rfl (s := []) (p := []) ⟨rfl, rfl⟩ hy

theorem Offers.ignore (tag owner name : String) (hy : y.Offers s p) :
    (Run.ignore tag owner name >>= fun _ => y).Offers s
      (.ignored tag owner name :: p) :=
  .bind rfl (s := []) (p := [.ignored tag owner name]) ⟨rfl, rfl⟩ hy

theorem Offers.offer {tag : String} {step : Step}
    (hstep : Event.isOffer (.step tag step) = true) (hy : y.Offers s p) :
    (Run.step tag step >>= fun _ => y).Offers (.step tag step :: s) p := by
  have hx : (Run.step tag step).Offers [.step tag step] [] :=
    ⟨List.filter_cons_of_pos hstep, rfl⟩
  exact hx.bind rfl hy

theorem Offers.step {tag : String} {step : Step}
    (hstep : Event.isOffer (.step tag step) = false)
    (hy : y.Offers s p) :
    (Run.step tag step >>= fun _ => y).Offers s p := by
  have hx : (Run.step tag step).Offers [] [] := by
    refine ⟨List.filter_cons_of_neg ?_, rfl⟩
    rw [hstep]
    exact Bool.false_ne_true
  exact hx.bind rfl hy

end

end Run

namespace Build

open Relation (ReflTransGen)
open Run (Offers bind_result_ok call_bind_result_ok)

-- ===================================================== who gets them

section

variable {E D : Type} (registry : Registry E D) (tag : String)

/-- The attributes given to building handlers: those that have one for
the declared type. -/
def buildingOffers (declared : String) (attributes : List Attribute) :
    List Event :=
  attributes.filterMap fun a =>
    (registry.building? declared a.name).map fun (owner, _) =>
      .step tag (.building owner a.name a.value)

/-- The names of the attributes that building handlers consume, starting
from a draft: each handler is given the draft as the one before it left
it, and consumes the attribute if it answers so. -/
def consumed (declared : String) : D → List Attribute → List String
  | _, [] => []
  | draft, a :: rest =>
    match registry.building? declared a.name with
    | none => consumed declared draft rest
    | some (_, handler) =>
      let reply := handler a.value draft
      match reply.result with
      | .ok true => a.name :: consumed declared reply.state rest
      | _ => consumed declared reply.state rest

/-- The attributes given to binding handlers for a type. -/
def bindingOffers (slot : Slot) (type : String)
    (attributes : List Attribute) : List Event :=
  attributes.filterMap fun a =>
    (registry.binding? type a.name).map fun (owner, _) =>
      .step tag (.binding slot owner a.name a.value)

/-- The attributes for which none of the types has a binding handler. -/
def free (types : List String) (attributes : List Attribute) :
    List Attribute :=
  attributes.filter fun a =>
    types.all fun type => (registry.binding? type a.name).isNone

/-- The attributes given to binding handlers for components, from an
index on: for each those that are free of all the types before. -/
def partOffers : Nat → List String → List String → List Attribute →
    List Event
  | _, _, [], _ => []
  | index, before, type :: types, attributes =>
    bindingOffers registry tag (.component index) type
        (free registry before attributes)
      ++ partOffers (index + 1) (before ++ [type]) types attributes

/-- The attributes that are passed over. -/
def passedOver (owner : String) (attributes : List Attribute) :
    List Event :=
  attributes.map fun a => .ignored tag owner a.name

end

/-- The attributes whose names are not done with. -/
def remaining (attributes : List Attribute) (taken : List String) :
    List Attribute :=
  attributes.filter fun a => a.name ∉ taken

variable {E D : Type} {registry : Registry E D} {tag : String}

theorem bindingOffers_cons (slot : Slot) (type : String) (a : Attribute)
    (rest : List Attribute) :
    bindingOffers registry tag slot type (a :: rest)
      = (match registry.binding? type a.name with
          | none => []
          | some (owner, _) =>
            [.step tag (.binding slot owner a.name a.value)])
        ++ bindingOffers registry tag slot type rest := by
  unfold bindingOffers
  rw [List.filterMap_cons]
  cases registry.binding? type a.name <;> rfl

/-- Going through two lists of types is going through one after the
other. -/
theorem free_append (before types : List String)
    (attributes : List Attribute) :
    free registry (before ++ types) attributes
      = free registry types (free registry before attributes) := by
  unfold free
  rw [List.filter_filter]
  refine List.filter_congr fun a _ => ?_
  rw [List.all_append, Bool.and_comm]

/-- Attributes that are free of a type have no handler for it. -/
theorem bindingOffers_free (slot : Slot) {type : String}
    {types : List String} (htype : type ∈ types)
    (attributes : List Attribute) :
    bindingOffers registry tag slot type (free registry types attributes)
      = [] := by
  unfold bindingOffers
  rw [List.filterMap_eq_nil_iff]
  intro a ha
  have hfree := (List.mem_filter.mp ha).2
  rw [List.all_eq_true] at hfree
  have hnone := hfree type htype
  rw [Option.isNone_iff_eq_none] at hnone
  rw [hnone]
  rfl

/-- Going through a type again leaves what is free of it. -/
theorem free_free {type : String} {types : List String}
    (htype : type ∈ types) (attributes : List Attribute) :
    free registry [type] (free registry types attributes)
      = free registry types attributes := by
  unfold free
  rw [List.filter_filter]
  refine List.filter_congr fun a _ => ?_
  cases hall : types.all fun type =>
      (registry.binding? type a.name).isNone with
  | false => rw [Bool.and_false]
  | true =>
      rw [List.all_eq_true] at hall
      have hnone := hall type htype
      simp only [List.all_cons, List.all_nil, hnone, Bool.and_self]

-- ============================================================= building

/-- Offering the attributes to building handlers gives each to its
handler, and takes those that are consumed. -/
theorem buildAttributes_offers {declared : String}
    {attributes : List Attribute} {draft draft' : D}
    {taken taken' : List String}
    (h : (attributes.foldlM (buildAttribute registry tag declared)
      (draft, taken)).result = .ok (draft', taken')) :
    (attributes.foldlM (buildAttribute registry tag declared)
        (draft, taken)).Offers
      (buildingOffers registry tag declared attributes) []
      ∧ taken' = taken ++ consumed registry declared draft attributes := by
  induction attributes generalizing draft taken with
  | nil =>
      cases h
      exact ⟨.pure _, (List.append_nil _).symm⟩
  | cons a rest ih =>
      rw [List.foldlM_cons] at h ⊢
      obtain ⟨⟨draft₁, taken₁⟩, hfirst, hrest⟩ := bind_result_ok h
      obtain ⟨hoffers, htaken⟩ := ih hrest
      have hhead : (buildAttribute registry tag declared (draft, taken)
            a).Offers (buildingOffers registry tag declared [a]) []
          ∧ taken₁ ++ consumed registry declared draft₁ rest
            = taken ++ consumed registry declared draft (a :: rest) := by
        unfold buildAttribute at hfirst ⊢
        unfold buildingOffers
        rw [consumed, List.filterMap_cons, List.filterMap_nil]
        cases hfound : registry.building? declared a.name with
        | none =>
            rw [hfound] at hfirst
            cases hfirst
            exact ⟨.pure _, rfl⟩
        | some found =>
            obtain ⟨owner, handler⟩ := found
            rw [hfound] at hfirst
            obtain ⟨answer, hok, hpure⟩ := call_bind_result_ok hfirst
            cases hpure
            refine ⟨.record (.offer rfl (.call hok (.pure _))), ?_⟩
            dsimp only
            rw [hok]
            cases answer with
            | true => exact List.append_assoc ..
            | false => rfl
      refine ⟨?_, by rw [htaken, hhead.2]⟩
      have hall : buildingOffers registry tag declared (a :: rest)
          = buildingOffers registry tag declared [a]
            ++ buildingOffers registry tag declared rest :=
        List.filterMap_append (l := [a])
      rw [hall]
      exact Offers.bind hfirst hhead.1 hoffers

-- ============================================================= one pass

variable [Entity E] {setting : Setting E D}

/-- What a pass for a type does that has an answer: it binds what is not
done with and has a handler for the type, and it passes the rest over if
it is the pass to judge that. -/
structure PassOffers (setting : Setting E D) (tag owner : String)
    (slot : Slot) (judging : Bool) (type : String)
    (attributes : List Attribute) (b b' : Binding E) : Prop where
  offers : (bindPass setting tag owner slot judging attributes b).Offers
    (bindingOffers setting.registry tag slot type
      (remaining attributes b.taken))
    (passedOver tag owner (if judging then
      free setting.registry [type] (remaining attributes b.taken) else []))
  strict : judging = true → setting.config.strict = true →
    free setting.registry [type] (remaining attributes b.taken) = []
  taken_iff : ∀ name, name ∈ b'.taken ↔ name ∈ b.taken
    ∨ name ∈ attributes.map (·.name)
      ∧ (setting.registry.binding? type name).isSome = true
  rebound : ReflTransGen (Rebound setting) b.target b'.target

theorem remaining_append (a b : List Attribute) (taken : List String) :
    remaining (a ++ b) taken = remaining a taken ++ remaining b taken :=
  List.filter_append ..

/-- Names that no attribute has take none away. -/
theorem remaining_eq {attributes : List Attribute}
    {taken taken' : List String}
    (h : ∀ name ∈ attributes.map (·.name), name ∈ taken' ↔ name ∈ taken) :
    remaining attributes taken' = remaining attributes taken := by
  refine List.filter_congr fun a ha => ?_
  have hname : a.name ∈ attributes.map (·.name) :=
    List.mem_map.mpr ⟨a, ha, rfl⟩
  rw [decide_eq_decide, h a.name hname]

/-- A pass over one attribute and a pass over others is a pass over
all. -/
theorem PassOffers.append {owner : String} {slot : Slot} {judging : Bool}
    {type : String} {first rest : List Attribute} {b b₁ b' : Binding E}
    (hfresh : ∀ name ∈ rest.map (·.name), name ∉ first.map (·.name))
    (hok : (bindPass setting tag owner slot judging first b).result
      = .ok b₁)
    (hfirst : PassOffers setting tag owner slot judging type first b b₁)
    (hrest : PassOffers setting tag owner slot judging type rest b₁ b') :
    PassOffers setting tag owner slot judging type (first ++ rest) b
      b' := by
  have hsame : remaining rest b₁.taken = remaining rest b.taken := by
    refine remaining_eq fun name hname => ?_
    rw [hfirst.taken_iff]
    constructor
    · intro h
      rcases h with h | ⟨h, -⟩
      · exact h
      · exact absurd h (hfresh name hname)
    · exact Or.inl
  have hoffers := hrest.offers
  have hstrict := hrest.strict
  rw [hsame] at hoffers hstrict
  refine ⟨?_, fun hjudging hflag => ?_, fun name => ?_,
    hfirst.rebound.trans hrest.rebound⟩
  · have hpass : bindPass setting tag owner slot judging (first ++ rest) b
        = bindPass setting tag owner slot judging first b
          >>= bindPass setting tag owner slot judging rest :=
      List.foldlM_append
    have hboth := hfirst.offers.bind hok hoffers
    rw [hpass, remaining_append]
    unfold bindingOffers passedOver free at hboth ⊢
    rw [List.filterMap_append, List.filter_append]
    cases judging with
    | true =>
        simp only [if_true] at hboth ⊢
        rw [List.map_append]
        exact hboth
    | false => exact hboth
  · rw [remaining_append]
    unfold free at hstrict ⊢
    rw [List.filter_append, hstrict hjudging hflag, List.append_nil]
    exact hfirst.strict hjudging hflag
  · rw [hrest.taken_iff, hfirst.taken_iff, List.map_append,
      List.mem_append, or_assoc, or_and_right]

theorem bindPass_singleton (setting : Setting E D) (tag owner : String)
    (slot : Slot) (judging : Bool) (b : Binding E) (a : Attribute) :
    bindPass setting tag owner slot judging [a] b
      = bindAttribute setting tag owner slot judging b a := by
  show bindAttribute setting tag owner slot judging b a >>= Pure.pure = _
  exact bind_pure _

section

variable {owner : String} {slot : Slot} {judging : Bool} {type : String}
  {a : Attribute} {b b' : Binding E}

/-- An attribute that is done with is left alone. -/
theorem bindAttribute_offers_taken (hmem : a.name ∈ b.taken)
    (h : (bindAttribute setting tag owner slot judging b a).result
      = .ok b') :
    PassOffers setting tag owner slot judging type [a] b b' := by
  have hpass := bindPass_singleton setting tag owner slot judging b a
  have hnone : remaining [a] b.taken = [] :=
    List.filter_cons_of_neg (by simpa using hmem)
  unfold bindAttribute at h hpass
  rw [if_pos hmem] at h hpass
  cases h
  refine ⟨?_, fun _ _ => by rw [hnone]; rfl, fun name => ?_, .refl⟩
  · rw [hpass, hnone]
    cases judging <;> exact .pure _
  · rw [List.map_singleton, List.mem_singleton]
    constructor
    · exact Or.inl
    · intro h
      rcases h with h | ⟨rfl, -⟩
      · exact h
      · exact hmem

/-- One that no handler takes is passed over by the pass that judges. -/
theorem bindAttribute_offers_unknown
    (htype : Entity.typeName b.target = type) (hmem : a.name ∉ b.taken)
    (hfound : setting.registry.binding? type a.name = none)
    (h : (bindAttribute setting tag owner slot judging b a).result
      = .ok b') :
    PassOffers setting tag owner slot judging type [a] b b' := by
  have hpass := bindPass_singleton setting tag owner slot judging b a
  have hone : remaining [a] b.taken = [a] :=
    List.filter_cons_of_pos (by simpa using hmem)
  have hbinding : bindingOffers setting.registry tag slot type [a]
      = [] := by
    rw [bindingOffers_cons, hfound]
    rfl
  have hfree : free setting.registry [type] [a] = [a] := by
    simp [free, hfound]
  have htaken : ∀ name, name ∈ b.taken ↔ name ∈ b.taken
      ∨ name ∈ [a].map (·.name)
        ∧ (setting.registry.binding? type name).isSome = true := by
    intro name
    rw [List.map_singleton, List.mem_singleton]
    constructor
    · exact Or.inl
    · intro h
      rcases h with h | ⟨rfl, hsome⟩
      · exact h
      · rw [hfound] at hsome
        cases hsome
  unfold bindAttribute at h hpass
  rw [if_neg hmem, htype, hfound] at h hpass
  cases judging with
  | false =>
      cases h
      refine ⟨?_, fun hjudging => (by cases hjudging), htaken, .refl⟩
      rw [hpass, hone, hbinding]
      exact .pure b
  | true =>
      simp only [if_true] at h hpass
      unfold rejectUnknown at h hpass
      cases hflag : setting.config.strict with
      | true =>
          rw [hflag, if_pos rfl] at h
          cases h
      | false =>
          rw [hflag, if_neg Bool.false_ne_true] at h hpass
          cases h
          refine ⟨?_, fun _ hstrict => ?_, htaken, .refl⟩
          · rw [hpass, hone, hbinding, if_pos rfl, hfree]
            exact .ignore tag owner a.name (.pure b)
          · rw [hflag] at hstrict
            cases hstrict

/-- One that a handler takes is bound. -/
theorem bindAttribute_offers_bound
    (htype : Entity.typeName b.target = type) (hmem : a.name ∉ b.taken)
    {declaredBy : String} {handler : BindingHandler E}
    (hfound : setting.registry.binding? type a.name
      = some (declaredBy, handler))
    (h : (bindAttribute setting tag owner slot judging b a).result
      = .ok b') :
    PassOffers setting tag owner slot judging type [a] b b' := by
  have hpass := bindPass_singleton setting tag owner slot judging b a
  have hone : remaining [a] b.taken = [a] :=
    List.filter_cons_of_pos (by simpa using hmem)
  have hbinding : bindingOffers setting.registry tag slot type [a]
      = [.step tag (.binding slot declaredBy a.name a.value)] := by
    rw [bindingOffers_cons, hfound]
    rfl
  have hfree : free setting.registry [type] [a] = [] := by
    simp [free, hfound]
  unfold bindAttribute at h hpass
  rw [if_neg hmem, htype, hfound] at h hpass
  obtain ⟨answer, hok, hpure⟩ := call_bind_result_ok h
  cases hpure
  refine ⟨?_, fun _ _ => by rw [hone, hfree], fun name => ?_, ?_⟩
  · rw [hpass, hone, hbinding, hfree, ite_self]
    exact .record (.offer rfl (.call hok (.pure _)))
  · rw [List.map_singleton, List.mem_append, List.mem_singleton]
    constructor
    · intro h
      rcases h with h | rfl
      · exact Or.inl h
      · exact Or.inr ⟨rfl, by rw [hfound]; rfl⟩
    · intro h
      rcases h with h | ⟨h, -⟩
      · exact Or.inl h
      · exact Or.inr h
  · rw [← htype] at hfound
    exact .single (.intro tag a.value hfound hok)

/-- One attribute is bound, passed over, or left alone. -/
theorem bindAttribute_offers (htype : Entity.typeName b.target = type)
    (h : (bindAttribute setting tag owner slot judging b a).result
      = .ok b') :
    PassOffers setting tag owner slot judging type [a] b b' := by
  by_cases hmem : a.name ∈ b.taken
  · exact bindAttribute_offers_taken hmem h
  · cases hfound : setting.registry.binding? type a.name with
    | none => exact bindAttribute_offers_unknown htype hmem hfound h
    | some found => exact bindAttribute_offers_bound htype hmem hfound h

end

/-- A pass offers each attribute that is not done with to the handler for
the target's type, as long as handlers leave the type as it is. -/
theorem bindPass_offers {owner : String} {slot : Slot} {judging : Bool}
    {type : String} {attributes : List Attribute} {b b' : Binding E}
    (hnodup : (attributes.map (·.name)).Nodup)
    (htype : ∀ e, ReflTransGen (Rebound setting) b.target e →
      Entity.typeName e = type)
    (h : (bindPass setting tag owner slot judging attributes b).result
      = .ok b') :
    PassOffers setting tag owner slot judging type attributes b b' := by
  induction attributes generalizing b with
  | nil =>
      cases h
      refine ⟨?_, fun _ _ => rfl, by simp, .refl⟩
      cases judging <;> exact .pure _
  | cons a rest ih =>
      rw [List.map_cons, List.nodup_cons] at hnodup
      obtain ⟨hfresh, hnodup⟩ := hnodup
      have hbind : bindPass setting tag owner slot judging (a :: rest) b
          = bindAttribute setting tag owner slot judging b a
            >>= bindPass setting tag owner slot judging rest :=
        List.foldlM_cons
      rw [hbind] at h
      obtain ⟨b₁, hfirst, hrest⟩ := bind_result_ok h
      have hone := bindAttribute_offers (htype b.target .refl) hfirst
      have hothers := ih hnodup (fun e he => htype e (hone.rebound.trans he))
        hrest
      refine hone.append (fun name hname heq => ?_) ?_ hothers
      · rw [List.map_singleton, List.mem_singleton] at heq
        rw [heq] at hname
        exact hfresh hname
      · rw [bindPass_singleton]
        exact hfirst

-- =========================================================== all passes

/-- After a pass, what remains is free of its type. -/
theorem PassOffers.remaining_eq_free {owner : String} {slot : Slot}
    {judging : Bool} {type : String} {attributes : List Attribute}
    {b b' : Binding E}
    (h : PassOffers setting tag owner slot judging type attributes b b') :
    remaining attributes b'.taken
      = free setting.registry [type] (remaining attributes b.taken) := by
  unfold remaining free
  rw [List.filter_filter]
  refine List.filter_congr fun a ha => ?_
  have hname : a.name ∈ attributes.map (·.name) :=
    List.mem_map.mpr ⟨a, ha, rfl⟩
  rw [Bool.eq_iff_iff, decide_eq_true_iff, h.taken_iff, Bool.and_eq_true,
    decide_eq_true_iff]
  simp only [List.all_cons, List.all_nil, Bool.and_true, not_or, hname,
    true_and]
  rw [Bool.not_eq_true, Option.isSome_eq_false_iff, and_comm]

/-- The passes over components offer to each what is free of the types
before. -/
theorem bindParts_offers {owner : String} {attributes left : List Attribute}
    (hnodup : (attributes.map (·.name)).Nodup) {index : Nat}
    {before taken taken' : List String} {parts parts' : List E}
    {hooks : List (Hooks E)}
    (hleft : remaining attributes taken
      = free setting.registry before left)
    (htypes : ∀ part ∈ parts, ∀ e, ReflTransGen (Rebound setting) part e →
      Entity.typeName e = Entity.typeName part)
    (h : (bindParts setting tag owner attributes index taken parts).result
      = .ok (parts', hooks, taken')) :
    (bindParts setting tag owner attributes index taken parts).Offers
        (partOffers setting.registry tag index before
          (parts.map Entity.typeName) left) []
      ∧ remaining attributes taken'
        = free setting.registry (before ++ parts.map Entity.typeName) left
      ∧ List.Forall₂ (ReflTransGen (Rebound setting)) parts parts' := by
  induction parts generalizing index before taken parts' hooks taken' with
  | nil =>
      cases h
      refine ⟨.pure _, ?_, .nil⟩
      rw [List.map_nil, List.append_nil]
      exact hleft
  | cons part parts ih =>
      rw [List.map_cons, partOffers]
      unfold bindParts at h ⊢
      obtain ⟨b, hpass, hrest⟩ := bind_result_ok h
      obtain ⟨⟨parts₁, hooks₁, taken₁⟩, hparts, hpure⟩ :=
        bind_result_ok hrest
      cases hpure
      have hone := bindPass_offers hnodup
        (htypes part (List.mem_cons_self ..)) hpass
      have hfree : remaining attributes b.taken
          = free setting.registry (before ++ [Entity.typeName part])
            left := by
        rw [hone.remaining_eq_free, hleft, free_append]
      obtain ⟨hoffers, hremaining, htouched⟩ := ih hfree
        (fun part hpart => htypes part (List.mem_cons_of_mem _ hpart))
        hparts
      refine ⟨?_, ?_, .cons hone.rebound htouched⟩
      · have hfirst := hone.offers
        rw [hleft] at hfirst
        exact .next hpass hfirst (.idle hparts hoffers (.pure _))
      · rw [hremaining, List.append_assoc]
        rfl

/-- A composite entity has its attributes offered to its own type and to
the types of its components in turn. -/
theorem bindComposite_offers {attributes : List Attribute}
    (hnodup : (attributes.map (·.name)).Nodup) {taken : List String}
    {e : E} (hsettled : Settled setting e)
    (hparts : partTypes e ≠ []) {r : Binding E × List (Hooks E)}
    (h : (bindComposite setting tag (Entity.typeName e) attributes
      ⟨e, .empty, taken⟩).result = .ok r) :
    (bindComposite setting tag (Entity.typeName e) attributes
        ⟨e, .empty, taken⟩).Offers
        (bindingOffers setting.registry tag .whole (Entity.typeName e)
            (remaining attributes taken)
          ++ partOffers setting.registry tag 0 [Entity.typeName e]
            (partTypes e) (remaining attributes taken)) []
      ∧ remaining attributes r.1.taken
        = free setting.registry (Entity.typeName e :: partTypes e)
          (remaining attributes taken)
      ∧ ReflTransGen (BindingChange setting) e r.1.target := by
  unfold bindComposite at h ⊢
  obtain ⟨b, hpass, hrest⟩ := bind_result_ok h
  have hone := bindPass_offers hnodup
    (fun e' he' => hsettled.type_eq e' (BindingChange.of_rebound he')) hpass
  have hreach : ReflTransGen (BindingChange setting) e b.target :=
    BindingChange.of_rebound hone.rebound
  have htypes := hsettled.partTypes_eq b.target hreach
  unfold partTypes at htypes hparts
  cases hsome : Entity.components? b.target with
  | none =>
      -- the components cannot be gone
      rw [hsome] at htypes
      exact absurd htypes.symm hparts
  | some parts =>
      rw [hsome] at htypes hrest
      obtain ⟨⟨parts', hooks, taken'⟩, hbound, hpure⟩ :=
        bind_result_ok hrest
      cases hpure
      obtain ⟨hoffers, hremaining, htouched⟩ := bindParts_offers hnodup
        hone.remaining_eq_free
        (fun part hpart => hsettled.partType_eq b.target parts hreach hsome
          part hpart) hbound
      rw [Option.getD_some] at htypes
      rw [htypes] at hoffers hremaining
      refine ⟨?_, hremaining, hreach.tail (.parts hsome htouched)⟩
      refine .next hpass hone.offers ?_
      rw [hsome]
      exact .idle hbound hoffers (.pure _)

/-- Binding offers the attributes that are left to the entity's type and
then to the types of its components, and passes over what is free of all
of them. -/
theorem bindAttributes_offers {attributes : List Attribute}
    (hnodup : (attributes.map (·.name)).Nodup) {taken : List String}
    {e : E} (hsettled : Settled setting e)
    {r : Binding E × List (Hooks E)}
    (h : (bindAttributes setting tag attributes taken e).result = .ok r) :
    (bindAttributes setting tag attributes taken e).Offers
        (bindingOffers setting.registry tag .whole (Entity.typeName e)
            (remaining attributes taken)
          ++ partOffers setting.registry tag 0 [Entity.typeName e]
            (partTypes e) (remaining attributes taken))
        (passedOver tag (Entity.typeName e)
          (free setting.registry (Entity.typeName e :: partTypes e)
            (remaining attributes taken)))
      ∧ (setting.config.strict = true →
          free setting.registry (Entity.typeName e :: partTypes e)
            (remaining attributes taken) = []) := by
  unfold bindAttributes at h ⊢
  cases hsome : Entity.components? e with
  | none =>
      -- one pass, which judges
      have htypes : partTypes e = [] := by rw [partTypes, hsome]; rfl
      rw [hsome] at h
      obtain ⟨_, hstart, hbind⟩ := bind_result_ok h
      cases hstart
      obtain ⟨b, hpass, -⟩ := bind_result_ok hbind
      have hone := bindPass_offers hnodup
        (fun e' he' => hsettled.type_eq e' (BindingChange.of_rebound he'))
        hpass
      rw [htypes, partOffers, List.append_nil]
      exact ⟨.next rfl (s := []) (.pure _)
        (.idle hpass hone.offers (.pure _)), hone.strict rfl⟩
  | some parts =>
      cases parts with
      | nil =>
          rw [hsome] at h
          cases h
      | cons part parts =>
          have hparts : partTypes e ≠ [] := by
            rw [partTypes, hsome, Option.getD_some, List.map_cons]
            exact List.cons_ne_nil _ _
          rw [hsome] at h
          obtain ⟨⟨b, hooks⟩, hcomposite, hrest⟩ := bind_result_ok h
          obtain ⟨hoffers, hremaining, hreach⟩ :=
            bindComposite_offers hnodup hsettled hparts hcomposite
          obtain ⟨b', hpass, -⟩ := bind_result_ok hrest
          have hlast := bindPass_offers hnodup
            (fun e' he' => hsettled.type_eq e'
              (hreach.trans (BindingChange.of_rebound he'))) hpass
          have hown : Entity.typeName e ∈ Entity.typeName e :: partTypes e :=
            List.mem_cons_self ..
          -- the last pass goes through the entity's type again
          have hpassed := hlast.offers
          have hstrict := hlast.strict rfl
          rw [hremaining, bindingOffers_free _ hown, if_pos rfl,
            free_free hown] at hpassed
          rw [hremaining, free_free hown] at hstrict
          refine ⟨?_, hstrict⟩
          exact .after hcomposite hoffers (.idle hpass hpassed (.pure _))

end Build

end EntityMarkup
