/-
Which registration a look-up finds. A look-up goes through the ancestry of
a type and stops at the first registration, so what is registered for a
type is found for itself and for those below it whose way to it is clear
(`HandlerTable.Clear`), and nowhere else.

One more registration thus changes what is found exactly along the clear
ways to its type (`Overridden`). Registering settles no chains, so the
ancestries are those of before (`Registrations.finishIn_alike`), and a
type that registers nothing itself finds what its parent finds
(`Inherited`).
-/
import EntityMarkup.Proofs.Registry.Chains

namespace EntityMarkup

namespace HandlerTable

variable {H : Type} (table : HandlerTable H)

/-- The type is in the chain, and none before it registers the
attribute. -/
def Clear (chain : List String) (name type : String) : Prop :=
  ∃ nearer farther, chain = nearer ++ type :: farther
    ∧ ∀ t ∈ nearer, table.get? t name = none

variable {table} {chain : List String} {first type name : String}
  {handler : H}

theorem Clear.mem (h : table.Clear chain name type) : type ∈ chain := by
  obtain ⟨nearer, farther, rfl, -⟩ := h
  exact List.mem_append_right _ (List.mem_cons_self ..)

theorem clear_cons_iff :
    table.Clear (first :: chain) name type
      ↔ first = type
        ∨ table.get? first name = none ∧ table.Clear chain name type := by
  constructor
  · rintro ⟨nearer, farther, hchain, hnone⟩
    cases nearer with
    | nil => exact .inl (List.cons.inj hchain).1
    | cons t nearer =>
        obtain ⟨rfl, rfl⟩ := List.cons.inj hchain
        obtain ⟨hfirst, hrest⟩ := List.forall_mem_cons.mp hnone
        exact .inr ⟨hfirst, nearer, farther, rfl, hrest⟩
  · rintro (rfl | ⟨hfirst, nearer, farther, rfl, hrest⟩)
    · exact ⟨[], chain, rfl, List.forall_mem_nil _⟩
    · exact ⟨first :: nearer, farther, rfl,
        List.forall_mem_cons.mpr ⟨hfirst, hrest⟩⟩

theorem resolve_cons_some (h : table.get? first name = some handler) :
    table.resolve (first :: chain) name = some (first, handler) := by
  rw [resolve, List.findSome?_cons, h]
  rfl

theorem resolve_cons_none (h : table.get? first name = none) :
    table.resolve (first :: chain) name = table.resolve chain name := by
  rw [resolve, List.findSome?_cons, h]
  rfl

/-- A look-up finds the registration that the way is clear to. -/
theorem resolve_eq_some_iff :
    table.resolve chain name = some (type, handler)
      ↔ table.Clear chain name type
        ∧ table.get? type name = some handler := by
  constructor
  · intro h
    obtain ⟨nearer, owner, farther, hchain, howner, hnone⟩ :=
      List.findSome?_eq_some_iff.mp h
    obtain ⟨found, hget, heq⟩ := Option.map_eq_some_iff.mp howner
    cases heq
    exact ⟨⟨nearer, farther, hchain,
      fun t ht => Option.map_eq_none_iff.mp (hnone t ht)⟩, hget⟩
  · rintro ⟨⟨nearer, farther, hchain, hnone⟩, hget⟩
    refine List.findSome?_eq_some_iff.mpr
      ⟨nearer, type, farther, hchain, ?_, fun t ht => ?_⟩
    · rw [hget]
      rfl
    · rw [hnone t ht]
      rfl

/-- One more registration is found where the way to it is clear. -/
theorem resolve_insert_clear (h : table.Clear chain name type) :
    (table.insert type name handler).resolve chain name
      = some (type, handler) := by
  induction chain with
  | nil => cases h.mem
  | cons first chain ih =>
      by_cases hfirst : type = first
      · refine hfirst ▸ resolve_cons_some ?_
        rw [get?_insert, if_pos ⟨rfl, rfl⟩]
      · obtain ⟨hnone, hrest⟩ :=
          (clear_cons_iff.mp h).resolve_left (Ne.symm hfirst)
        rw [resolve_cons_none, ih hrest]
        rw [get?_insert, if_neg fun heq => hfirst heq.1]
        exact hnone

/-- Where it is not, or for another attribute, look-ups are as before. -/
theorem resolve_insert_kept {name' : String}
    (h : ¬ (name' = name ∧ table.Clear chain name type)) :
    (table.insert type name handler).resolve chain name'
      = table.resolve chain name' := by
  induction chain with
  | nil => rfl
  | cons first chain ih =>
      have hget : (table.insert type name handler).get? first name'
          = table.get? first name' := by
        rw [get?_insert, if_neg]
        rintro ⟨rfl, rfl⟩
        exact h ⟨rfl, clear_cons_iff.mpr (.inl rfl)⟩
      cases hfirst : table.get? first name' with
      | some found =>
          rw [resolve_cons_some hfirst,
            resolve_cons_some (hget.trans hfirst)]
      | none =>
          rw [resolve_cons_none hfirst,
            resolve_cons_none (hget.trans hfirst)]
          refine ih fun hclear => h ⟨hclear.1, ?_⟩
          rw [hclear.1] at hfirst
          exact clear_cons_iff.mpr (.inr ⟨hfirst, hclear.2⟩)

end HandlerTable

-- ============================================================ look-ups

section

variable {H : Type}

/-- How look-ups change with a handler for one attribute of one type. It
is found for the types whose way to this one is clear; for all others, and
for all other attributes, nothing changes. -/
structure Overridden (ancestry : String → List String)
    (table : HandlerTable H) (type name : String) (handler : H)
    (old new : String → String → Option (String × H)) : Prop where
  gained : ∀ t, table.Clear (ancestry t) name type →
    new t name = some (type, handler)
  kept : ∀ t n, ¬ (n = name ∧ table.Clear (ancestry t) name type) →
    new t n = old t n
  /-- In particular for types that are not below the type. -/
  elsewhere : ∀ t n, type ∉ ancestry t → new t n = old t n

/-- What look-ups find is a type's own registration, or else what its
parent finds. -/
structure Inherited (parents : Parents) (table : HandlerTable H)
    (found? : String → String → Option (String × H)) : Prop where
  own : ∀ t n handler, table.get? t n = some handler →
    found? t n = some (t, handler)
  parent : ∀ t parent n, table.get? t n = none →
    parents[t]? = some parent → found? t n = found? parent n
  undeclared : ∀ t n, table.get? t n = none → parents[t]? = none →
    t ≠ rootType → found? t n = found? rootType n
  root : ∀ n, table.get? rootType n = none → found? rootType n = none

theorem overridden_insert (ancestry : String → List String)
    (table : HandlerTable H) (type name : String) (handler : H) :
    Overridden ancestry table type name handler
      (fun t n => table.resolve (ancestry t) n)
      (fun t n => (table.insert type name handler).resolve (ancestry t) n)
    where
  gained := fun _ h => HandlerTable.resolve_insert_clear h
  kept := fun _ _ h => HandlerTable.resolve_insert_kept h
  elsewhere := fun _ _ h =>
    HandlerTable.resolve_insert_kept fun hclear => h hclear.2.mem

end

namespace Registrations

variable {E D : Type} {r r' : Registrations E D}
  {order order' : List String} {old new : Registry E D}

/-- Registries with the same declarations come to the same ancestries. -/
theorem finishIn_alike (hparents : r'.parents = r.parents)
    (horder : order.Perm r.parents.keys)
    (horder' : order'.Perm r.parents.keys)
    (hold : r.finishIn order = .ok old) :
    ∃ new, r'.finishIn order' = .ok new ∧ new.ancestry = old.ancestry := by
  have hfirst := finishIn_finishes horder
  rw [← hparents] at horder'
  have hsecond := finishIn_finishes horder'
  rw [hparents] at hsecond
  obtain ⟨new, hnew⟩ := hsecond.ok_iff.mpr (hfirst.ok_iff.mp ⟨old, hold⟩)
  refine ⟨new, hnew, funext fun type => ?_⟩
  obtain ⟨hroot, -⟩ := hfirst.ok_iff.mp ⟨old, hold⟩
  cases hparent : r.parents[type]? with
  | some parent =>
      have hdeclared := Option.isSome_of_eq_some hparent
      exact (hsecond.declared new hnew type hdeclared).1.unique hroot
        (hfirst.declared old hold type hdeclared).1
  | none =>
      by_cases heq : type = rootType
      · rw [heq, hsecond.root new hnew, hfirst.root old hold]
      · rw [hsecond.undeclared new hnew type hparent heq,
          hfirst.undeclared old hold type hparent heq]

/-- The ancestry of a type begins with the type, and that of a declared
one goes on with the ancestry of its parent. -/
theorem finishIn_inherited {H : Type} (horder : order.Perm r.parents.keys)
    (hold : r.finishIn order = .ok old) (table : HandlerTable H) :
    Inherited r.parents table
      (fun t n => table.resolve (old.ancestry t) n) := by
  have hfinishes := finishIn_finishes horder
  have hparent : ∀ t parent : String, r.parents[t]? = some parent →
      old.ancestry t = t :: old.ancestry parent := by
    intro t parent ht
    obtain ⟨hchain, -⟩ := hfinishes.declared old hold t
      (Option.isSome_of_eq_some ht)
    generalize old.ancestry t = chain at hchain
    cases hchain with
    | root =>
        obtain ⟨hroot, -⟩ := hfinishes.ok_iff.mp ⟨old, hold⟩
        cases hroot.symm.trans ht
    | step hbelow hrest =>
        cases hbelow.eq ht
        rw [finishIn_ascent horder hold hrest]
  have hroot := hfinishes.root old hold
  have hlone : ∀ t : String, r.parents[t]? = none → t ≠ rootType →
      old.ancestry t = t :: old.ancestry rootType := by
    intro t ht hne
    rw [hfinishes.undeclared old hold t ht hne, hroot]
  refine ⟨fun t n handler hget => ?_, fun t parent n hget ht => ?_,
    fun t n hget ht hne => ?_, fun n hget => ?_⟩
  · obtain ⟨farther, hchain⟩ : ∃ farther,
        old.ancestry t = t :: farther := by
      cases ht : r.parents[t]? with
      | some parent => exact ⟨_, hparent t parent ht⟩
      | none =>
          by_cases hne : t = rootType
          · exact ⟨[], hne ▸ hroot⟩
          · exact ⟨_, hlone t ht hne⟩
    show table.resolve (old.ancestry t) n = _
    rw [hchain, HandlerTable.resolve_cons_some hget]
  · show table.resolve (old.ancestry t) n = _
    rw [hparent t parent ht, HandlerTable.resolve_cons_none hget]
  · show table.resolve (old.ancestry t) n = _
    rw [hlone t ht hne, HandlerTable.resolve_cons_none hget]
  · show table.resolve (old.ancestry rootType) n = _
    rw [hroot, HandlerTable.resolve_cons_none hget]
    rfl

theorem finishIn_handlers (horder : order.Perm r.parents.keys)
    (hold : r.finishIn order = .ok old) :
    Inherited r.parents old.building old.building?
      ∧ Inherited r.parents old.binding old.binding? :=
  ⟨finishIn_inherited horder hold old.building,
    finishIn_inherited horder hold old.binding⟩

/-- A registry with the same declarations and tags can be finished as
well, and looks its own handlers up along the same chains. -/
theorem finishIn_registered (hparents : r'.parents = r.parents)
    (hkinds : r'.kinds = r.kinds) (horder : order.Perm r.parents.keys)
    (horder' : order'.Perm r.parents.keys)
    (hold : r.finishIn order = .ok old) :
    ∃ new, r'.finishIn order' = .ok new
      ∧ new.building?
        = (fun t n => r'.building.resolve (old.ancestry t) n)
      ∧ new.binding?
        = (fun t n => r'.binding.resolve (old.ancestry t) n)
      ∧ new.kinds = old.kinds ∧ new.ancestry = old.ancestry
      ∧ Inherited r.parents new.building new.building?
      ∧ Inherited r.parents new.binding new.binding? := by
  obtain ⟨new, hnew, hancestry⟩ :=
    finishIn_alike hparents horder horder' hold
  obtain ⟨htags, -, -⟩ := finishIn_tables hold
  obtain ⟨htags', hbuilding, hbinding⟩ := finishIn_tables hnew
  have hinherited := finishIn_handlers (hparents ▸ horder') hnew
  rw [hparents] at hinherited
  refine ⟨new, hnew, funext₂ fun t n => ?_, funext₂ fun t n => ?_, ?_,
    hancestry, hinherited⟩
  · rw [Registry.building?, hbuilding, hancestry]
  · rw [Registry.binding?, hbinding, hancestry]
  · rw [htags', hkinds, htags]

/-- One more handler changes what its own phase finds along the clear ways
to its type, and nothing else. As before, a type finds its own handler, or
else what its parent finds. -/
theorem registered_overridden (r : Registrations E D)
    (order order' : List String) (horder : order.Perm r.parents.keys)
    (horder' : order'.Perm r.parents.keys)
    (hold : r.finishIn order = .ok old) (type name : String) :
    (∀ handler, ∃ new,
      (r.onBuilding type name handler).finishIn order' = .ok new
        ∧ Overridden old.ancestry r.building type name handler
          old.building? new.building?
        ∧ new.binding? = old.binding?
        ∧ new.kinds = old.kinds ∧ new.ancestry = old.ancestry
        ∧ Inherited r.parents new.building new.building?
        ∧ Inherited r.parents new.binding new.binding?)
      ∧ ∀ handler, ∃ new,
        (r.onBinding type name handler).finishIn order' = .ok new
          ∧ Overridden old.ancestry r.binding type name handler
            old.binding? new.binding?
          ∧ new.building? = old.building?
          ∧ new.kinds = old.kinds ∧ new.ancestry = old.ancestry
          ∧ Inherited r.parents new.building new.building?
          ∧ Inherited r.parents new.binding new.binding? := by
  have hbuilding : old.building?
      = fun t n => r.building.resolve (old.ancestry t) n := by
    funext t n
    rw [Registry.building?, (finishIn_tables hold).2.1]
  have hbinding : old.binding?
      = fun t n => r.binding.resolve (old.ancestry t) n := by
    funext t n
    rw [Registry.binding?, (finishIn_tables hold).2.2]
  refine ⟨fun handler => ?_, fun handler => ?_⟩
  · obtain ⟨htags, htable, hother⟩ := onBuilding_tables r type name handler
    obtain ⟨new, hnew, hbuilding', hbinding', hrest⟩ := finishIn_registered
      (onBuilding_parents r type name handler) htags horder horder' hold
    rw [htable] at hbuilding'
    refine ⟨new, hnew, ?_, ?_, hrest⟩
    · rw [hbuilding, hbuilding']
      exact overridden_insert old.ancestry r.building type name handler
    · rw [hbinding, hbinding', hother]
  · obtain ⟨htags, hother, htable⟩ := onBinding_tables r type name handler
    obtain ⟨new, hnew, hbuilding', hbinding', hrest⟩ := finishIn_registered
      (onBinding_parents r type name handler) htags horder horder' hold
    rw [htable] at hbinding'
    refine ⟨new, hnew, ?_, ?_, hrest⟩
    · rw [hbinding, hbinding']
      exact overridden_insert old.ancestry r.binding type name handler
    · rw [hbuilding, hbuilding', hother]

/-- Handles the attribute, or leaves it to be bound. -/
def settle (done : Bool) : BuildingHandler Unit := fun _ => pure done

/-- Groups are below widgets and have a handler of their own. -/
def layered : Registrations Unit Unit :=
  start
    |>.declare "group" "widget"
    |>.declare "widget" rootType
    |>.onBuilding "group" "style" (settle true)

/-- A handler for widgets is found for widgets, and not for groups. -/
theorem registered_overridden_layered :
    ["widget", "group"].Perm layered.parents.keys
      ∧ ["group", "widget"].Perm layered.parents.keys
      ∧ ∃ old new, layered.finishIn ["widget", "group"] = .ok old
        ∧ (layered.onBuilding "widget" "style" (settle false)).finishIn
          ["group", "widget"] = .ok new
        ∧ old.ancestry "group" = ["group", "widget", rootType]
        ∧ old.building? "widget" "style" = none
        ∧ new.building? "widget" "style" = some ("widget", settle false)
        ∧ new.building? "group" "style" = some ("group", settle true) := by
  have horder : ["widget", "group"].Perm layered.parents.keys := by
    decide +kernel
  have horder' : ["group", "widget"].Perm layered.parents.keys := by
    decide +kernel
  have hwidget : Ascent (layered.parents[·]?) "widget"
      ["widget", rootType] :=
    .step (show layered.parents["widget"]? = some rootType by rfl) .root
  have hgroup : Ascent (layered.parents[·]?) "group"
      ["group", "widget", rootType] :=
    .step (show layered.parents["group"]? = some "widget" by rfl) hwidget
  have hown : layered.building.get? "group" "style"
      = some (settle true) := by rfl
  obtain ⟨old, hold⟩ : ∃ old,
      layered.finishIn ["widget", "group"] = .ok old := by
    refine (finishIn_finishes horder).ok_iff.mpr ⟨by rfl, ?_⟩
    intro type hdeclared
    rw [← mem_order_iff horder] at hdeclared
    rcases List.mem_pair.mp hdeclared with rfl | rfl
    · exact hwidget.reaches
    · exact hgroup.reaches
  obtain ⟨hbuild, -⟩ := registered_overridden layered _ _ horder horder'
    hold "widget" "style"
  obtain ⟨new, hnew, hover, -⟩ := hbuild (settle false)
  have hchain := finishIn_ascent horder hold hwidget
  have hchain' := finishIn_ascent horder hold hgroup
  obtain ⟨hfound, -⟩ := finishIn_handlers horder hold
  rw [(finishIn_tables hold).2.1] at hfound
  have hnone : old.building? "widget" "style" = none := by
    rw [hfound.parent "widget" rootType "style" (by rfl) (by rfl)]
    exact hfound.root "style" (by rfl)
  have hblocked : ¬ layered.building.Clear (old.ancestry "group") "style"
      "widget" := by
    rw [hchain', HandlerTable.clear_cons_iff, hown]
    simp
  refine ⟨horder, horder', old, new, hold, hnew, hchain', hnone, ?_, ?_⟩
  · exact hover.gained "widget"
      ⟨[], [rootType], hchain, List.forall_mem_nil _⟩
  · rw [hover.kept "group" "style" fun h => hblocked h.2]
    exact hfound.own "group" "style" (settle true) hown

end Registrations

end EntityMarkup
