/-
Chains of declared parents. Finishing a registry climbs from each declared
type to its parent, its parent's parent and so on, and comes to one of
three ends: the type above all others, a type for the second time, or a
type that is not declared. A parent is told by a function
(`Below parent?`), so that a type has at most one chain (`Ascent.unique`)
and each of the other two ends shows that there is none
(`Unanchored.not_reaches`).

`Finishes` says what finishing comes to. The order in which the declared
types are looked at decides which of several faults is reported, and
nothing else.
-/
import EntityMarkup.Proofs.Registry.Populated
import Mathlib.Data.List.Perm.Basic
import Mathlib.Logic.Relation

namespace EntityMarkup

open Relation (ReflTransGen TransGen)

-- ============================================================== chains

section

variable {parent? : String → Option String}

/-- The second type is the declared parent of the first. -/
def Below (parent? : String → Option String) (type parent : String) :
    Prop :=
  parent? type = some parent

theorem Below.eq {type parent parent' : String}
    (h : Below parent? type parent) (h' : Below parent? type parent') :
    parent = parent' :=
  Option.some.inj (h.symm.trans h')

/-- A type, its parent, its parent's parent, and so on to the type above
all others. -/
inductive Ascent (parent? : String → Option String) :
    String → List String → Prop
  | root : Ascent parent? rootType [rootType]
  | step {type parent : String} {chain : List String}
      (hparent : Below parent? type parent)
      (hrest : Ascent parent? parent chain) :
      Ascent parent? type (type :: chain)

namespace Ascent

variable {type member : String} {chain chain' nearer farther : List String}

theorem reaches (h : Ascent parent? type chain) :
    ReflTransGen (Below parent?) type rootType := by
  induction h with
  | root => exact .refl
  | step hparent hrest ih => exact .head hparent ih

/-- The chain of a member is the rest of the chain from it on. -/
theorem rest (h : Ascent parent? type chain)
    (hchain : chain = nearer ++ member :: farther) :
    Ascent parent? member (member :: farther) := by
  induction h generalizing nearer with
  | root =>
      cases nearer with
      | nil =>
          cases hchain
          exact .root
      | cons first nearer =>
          obtain ⟨-, hnil⟩ := List.cons.inj hchain
          exact absurd hnil.symm (List.append_ne_nil_of_right_ne_nil _
            (List.cons_ne_nil _ _))
  | step hparent hrest ih =>
      cases nearer with
      | nil =>
          cases hchain
          exact .step hparent hrest
      | cons first nearer => exact ih (List.cons.inj hchain).2

/-- When the type above all others has no parent, no type has two
chains. -/
theorem unique (hroot : parent? rootType = none)
    (h : Ascent parent? type chain) (h' : Ascent parent? type chain') :
    chain = chain' := by
  induction h generalizing chain' with
  | root =>
      cases h' with
      | root => rfl
      | step hparent hrest => cases hroot.symm.trans hparent
  | step hparent hrest ih =>
      cases h' with
      | root => cases hroot.symm.trans hparent
      | step hparent' hrest' =>
          cases hparent.eq hparent'
          rw [ih hrest']

/-- Then none is repeated in a chain: it would have a longer and a shorter
chain. -/
theorem nodup (hroot : parent? rootType = none)
    (h : Ascent parent? type chain) : chain.Nodup := by
  induction h with
  | root => exact List.pairwise_singleton _ rootType
  | @step type parent chain hparent hrest ih =>
      refine List.nodup_cons.mpr ⟨fun hmem => ?_, ih⟩
      obtain ⟨nearer, farther, rfl⟩ := List.append_of_mem hmem
      have hwhole := Ascent.step hparent hrest
      have hsame := congrArg List.length
        (hwhole.unique hroot (hrest.rest rfl))
      simp only [List.length_cons, List.length_append] at hsame
      omega

end Ascent

/-- Why a type has no chain: its parents come to a cycle, or to a type
that is not declared. The fault names the type, and a member of the cycle
or the last type of the chain. -/
def Unanchored (parent? : String → Option String) (type : String) :
    RegistryFault → Prop
  | .cycle type' member =>
      type' = type ∧ ReflTransGen (Below parent?) type member
        ∧ TransGen (Below parent?) member member
  | .undeclared ancestor type' =>
      type' = type ∧ ReflTransGen (Below parent?) type ancestor
        ∧ parent? ancestor = none ∧ ancestor ≠ rootType
  | .rootDeclared | .described _ => False

/-- A type without a parent is the end of every way to it. -/
theorem reaches_end {type last other : String} (hlast : parent? last = none)
    (h : ReflTransGen (Below parent?) type last)
    (hother : ReflTransGen (Below parent?) type other) :
    ReflTransGen (Below parent?) other last := by
  have hunique : Relator.RightUnique (Below parent?) :=
    fun _ _ _ hb hc => hb.eq hc
  rcases ReflTransGen.total_of_right_unique hunique h hother with
    hon | hback
  · rcases hon.cases_head with rfl | ⟨next, hnext, -⟩
    · exact .refl
    · cases hlast.symm.trans hnext
  · exact hback

/-- From a cycle no type without a parent is reached. -/
theorem not_reaches_of_cycle {member last : String}
    (hlast : parent? last = none)
    (hcycle : TransGen (Below parent?) member member) :
    ¬ ReflTransGen (Below parent?) member last := by
  intro hreaches
  induction hreaches using ReflTransGen.head_induction_on with
  | refl =>
      obtain ⟨next, hnext, -⟩ := TransGen.head'_iff.mp hcycle
      cases hlast.symm.trans hnext
  | head hstep hrest ih =>
      -- the next type is on the cycle as well
      obtain ⟨next, hnext, hback⟩ := TransGen.head'_iff.mp hcycle
      cases hstep.eq hnext
      exact ih (TransGen.tail' hback hstep)

theorem Unanchored.not_reaches {type : String} {fault : RegistryFault}
    (hroot : parent? rootType = none) (h : Unanchored parent? type fault) :
    ¬ ReflTransGen (Below parent?) type rootType := by
  intro hreaches
  cases fault with
  | cycle type' member =>
      obtain ⟨-, hmember, hcycle⟩ := h
      exact not_reaches_of_cycle hroot hcycle
        (reaches_end hroot hreaches hmember)
  | undeclared ancestor type' =>
      obtain ⟨-, hancestor, hnone, hne⟩ := h
      rcases (reaches_end hroot hreaches hancestor).cases_head with
        heq | ⟨next, hnext, -⟩
      · exact hne heq
      · cases hnone.symm.trans hnext
  | rootDeclared | described => exact h

end

-- ============================================================ climbing

namespace Parents

variable {parents unused : Parents} {type current : String}
  {before chain types : List String} {fault : RegistryFault}

/-- A climb that succeeds has gone through the chain. -/
theorem climb_ok (h : climb type unused before current = .ok chain)
    (hunused : ∀ t p : String, unused[t]? = some p → parents[t]? = some p) :
    Ascent (parents[·]?) current chain := by
  fun_induction climb type unused before current generalizing chain with
  | case1 => cases h
  | case2 unused before current parent hparent hnew ih =>
      cases hrest : climb type (unused.erase current) (current :: before)
          parent with
      | error e =>
          rw [hrest] at h
          cases h
      | ok rest =>
          rw [hrest] at h
          cases h
          refine .step (hunused _ _ hparent) (ih hrest fun t p ht => ?_)
          rw [Std.TreeMap.getElem?_erase] at ht
          split at ht
          case isTrue => cases ht
          case isFalse => exact hunused t p ht
  | case3 =>
      cases h
      exact .root
  | case4 => cases h

/-- A climb that fails tells why the type has no chain. Behind it are the
types that have been passed, whose parents lead to where it is. -/
theorem climb_error (h : climb type unused before current = .error fault)
    (hcurrent : current ∉ before)
    (hunused : ∀ t : String, t ∉ before → unused[t]? = parents[t]?)
    (htype : ReflTransGen (Below (parents[·]?)) type current)
    (hbefore : ∀ t ∈ before, TransGen (Below (parents[·]?)) t current) :
    Unanchored (parents[·]?) type fault := by
  fun_induction climb type unused before current with
  | case1 unused before current parent hparent hagain =>
      cases h
      have hstep : Below (parents[·]?) current parent :=
        (hunused current hcurrent).symm.trans hparent
      refine ⟨rfl, htype.tail hstep, ?_⟩
      rcases hagain with rfl | hpassed
      · exact .single hstep
      · exact (hbefore parent hpassed).tail hstep
  | case2 unused before current parent hparent hnew ih =>
      rw [not_or] at hnew
      have hstep : Below (parents[·]?) current parent :=
        (hunused current hcurrent).symm.trans hparent
      cases hrest : climb type (unused.erase current) (current :: before)
          parent with
      | ok rest =>
          rw [hrest] at h
          cases h
      | error e =>
          rw [hrest] at h
          cases h
          refine ih hrest ?_ (fun t ht => ?_) (htype.tail hstep)
            fun t ht => ?_
          · exact List.not_mem_cons_of_ne_of_not_mem hnew.1 hnew.2
          · obtain ⟨hne, hout⟩ := List.ne_and_not_mem_of_not_mem_cons ht
            rw [Std.TreeMap.getElem?_erase, if_neg ?_, hunused t hout]
            rw [Std.LawfulEqCmp.compare_eq_iff_eq]
            exact hne.symm
          · rcases List.mem_cons.mp ht with rfl | hpassed
            · exact .single hstep
            · exact (hbefore t hpassed).tail hstep
  | case3 => cases h
  | case4 unused before current hnone hne =>
      cases h
      exact ⟨rfl, htype, (hunused current hcurrent).symm.trans hnone, hne⟩

/-- The chain that the declarations give a type, if they give one. -/
theorem chain?_ok (h : parents.chain? type = .ok chain) :
    Ascent (parents[·]?) type chain :=
  climb_ok h fun _ _ => id

theorem chain?_error (h : parents.chain? type = .error fault) :
    Unanchored (parents[·]?) type fault :=
  climb_error h List.not_mem_nil (fun _ _ => rfl) .refl
    (List.forall_mem_nil _)

/-- One chain after the other is settled. Types that are not looked at
keep what they have. -/
theorem foldlM_ok {start chains : Ancestries}
    (h : types.foldlM (m := Except RegistryFault)
      (fun chains type => do
        return chains.insert type (← parents.chain? type)) start
      = .ok chains) :
    (∀ type ∈ types, ∃ chain, parents.chain? type = .ok chain
        ∧ chains[type]? = some chain)
      ∧ ∀ type ∉ types, chains[type]? = start[type]? := by
  induction types generalizing start with
  | nil =>
      cases h
      exact ⟨List.forall_mem_nil _, fun _ _ => rfl⟩
  | cons first rest ih =>
      rw [List.foldlM_cons] at h
      cases hfirst : parents.chain? first with
      | error e =>
          rw [hfirst] at h
          cases h
      | ok chain =>
          rw [hfirst] at h
          obtain ⟨hin, hout⟩ := ih h
          refine ⟨fun type hmem => ?_, fun type hmem => ?_⟩
          · by_cases hrest : type ∈ rest
            · exact hin type hrest
            · obtain rfl : type = first :=
                (List.mem_cons.mp hmem).resolve_right hrest
              refine ⟨chain, hfirst, ?_⟩
              rw [hout type hrest, Std.TreeMap.getElem?_insert_self]
          · obtain ⟨hne, hrest⟩ := List.ne_and_not_mem_of_not_mem_cons hmem
            rw [hout type hrest, Std.TreeMap.getElem?_insert, if_neg]
            rw [Std.LawfulEqCmp.compare_eq_iff_eq]
            exact hne.symm

theorem foldlM_error {start : Ancestries}
    (h : types.foldlM (m := Except RegistryFault)
      (fun chains type => do
        return chains.insert type (← parents.chain? type)) start
      = .error fault) :
    ∃ type ∈ types, parents.chain? type = .error fault := by
  induction types generalizing start with
  | nil => cases h
  | cons first rest ih =>
      rw [List.foldlM_cons] at h
      cases hfirst : parents.chain? first with
      | error e =>
          rw [hfirst] at h
          cases h
          exact ⟨first, List.mem_cons_self .., hfirst⟩
      | ok chain =>
          rw [hfirst] at h
          obtain ⟨type, hmem, herror⟩ := ih h
          exact ⟨type, List.mem_cons_of_mem _ hmem, herror⟩

end Parents

-- =========================================================== finishing

/-- What finishing a registry comes to, when a function tells the declared
parents. -/
structure Finishes {E D : Type} (parent? : String → Option String)
    (outcome : Except RegistryFault (Registry E D)) : Prop where
  /-- It succeeds if the type above all others is not declared, and is
  reached from all types that are. -/
  ok_iff : (∃ registry, outcome = .ok registry)
    ↔ parent? rootType = none
      ∧ ∀ type, (parent? type).isSome = true →
        ReflTransGen (Below parent?) type rootType
  /-- Then a declared type has the chain of its parents, -/
  declared : ∀ registry, outcome = .ok registry →
    ∀ type, (parent? type).isSome = true →
      Ascent parent? type (registry.ancestry type)
        ∧ (registry.ancestry type).Nodup
  /-- any other type is below the type above all others, -/
  undeclared : ∀ registry, outcome = .ok registry →
    ∀ type, parent? type = none → type ≠ rootType →
      registry.ancestry type = [type, rootType]
  root : ∀ registry, outcome = .ok registry →
    registry.ancestry rootType = [rootType]
  /-- and each member of a chain has the rest of the chain. -/
  rest : ∀ registry, outcome = .ok registry →
    ∀ type nearer member farther,
      registry.ancestry type = nearer ++ member :: farther →
      registry.ancestry member = member :: farther
  /-- Otherwise the type above all others is declared, -/
  rootDeclared_iff : outcome = .error .rootDeclared
    ↔ (parent? rootType).isSome = true
  /-- or a declared type runs into a cycle, -/
  cycle : ∀ type member, outcome = .error (.cycle type member) →
    (parent? type).isSome = true
      ∧ ReflTransGen (Below parent?) type member
      ∧ TransGen (Below parent?) member member
  /-- or has an ancestor that is not declared. -/
  gap : ∀ ancestor type, outcome = .error (.undeclared ancestor type) →
    (parent? type).isSome = true
      ∧ TransGen (Below parent?) type ancestor
      ∧ parent? ancestor = none ∧ ancestor ≠ rootType
  not_described : ∀ text, outcome ≠ .error (.described text)

namespace Registrations

variable {E D : Type} {r : Registrations E D} {order : List String}
  {registry : Registry E D} {fault : RegistryFault}

theorem mem_order_iff (horder : order.Perm r.parents.keys) (type : String) :
    type ∈ order ↔ (r.parents[type]?).isSome = true := by
  rw [horder.mem_iff, Std.TreeMap.mem_keys,
    Std.TreeMap.mem_iff_isSome_getElem?]

/-- Finishing looks for the type above all others among the declared ones
before it settles any chain. -/
theorem finishIn_eq (r : Registrations E D) (order : List String) :
    r.finishIn order
      = if (r.parents[rootType]?).isSome = true then .error .rootDeclared
        else do
          let ancestries ← r.parents.ancestriesOf? order
          return { ancestries, kinds := r.kinds, building := r.building,
                   binding := r.binding } := by
  unfold finishIn Parents.ancestries?
  simp only [Std.TreeMap.mem_iff_isSome_getElem?]
  split <;> rfl

theorem finishIn_ok (h : r.finishIn order = .ok registry) :
    r.parents[rootType]? = none
      ∧ (∀ type ∈ order,
        Ascent (r.parents[·]?) type (registry.ancestry type))
      ∧ ∀ type ∉ order, registry.ancestry type
        = if type = rootType then [rootType] else [type, rootType] := by
  rw [finishIn_eq] at h
  split at h
  case isTrue => cases h
  case isFalse hroot =>
    refine ⟨Option.not_isSome_iff_eq_none.mp hroot, ?_⟩
    cases hchains : r.parents.ancestriesOf? order with
    | error e =>
        rw [hchains] at h
        cases h
    | ok chains =>
        rw [hchains] at h
        cases h
        obtain ⟨hin, hout⟩ := Parents.foldlM_ok hchains
        refine ⟨fun type hmem => ?_, fun type hmem => ?_⟩
        · obtain ⟨chain, hchain, hfound⟩ := hin type hmem
          rw [Registry.ancestry, Ancestries.of, hfound]
          exact Parents.chain?_ok hchain
        · rw [Registry.ancestry, Ancestries.of, hout type hmem,
            Std.TreeMap.getElem?_insert]
          simp only [Std.LawfulEqCmp.compare_eq_iff_eq, @eq_comm _ rootType]
          split <;> simp

theorem finishIn_error (h : r.finishIn order = .error fault) :
    fault = .rootDeclared ∧ (r.parents[rootType]?).isSome = true
      ∨ r.parents[rootType]? = none
        ∧ ∃ type ∈ order, Unanchored (r.parents[·]?) type fault := by
  rw [finishIn_eq] at h
  split at h
  case isTrue hroot =>
    cases h
    exact .inl ⟨rfl, hroot⟩
  case isFalse hroot =>
    refine .inr ⟨Option.not_isSome_iff_eq_none.mp hroot, ?_⟩
    cases hchains : r.parents.ancestriesOf? order with
    | ok chains =>
        rw [hchains] at h
        cases h
    | error e =>
        rw [hchains] at h
        cases h
        obtain ⟨type, hmem, herror⟩ := Parents.foldlM_error hchains
        exact ⟨type, hmem, Parents.chain?_error herror⟩

/-- A chain of declared parents is the ancestry of its first type. -/
theorem finishIn_ascent (horder : order.Perm r.parents.keys)
    (h : r.finishIn order = .ok registry) {type : String}
    {chain : List String} (hchain : Ascent (r.parents[·]?) type chain) :
    registry.ancestry type = chain := by
  obtain ⟨hroot, hin, hout⟩ := finishIn_ok h
  cases hchain with
  | root =>
      have hmem : rootType ∉ order := by
        rw [mem_order_iff horder, hroot]
        exact Bool.false_ne_true
      rw [hout rootType hmem, if_pos rfl]
  | @step type parent chain hparent hrest =>
      have hmem : type ∈ order :=
        (mem_order_iff horder type).mpr (Option.isSome_of_eq_some hparent)
      exact (hin type hmem).unique hroot (.step hparent hrest)

/-- Each member of an ancestry has the rest of it. -/
theorem finishIn_rest (horder : order.Perm r.parents.keys)
    (h : r.finishIn order = .ok registry)
    {type member : String} {nearer farther : List String}
    (hchain : registry.ancestry type = nearer ++ member :: farther) :
    registry.ancestry member = member :: farther := by
  obtain ⟨hroot, hin, hout⟩ := finishIn_ok h
  by_cases hmem : type ∈ order
  · exact finishIn_ascent horder h ((hin type hmem).rest hchain)
  · have hlone := hout type hmem
    split at hlone
    case isTrue heq =>
      -- the only member is the type above all others itself
      have hself : Ascent (r.parents[·]?) type (registry.ancestry type) := by
        rw [hlone, heq]
        exact .root
      exact finishIn_ascent horder h (hself.rest hchain)
    case isFalse hne =>
      cases nearer with
      | nil =>
          obtain rfl : type = member :=
            (List.cons.inj (hlone.symm.trans hchain)).1
          exact hchain
      | cons first nearer =>
          have hrest := (List.cons.inj (hlone.symm.trans hchain)).2
          have hself : Ascent (r.parents[·]?) rootType [rootType] := .root
          exact finishIn_ascent horder h (hself.rest hrest)

/-- What finishing comes to, in whatever order the declared types are
looked at. -/
theorem finishIn_finishes (horder : order.Perm r.parents.keys) :
    Finishes (r.parents[·]?) (r.finishIn order) where
  ok_iff := by
    constructor
    · rintro ⟨registry, h⟩
      obtain ⟨hroot, hin, -⟩ := finishIn_ok h
      exact ⟨hroot, fun type hdeclared =>
        (hin type ((mem_order_iff horder type).mpr hdeclared)).reaches⟩
    · rintro ⟨hroot, hreaches⟩
      cases hout : r.finishIn order with
      | ok registry => exact ⟨registry, rfl⟩
      | error fault =>
          rcases finishIn_error hout with ⟨-, hdeclared⟩ | ⟨-, type, hmem, h⟩
          · rw [hroot] at hdeclared
            cases hdeclared
          · exact absurd
              (hreaches type ((mem_order_iff horder type).mp hmem))
              (h.not_reaches hroot)
  declared := by
    intro registry h type hdeclared
    obtain ⟨hroot, hin, -⟩ := finishIn_ok h
    have hchain := hin type ((mem_order_iff horder type).mpr hdeclared)
    exact ⟨hchain, hchain.nodup hroot⟩
  undeclared := by
    intro registry h type hnone hne
    have hmem : type ∉ order := by
      rw [mem_order_iff horder, hnone]
      exact Bool.false_ne_true
    rw [(finishIn_ok h).2.2 type hmem, if_neg hne]
  root := fun registry h => finishIn_ascent horder h .root
  rest := fun registry h type nearer member farther =>
    finishIn_rest horder h
  rootDeclared_iff := by
    constructor
    · intro h
      rcases finishIn_error h with ⟨-, hdeclared⟩ | ⟨-, type, -, h⟩
      · exact hdeclared
      · exact h.elim
    · intro hdeclared
      rw [finishIn_eq, if_pos hdeclared]
  cycle := by
    intro type member h
    rcases finishIn_error h with ⟨hfault, -⟩ | ⟨-, type', hmem, h⟩
    · cases hfault
    · obtain ⟨rfl, hmember, hcycle⟩ := h
      exact ⟨(mem_order_iff horder type).mp hmem, hmember, hcycle⟩
  gap := by
    intro ancestor type h
    rcases finishIn_error h with ⟨hfault, -⟩ | ⟨-, type', hmem, h⟩
    · cases hfault
    · obtain ⟨rfl, hancestor, hnone, hne⟩ := h
      have hdeclared := (mem_order_iff horder type).mp hmem
      refine ⟨hdeclared, ?_, hnone, hne⟩
      rcases hancestor.cases_head with rfl | ⟨parent, hparent, hrest⟩
      · exact absurd hnone (Option.isSome_iff_ne_none.mp hdeclared)
      · exact TransGen.head' hparent hrest
  not_described := by
    intro text h
    rcases finishIn_error h with ⟨hfault, -⟩ | ⟨-, type, -, h⟩
    · cases hfault
    · exact h

end Registrations

-- ======================================================= registrations

/-- One call that adds to a registry. -/
inductive Registration (E D : Type) where
  | declare (type parent : String)
  | tag (name : String) (kind : TagKind E D)
  | onBuilding (type name : String) (handler : BuildingHandler D)
  | onBinding (type name : String) (handler : BindingHandler E)

namespace Registration

variable {E D : Type}

def apply (r : Registrations E D) : Registration E D → Registrations E D
  | .declare type parent => r.declare type parent
  | .tag name kind => r.tag name kind
  | .onBuilding type name handler => r.onBuilding type name handler
  | .onBinding type name handler => r.onBinding type name handler

/-- The parent that a call gives a type. -/
def parentOf? (type : String) : Registration E D → Option String
  | .declare type' parent => if type' = type then some parent else none
  | .tag .. | .onBuilding .. | .onBinding .. => none

end Registration

/-- The parent that calls give a type: the last declaration counts. -/
def lastParent? {E D : Type} (calls : List (Registration E D))
    (type : String) : Option String :=
  calls.reverse.findSome? (·.parentOf? type)

namespace Registrations

variable {E D : Type}

/-- The registry after calls in this order. -/
def ofCalls (calls : List (Registration E D)) : Registrations E D :=
  calls.foldl Registration.apply start

@[simp] theorem reportIf_parents (r : Registrations E D)
    (condition : Bool) (text : String) :
    (r.reportIf condition text).parents = r.parents := by
  unfold reportIf
  split <;> rfl

@[simp] theorem onBuilding_parents (r : Registrations E D)
    (type name : String) (handler : BuildingHandler D) :
    (r.onBuilding type name handler).parents = r.parents :=
  reportIf_parents ..

@[simp] theorem onBinding_parents (r : Registrations E D)
    (type name : String) (handler : BindingHandler E) :
    (r.onBinding type name handler).parents = r.parents :=
  reportIf_parents ..

/-- One call gives a type the parent it names, if it names one. -/
theorem apply_parents (r : Registrations E D) (call : Registration E D)
    (type : String) :
    (call.apply r).parents[type]?
      = (call.parentOf? type).or r.parents[type]? := by
  cases call with
  | declare type' parent =>
      show (r.parents.insert type' parent)[type]? = _
      rw [Std.TreeMap.getElem?_insert, Registration.parentOf?]
      simp only [Std.LawfulEqCmp.compare_eq_iff_eq]
      split <;> rfl
  | tag name kind =>
      exact congrArg (·[type]?) (reportIf_parents ..)
  | onBuilding type' name handler =>
      exact congrArg (·[type]?) (onBuilding_parents ..)
  | onBinding type' name handler =>
      exact congrArg (·[type]?) (onBinding_parents ..)

theorem foldl_parents (calls : List (Registration E D))
    (r : Registrations E D) (type : String) :
    (calls.foldl Registration.apply r).parents[type]?
      = (lastParent? calls type).or r.parents[type]? := by
  induction calls generalizing r with
  | nil => rfl
  | cons call calls ih =>
      have hlast : lastParent? (call :: calls) type
          = (lastParent? calls type).or (call.parentOf? type) := by
        rw [lastParent?, List.reverse_cons, List.findSome?_append,
          List.findSome?_singleton]
        rfl
      rw [List.foldl_cons, ih, apply_parents, hlast, Option.or_assoc]

theorem ofCalls_parents (calls : List (Registration E D)) (type : String) :
    (ofCalls calls).parents[type]? = lastParent? calls type := by
  have hstart : (start : Registrations E D).parents = ∅ := by
    rw [start, onBinding_parents, onBinding_parents]
  rw [ofCalls, foldl_parents, hstart, Std.TreeMap.getElem?_emptyc,
    Option.or_none]

/-- What finishing comes to after any calls, in whatever order the
declared types are looked at. -/
theorem finishIn_ofCalls (calls : List (Registration E D))
    (order : List String)
    (horder : order.Perm (ofCalls calls).parents.keys) :
    Finishes (lastParent? calls) ((ofCalls calls).finishIn order) := by
  have hfinishes := finishIn_finishes horder
  have hparents : ((ofCalls calls).parents[·]?) = lastParent? calls :=
    funext (ofCalls_parents calls)
  rw [hparents] at hfinishes
  exact hfinishes

/-- Two types below each other, until one is declared again. -/
def turned : List (Registration Unit Unit) :=
  [.declare "leaf" "twig", .declare "twig" "leaf", .declare "twig" rootType]

theorem finishIn_ofCalls_turned :
    ["twig", "leaf"].Perm (ofCalls turned).parents.keys
      ∧ Finishes (lastParent? turned)
        ((ofCalls turned).finishIn ["twig", "leaf"])
      ∧ ((ofCalls turned).finishIn ["twig", "leaf"]).toOption.map
          (·.ancestry "leaf")
        = some ["leaf", "twig", rootType] := by
  have horder : ["twig", "leaf"].Perm (ofCalls turned).parents.keys := by
    decide +kernel
  exact ⟨horder, finishIn_ofCalls turned ["twig", "leaf"] horder,
    by decide +kernel⟩

/-- A type that is on no cycle may run into one. -/
example :
    (match (ofCalls (E := Unit) (D := Unit) [.declare "leaf" "twig",
        .declare "twig" "branch", .declare "branch" "twig"]).finishIn
          ["leaf", "twig", "branch"] with
      | .ok _ => none
      | .error fault => some fault.message)
    = some "type ancestry of \"leaf\" contains a cycle through \"twig\"" := by
  decide +kernel

end Registrations

end EntityMarkup
