/-
What holds of everything that is registered. A registry is put together
one registration at a time, so a property of all its kinds and binding
handlers is shown one registration at a time (`Registrations.Holds`), and
then holds of every kind and every handler that the finished registry
finds.
-/
import EntityMarkup.Registry.Basic

namespace EntityMarkup

namespace HandlerTable

variable {H : Type}

/-- The handlers of a table after one more registration. -/
theorem get?_insert (table : HandlerTable H) (type name : String)
    (handler : H) (type' name' : String) :
    (table.insert type name handler).get? type' name'
      = if type = type' ∧ name = name' then some handler
        else table.get? type' name' := by
  unfold get? insert
  rw [Std.TreeMap.getElem?_insert]
  by_cases htype : type = type'
  · subst htype
    simp only [Std.ReflCmp.compare_self, if_true, true_and]
    show ((table[type]?.getD ∅).insert name handler)[name']? = _
    rw [Std.TreeMap.getElem?_insert]
    by_cases hname : name = name'
    · simp [hname]
    · simp only [Std.LawfulEqCmp.compare_eq_iff_eq, hname, if_false]
      cases table[type]? with
      | none => simp
      | some handlers => rfl
  · simp only [Std.LawfulEqCmp.compare_eq_iff_eq, htype, false_and,
      if_false]

@[simp] theorem get?_empty (type name : String) :
    (∅ : HandlerTable H).get? type name = none := by
  simp [get?]

/-- Every handler of the table has the property. -/
def All (P : H → Prop) (table : HandlerTable H) : Prop :=
  ∀ type name handler, table.get? type name = some handler → P handler

variable {P : H → Prop} {table : HandlerTable H}

theorem All.empty : All P ∅ := by
  intro type name handler h
  rw [get?_empty] at h
  cases h

theorem All.insert (h : table.All P) (type name : String) {handler : H}
    (hhandler : P handler) : (table.insert type name handler).All P := by
  intro type' name' found hfound
  rw [get?_insert] at hfound
  split at hfound
  · cases hfound
    exact hhandler
  · exact h type' name' found hfound

/-- What is found along a chain of types is registered for its owner,
which is one of the chain. -/
theorem get?_of_resolve {chain : List String} {name owner : String}
    {handler : H}
    (hfound : table.resolve chain name = some (owner, handler)) :
    owner ∈ chain ∧ table.get? owner name = some handler := by
  obtain ⟨type, hmem, htype⟩ := List.exists_of_findSome?_eq_some hfound
  obtain ⟨found, hget, heq⟩ := Option.map_eq_some_iff.mp htype
  cases heq
  exact ⟨hmem, hget⟩

/-- Where nothing is found, nothing is registered for any of the chain. -/
theorem get?_of_resolve_none {chain : List String} {name : String}
    (hnone : table.resolve chain name = none) :
    ∀ type ∈ chain, table.get? type name = none := by
  intro type hmem
  exact Option.map_eq_none_iff.mp
    (List.findSome?_eq_none_iff.mp hnone type hmem)

/-- So has every handler that is found along a chain of types. -/
theorem All.resolve (h : table.All P) {chain : List String}
    {name owner : String} {handler : H}
    (hfound : table.resolve chain name = some (owner, handler)) :
    P handler :=
  h owner name handler (get?_of_resolve hfound).2

end HandlerTable

namespace Registrations

variable {E D : Type}

-- ================================================== what is registered

section

variable (r : Registrations E D) (type name parent : String)
  (kind : TagKind E D) (build : BuildingHandler D)
  (bind : BindingHandler E)

@[simp] theorem reportIf_tables (condition : Bool) (text : String) :
    (r.reportIf condition text).kinds = r.kinds
      ∧ (r.reportIf condition text).building = r.building
      ∧ (r.reportIf condition text).binding = r.binding := by
  unfold reportIf
  split <;> exact ⟨rfl, rfl, rfl⟩

@[simp] theorem declare_tables :
    (r.declare type parent).kinds = r.kinds
      ∧ (r.declare type parent).building = r.building
      ∧ (r.declare type parent).binding = r.binding :=
  ⟨rfl, rfl, rfl⟩

@[simp] theorem tag_tables :
    (r.tag name kind).kinds = r.kinds.insert name kind
      ∧ (r.tag name kind).building = r.building
      ∧ (r.tag name kind).binding = r.binding :=
  reportIf_tables ..

@[simp] theorem onBuilding_tables :
    (r.onBuilding type name build).kinds = r.kinds
      ∧ (r.onBuilding type name build).building
        = r.building.insert type name build
      ∧ (r.onBuilding type name build).binding = r.binding :=
  reportIf_tables ..

@[simp] theorem onBinding_tables :
    (r.onBinding type name bind).kinds = r.kinds
      ∧ (r.onBinding type name bind).building = r.building
      ∧ (r.onBinding type name bind).binding
        = r.binding.insert type name bind :=
  reportIf_tables ..

end

/-- A finished registry has the tables that were populated. -/
theorem finishIn_tables {r : Registrations E D} {registry : Registry E D}
    {order : List String} (h : r.finishIn order = .ok registry) :
    registry.kinds = r.kinds ∧ registry.building = r.building
      ∧ registry.binding = r.binding := by
  unfold finishIn at h
  cases hchains : r.parents.ancestries? order with
  | error e =>
      rw [hchains] at h
      cases h
  | ok ancestries =>
      rw [hchains] at h
      cases h
      exact ⟨rfl, rfl, rfl⟩

theorem finish_tables {r : Registrations E D} {registry : Registry E D}
    (h : r.finish = .ok registry) :
    registry.kinds = r.kinds ∧ registry.building = r.building
      ∧ registry.binding = r.binding :=
  finishIn_tables h

-- ============================================= what holds of all of it

/-- All kinds have one property and all binding handlers another. -/
structure Holds (K : TagKind E D → Prop) (B : BindingHandler E → Prop)
    (r : Registrations E D) : Prop where
  kinds : ∀ (name : String) (kind : TagKind E D),
    r.kinds[name]? = some kind → K kind
  binding : r.binding.All B

variable {K : TagKind E D → Prop} {B : BindingHandler E → Prop}
  {r : Registrations E D}

theorem Holds.reportIf (h : r.Holds K B) (condition : Bool)
    (text : String) : (r.reportIf condition text).Holds K B := by
  unfold Registrations.reportIf
  split
  · exact ⟨h.kinds, h.binding⟩
  · exact h

theorem Holds.declare (h : r.Holds K B) (type parent : String) :
    (r.declare type parent).Holds K B :=
  ⟨h.kinds, h.binding⟩

theorem Holds.tag (h : r.Holds K B) (name : String)
    {kind : TagKind E D} (hkind : K kind) : (r.tag name kind).Holds K B := by
  have hadded : Holds K B { r with kinds := r.kinds.insert name kind } := by
    refine ⟨fun name' kind' hfound => ?_, h.binding⟩
    rw [Std.TreeMap.getElem?_insert] at hfound
    split at hfound
    · cases hfound
      exact hkind
    · exact h.kinds name' kind' hfound
  exact hadded.reportIf _ _

theorem Holds.onBuilding (h : r.Holds K B) (type name : String)
    (handler : BuildingHandler D) :
    (r.onBuilding type name handler).Holds K B := by
  have hadded : Holds K B
      { r with building := r.building.insert type name handler } :=
    ⟨h.kinds, h.binding⟩
  exact hadded.reportIf _ _

theorem Holds.onBinding (h : r.Holds K B) (type name : String)
    {handler : BindingHandler E} (hhandler : B handler) :
    (r.onBinding type name handler).Holds K B := by
  have hadded : Holds K B
      { r with binding := r.binding.insert type name handler } :=
    ⟨h.kinds, h.binding.insert type name hhandler⟩
  exact hadded.reportIf _ _

/-- What every registry starts with are two requests for actions. -/
theorem Holds.start (h : ∀ moment, B (BindingHandler.hookTrimmed moment)) :
    (Registrations.start : Registrations E D).Holds K B := by
  have hempty : Holds K B (⟨∅, ∅, ∅, ∅, []⟩ : Registrations E D) := by
    refine ⟨fun name kind hkind => ?_, .empty⟩
    simp at hkind
  exact (hempty.onBinding _ _ (h .create)).onBinding _ _ (h .close)

end Registrations

end EntityMarkup
