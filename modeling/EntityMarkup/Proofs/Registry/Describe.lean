/-
What a registry lists for a type is what it finds. A listing goes through
the ancestry of the type from its far end and lets nearer registrations
replace farther ones; a look-up goes through it from the near end and
stops at the first. Both come to the same owner for each attribute
(`HandlerTable.visible_getElem?`), so a type has a row for an attribute
in a phase exactly if that phase has a handler for it
(`Registry.mem_describe`).
-/
import EntityMarkup.Registry.Basic

namespace EntityMarkup

namespace HandlerTable

variable {H : Type}

/-- Names that are given one owner have it, whoever owned them before. -/
theorem getElem?_insertAll (owners : Std.TreeMap String String)
    (type : String) (names : List String) (name : String) :
    (names.foldl (fun owners name => owners.insert name type)
        owners)[name]?
      = if name ∈ names then some type else owners[name]? := by
  induction names generalizing owners with
  | nil => rfl
  | cons first rest ih =>
      rw [List.foldl_cons, ih, Std.TreeMap.getElem?_insert]
      by_cases hrest : name ∈ rest
      · rw [if_pos hrest, if_pos (List.mem_cons_of_mem _ hrest)]
      · rw [if_neg hrest]
        simp only [Std.LawfulEqCmp.compare_eq_iff_eq, List.mem_cons, hrest,
          or_false, @eq_comm _ name first]

/-- The names that a type registers are those it has a handler for. -/
theorem mem_keys_iff (table : HandlerTable H) (type name : String) :
    name ∈ (table[type]?.getD ∅).keys
      ↔ (table.get? type name).isSome = true := by
  rw [Std.TreeMap.mem_keys, Std.TreeMap.mem_iff_isSome_getElem?]
  unfold get?
  cases table[type]? with
  | none => simp
  | some handlers => rfl

/-- An attribute is listed with the owner that a look-up finds. -/
theorem visible_getElem? (table : HandlerTable H) (chain : List String)
    (name : String) :
    (table.visible chain)[name]? = (table.resolve chain name).map (·.1) := by
  induction chain with
  | nil => rfl
  | cons type chain ih =>
      have hvisible : table.visible (type :: chain)
          = ((table[type]?.getD ∅).keys).foldl
            (fun owners name => owners.insert name type)
            (table.visible chain) := rfl
      rw [hvisible, getElem?_insertAll, resolve, List.findSome?_cons]
      cases hown : table.get? type name with
      | none =>
          have hmem : name ∉ (table[type]?.getD ∅).keys := by
            rw [mem_keys_iff, hown]
            exact Bool.false_ne_true
          rw [if_neg hmem, ih]
          rfl
      | some handler =>
          have hmem : name ∈ (table[type]?.getD ∅).keys := by
            rw [mem_keys_iff, hown]
            rfl
          rw [if_pos hmem]
          rfl

end HandlerTable

namespace Registry

variable {E D : Type} (registry : Registry E D)

/-- The type whose handler takes an attribute of a type in a phase, if
there is one. -/
def owner? (type : String) : Phase → String → Option String
  | .building, name => (registry.building? type name).map (·.1)
  | .binding, name => (registry.binding? type name).map (·.1)

/-- An owner of the attribute in one of the phases puts it on the list. -/
theorem mem_names {building binding : Std.TreeMap String String}
    {name owner : String}
    (h : building[name]? = some owner ∨ binding[name]? = some owner) :
    name ∈ (Std.TreeSet.ofList (building.keys ++ binding.keys)).toList := by
  rw [Std.TreeSet.mem_toList, Std.TreeSet.mem_ofList,
    List.contains_iff_mem, List.mem_append, Std.TreeMap.mem_keys,
    Std.TreeMap.mem_keys, Std.TreeMap.mem_iff_isSome_getElem?,
    Std.TreeMap.mem_iff_isSome_getElem?]
  rcases h with h | h
  · rw [h]
    exact .inl rfl
  · rw [h]
    exact .inr rfl

/-- A type has the rows that look-ups find, and no others. -/
theorem mem_describe (type : String) (row : AttributeInfo) :
    row ∈ registry.describe type
      ↔ registry.owner? type row.phase row.name = some row.declaredBy := by
  obtain ⟨name, phase, declaredBy⟩ := row
  have hbuilding := HandlerTable.visible_getElem? registry.building
    (registry.ancestry type) name
  have hbinding := HandlerTable.visible_getElem? registry.binding
    (registry.ancestry type) name
  constructor
  · intro hrow
    obtain ⟨listed, -, hrow⟩ := List.mem_flatMap.mp hrow
    rcases List.mem_append.mp hrow with hrow | hrow
    · obtain ⟨owner, howner, heq⟩ := List.mem_map.mp hrow
      cases heq
      exact hbuilding.symm.trans (Option.mem_toList.mp howner)
    · obtain ⟨owner, howner, heq⟩ := List.mem_map.mp hrow
      cases heq
      exact hbinding.symm.trans (Option.mem_toList.mp howner)
  · intro howner
    cases phase with
    | building =>
        have hfound := hbuilding.trans howner
        exact List.mem_flatMap.mpr ⟨name, mem_names (.inl hfound),
          List.mem_append_left _ (List.mem_map.mpr
            ⟨declaredBy, Option.mem_toList.mpr hfound, rfl⟩)⟩
    | binding =>
        have hfound := hbinding.trans howner
        exact List.mem_flatMap.mpr ⟨name, mem_names (.inr hfound),
          List.mem_append_right _ (List.mem_map.mpr
            ⟨declaredBy, Option.mem_toList.mpr hfound, rfl⟩)⟩

-- ================================================= attributes of a type

/-- The type has a row for the attribute in the phase. -/
def Lists (type : String) (phase : Phase) (name : String) : Prop :=
  ∃ row ∈ registry.describe type, row.phase = phase ∧ row.name = name

instance (type : String) (phase : Phase) (name : String) :
    Decidable (registry.Lists type phase name) :=
  inferInstanceAs (Decidable (∃ row ∈ _, _))

theorem lists_iff (type : String) (phase : Phase) (name : String) :
    registry.Lists type phase name
      ↔ (registry.owner? type phase name).isSome = true := by
  constructor
  · rintro ⟨row, hrow, rfl, rfl⟩
    rw [(registry.mem_describe type row).mp hrow]
    rfl
  · intro hsome
    obtain ⟨owner, howner⟩ := Option.isSome_iff_exists.mp hsome
    exact ⟨⟨name, phase, owner⟩,
      (registry.mem_describe type _).mpr howner, rfl, rfl⟩

/-- An attribute has a row in the binding phase if it has a binding
handler. -/
theorem lists_binding_iff (type name : String) :
    registry.Lists type .binding name
      ↔ (registry.binding? type name).isSome = true := by
  rw [lists_iff, owner?, Option.isSome_map]

/-- No row is about the attribute if there is none in either phase. -/
theorem forall_describe_ne_iff (type name : String) :
    (∀ row ∈ registry.describe type, row.name ≠ name)
      ↔ ∀ phase, ¬ registry.Lists type phase name := by
  constructor
  · rintro h phase ⟨row, hrow, -, hname⟩
    exact h row hrow hname
  · intro h row hrow hname
    exact h row.phase ⟨row, hrow, rfl, hname⟩

end Registry

end EntityMarkup
