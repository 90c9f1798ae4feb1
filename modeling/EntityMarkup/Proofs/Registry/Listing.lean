/-
The listing of a type in full. Its rows are those that look-ups find, a
row's owner is the first type of the ancestry that registers the
attribute, and the rows stand in the order of their names, building before
binding.

A table need not give out its names in any order. `Registry.describeIn`
goes through the ancestry from the near end, takes each name where it
first comes up, and sorts what it has gathered; whatever the order of the
names of each type, the rows come out as they are listed
(`describeIn_eq`).
-/
import EntityMarkup.Proofs.Registry.Describe
import EntityMarkup.Proofs.Registry.Resolution
import Mathlib.Data.List.Nodup

namespace EntityMarkup

-- ======================================================= order of rows

/-- Building comes before binding. -/
def Phase.rank : Phase → Nat
  | .building => 0
  | .binding => 1

namespace AttributeInfo

/-- By name in the order of code points, and then by phase. -/
def order : AttributeInfo → AttributeInfo → Ordering :=
  compareLex (compareOn (·.name)) (compareOn (·.phase.rank))

instance : Std.TransCmp order :=
  inferInstanceAs (Std.TransCmp (compareLex _ _))

def le (a b : AttributeInfo) : Bool := (order a b).isLE

/-- By name, or of the same name and by phase. -/
def Before (a b : AttributeInfo) : Prop :=
  a.name < b.name
    ∨ a.name = b.name ∧ a.phase = .building ∧ b.phase = .binding

variable {a b c : AttributeInfo}

theorem le_total (a b : AttributeInfo) : (le a b || le b a) = true := by
  have hswap : order b a = (order a b).swap := Std.OrientedCmp.eq_swap
  unfold le
  rw [hswap]
  cases order a b <;> rfl

theorem le_trans (h : le a b = true) (h' : le b c = true) :
    le a c = true :=
  Std.TransCmp.isLE_trans h h'

theorem compare_eq_lt_iff (a b : String) :
    compare a b = .lt ↔ a < b :=
  compareOfLessAndEq_eq_lt

theorem Before.irrefl : ¬ Before a a := by
  rintro (hname | ⟨-, hfirst, hlast⟩)
  · exact String.lt_irrefl a.name hname
  · cases hfirst.symm.trans hlast

theorem Before.le (h : Before a b) : le a b = true := by
  unfold AttributeInfo.le order compareLex compareOn
  rcases h with hname | ⟨hname, hfirst, hlast⟩
  · rw [(compare_eq_lt_iff a.name b.name).mpr hname]
    rfl
  · dsimp only
    have hself : compare b.name b.name = .eq := Std.ReflCmp.compare_self
    rw [hname, hself, hfirst, hlast]
    rfl

/-- Rows that may stand in both orders are for the same attribute and
phase. -/
theorem le_antisymm (h : le a b = true) (h' : le b a = true) :
    a.name = b.name ∧ a.phase = b.phase := by
  have heq : order a b = .eq := Std.OrientedCmp.isLE_antisymm h h'
  obtain ⟨hname, hphase⟩ := compareLex_eq_eq.mp heq
  refine ⟨Std.LawfulEqCmp.eq_of_compare hname, ?_⟩
  have hrank : a.phase.rank = b.phase.rank :=
    Std.LawfulEqCmp.eq_of_compare hphase
  cases hfirst : a.phase <;> cases hlast : b.phase <;>
    simp_all [Phase.rank]

end AttributeInfo

-- =================================================== gathering of names

namespace HandlerTable

variable {H : Type} {table : HandlerTable H}
  {namesOf : String → List String} {chain seen : List String}
  {name owner : String}

/-- The names that come up along a chain of types and have not been seen,
each with the first type that has it. -/
def gather (namesOf : String → List String) :
    List String → List String → List (String × String)
  | [], _ => []
  | type :: chain, seen =>
    let fresh := (namesOf type).filter (· ∉ seen)
    fresh.map (·, type) ++ gather namesOf chain (fresh ++ seen)

/-- What is gathered has not been seen, and is found by look-ups. -/
theorem mem_gather_iff
    (hnames : ∀ type : String,
      (namesOf type).Perm (table[type]?.getD ∅).keys) :
    (name, owner) ∈ gather namesOf chain seen
      ↔ name ∉ seen ∧ (table.resolve chain name).map (·.1) = some owner := by
  induction chain generalizing seen with
  | nil => simp [gather, resolve]
  | cons type chain ih =>
      have hfresh : ∀ n, n ∈ (namesOf type).filter (· ∉ seen)
          ↔ (table.get? type n).isSome = true ∧ n ∉ seen := by
        intro n
        rw [List.mem_filter, (hnames type).mem_iff, mem_keys_iff,
          decide_eq_true_iff]
      have hpairs : (name, owner) ∈ ((namesOf type).filter (· ∉ seen)).map
            (·, type)
          ↔ ((table.get? type name).isSome = true ∧ name ∉ seen)
            ∧ type = owner := by
        rw [← hfresh, List.mem_map]
        constructor
        · rintro ⟨n, hn, heq⟩
          cases heq
          exact ⟨hn, rfl⟩
        · rintro ⟨hn, rfl⟩
          exact ⟨name, hn, rfl⟩
      rw [gather, List.mem_append, hpairs, ih, List.mem_append, hfresh]
      cases hget : table.get? type name with
      | some handler =>
          -- the name comes up here, unless it has been seen
          rw [resolve_cons_some hget]
          simp only [Option.isSome_some, true_and, Option.map_some,
            Option.some.injEq]
          tauto
      | none =>
          rw [resolve_cons_none hget]
          simp

/-- No name is gathered twice. -/
theorem nodup_gather
    (hnames : ∀ type : String,
      (namesOf type).Perm (table[type]?.getD ∅).keys) :
    ((gather namesOf chain seen).map (·.1)).Nodup := by
  induction chain generalizing seen with
  | nil => exact .nil
  | cons type chain ih =>
      have hfirst : (((namesOf type).filter (· ∉ seen)).map
            ((·, type) : String → String × String)).map (·.1)
          = (namesOf type).filter (· ∉ seen) := by
        rw [List.map_map]
        exact List.map_id _
      have hnodup : (namesOf type).Nodup :=
        (hnames type).nodup_iff.mpr Std.TreeMap.nodup_keys
      rw [gather, List.map_append, hfirst, List.nodup_append]
      refine ⟨hnodup.filter _, ih, ?_⟩
      rintro name hname name' hname' rfl
      obtain ⟨⟨found, owner⟩, hmem, rfl⟩ := List.mem_map.mp hname'
      exact ((mem_gather_iff hnames).mp hmem).1
        (List.mem_append_left _ hname)

end HandlerTable

-- ============================================================= listings

namespace Registry

variable {E D : Type} (registry : Registry E D)

/-- The attributes that a type itself registers in a phase. -/
def ownNames (registry : Registry E D) : Phase → String → List String
  | .building, type => (registry.building[type]?.getD ∅).keys
  | .binding, type => (registry.binding[type]?.getD ∅).keys

/-- The rows that come up in a phase along the ancestry of a type, when
the own names of each type are in the given order. -/
def gathered (registry : Registry E D)
    (namesOf : Phase → String → List String) (type : String)
    (phase : Phase) : List AttributeInfo :=
  (HandlerTable.gather (namesOf phase) (registry.ancestry type) []).map
    fun found => ⟨found.1, phase, found.2⟩

/-- The listing of a type that gathers the rows of both phases and then
sorts them. -/
def describeIn (registry : Registry E D)
    (namesOf : Phase → String → List String) (type : String) :
    List AttributeInfo :=
  (registry.gathered namesOf type .building
    ++ registry.gathered namesOf type .binding).mergeSort AttributeInfo.le

/-- The rows for one name, if there are any. -/
theorem pairwise_rows (name : String) (building binding : Option String) :
    (building.toList.map (AttributeInfo.mk name .building)
      ++ binding.toList.map (AttributeInfo.mk name .binding)).Pairwise
        AttributeInfo.Before := by
  cases building with
  | none => cases binding <;> simp
  | some owner =>
      cases binding with
      | none => simp
      | some owner' =>
          exact List.pairwise_pair.mpr (.inr ⟨rfl, rfl, rfl⟩)

theorem name_of_mem_rows {name : String} {building binding : Option String}
    {row : AttributeInfo}
    (h : row ∈ building.toList.map (AttributeInfo.mk name .building)
      ++ binding.toList.map (AttributeInfo.mk name .binding)) :
    row.name = name := by
  rcases List.mem_append.mp h with h | h
  · obtain ⟨owner, -, rfl⟩ := List.mem_map.mp h
    rfl
  · obtain ⟨owner, -, rfl⟩ := List.mem_map.mp h
    rfl

/-- The rows of a listing are in order. -/
theorem pairwise_describe (type : String) :
    (registry.describe type).Pairwise AttributeInfo.Before := by
  unfold describe
  dsimp only
  rw [List.pairwise_flatMap]
  refine ⟨fun name _ => pairwise_rows name _ _, ?_⟩
  refine Std.TreeSet.ordered_toList.imp fun hlt row hrow row' hrow' => ?_
  left
  rw [name_of_mem_rows hrow, name_of_mem_rows hrow']
  exact (AttributeInfo.compare_eq_lt_iff _ _).mp hlt

theorem nodup_describe (type : String) :
    (registry.describe type).Nodup := by
  refine (registry.pairwise_describe type).imp fun hbefore heq => ?_
  rw [heq] at hbefore
  exact AttributeInfo.Before.irrefl hbefore

/-- A listing has one row for an attribute in a phase. -/
theorem describe_unique {type : String} {row row' : AttributeInfo}
    (h : row ∈ registry.describe type) (h' : row' ∈ registry.describe type)
    (hname : row.name = row'.name) (hphase : row.phase = row'.phase) :
    row = row' := by
  obtain ⟨name, phase, owner⟩ := row
  obtain ⟨name', phase', owner'⟩ := row'
  cases hname
  cases hphase
  have howner := (registry.mem_describe type _).mp h
  have howner' := (registry.mem_describe type _).mp h'
  cases howner.symm.trans howner'
  rfl

section

variable {registry} {type : String} {namesOf : Phase → String → List String}
  (hnames : ∀ phase t,
    (namesOf phase t).Perm (registry.ownNames phase t))
include hnames

/-- What is gathered in a phase are the rows that look-ups find there. -/
theorem mem_gathered_iff (phase : Phase) (row : AttributeInfo) :
    row ∈ registry.gathered namesOf type phase
      ↔ row.phase = phase
        ∧ registry.owner? type phase row.name = some row.declaredBy := by
  have hfound : ∀ name owner, (name, owner) ∈ HandlerTable.gather
        (namesOf phase) (registry.ancestry type) []
      ↔ registry.owner? type phase name = some owner := by
    intro name owner
    cases phase with
    | building =>
        rw [HandlerTable.mem_gather_iff (hnames .building)]
        exact and_iff_right List.not_mem_nil
    | binding =>
        rw [HandlerTable.mem_gather_iff (hnames .binding)]
        exact and_iff_right List.not_mem_nil
  constructor
  · intro hmem
    obtain ⟨⟨name, owner⟩, hpair, rfl⟩ := List.mem_map.mp hmem
    exact ⟨rfl, (hfound name owner).mp hpair⟩
  · rintro ⟨rfl, howner⟩
    exact List.mem_map.mpr
      ⟨(row.name, row.declaredBy), (hfound _ _).mpr howner, rfl⟩

theorem nodup_gathered (phase : Phase) :
    (registry.gathered namesOf type phase).Nodup := by
  have hnodup : ((registry.gathered namesOf type phase).map
      (·.name)).Nodup := by
    have hsame : (registry.gathered namesOf type phase).map (·.name)
        = (HandlerTable.gather (namesOf phase) (registry.ancestry type)
          []).map (·.1) := by
      rw [gathered, List.map_map]
      rfl
    rw [hsame]
    cases phase with
    | building => exact HandlerTable.nodup_gather (hnames .building)
    | binding => exact HandlerTable.nodup_gather (hnames .binding)
  exact hnodup.of_map

/-- Whatever the order of the names, the rows come out as they are
listed. -/
theorem describeIn_eq :
    registry.describeIn namesOf type = registry.describe type := by
  have hmem : ∀ row, row ∈ registry.gathered namesOf type .building
        ++ registry.gathered namesOf type .binding
      ↔ row ∈ registry.describe type := by
    intro row
    rw [List.mem_append, mem_gathered_iff hnames, mem_gathered_iff hnames,
      mem_describe]
    cases hphase : row.phase <;> simp
  have hnodup : (registry.gathered namesOf type .building
      ++ registry.gathered namesOf type .binding).Nodup := by
    refine List.nodup_append.mpr ⟨nodup_gathered hnames .building,
      nodup_gathered hnames .binding, ?_⟩
    rintro row hrow row' hrow' rfl
    have hfirst := ((mem_gathered_iff hnames _ _).mp hrow).1
    have hlast := ((mem_gathered_iff hnames _ _).mp hrow').1
    cases hfirst.symm.trans hlast
  have hperm : (registry.describeIn namesOf type).Perm
      (registry.describe type) := by
    unfold describeIn
    exact (List.mergeSort_perm _ _).trans ((List.perm_ext_iff_of_nodup hnodup
      (registry.nodup_describe type)).mpr hmem)
  have hsorted : (registry.describeIn namesOf type).Pairwise
      fun a b => a.le b = true := by
    unfold describeIn
    exact @List.pairwise_mergeSort _ AttributeInfo.le
      (fun _ _ _ => AttributeInfo.le_trans) AttributeInfo.le_total _
  refine hperm.eq_of_pairwise (fun a b ha hb hle hle' => ?_) hsorted
    ((registry.pairwise_describe type).imp AttributeInfo.Before.le)
  obtain ⟨hname, hphase⟩ := AttributeInfo.le_antisymm hle hle'
  exact registry.describe_unique (hperm.mem_iff.mp ha) hb hname hphase

end

theorem map_fst_eq_some_iff {H : Type} {found : Option (String × H)}
    {owner : String} :
    found.map (·.1) = some owner
      ↔ ∃ handler, found = some (owner, handler) := by
  rw [Option.map_eq_some_iff]
  constructor
  · rintro ⟨⟨type, handler⟩, hfound, rfl⟩
    exact ⟨handler, hfound⟩
  · rintro ⟨handler, hfound⟩
    exact ⟨(owner, handler), hfound, rfl⟩

/-- A type has a row for an attribute in a phase exactly if a look-up finds
a handler there, which is that of the first type of the ancestry with a
registration; the row names this type. Rows are in order, one for an
attribute in a phase, in whatever order the tables give out their names. -/
theorem describe_rows (type : String) :
    (∀ name owner, ⟨name, .building, owner⟩ ∈ registry.describe type
        ↔ ∃ handler, registry.building? type name = some (owner, handler))
      ∧ (∀ name owner, ⟨name, .binding, owner⟩ ∈ registry.describe type
        ↔ ∃ handler, registry.binding? type name = some (owner, handler))
      ∧ (∀ name owner handler,
        registry.building? type name = some (owner, handler)
          ↔ registry.building.Clear (registry.ancestry type) name owner
            ∧ registry.building.get? owner name = some handler)
      ∧ (∀ name owner handler,
        registry.binding? type name = some (owner, handler)
          ↔ registry.binding.Clear (registry.ancestry type) name owner
            ∧ registry.binding.get? owner name = some handler)
      ∧ (∀ row ∈ registry.describe type, ∀ row' ∈ registry.describe type,
        row.name = row'.name → row.phase = row'.phase → row = row')
      ∧ (registry.describe type).Pairwise AttributeInfo.Before
      ∧ ∀ namesOf, (∀ phase t,
          (namesOf phase t).Perm (registry.ownNames phase t)) →
        registry.describeIn namesOf type = registry.describe type := by
  refine ⟨fun name owner => ?_, fun name owner => ?_,
    fun name owner handler => HandlerTable.resolve_eq_some_iff,
    fun name owner handler => HandlerTable.resolve_eq_some_iff,
    fun row h row' h' => registry.describe_unique h h',
    registry.pairwise_describe type, fun namesOf => describeIn_eq⟩
  · rw [mem_describe]
    exact map_fst_eq_some_iff
  · rw [mem_describe]
    exact map_fst_eq_some_iff

/-- Groups, which are below widgets. Both have a handler for the style. -/
def groups : Registry Unit Unit where
  ancestries := Std.TreeMap.insert (Std.TreeMap.insert ∅ rootType [rootType])
    "group" ["group", "widget", rootType]
  kinds := ∅
  building :=
    HandlerTable.insert ∅ "widget" "style" (Registrations.settle true)
      |>.insert "widget" "tone" (Registrations.settle true)
      |>.insert "group" "style" (Registrations.settle false)
  binding := HandlerTable.insert ∅ "widget" "style" fun _ _ => pure ()

/-- The rows of groups, with the names of each type from the last to the
first. -/
theorem describe_rows_groups :
    let namesOf : Phase → String → List String :=
      fun phase t => (groups.ownNames phase t).reverse
    (∀ phase t, (namesOf phase t).Perm (groups.ownNames phase t))
      ∧ groups.describeIn namesOf "group"
        = [⟨"style", .building, "group"⟩, ⟨"style", .binding, "widget"⟩,
          ⟨"tone", .building, "widget"⟩] := by
  intro namesOf
  have hnames : ∀ phase t,
      (namesOf phase t).Perm (groups.ownNames phase t) :=
    fun phase t => List.reverse_perm _
  obtain ⟨-, -, -, -, -, -, hsame⟩ := describe_rows groups "group"
  refine ⟨hnames, ?_⟩
  rw [hsame namesOf hnames]
  decide +kernel

end Registry

end EntityMarkup
