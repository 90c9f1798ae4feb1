/-
Ancestries of entity types. Each declared type names a parent, and the
type `entity` is above all others. The ancestry of a type is the chain
from the type itself to `entity`, the most specific first. A set of
declarations is sound when every declared type has one: when `entity`
itself is not declared, no chain runs into a cycle, and none ends at a
type that is not declared.
-/
import EntityMarkup.Text.Quoted
import Std.Data.TreeMap

namespace EntityMarkup

/-- The type above all others. -/
def rootType : String := "entity"

/-- What is wrong with a registry's declarations. -/
inductive RegistryFault where
  /-- The type above all others has been declared. -/
  | rootDeclared
  /-- The ancestry of a type comes by another type a second time. -/
  | cycle (type member : String)
  /-- The ancestry of a type ends at a type that is not declared. -/
  | undeclared (ancestor type : String)
  /-- A fault described by its reporter. -/
  | described (text : String)
deriving DecidableEq, Repr

/-- The fault in words. -/
def RegistryFault.message : RegistryFault → String
  | .rootDeclared => Text.quoted rootType ++ " cannot be redeclared"
  | .cycle type member =>
    "type ancestry of " ++ Text.quoted type ++ " contains a cycle through "
      ++ Text.quoted member
  | .undeclared ancestor type =>
    Text.quoted ancestor ++ " (ancestor of " ++ Text.quoted type
      ++ ") was never declared"
  | .described text => text

/-- Declared types and their parents. -/
abbrev Parents := Std.TreeMap String String

/-- Types and their ancestries. -/
abbrev Ancestries := Std.TreeMap String (List String)

namespace Parents

/-- A declaration that is taken out leaves fewer. -/
theorem size_erase_lt {parents : Parents} {type parent : String}
    (found : parents[type]? = some parent) :
    (parents.erase type).size < parents.size := by
  have mem : type ∈ parents := by
    rw [Std.TreeMap.mem_iff_isSome_getElem?, found]
    rfl
  have size_ne : parents.size ≠ 0 := by
    intro size_eq
    have empty : parents.isEmpty = true := by
      simp [Std.TreeMap.isEmpty_eq_size_eq_zero, size_eq]
    rw [Std.TreeMap.isEmpty_iff_forall_not_mem] at empty
    exact empty type mem
  simp only [Std.TreeMap.size_erase, Std.TreeMap.contains_iff_mem, mem,
    if_true]
  omega

/-- The ancestry of a type from a member on, given the members before it
and the declarations not yet used. -/
def climb (type : String) (unused : Parents) (before : List String)
    (current : String) : Except RegistryFault (List String) :=
  match _found : unused[current]? with
  | some parent =>
    if parent = current ∨ parent ∈ before then
      .error (.cycle type parent)
    else do
      let rest ← climb type (unused.erase current) (current :: before) parent
      return current :: rest
  | none =>
    if current = rootType then .ok [current]
    else .error (.undeclared current type)
termination_by unused.size
decreasing_by exact size_erase_lt _found

/-- The ancestry that the declarations give a type. -/
def chain? (parents : Parents) (type : String) :
    Except RegistryFault (List String) :=
  climb type parents [] type

/-- The ancestries of the types in a list, which are looked at in that
order, and of the type above all others. -/
def ancestriesOf? (parents : Parents) (types : List String) :
    Except RegistryFault Ancestries :=
  types.foldlM
    (fun chains type => do
      return chains.insert type (← parents.chain? type))
    (({} : Ancestries).insert rootType [rootType])

/-- The ancestries of all declared types, which are looked at in the
given order. -/
def ancestries? (parents : Parents) (order : List String) :
    Except RegistryFault Ancestries :=
  if rootType ∈ parents then .error .rootDeclared
  else parents.ancestriesOf? order

end Parents

/-- The ancestry of a type; a type without one of its own is directly
below the type above all others. -/
def Ancestries.of (chains : Ancestries) (type : String) : List String :=
  chains[type]?.getD [type, rootType]

end EntityMarkup
