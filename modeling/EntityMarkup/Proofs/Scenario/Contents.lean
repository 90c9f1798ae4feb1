/-
What scenario objects are made of, and what the journal notes of it. The
objects at every depth of an object are listed (`Object.all`), the parts
of composites and the nodes of hierarchies among them, and whatever is
counted in an object is summed up over that list (`Noted.total`). What the
journal should note are the children and the lines that widgets take, and
the closing of panels; the entries about each are told apart by how they
begin (`Noted.marks`).
-/
import EntityMarkup.Build.Run
import EntityMarkup.Scenario.Registry
import Mathlib.Algebra.GroupWithZero.Nat

namespace EntityMarkup.Scenario

-- ============================================================= contents

namespace Object

/-- What an object holds directly. -/
def parts : Object → List Object
  | .widget w => w.children
  | .panel p => [.widget p.first, .widget p.second]
  | .holder h => h.nodes.map .node ++ h.direct
  | .node n => n.entity :: n.children.map .node
  | .hollow | .leaf _ _ | .tip _ | .text _ => []

theorem sizeOf_of_mem_parts {o x : Object} (hx : x ∈ o.parts) :
    sizeOf x < sizeOf o := by
  cases o with
  | widget w =>
      rcases w with ⟨style, text, tone, caption, width, lines, children⟩
      have hlt := List.sizeOf_lt_of_mem hx
      simp [parts] at hlt ⊢
      omega
  | panel p =>
      rcases p with ⟨first, second, text, title, closed⟩
      have hx : x = .widget first ∨ x = .widget second := by
        simpa [parts] using hx
      rcases hx with rfl | rfl
      all_goals
        simp
        omega
  | holder h =>
      rcases h with ⟨label, nodes, direct⟩
      rcases List.mem_append.mp hx with hx | hx
      · obtain ⟨n, hn, rfl⟩ := List.mem_map.mp hx
        have hlt := List.sizeOf_lt_of_mem hn
        simp at hlt ⊢
        omega
      · have hlt := List.sizeOf_lt_of_mem hx
        simp at hlt ⊢
        omega
  | node n =>
      rcases n with ⟨entity, children⟩
      rcases List.mem_cons.mp hx with rfl | hx
      · simp
        omega
      · obtain ⟨m, hm, rfl⟩ := List.mem_map.mp hx
        have hlt := List.sizeOf_lt_of_mem hm
        simp at hlt ⊢
        omega
  | hollow | leaf _ _ | tip _ | text _ => cases hx

/-- An object and what it holds at every depth. -/
def all (o : Object) : List Object :=
  o :: o.parts.attach.flatMap fun ⟨x, _⟩ => all x
termination_by sizeOf o
decreasing_by exact sizeOf_of_mem_parts (by assumption)

/-- What an object holds at every depth. -/
def within (o : Object) : List Object := o.parts.flatMap all

theorem all_eq (o : Object) : o.all = o :: o.within := by
  rw [all, within]
  simp

/-- The object is as it should be when its tag has closed. Holders have
nothing but nodes; panels are closed, and only attributes have changed
their first part, and nothing the second; nodes hold no nodes but below
them; and there is nothing hollow. -/
def Proper : Object → Prop
  | .panel p => p.closed = true ∧ p.second = .styled "second"
    ∧ p.first.lines = [] ∧ p.first.children = []
  | .holder h => h.direct = []
  | .node n => ∀ m, n.entity ≠ .node m
  | .hollow => False
  | .widget _ | .leaf _ _ | .tip _ | .text _ => True

/-- Everything in the object is as it should be, and there is no tip. -/
def Sound (o : Object) : Prop :=
  ∀ x ∈ o.all, x.Proper ∧ ∀ text, x ≠ .tip text

/-- Whether an object is sound is a matter of its own and of its parts. -/
theorem sound_iff {o : Object} : o.Sound
    ↔ (o.Proper ∧ ∀ text, o ≠ .tip text) ∧ ∀ x ∈ o.parts, x.Sound := by
  unfold Sound
  rw [all_eq, List.forall_mem_cons, within]
  refine and_congr_right fun _ => ?_
  constructor
  · intro h x hx y hy
    exact h y (List.mem_flatMap.mpr ⟨x, hx, hy⟩)
  · intro h y hy
    obtain ⟨x, hx, hy⟩ := List.mem_flatMap.mp hy
    exact h x hx y hy

/-- The widget that the object is. -/
def widget? : Object → Option (Widget Object)
  | .widget w => some w
  | _ => none

/-- The object is a panel. -/
def isPanel : Object → Bool
  | .panel _ => true
  | _ => false

end Object

-- =============================================================== journal

/-- The lines of the journal among events. -/
def journalLines (events : List Event) : List String :=
  (Event.entries events).filterMap fun
    | .journal text => some text
    | .record _ _ _ | .note _ => none

/-- What the journal notes of what objects come to hold. -/
inductive Noted where
  /-- A widget takes a child. -/
  | child
  /-- A widget takes a line. -/
  | line
  /-- A panel closes. -/
  | closing
deriving DecidableEq

namespace Noted

/-- The entry is one about this. -/
def marks : Noted → String → Bool
  | .child, entry => "valid child ".toList.isPrefixOf entry.toList
  | .line, entry => "text ".toList.isPrefixOf entry.toList
  | .closing, entry => entry == "panel hook"

/-- How often an object itself has come to this. -/
def size : Noted → Object → Nat
  | .child, .widget w => w.children.length
  | .line, .widget w => w.lines.length
  | .closing, .panel p => if p.closed then 1 else 0
  | _, _ => 0

/-- How often an object and what it holds have come to this. -/
def total (what : Noted) (o : Object) : Nat :=
  (o.all.map what.size).sum

/-- How many entries about this there are among events. -/
def count (what : Noted) (events : List Event) : Nat :=
  (journalLines events).countP what.marks

variable (what : Noted)

/-- The total of an object is that of its parts and its own. -/
theorem total_eq (o : Object) :
    what.total o = what.size o + (o.parts.map what.total).sum := by
  have hbelow : ∀ parts : List Object,
      ((parts.flatMap Object.all).map what.size).sum
        = (parts.map what.total).sum := by
    intro parts
    induction parts with
    | nil => rfl
    | cons x rest ih =>
        rw [List.flatMap_cons, List.map_append, List.sum_append, ih,
          List.map_cons, List.sum_cons]
        rfl
  rw [total, Object.all_eq, List.map_cons, List.sum_cons, Object.within,
    hbelow]

/-- Objects that hold nothing come to nothing. -/
theorem total_bare {o : Object} (hparts : o.parts = [])
    (hsize : what.size o = 0) : what.total o = 0 := by
  rw [total_eq, hparts, hsize]
  rfl

theorem size_node (n : TreeNode Object) : what.size (.node n) = 0 := by
  cases what <;> rfl

/-- A node that an object becomes comes to what the object comes to. -/
theorem total_wrap (o : Object) :
    what.total (.node (TreeNode.wrap o)) = what.total o := by
  have hnode : what.total (.node ⟨o, []⟩) = what.total o := by
    rw [total_eq, size_node]
    simp [Object.parts]
  cases o with
  | node n => rfl
  | widget | panel | hollow | holder | leaf | tip | text => exact hnode

/-- A node that stands for a line comes to nothing. -/
theorem total_leaf (line : String) :
    what.total (.node (TreeNode.leaf line)) = 0 := by
  have htext : what.total (.text line) = 0 :=
    what.total_bare rfl (by cases what <;> rfl)
  show what.total (.node ⟨.text line, []⟩) = 0
  rw [total_eq, size_node]
  simp [Object.parts, htext]

-- =============================================================== growing

/-- What a widget comes to with one more child. -/
theorem total_child (w : Widget Object) (child : Object) :
    what.total (.widget { w with children := w.children ++ [child] })
      = what.total (.widget w) + what.total child
        + if what = .child then 1 else 0 := by
  rw [what.total_eq, what.total_eq (.widget w)]
  simp only [Object.parts, List.map_append, List.map_cons, List.map_nil,
    List.sum_append, List.sum_cons, List.sum_nil]
  cases what with
  | child =>
      simp only [size, List.length_append, List.length_singleton, if_true]
      omega
  | line | closing =>
      simp only [size, reduceCtorEq, if_false]
      omega

/-- What a widget comes to with one more line. -/
theorem total_line (w : Widget Object) (line : String) :
    what.total (.widget { w with lines := w.lines ++ [line] })
      = what.total (.widget w) + if what = .line then 1 else 0 := by
  rw [what.total_eq, what.total_eq (.widget w)]
  simp only [Object.parts]
  cases what with
  | line =>
      simp only [size, List.length_append, List.length_singleton, if_true]
      omega
  | child | closing =>
      simp only [size, reduceCtorEq, if_false, Nat.add_zero]

/-- What a panel comes to when it closes. -/
theorem total_closed {p : Panel Object} (hopen : p.closed = false) :
    what.total (.panel { p with closed := true })
      = what.total (.panel p) + if what = .closing then 1 else 0 := by
  rw [what.total_eq, what.total_eq (.panel p)]
  simp only [Object.parts]
  cases what with
  | closing => simp [size, hopen, Nat.add_comm]
  | child | line => simp [size]

/-- What a holder comes to with one more node. -/
theorem total_holder (h : Holder Object) (n : TreeNode Object) :
    what.total (.holder { h with nodes := h.nodes ++ [n] })
      = what.total (.holder h) + what.total (.node n) := by
  have hsize : ∀ h : Holder Object, what.size (.holder h) = 0 := by
    intro h
    cases what <;> rfl
  rw [what.total_eq, what.total_eq (.holder h), hsize, hsize]
  simp only [Object.parts, List.map_append, List.map_cons, List.map_nil,
    List.sum_append, List.sum_cons, List.sum_nil]
  omega

/-- What a node comes to with one more node below it. -/
theorem total_node (m n : TreeNode Object) :
    what.total (.node { m with children := m.children ++ [n] })
      = what.total (.node m) + what.total (.node n) := by
  rw [what.total_eq, what.total_eq (.node m), what.size_node,
    what.size_node]
  simp only [Object.parts, List.map_append, List.map_cons, List.map_nil,
    List.sum_append, List.sum_cons, List.sum_nil]
  omega

-- ============================================================== counting

@[simp] theorem count_append (a b : List Event) :
    what.count (a ++ b) = what.count a + what.count b := by
  unfold count journalLines Event.entries
  rw [List.filterMap_append, List.filterMap_append, List.countP_append]

theorem count_journal (text : String) :
    what.count [.entry (.journal text)]
      = if what.marks text then 1 else 0 := by
  show [text].countP what.marks = _
  rw [List.countP_cons, List.countP_nil, Nat.zero_add]

/-- That a widget takes a child is noted as that. -/
theorem count_child (type : String) :
    what.count [.entry (.journal ("valid child " ++ type))]
      = if what = .child then 1 else 0 := by
  have hclosing : "valid child " ++ type ≠ "panel hook" := by
    intro h
    have hhead := congrArg (·.toList.head?) h
    simp at hhead
  rw [count_journal]
  cases what <;> simp [marks, hclosing]

theorem count_line (line : String) :
    what.count [.entry (.journal ("text " ++ line))]
      = if what = .line then 1 else 0 := by
  have hclosing : "text " ++ line ≠ "panel hook" := by
    intro h
    have hhead := congrArg (·.toList.head?) h
    simp at hhead
  rw [count_journal]
  cases what <;> simp [marks, hclosing]

theorem count_closing :
    what.count [.entry (.journal "panel hook")]
      = if what = .closing then 1 else 0 := by
  cases what <;> decide

/-- No journal entry about anything that is noted. -/
def Silent (entries : List Entry) : Prop :=
  ∀ text, .journal text ∈ entries → ∀ what : Noted,
    what.marks text = false

theorem count_silent {entries : List Entry} (h : Silent entries) :
    what.count (entries.map .entry) = 0 := by
  unfold count
  rw [List.countP_eq_zero]
  intro text htext
  unfold journalLines at htext
  obtain ⟨entry, hentry, hjournal⟩ := List.mem_filterMap.mp htext
  obtain ⟨event, hevent, hsome⟩ := List.mem_filterMap.mp hentry
  obtain ⟨entry', hmem, rfl⟩ := List.mem_map.mp hevent
  cases hsome
  cases entry with
  | journal text' =>
      cases hjournal
      rw [h text hmem what]
      exact Bool.false_ne_true
  | record | note => cases hjournal

/-- Entries of handlers for attributes are about nothing that is noted:
they begin differently. -/
theorem marks_of_head {text : String}
    (h : text.toList.head? = some 'b') : what.marks text = false := by
  have hne : ∀ start : String, start.toList.head? ≠ some 'b' →
      start ≠ "" → start.toList.isPrefixOf text.toList = false := by
    intro start hstart hempty
    cases hs : start.toList with
    | nil => exact absurd (String.toList_eq_nil_iff.mp hs) hempty
    | cons c rest =>
        cases ht : text.toList with
        | nil => rfl
        | cons c' rest' =>
            rw [ht] at h
            rw [hs] at hstart
            have hc : c ≠ c' := by
              rintro rfl
              exact hstart h
            simp [List.isPrefixOf, hc]
  cases what with
  | child => exact hne _ (by decide) (by decide)
  | line => exact hne _ (by decide) (by decide)
  | closing =>
      show (text == "panel hook") = false
      rw [beq_eq_false_iff_ne]
      rintro rfl
      exact absurd h (by decide)

end Noted

end EntityMarkup.Scenario
