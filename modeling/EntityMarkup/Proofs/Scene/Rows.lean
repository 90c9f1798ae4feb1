/-
Outlines, line by line. The rows of an object list what has a line of its
own in its outline, parents before children, each with the depth that it
stands at (`rows`). For what is built of a scene the lines are these rows,
indented by their depth (`objectLines_rows`), and a row shows for every
object at any depth (`exists_row`).

A line is put together from texts that are quoted, from names of fixed
choices, from numbers, and from two texts that stand as they are: the
style of a widget and the event of a button. Whether the lines of an
outline can be told apart is a matter of these two alone.
-/
import EntityMarkup.Proofs.Scene.Sound
import EntityMarkup.Proofs.Text.Unbroken
import EntityMarkup.Scene.Outline

namespace EntityMarkup.Scene

open Text (Unbroken)

-- ================================================================= rows

theorem Object.Holds.sizeOf_lt {o x : Object} (h : o.Holds x) :
    sizeOf x < sizeOf o := by
  cases h with
  | @title w t h =>
      rcases w with ⟨kind, style, text, visible, tooltip, spacing, align,
        onClick, packed, children, title, nodes⟩
      cases h
      simp
      omega
  | @child w o h =>
      rcases w with ⟨kind, style, text, visible, tooltip, spacing, align,
        onClick, packed, children, title, nodes⟩
      have hlt := List.sizeOf_lt_of_mem h
      simp at hlt ⊢
      omega
  | @root w n h =>
      rcases w with ⟨kind, style, text, visible, tooltip, spacing, align,
        onClick, packed, children, title, nodes⟩
      have hlt := List.sizeOf_lt_of_mem h
      simp at hlt ⊢
      omega
  | entity n =>
      rcases n with ⟨entity, children⟩
      simp
      omega
  | @below n m h =>
      rcases n with ⟨entity, children⟩
      have hlt := List.sizeOf_lt_of_mem h
      simp at hlt ⊢
      omega

/-- What has a line of its own in an outline. -/
inductive Row where
  /-- An object other than a node. -/
  | object (o : Object)
  | title (t : Widget Object)

/-- The rows of an object at a depth, each with the depth that it stands
at: the object, the title bar if it shows, and what the object holds one
level deeper. A node shares its row with the object it holds. -/
def rows (depth : Nat) : Object → List (Nat × Row)
  | .widget w =>
    (depth, .object (.widget w))
      :: ((w.title.filter showsTitle).toList.map (depth + 1, .title ·)
        ++ w.children.flatMap (fun child => rows (depth + 1) child)
        ++ w.nodes.flatMap (fun n => rows (depth + 1) (.node n)))
  | .node n =>
    rows depth n.entity
      ++ n.children.flatMap (fun m => rows (depth + 1) (.node m))
  | .leaf text => [(depth, .object (.leaf text))]
  | .tooltip text => [(depth, .object (.tooltip text))]
  | .thing t => [(depth, .object (.thing t))]
  | .clip typeName => [(depth, .object (.clip typeName))]
termination_by o => sizeOf o
decreasing_by
  · exact Object.Holds.sizeOf_lt (.child (by assumption))
  · exact Object.Holds.sizeOf_lt (.root (by assumption))
  · exact Object.Holds.sizeOf_lt (.entity n)
  · exact Object.Holds.sizeOf_lt (.below (by assumption))

/-- Objects can be followed down what they hold. -/
theorem Object.induction {P : Object → Prop}
    (h : ∀ o, (∀ x, o.Holds x → P x) → P o) (o : Object) : P o :=
  h o fun x _ => Object.induction h x
termination_by sizeOf o
decreasing_by exact Object.Holds.sizeOf_lt (by assumption)

/-- The text of a row. -/
def Row.text : Row → String
  | .object (.widget w) => widgetLine w
  | .object (.leaf text) => Text.quoted text
  | .object o => o.typeName
  | .title t => "title: " ++ widgetLine t

/-- The line of a row at a depth. -/
def rowLine (row : Nat × Row) : String :=
  indent row.1 ++ row.2.text

-- ================================================================ lines

theorem indent_add (m n : Nat) : indent (m + n) = indent m ++ indent n := by
  unfold indent
  rw [Nat.mul_add, List.replicate_add, String.ofList_append]

theorem objectsLines_eq (depth : Nat) (objects : List Object) :
    objectsLines depth objects = objects.flatMap (objectLines depth) := by
  induction objects with
  | nil => rfl
  | cons o rest ih => rw [objectsLines, List.flatMap_cons, ih]

theorem nodesLines_eq (depth : Nat) (nodes : List (TreeNode Object)) :
    nodesLines depth nodes
      = nodes.flatMap fun n => objectLines depth (.node n) := by
  induction nodes with
  | nil => rfl
  | cons n rest ih => rw [nodesLines, List.flatMap_cons, ih, objectLines]

theorem objectLines_widget (depth : Nat) (w : Widget Object) :
    objectLines depth (.widget w)
      = (indent depth ++ widgetLine w)
        :: (titleLines (depth + 1) w.title
          ++ w.children.flatMap (objectLines (depth + 1))
          ++ w.nodes.flatMap fun n => objectLines (depth + 1) (.node n)) := by
  cases w
  rw [objectLines, widgetLines, objectsLines_eq, nodesLines_eq]

theorem objectLines_node (depth : Nat) (n : TreeNode Object) :
    objectLines depth (.node n)
      = objectLines depth n.entity
        ++ n.children.flatMap fun m => objectLines (depth + 1) (.node m) := by
  cases n
  rw [objectLines, nodeLines, nodesLines_eq]

theorem widgetLines_titleBar {t : Widget Object} (h : TitleBar t) :
    widgetLines 0 t = [widgetLine t] := by
  obtain ⟨text, align, rfl⟩ := h
  show [indent 0 ++ widgetLine _] = [widgetLine _]
  rw [indent, Nat.mul_zero, List.replicate_zero, String.ofList_nil,
    String.empty_append]

/-- A title bar has one line, if it shows. -/
theorem titleLines_rows (depth : Nat) {title : Option (Widget Object)}
    (h : ∀ t, title = some t → TitleBar t) :
    titleLines depth title
      = (title.filter showsTitle).toList.map
        fun t => rowLine (depth, .title t) := by
  cases title with
  | none => rfl
  | some t =>
      unfold titleLines
      by_cases hshows : showsTitle t = true
      · rw [if_pos hshows, Option.filter_some_pos hshows,
          widgetLines_titleBar (h t rfl)]
        show [indent depth ++ "title: " ++ widgetLine t]
          = [indent depth ++ ("title: " ++ widgetLine t)]
        rw [String.append_assoc]
      · rw [if_neg hshows,
          Option.filter_some_neg (Bool.eq_false_iff.mpr hshows)]
        rfl

/-- The lines of a sound object are its rows. -/
theorem objectLines_rows {o : Object} (h : o.Sound) (depth : Nat) :
    objectLines depth o = (rows depth o).map rowLine := by
  induction o using Object.induction generalizing depth with
  | h o ih =>
      have hfit := h.fit
      cases o with
      | widget w =>
          have htitle := titleLines_rows (depth + 1)
            (Widget.Shaped.titleBar hfit.toShaped)
          rw [objectLines_widget, rows, List.map_cons, List.map_append,
            List.map_append, List.map_map, List.map_flatMap,
            List.map_flatMap, htitle]
          congr 2
          · congr 1
            refine List.flatMap_congr fun child hmem => ?_
            exact ih child (.child hmem) (h.held (.child hmem)) _
          · refine List.flatMap_congr fun n hmem => ?_
            exact ih (.node n) (.root hmem) (h.held (.root hmem)) _
      | node n =>
          rw [objectLines_node, rows, List.map_append, List.map_flatMap]
          congr 1
          · exact ih n.entity (.entity n) (h.held (.entity n)) depth
          · refine List.flatMap_congr fun m hmem => ?_
            exact ih (.node m) (.below hmem) (h.held (.below hmem)) _
      | leaf text => rw [objectLines, rows]; rfl
      | tooltip text => rw [objectLines, rows]; rfl
      | thing t => cases hfit
      | clip typeName => cases hfit

/-- Rows further in are the same rows. -/
theorem rows_add (m n : Nat) (o : Object) :
    rows (m + n) o = (rows n o).map fun row => (m + row.1, row.2) := by
  induction o using Object.induction generalizing n with
  | h o ih =>
      cases o with
      | widget w =>
          rw [rows, rows, List.map_cons, List.map_append, List.map_append,
            List.map_map, List.map_flatMap, List.map_flatMap]
          congr 2
          · congr 1
            refine List.flatMap_congr fun child hmem => ?_
            exact ih child (.child hmem) (n + 1)
          · refine List.flatMap_congr fun node hmem => ?_
            exact ih (.node node) (.root hmem) (n + 1)
      | node node =>
          rw [rows, rows, List.map_append, List.map_flatMap]
          congr 1
          · exact ih node.entity (.entity node) n
          · refine List.flatMap_congr fun below hmem => ?_
            exact ih (.node below) (.below hmem) (n + 1)
      | leaf text => rw [rows, rows]; rfl
      | tooltip text => rw [rows, rows]; rfl
      | thing t => rw [rows, rows]; rfl
      | clip typeName => rw [rows, rows]; rfl

/-- The outline of a sound object at a depth is its outline, indented. -/
theorem objectLines_indent {o : Object} (h : o.Sound) (depth : Nat) :
    objectLines depth o = (objectLines 0 o).map (indent depth ++ ·) := by
  have hrows := rows_add depth 0 o
  rw [Nat.add_zero] at hrows
  rw [objectLines_rows h, objectLines_rows h, hrows, List.map_map,
    List.map_map]
  refine List.map_congr_left fun row _ => ?_
  show indent (depth + row.1) ++ row.2.text
    = indent depth ++ (indent row.1 ++ row.2.text)
  rw [indent_add, String.append_assoc]

-- ============================================================== objects

/-- The rows of a sound object are title bars and objects at any depth of
it that are no nodes. -/
theorem rows_held {o : Object} (h : o.Sound) {depth : Nat}
    {row : Nat × Row} (hrow : row ∈ rows depth o) :
    (∃ x, row.2 = .object x ∧ Relation.ReflTransGen Object.Holds o x
        ∧ ∀ n, x ≠ .node n)
      ∨ ∃ t, row.2 = .title t ∧ TitleBar t := by
  induction o using Object.induction generalizing depth with
  | h o ih =>
      -- what a held object has for a row, the object has
      have hinner : ∀ {x : Object} {depth' : Nat}, o.Holds x →
          row ∈ rows depth' x →
          (∃ y, row.2 = .object y ∧ Relation.ReflTransGen Object.Holds o y
              ∧ ∀ n, y ≠ .node n)
            ∨ ∃ t, row.2 = .title t ∧ TitleBar t := by
        intro x depth' hx hmem
        rcases ih x hx (h.held hx) hmem with ⟨y, hy, hreach, hne⟩ | htitle
        · exact Or.inl ⟨y, hy, .head hx hreach, hne⟩
        · exact Or.inr htitle
      have hfit := h.fit
      cases o with
      | widget w =>
          rw [rows, List.mem_cons, List.mem_append, List.mem_append] at hrow
          rcases hrow with rfl | (htitle | hchild) | hnode
          · exact Or.inl ⟨.widget w, rfl, .refl, fun n hn => nomatch hn⟩
          · obtain ⟨t, ht, rfl⟩ := List.mem_map.mp htitle
            rw [Option.mem_toList, Option.filter_eq_some_iff] at ht
            exact Or.inr ⟨t, rfl,
              Widget.Shaped.titleBar hfit.toShaped t ht.1⟩
          · obtain ⟨child, hmem, hrow⟩ := List.mem_flatMap.mp hchild
            exact hinner (.child hmem) hrow
          · obtain ⟨n, hmem, hrow⟩ := List.mem_flatMap.mp hnode
            exact hinner (.root hmem) hrow
      | node n =>
          rw [rows, List.mem_append] at hrow
          rcases hrow with hentity | hbelow
          · exact hinner (.entity n) hentity
          · obtain ⟨m, hmem, hrow⟩ := List.mem_flatMap.mp hbelow
            exact hinner (.below hmem) hrow
      | leaf text =>
          rw [rows, List.mem_singleton] at hrow
          subst hrow
          exact Or.inl ⟨_, rfl, .refl, fun n hn => nomatch hn⟩
      | tooltip text =>
          rw [rows, List.mem_singleton] at hrow
          subst hrow
          exact Or.inl ⟨_, rfl, .refl, fun n hn => nomatch hn⟩
      | thing t => cases hfit
      | clip typeName => cases hfit

theorem TitleBar.holds_nothing {t : Widget Object} (h : TitleBar t)
    {x : Object} (hx : Object.Holds (.widget t) x) : False := by
  obtain ⟨text, align, rfl⟩ := h
  cases hx with
  | title h => cases h
  | child h => cases h
  | root h => cases h

/-- Every object at any depth of a sound one has a row, but for nodes and
title bars. -/
theorem exists_row {o x : Object} (h : o.Sound)
    (hx : Relation.ReflTransGen Object.Holds o x)
    (hnode : ∀ n, x ≠ .node n) (hbar : ∀ t, x = .widget t → ¬ TitleBar t)
    (depth : Nat) : ∃ row ∈ rows depth o, row.2 = .object x := by
  induction o using Object.induction generalizing depth with
  | h o ih =>
      have hfit := h.fit
      rcases hx.cases_head with rfl | ⟨y, hy, hyx⟩
      · cases o with
        | widget w =>
            rw [rows]
            exact ⟨_, List.mem_cons_self, rfl⟩
        | node n => exact absurd rfl (hnode n)
        | leaf text =>
            rw [rows]
            exact ⟨_, List.mem_cons_self, rfl⟩
        | tooltip text =>
            rw [rows]
            exact ⟨_, List.mem_cons_self, rfl⟩
        | thing t => cases hfit
        | clip typeName => cases hfit
      · have hrow := ih y hy (h.held hy) hyx
        cases hy with
        | @title w t htitle =>
            -- a title bar holds nothing, so it would be the object itself
            have ht := Widget.Shaped.titleBar hfit.toShaped t htitle
            rcases hyx.cases_head with rfl | ⟨z, hz, -⟩
            · exact absurd ht (hbar t rfl)
            · exact (ht.holds_nothing hz).elim
        | child hmem =>
            obtain ⟨row, hin, heq⟩ := hrow (depth + 1)
            refine ⟨row, ?_, heq⟩
            rw [rows]
            refine List.mem_cons_of_mem _ (List.mem_append_left _
              (List.mem_append_right _ ?_))
            exact List.mem_flatMap.mpr ⟨_, hmem, hin⟩
        | @root w n hmem =>
            obtain ⟨row, hin, heq⟩ := hrow (depth + 1)
            refine ⟨row, ?_, heq⟩
            rw [rows]
            refine List.mem_cons_of_mem _ (List.mem_append_right _ ?_)
            exact List.mem_flatMap.mpr ⟨n, hmem, hin⟩
        | entity n =>
            obtain ⟨row, hin, heq⟩ := hrow depth
            refine ⟨row, ?_, heq⟩
            rw [rows]
            exact List.mem_append_left _ hin
        | @below n m hmem =>
            obtain ⟨row, hin, heq⟩ := hrow (depth + 1)
            refine ⟨row, ?_, heq⟩
            rw [rows]
            refine List.mem_append_right _ ?_
            exact List.mem_flatMap.mpr ⟨m, hmem, hin⟩

-- ================================================================= texts

/-- The line of a widget begins with its kind. -/
theorem widgetLine_prefix (w : Widget Object) :
    ∃ rest, widgetLine w = w.kind.name ++ rest := by
  unfold widgetLine
  cases marks w with
  | nil =>
      rw [String.intercalate_singleton]
      exact ⟨"", String.append_empty.symm⟩
  | cons mark rest =>
      rw [String.intercalate_cons_cons, String.append_assoc]
      exact ⟨_, rfl⟩

/-- A mark of a widget has no line feed, if its style and its event have
none. -/
theorem marks_unbroken {w : Widget Object} (hstyle : Unbroken w.style)
    (hevent : ∀ event, w.onClick = some event → Unbroken event) :
    ∀ mark ∈ marks w, Unbroken mark := by
  intro mark hmark
  obtain ⟨mark?, hmem, hmark?⟩ := List.mem_filterMap.mp hmark
  change mark? = some mark at hmark?
  simp only [List.mem_cons, List.not_mem_nil, or_false] at hmem
  rw [hmark?] at hmem
  rcases hmem with h | h | h | h | h | h | h | h
  · obtain ⟨text, -, rfl⟩ := Option.map_eq_some_iff.mp h.symm
    exact Text.quoted_unbroken text
  · split at h
    · cases h
    · cases h
      exact (Text.Unbroken.append (by decide) hstyle).append (by decide)
  · split at h
    · cases h
    · cases h
      refine Text.Unbroken.append (by decide) ?_
      cases w.align <;> decide
  · split at h
    · cases h
    · cases h
      exact Text.Unbroken.append (by decide) (Single.text_unbroken _)
  · split at h
    · cases h
    · cases h
      decide
  · obtain ⟨text, -, rfl⟩ := Option.map_eq_some_iff.mp h.symm
    exact Text.Unbroken.append (by decide) (Text.quoted_unbroken text)
  · obtain ⟨event, honClick, rfl⟩ := Option.map_eq_some_iff.mp h.symm
    exact Text.Unbroken.append (by decide) (hevent event honClick)
  · split at h
    · cases h
      decide
    · cases h

/-- Only its style and its event can break the line of a widget. -/
theorem widgetLine_unbroken {w : Widget Object} :
    Unbroken (widgetLine w)
      ↔ Unbroken w.style
        ∧ ∀ event, w.onClick = some event → Unbroken event := by
  have hspace : Unbroken " " := by decide
  unfold widgetLine
  rw [Text.unbroken_intercalate hspace, List.forall_mem_cons]
  constructor
  · rintro ⟨-, hmarks⟩
    refine ⟨?_, fun event honClick => ?_⟩
    · by_cases hstyle : w.style = StyleDraft.defaultStyle
      · rw [hstyle]
        decide
      · have hmark := hmarks ("[" ++ w.style ++ "]")
          (by simp [marks, hstyle])
        exact (Text.unbroken_append.mp (Text.unbroken_append.mp hmark).1).2
    · have hmark := hmarks ("on_click=" ++ event)
        (by simp [marks, honClick])
      exact (Text.unbroken_append.mp hmark).2
  · rintro ⟨hstyle, hevent⟩
    refine ⟨?_, marks_unbroken hstyle hevent⟩
    cases w.kind <;> decide

/-- No style and no event at any depth of the object has a line feed. -/
def Object.Unbroken (o : Object) : Prop :=
  ∀ w, Relation.ReflTransGen Object.Holds o (.widget w) →
    Text.Unbroken w.style
      ∧ ∀ event, w.onClick = some event → Text.Unbroken event

theorem TitleBar.unbroken {t : Widget Object} (h : TitleBar t) :
    Unbroken t.style
      ∧ ∀ event, t.onClick = some event → Unbroken event := by
  obtain ⟨text, align, rfl⟩ := h
  refine ⟨?_, fun event honClick => nomatch honClick⟩
  show Unbroken StyleDraft.defaultStyle
  decide

section

variable {o : Object} {depth : Nat}

theorem row_unbroken (h : o.Sound) (hunbroken : o.Unbroken)
    {row : Nat × Row} (hrow : row ∈ rows depth o) :
    Unbroken row.2.text := by
  rcases rows_held h hrow with
    ⟨x, hx, hreach, hnode⟩ | ⟨t, ht, hbar⟩
  · rw [hx]
    have hfit := h x hreach
    cases x with
    | widget w => exact widgetLine_unbroken.mpr (hunbroken w hreach)
    | node n => exact absurd rfl (hnode n)
    | leaf text => exact Text.quoted_unbroken text
    | tooltip text =>
        show Unbroken "tooltip"
        decide
    | thing t => cases hfit
    | clip typeName => cases hfit
  · rw [ht]
    exact Text.Unbroken.append (by decide)
      (widgetLine_unbroken.mpr hbar.unbroken)

/-- The text of a row begins with no space. -/
theorem row_text_head (h : o.Sound) {row : Nat × Row}
    (hrow : row ∈ rows depth o) :
    ∃ c rest, row.2.text.toList = c :: rest ∧ c ≠ ' ' := by
  rcases rows_held h hrow with ⟨x, hx, hreach, hnode⟩ | ⟨t, ht, -⟩
  · rw [hx]
    have hfit := h x hreach
    cases x with
    | widget w =>
        obtain ⟨rest, hrest⟩ := widgetLine_prefix w
        show ∃ c rest, (widgetLine w).toList = c :: rest ∧ c ≠ ' '
        rw [hrest, String.toList_append]
        cases w.kind <;> exact ⟨_, _, rfl, by decide⟩
    | node n => exact absurd rfl (hnode n)
    | leaf text =>
        show ∃ c rest, (Text.quoted text).toList = c :: rest ∧ c ≠ ' '
        unfold Text.quoted Text.quoteChars
        rw [String.toList_ofList]
        exact ⟨_, _, rfl, by decide⟩
    | tooltip text =>
        show ∃ c rest, "tooltip".toList = c :: rest ∧ c ≠ ' '
        exact ⟨_, _, rfl, by decide⟩
    | thing t => cases hfit
    | clip typeName => cases hfit
  · rw [ht]
    show ∃ c rest, ("title: " ++ widgetLine t).toList = c :: rest ∧ c ≠ ' '
    rw [String.toList_append]
    exact ⟨_, _, rfl, by decide⟩

theorem indent_unbroken (depth : Nat) : Unbroken (indent depth) := by
  apply Text.unbroken_ofList
  intro hmem
  exact absurd (List.eq_of_mem_replicate hmem) (by decide)

/-- The outline of a sound object can be cut at line feeds into its rows
exactly if no style and no event in it has one. -/
theorem splitLines_outline (h : o.Sound) :
    Text.splitLines (outline o).toList
        = (rows 0 o).map (fun row => (rowLine row).toList) ++ [[]]
      ↔ o.Unbroken := by
  have hlines : (rows 0 o).map (fun row => (rowLine row).toList)
      = ((rows 0 o).map rowLine).map String.toList := by
    rw [List.map_map]
    rfl
  unfold outline
  rw [objectLines_rows h, hlines]
  constructor
  · intro hsplit w hreach
    by_cases hbar : TitleBar w
    · exact hbar.unbroken
    · have hbars : ∀ t, Object.widget w = .widget t → ¬ TitleBar t := by
        rintro t ⟨rfl⟩
        exact hbar
      obtain ⟨row, hrow, hx⟩ :=
        exists_row h hreach (fun n hn => nomatch hn) hbars 0
      have hpiece : (rowLine row).toList
          ∈ Text.splitLines (String.join
            (((rows 0 o).map rowLine).map (· ++ "\n"))).toList := by
        rw [hsplit]
        exact List.mem_append_left _
          (List.mem_map_of_mem (List.mem_map_of_mem hrow))
      have hline : Unbroken (rowLine row) := Text.splitLines_unbroken hpiece
      have htext := (Text.unbroken_append.mp hline).2
      rw [hx] at htext
      exact widgetLine_unbroken.mp htext
  · intro hunbroken
    apply Text.splitLines_join
    intro line hmem
    obtain ⟨row, hrow, rfl⟩ := List.mem_map.mp hmem
    exact (indent_unbroken row.1).append (row_unbroken h hunbroken hrow)

end

-- ============================================================= documents

/-- The outlines of what is built of a document with the standard registry
and without actions. An object has one line for each of its rows, indented
by the row's depth and no further; at any depth its lines are those of its
outline, indented; and the outline cut at line feeds is these lines exactly
if no style and no event in the object has a line feed. -/
theorem document_outlined {registry : Registry Object Sketch}
    (hregistry : registry? = .ok registry) (config : Config)
    {d : Document} {objects : List Object}
    (h : (Build.document ⟨registry, config, .empty⟩ d).result
      = .ok objects) :
    ∀ o ∈ objects,
      (∀ depth, objectLines depth o = (rows depth o).map rowLine
        ∧ objectLines depth o = (objectLines 0 o).map (indent depth ++ ·)
        ∧ ∀ row ∈ rows depth o,
          ∃ c rest, row.2.text.toList = c :: rest ∧ c ≠ ' ')
      ∧ (Text.splitLines (outline o).toList
          = (rows 0 o).map (fun row => (rowLine row).toList) ++ [[]]
        ↔ o.Unbroken) := by
  intro o ho
  have hsound := (document_finished ⟨hregistry, rfl⟩ h o ho).sound
  refine ⟨fun depth => ⟨objectLines_rows hsound depth,
    objectLines_indent hsound depth, fun row => row_text_head hsound⟩,
    splitLines_outline hsound⟩

/-- The outline of the window has a line for each of its rows. -/
theorem document_outlined_twice :
    ∃ (registry : Registry Object Sketch) (objects : List Object),
      registry? = .ok registry
      ∧ (Build.document ⟨registry, {}, .empty⟩ twiceSample).result
        = .ok objects
      ∧ ∀ o ∈ objects,
        (∀ depth, objectLines depth o = (rows depth o).map rowLine
          ∧ objectLines depth o = (objectLines 0 o).map (indent depth ++ ·)
          ∧ ∀ row ∈ rows depth o,
            ∃ c rest, row.2.text.toList = c :: rest ∧ c ≠ ' ')
        ∧ (Text.splitLines (outline o).toList
            = (rows 0 o).map (fun row => (rowLine row).toList) ++ [[]]
          ↔ o.Unbroken) := by
  obtain ⟨registry, objects, hregistry, h⟩ := twiceSample_builds
  exact ⟨registry, objects, hregistry, h, document_outlined hregistry {} h⟩

/-- A label with a line feed in its style. -/
def brokenSource : String := "<label style=\"a\nb\"/>"

/-- Its one line has a line feed. -/
theorem outline_broken :
    ∃ (registry : Registry Object Sketch) (o : Object),
      registry? = .ok registry
      ∧ (Build.source ⟨registry, {}, .empty⟩ brokenSource).result = .ok [o]
      ∧ outline o = "label [a\nb]\n" ∧ objectLines 0 o = ["label [a\nb]"]
      ∧ ¬ ∀ line ∈ objectLines 0 o, Unbroken line := by
  have hbuilt : (Except.toOption registry?).map (fun registry =>
      (Except.toOption (Build.source ⟨registry, {}, .empty⟩
        brokenSource).result).map
        fun objects => objects.map fun o => (outline o, objectLines 0 o))
      = some (some [("label [a\nb]\n", ["label [a\nb]"])]) := by
    decide +kernel
  obtain ⟨registry, objects, hregistry, hbuild, hshown⟩ :=
    Run.exists_ok_of_map hbuilt
  obtain ⟨o, rfl, ho⟩ := List.map_eq_singleton_iff.mp hshown
  obtain ⟨houtline, hlines⟩ := Prod.mk.inj ho
  refine ⟨registry, o, hregistry, hbuild, houtline, hlines, ?_⟩
  rw [hlines]
  decide

end EntityMarkup.Scene
