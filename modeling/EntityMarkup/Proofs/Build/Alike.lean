/-
What a build makes of the gist of a document. A text run is placed line by
line, so a body is built as its lines and elements are, in order, however
the lines are grouped into runs (`Build.body_eq_items`). And the line that
a tag stands on is reported and nothing else. So elements with the same
gist are built alike: the same steps, with the same answer or the same
error but for the line that it names.
-/
import EntityMarkup.Proofs.Build.Lines
import EntityMarkup.Proofs.Markup.Edited

namespace EntityMarkup

open ScanState (outside)

/-- The same event, or the report of the same tag on another line. -/
inductive Event.Alike : Event → Event → Prop
  | same (e : Event) : Alike e e
  | opening (tag declared : String) (parent : Option String)
      (line line' : Nat) :
      Alike
        (.entry (.record .tag .debug
          (Build.openingText tag declared parent line)))
        (.entry (.record .tag .debug
          (Build.openingText tag declared parent line')))

/-- The same error, or the same tag without a kind on another line. -/
inductive BuildError.Alike : BuildError → BuildError → Prop
  | same (e : BuildError) : Alike e e
  | unknownTag (name : String) (line line' : Nat) :
      Alike (.unknownTag name line) (.unknownTag name line')

namespace Run

variable {α β : Type}

/-- The same run, but for the lines that tags stand on. -/
def Alike (x y : Run α) : Prop :=
  x.Related Event.Alike BuildError.Alike y

theorem Alike.refl (x : Run α) : x.Alike x :=
  Related.refl .same .same x

theorem Alike.bind {x y : Run α} {f g : α → Run β} (hx : x.Alike y)
    (hf : ∀ a, (f a).Alike (g a)) : (x >>= f).Alike (y >>= g) :=
  Related.bind hx hf

end Run

-- =============================================================== items

/-- A line of text, or an element, in the body of an element. -/
inductive Item where
  | line (text : String)
  | element (e : Element)

namespace Item

def gist : Item → Gist
  | .line text => .line text
  | .element e => Element.gist e

theorem gist_line {item : Item} {text : String}
    (h : Gist.line text = item.gist) : item = .line text := by
  cases item with
  | line text' =>
      cases h
      rfl
  | element e =>
      obtain ⟨name, attributes, content, line⟩ := e
      rw [gist, Element.gist] at h
      cases h

theorem gist_element {item : Item} {e : Element}
    (h : Element.gist e = item.gist) :
    ∃ e', item = .element e' ∧ Element.gist e = Element.gist e' := by
  cases item with
  | line text =>
      obtain ⟨name, attributes, content, line⟩ := e
      rw [gist, Element.gist] at h
      cases h
  | element e' => exact ⟨e', rfl, h⟩

theorem gists_lines {lines : List String} {items : List Item}
    (h : lines.map .line = items.map gist) : items = lines.map .line := by
  induction lines generalizing items with
  | nil => exact List.map_eq_nil_iff.mp h.symm
  | cons text lines ih =>
      cases items with
      | nil => cases h
      | cons item items =>
          obtain ⟨hitem, hrest⟩ := List.cons.inj h
          rw [gist_line hitem, ih hrest, List.map_cons]

end Item

/-- The lines and the elements of a body item. -/
def Content.items : Content → List Item
  | .text run => (Text.lines run).map .line
  | .element e => [.element e]

theorem Content.items_gist (c : Content) :
    c.items.map Item.gist = Content.gists c := by
  cases c with
  | text run =>
      rw [items, gists, List.map_map]
      rfl
  | element e => rfl

theorem Content.flatMap_items_gist (content : List Content) :
    (content.flatMap items).map Item.gist = Content.gistsAll content := by
  induction content with
  | nil => rfl
  | cons c rest ih =>
      rw [List.flatMap_cons, List.map_append, items_gist, ih, gistsAll]

namespace Build

variable {E D : Type} [Entity E] [Draft D E] (setting : Setting E D)

/-- Places a line, or builds and places an element. -/
def placeItem (tag : OpenedTag E D) : Item → Run (OpenedTag E D)
  | .line text => placeLine tag text
  | .element e => do
    let child ← element setting (some tag.name) e
    placeChild tag e.name child

/-- A text run is placed line by line. -/
theorem item_eq_items (c : Content) (tag : OpenedTag E D) :
    item setting c tag = c.items.foldlM (placeItem setting) tag := by
  cases c with
  | text run =>
      rw [Content.items, List.foldlM_map]
      unfold item
      rfl
  | element e =>
      rw [Content.items, List.foldlM_cons]
      unfold item
      exact (bind_pure _).symm

/-- It does not matter how the lines of a body are grouped. -/
theorem body_eq_items (content : List Content) (tag : OpenedTag E D) :
    body setting content tag
      = (content.flatMap Content.items).foldlM (placeItem setting) tag := by
  induction content generalizing tag with
  | nil =>
      unfold body
      rfl
  | cons c rest ih =>
      rw [List.flatMap_cons, List.foldlM_append, ← item_eq_items]
      unfold body
      exact bind_congr fun tag => ih tag

-- =============================================================== gists

/-- The line of a tag is reported, and nothing else is done with it. -/
theorem openTag_alike (parent : Option String) (name : String)
    (attributes : List Attribute) (line line' : Nat) :
    (openTag setting parent name attributes line).Alike
      (openTag setting parent name attributes line') :=
  openTag_related setting .same .same
    (fun declared => .opening name declared parent line line')
    (.unknownTag name line line') attributes

mutual

/-- Elements with the same gist are built alike. By recursion over the one
of them; the other comes apart as its gist does. -/
theorem element_alike (parent : Option String) :
    (e : ElementOf Content) → (e' : Element) →
    Element.gist e = Element.gist e' →
    (element setting parent e).Alike (element setting parent e')
  | ⟨name, attributes, content, line⟩, ⟨name', attributes', content', line'⟩,
    h => by
    rw [Element.gist, Element.gist] at h
    obtain ⟨rfl, rfl, hbody⟩ := Gist.element.inj h
    unfold element
    refine (openTag_alike setting parent name attributes line line').bind
      fun tag => Run.Alike.bind ?_ fun tag => .refl _
    rw [body_eq_items setting content' tag]
    exact body_alike content _ tag
      (hbody.trans (Content.flatMap_items_gist content').symm)

/-- A body is built as items with its gists are. -/
theorem body_alike : (content : List Content) → (items : List Item) →
    (tag : OpenedTag E D) → Content.gistsAll content = items.map Item.gist →
    (body setting content tag).Alike
      (items.foldlM (placeItem setting) tag)
  | [], items, tag, h => by
    obtain rfl := List.map_eq_nil_iff.mp h.symm
    unfold body
    exact .refl _
  | c :: rest, items, tag, h => by
    rw [Content.gistsAll] at h
    obtain ⟨first, more, rfl, hfirst, hmore⟩ :=
      List.map_eq_append_iff.mp h.symm
    rw [List.foldlM_append]
    unfold body
    exact (item_alike c first tag hfirst.symm).bind fun tag =>
      body_alike rest more tag hmore.symm

/-- So is one item of a body. -/
theorem item_alike : (c : Content) → (items : List Item) →
    (tag : OpenedTag E D) → Content.gists c = items.map Item.gist →
    (item setting c tag).Alike (items.foldlM (placeItem setting) tag)
  | .text run, items, tag, h => by
    rw [Content.gists] at h
    rw [item_eq_items, Item.gists_lines h]
    exact .refl _
  | .element e, items, tag, h => by
    rw [Content.gists] at h
    obtain ⟨child, rest, rfl, hchild, hrest⟩ :=
      List.map_eq_cons_iff.mp h.symm
    obtain rfl := List.map_eq_nil_iff.mp hrest
    obtain ⟨e', rfl, he⟩ := Item.gist_element hchild.symm
    obtain ⟨name, attributes, content, line⟩ := e
    have hname : name = e'.name := by
      obtain ⟨name', attributes', content', line'⟩ := e'
      rw [Element.gist, Element.gist] at he
      exact (Gist.element.inj he).1
    have hsingle : [Item.element e'].foldlM (placeItem setting) tag
        = placeItem setting tag (.element e') := bind_pure _
    rw [hsingle]
    unfold item placeItem
    dsimp only
    rw [← hname]
    exact (element_alike (some tag.name) ⟨name, attributes, content, line⟩
      e' he).bind fun child => .refl _

end

/-- Documents with the same gist are built alike. -/
theorem document_alike {d d' : Document} (h : d.gists = d'.gists) :
    (document setting d).Alike (document setting d') := by
  obtain ⟨roots⟩ := d
  obtain ⟨roots'⟩ := d'
  unfold document Document.gists at *
  dsimp only at *
  induction roots generalizing roots' with
  | nil =>
      obtain rfl := List.map_eq_nil_iff.mp h.symm
      exact .refl _
  | cons e roots ih =>
      obtain ⟨e', rest, rfl, he, hrest⟩ := List.map_eq_cons_iff.mp h.symm
      rw [List.mapM_cons, List.mapM_cons]
      exact (element_alike setting none e e' he.symm).bind fun _ =>
        (ih rest hrest.symm).bind fun _ => .refl _

/-- Whatever the registry, the actions and the configuration are: elements
and documents with the same gist are built alike, so a source is built as
before when white space, the grouping of text and comments are edited in
it. -/
theorem build_of_gist (setting : Setting E D) :
    (∀ parent e e', Element.gist e = Element.gist e' →
      (element setting parent e).Alike (element setting parent e'))
    ∧ (∀ d d' : Document, d.gists = d'.gists →
      (document setting d).Alike (document setting d'))
    ∧ ∀ s s' : String,
      Relation.ReflTransGen Edited s.toList s'.toList →
      (∃ d d', Document.parse? s = .ok d ∧ Document.parse? s' = .ok d'
        ∧ d.gists = d'.gists
        ∧ (source setting s).Alike (source setting s'))
      ∨ ∃ e e', Document.parse? s = .error e
        ∧ Document.parse? s' = .error e' := by
  refine ⟨element_alike setting, fun d d' h => document_alike setting h,
    fun s s' h => ?_⟩
  rcases parse?_edited h with ⟨d, d', hs, hs', hgists⟩ | herror
  · refine Or.inl ⟨d, d', hs, hs', hgists, ?_⟩
    unfold source
    rw [hs, hs']
    exact document_alike setting hgists
  · exact Or.inr herror

/-- A widget with two lines of text in two runs, and a blank run. -/
def spreadWidget : Element :=
  ⟨"widget", [⟨"style", "plain"⟩],
    [.text "\n  hi\n", .text " ", .text "you"], 4⟩

/-- The same lines in one run. -/
def joinedWidget : Element :=
  ⟨"widget", [⟨"style", "plain"⟩], [.text "hi\r\nyou"], 1⟩

def unixSource : String := "<widget>hi\nyou</widget>"

def dosSource : String := "<widget>hi\r\nyou<!-- c --></widget>"

/-- Line ends are changed, and a comment is put behind the last line. -/
theorem edited_dosSource :
    Relation.ReflTransGen Edited unixSource.toList dosSource.toList := by
  have hname : IsName "widget".toList := by decide +kernel
  have htag := ScanState.scans_opening .start .start [] hname
  have hend : Scans (.openingName .start "widget".toList.reverse) ⟨1, 8⟩
      ['>'] [⟨.opening "widget", .start⟩, ⟨.tagEnd, ⟨1, 8⟩⟩]
      (outside ⟨1, 9⟩) := .single (by rfl)
  have hclosing : ∀ c, "</widget>".toList.head? = some c → c = '<' := by
    intro c hc
    cases hc
    rfl
  have htext : '<' ∉ "hi\nyou".toList := by decide
  have htext' : '<' ∉ "hi\r\nyou".toList := by decide
  have hcomment : IsComment ('<' :: '!' :: '-' :: '-'
      :: (" c ".toList ++ ['-', '-', '>'])) := .mk (by decide)
  have hnone : Blanks [] := List.forall_mem_nil _
  have hscan := htag.append hend
  exact (edited_crlf hscan htext hclosing).tail
    (.text hscan htext' List.not_mem_nil hclosing (Or.inr hnone)
      (Or.inl hnone) (Or.inr hcomment))

/-- Both of these widgets and both of these sources are built alike. -/
theorem build_of_gist_widget :
    (element Scenario.markSetting none spreadWidget).Alike
      (element Scenario.markSetting none joinedWidget)
    ∧ (source Scenario.markSetting dosSource).result
      = .ok [.widget { Scenario.Widget.styled "default" with
          lines := ["hi", "you"] }] := by
  obtain ⟨helement, -, hsource⟩ := build_of_gist Scenario.markSetting
  refine ⟨helement none spreadWidget joinedWidget (by rfl), ?_⟩
  have hparse : Document.parse? unixSource
      = .ok ⟨[⟨"widget", [], [.text "hi\nyou"], 1⟩]⟩ := by rfl
  have hunix : (source Scenario.markSetting unixSource).result
      = .ok [.widget { Scenario.Widget.styled "default" with
          lines := ["hi", "you"] }] := by
    rw [source, hparse]
    cbv
  rcases hsource _ _ edited_dosSource with ⟨-, -, -, -, -, halike⟩ | herror
  · exact halike.ok _ hunix
  · obtain ⟨e, -, he, -⟩ := herror
    rw [hparse] at he
    cases he

end Build

end EntityMarkup
