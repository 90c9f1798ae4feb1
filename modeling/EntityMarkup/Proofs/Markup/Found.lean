/-
The elements of a document as they stand in its source. A source is laid
out as a flattening of what it denotes, so each element, at every depth,
is spelled by a piece of the source, and what the lexemes say of names,
values and texts holds of it (`FoundIn`). An element all of whose parts
are found in a source is one that markup can denote (`Sound`).
-/
import EntityMarkup.Proofs.Markup.Coverage
import EntityMarkup.Proofs.Markup.Nesting

namespace EntityMarkup

-- ========================================================= all elements

mutual

/-- The elements of a body item, at every depth. -/
def Content.elements : Content → List Element
  | .text _ => []
  | .element e => Element.all e

/-- An element and those inside it, each before what it contains. -/
def Element.all : Element → List Element
  | ⟨name, attributes, body, line⟩ =>
      ⟨name, attributes, body, line⟩ :: Content.elementsAll body

/-- The elements of a body, at every depth. -/
def Content.elementsAll : List Content → List Element
  | [] => []
  | item :: rest => Content.elements item ++ Content.elementsAll rest

end

/-- The elements of a document, at every depth. -/
def Document.elements (d : Document) : List Element :=
  Content.elementsAll (d.roots.map .element)

mutual

/-- The tokens of an element contain those of the elements inside it. -/
theorem ElementTokens.exists_inner {e e' : Element} {ts : List Placed} :
    ElementTokens e ts → e' ∈ e.all →
      ∃ before inside after, ts = before ++ (inside ++ after)
        ∧ ElementTokens e' inside
  | .selfClosed first last hattributes hdistinct, hmem => by
      rcases List.mem_cons.mp hmem with rfl | hinner
      · exact ⟨[], _, [], (List.append_nil _).symm,
          .selfClosed first last hattributes hdistinct⟩
      · exact absurd hinner List.not_mem_nil
  | @ElementTokens.closed name attributes body ts _ first mid last
      hattributes hdistinct hbody, hmem => by
      rcases List.mem_cons.mp hmem with rfl | hinner
      · exact ⟨[], _, [], (List.append_nil _).symm,
          .closed first mid last hattributes hdistinct hbody⟩
      · obtain ⟨before, inside, after, rfl, he'⟩ :=
          hbody.exists_inner hinner
        refine ⟨⟨.opening name, first⟩ :: (ts ++ [⟨.tagEnd, mid⟩]) ++ before,
          inside, after ++ [⟨.closing name, last⟩], ?_, he'⟩
        simp only [List.append_assoc]

/-- So do the tokens of a body. -/
theorem BodyTokens.exists_inner {body : List Content} {e' : Element}
    {ts : List Placed} :
    BodyTokens body ts → e' ∈ Content.elementsAll body →
      ∃ before inside after, ts = before ++ (inside ++ after)
        ∧ ElementTokens e' inside
  | .nil, hmem => absurd hmem List.not_mem_nil
  | .blank pos hblank hrest, hmem => by
      obtain ⟨before, inside, after, rfl, he'⟩ := hrest.exists_inner hmem
      exact ⟨_ :: before, inside, after, rfl, he'⟩
  | .text pos hblank hrest, hmem => by
      obtain ⟨before, inside, after, rfl, he'⟩ := hrest.exists_inner hmem
      exact ⟨_ :: before, inside, after, rfl, he'⟩
  | @BodyTokens.element e _ _ ts' he hrest, hmem => by
      rcases List.mem_append.mp hmem with hmem | hmem
      · obtain ⟨before, inside, after, rfl, he'⟩ := he.exists_inner hmem
        refine ⟨before, inside, after ++ ts', ?_, he'⟩
        rw [List.append_assoc, List.append_assoc]
      · obtain ⟨before, inside, after, rfl, he'⟩ := hrest.exists_inner hmem
        exact ⟨_ ++ before, inside, after, (List.append_assoc ..).symm, he'⟩

end

/-- A text among the items of a body is one of its tokens. -/
theorem BodyTokens.exists_text {body : List Content} {run : String}
    {ts : List Placed} :
    BodyTokens body ts → .text run ∈ body →
      Text.isBlankText run = false ∧ ∃ pos, ⟨.text run, pos⟩ ∈ ts
  | .nil, hmem => absurd hmem List.not_mem_nil
  | .blank pos hblank hrest, hmem => by
      obtain ⟨hkept, pos', hpos'⟩ := hrest.exists_text hmem
      exact ⟨hkept, pos', List.mem_cons_of_mem _ hpos'⟩
  | .text pos hblank hrest, hmem => by
      rcases List.mem_cons.mp hmem with heq | hmem
      · cases heq
        exact ⟨hblank, pos, List.mem_cons_self ..⟩
      · obtain ⟨hkept, pos', hpos'⟩ := hrest.exists_text hmem
        exact ⟨hkept, pos', List.mem_cons_of_mem _ hpos'⟩
  | .element he hrest, hmem => by
      rcases List.mem_cons.mp hmem with heq | hmem
      · cases heq
      · obtain ⟨hkept, pos', hpos'⟩ := hrest.exists_text hmem
        exact ⟨hkept, pos', List.mem_append_right _ hpos'⟩

-- ========================================================== attributes

/-- The attributes of a tag as they are written, in this order. Some may
follow one another without white space. -/
inductive AttributesWritten : List Attribute → List Char → Prop
  | nil : AttributesWritten [] []
  | snoc {attributes : List Attribute} {a : Attribute} {bare : Bool}
      {before blanks chars : List Char}
      (hbefore : AttributesWritten attributes before)
      (hblanks : Blanks blanks) (hname : IsName a.name.toList)
      (ha : AttributeSpelling a bare chars) :
      AttributesWritten (attributes ++ [a]) (before ++ (blanks ++ chars))

section

variable {attributes : List Attribute} {a : Attribute}
  {before chars attrs : List Char} {region : Region} {ts : List Placed}

theorem AttributesWritten.names (h : AttributesWritten attributes attrs) :
    ∀ a ∈ attributes, IsName a.name.toList := by
  induction h with
  | nil => exact List.forall_mem_nil _
  | snoc hbefore hblanks hname ha ih =>
      exact List.forall_mem_append.mpr
        ⟨ih, List.forall_mem_singleton.mpr hname⟩

/-- A value has a spelling when one kind of quotes is not in it, or when
it needs none. -/
theorem spellable_iff (value : List Char) :
    Spellable value
      ↔ '"' ∉ value ∨ '\'' ∉ value ∨ IsBareValue value := by
  constructor
  · rintro ⟨bare, chars, hvalue⟩
    cases hvalue with
    | double h => exact .inl h
    | single h => exact .inr (.inl h)
    | bare h => exact .inr (.inr h)
  · rintro (h | h | h)
    · exact ⟨false, _, .double h⟩
    · exact ⟨false, _, .single h⟩
    · exact ⟨true, _, .bare h⟩

theorem AttributesWritten.spellable
    (h : AttributesWritten attributes attrs) :
    ∀ a ∈ attributes, Spellable a.value.toList := by
  have hquote : '"' ∉ "true".toList := by decide
  induction h with
  | nil => exact List.forall_mem_nil _
  | @snoc attributes a bare before blanks chars hbefore hblanks hname ha
      ih =>
      refine List.forall_mem_append.mpr
        ⟨ih, List.forall_mem_singleton.mpr ?_⟩
      cases ha with
      | flag name => exact ⟨false, _, .double hquote⟩
      | valued hbefore hbehind hvalue => exact ⟨bare, _, hvalue⟩

/-- The tokens of one attribute, laid out in a tag. -/
theorem AttributeTokens.spelling (ha : AttributeTokens a ts)
    (h : Layout .tag before chars ts region) :
    region = .tag ∧ IsName a.name.toList
      ∧ ∃ bare blanks attr, chars = blanks ++ attr ∧ Blanks blanks
        ∧ AttributeSpelling a bare attr := by
  cases ha with
  | flag name pos =>
      cases h with
      | @cons _ _ _ gap _ _ _ _ hgap hlexeme hrest =>
          cases hlexeme with
          | attrName hname =>
              cases hrest with
              | nil =>
                  exact ⟨rfl, hname, false, gap, _, List.append_nil _, hgap,
                    .flag name⟩
  | valued name value first mid last =>
      cases h with
      | @cons _ _ _ gap _ _ _ _ hgap hlexeme hrest =>
          cases hlexeme with
          | attrName hname =>
              cases hrest with
              | cons hgap' hequals hrest =>
                  cases hequals with
                  | equals =>
                      cases hrest with
                      | cons hgap'' hvalue hrest =>
                          cases hvalue with
                          | @value _ bare spelling hvalue =>
                              cases hrest with
                              | nil =>
                                  refine ⟨rfl, hname, bare, gap, _, ?_, hgap,
                                    .valued hgap' hgap'' hvalue⟩
                                  simp

/-- So are those of all attributes of the tag. -/
theorem AttributesTokens.written (ha : AttributesTokens attributes ts)
    (h : Layout .tag before chars ts region) :
    region = .tag ∧ AttributesWritten attributes chars := by
  induction ha generalizing chars region with
  | nil =>
      cases h with
      | nil => exact ⟨rfl, .nil⟩
  | snoc hbefore ha ih =>
      obtain ⟨attrs, chars', mid, rfl, hfirst, hlast⟩ := h.split
      obtain ⟨rfl, hwritten⟩ := ih hfirst
      obtain ⟨rfl, hname, bare, blanks, attr, rfl, hblanks, hspelling⟩ :=
        ha.spelling hlast
      exact ⟨rfl, .snoc hwritten hblanks hname hspelling⟩

end

-- ============================================================ elements

/-- What is known of an element that a source denotes, wherever it is
nested. Its start is where its bracket stands. -/
structure FoundIn (source : List Char) (e : Element) : Prop where
  name : IsName e.name.toList
  names : ∀ a ∈ e.attributes, IsName a.name.toList
  distinct : (e.attributes.map (·.name)).Nodup
  values : ∀ a ∈ e.attributes, '"' ∉ a.value.toList
    ∨ '\'' ∉ a.value.toList ∨ IsBareValue a.value.toList
  texts : ∀ run, .text run ∈ e.body →
    IsText run ∧ run.toList <:+: source
  start : ∃ before attrs after,
    source = before ++ ('<' :: e.name.toList ++ attrs ++ after)
      ∧ AttributesWritten e.attributes attrs
      ∧ e.line = 1 + before.count '\n'

section

variable {attributes : List Attribute} {name : String} {e : Element}
  {source before chars behind : List Char} {region region' : Region}
  {first : Position} {ts more : List Placed}

/-- An opening tag as it is laid out, up to its end. -/
theorem Layout.openTag (ha : AttributesTokens attributes ts)
    (h : Layout region before chars (⟨.opening name, first⟩ :: (ts ++ more))
      region') :
    ∃ gap attrs rest, chars = gap ++ ('<' :: name.toList ++ attrs ++ rest)
      ∧ first = place (before ++ gap) ∧ IsName name.toList
      ∧ AttributesWritten attributes attrs := by
  cases h with
  | @cons _ _ _ gap _ _ _ _ hgap hlexeme hrest =>
      cases hlexeme with
      | opening hname =>
          obtain ⟨attrs, rest, mid, rfl, hattrs, -⟩ := hrest.split
          obtain ⟨-, hwritten⟩ := ha.written hattrs
          refine ⟨gap, attrs, rest, ?_, rfl, hname, hwritten⟩
          simp

/-- Text among tokens that are laid out is of one piece. -/
theorem Layout.text_infix {run : String} {pos : Position}
    (h : Layout region before chars ts region')
    (hmem : ⟨.text run, pos⟩ ∈ ts) :
    '<' ∉ run.toList ∧ run.toList <:+: chars := by
  obtain ⟨spot, a, lexeme, b, rfl, hlexeme, -⟩ := h.exists_lexeme _ hmem
  cases hlexeme with
  | text hne hrun => exact ⟨hrun, a, b, List.append_assoc ..⟩

theorem ElementTokens.foundIn (he : ElementTokens e ts)
    (h : Layout region before chars ts region')
    (hsource : source = before ++ (chars ++ behind)) :
    FoundIn source e := by
  have hinside : chars <:+: source := ⟨before, behind, by simp [hsource]⟩
  cases he with
  | @selfClosed name attributes ts first last hattributes hdistinct =>
      obtain ⟨gap, attrs, rest, rfl, rfl, hname, hwritten⟩ :=
        Layout.openTag hattributes h
      refine ⟨hname, hwritten.names, hdistinct, fun a ha =>
        (spellable_iff _).mp (hwritten.spellable a ha), fun run hrun =>
        absurd hrun List.not_mem_nil, before ++ gap, attrs, rest ++ behind,
        ?_, hwritten, rfl⟩
      simp [hsource]
  | @closed name attributes body ts inside first mid last hattributes
      hdistinct hbody =>
      have h' := h
      rw [List.cons_append, List.append_assoc] at h'
      obtain ⟨gap, attrs, rest, rfl, rfl, hname, hwritten⟩ :=
        Layout.openTag hattributes h'
      refine ⟨hname, hwritten.names, hdistinct, fun a ha =>
        (spellable_iff _).mp (hwritten.spellable a ha), fun run hrun => ?_,
        before ++ gap, attrs, rest ++ behind, ?_, hwritten, rfl⟩
      · obtain ⟨hkept, pos, hpos⟩ := hbody.exists_text hrun
        obtain ⟨hpiece, hinfix⟩ := h.text_infix (List.mem_append_right _
          (List.mem_append_left _ hpos))
        exact ⟨⟨hkept, hpiece⟩, hinfix.trans hinside⟩
      · simp [hsource]

/-- What a source is laid out as is found in it, at every depth. -/
theorem BodyTokens.foundIn {body : List Content} (hb : BodyTokens body ts)
    (h : Layout region before chars ts region')
    (hsource : source = before ++ (chars ++ behind)) :
    ∀ e ∈ Content.elementsAll body, FoundIn source e := by
  intro e he
  obtain ⟨tokens, inside, tokens', rfl, hinside⟩ := hb.exists_inner he
  obtain ⟨a, rest, mid, rfl, -, hrest⟩ := h.split
  obtain ⟨b, c, mid', rfl, hlayout, -⟩ := hrest.split
  have hwhole : source = before ++ a ++ (b ++ (c ++ behind)) := by
    simp [hsource]
  exact hinside.foundIn hlayout hwhole

end

-- ======================================================= sound documents

theorem FoundIn.soundTag {source : List Char} {e : Element}
    (h : FoundIn source e) : SoundTag e.name e.attributes :=
  ⟨h.name, h.names, h.distinct, fun a ha =>
    (spellable_iff _).mpr (h.values a ha)⟩

mutual

/-- An element whose parts are found in a source is one that markup can
denote. -/
theorem Element.sound {source : List Char} : (e : Element) →
    (∀ e' ∈ e.all, FoundIn source e') → Sound e
  | ⟨name, attributes, body, line⟩, h => by
      have hfound := h _ (List.mem_cons_self ..)
      exact .mk hfound.soundTag (Content.sound body
        (fun run hrun => (hfound.texts run hrun).1)
        fun e' he' => h e' (List.mem_cons_of_mem _ he'))

/-- So is a body. -/
theorem Content.sound {source : List Char} : (body : List Content) →
    (∀ run, .text run ∈ body → IsText run) →
    (∀ e ∈ Content.elementsAll body, FoundIn source e) → SoundBody body
  | [], _, _ => .nil
  | .text run :: rest, htexts, h =>
      .text (htexts run (List.mem_cons_self ..))
        (Content.sound rest (fun run' hrun' =>
          htexts run' (List.mem_cons_of_mem _ hrun')) h)
  | .element e :: rest, htexts, h =>
      .element (Element.sound e fun e' he' =>
          h e' (List.mem_append_left _ he'))
        (Content.sound rest (fun run' hrun' =>
          htexts run' (List.mem_cons_of_mem _ hrun')) fun e' he' =>
          h e' (List.mem_append_right _ he'))

end

/-- A source that is read as a document is laid out as a flattening of
it. -/
theorem exists_flattening {source : String} {d : Document}
    (h : Document.parse? source = .ok d) :
    ∃ covered gap ts, source.toList = covered ++ gap ∧ Comments gap
      ∧ tokens? source = .ok (ts ++ [⟨.eof, place source.toList⟩])
      ∧ Layout .outside [] covered ts .outside
      ∧ BodyTokens (d.roots.map .element) ts := by
  unfold Document.parse? at h
  cases htokens : tokens? source with
  | error e =>
      rw [htokens] at h
      cases h
  | ok all =>
      rw [htokens] at h
      obtain ⟨covered, gap, ts, hsource, hlayout, hgap, rfl⟩ :=
        exists_layout htokens
      exact ⟨covered, gap, ts, hsource, hgap, rfl, hlayout,
        .of_document hlayout.ne_eof h⟩

end EntityMarkup
