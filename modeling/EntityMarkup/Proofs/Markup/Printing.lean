/-
Writing a document back. An element is printed as an opening tag, its
body and a closing tag; each value goes in the first quotes that it does
not contain, or else without quotes and with a space behind it, and an
empty comment keeps two runs of text apart. Of what markup can denote,
this is a spelling (`Element.print_spelling`).

What a source denotes is found in it at every depth, and so can be printed
and read again: the same trees come back, but for the lines
(`parse_found_and_reprinted`).
-/
import EntityMarkup.Proofs.Markup.Completeness
import EntityMarkup.Proofs.Markup.Found
import Mathlib.Data.List.Induction

namespace EntityMarkup

-- ============================================================= printing

/-- A value in double quotes if it can be, else in single quotes if it
can be, else bare and with a space behind it. -/
def printValue (value : List Char) : List Char :=
  if '"' ∉ value then '"' :: (value ++ ['"'])
  else if '\'' ∉ value then '\'' :: (value ++ ['\''])
  else value ++ [' ']

def Attribute.print (a : Attribute) : List Char :=
  ' ' :: (a.name.toList ++ '=' :: printValue a.value.toList)

/-- An empty comment between two runs of text. -/
def separator : Content → List Content → List Char
  | .text _, .text _ :: _ => ['<', '!', '-', '-', '-', '-', '>']
  | .text _, _ => []
  | .element _, _ => []

mutual

/-- A body item as it is printed. -/
def Content.print : Content → List Char
  | .text run => run.toList
  | .element e => Element.print e

/-- An element as it is printed, with a closing tag in any case. -/
def Element.print : Element → List Char
  | ⟨name, attributes, body, _⟩ =>
      '<' :: name.toList ++ attributes.flatMap Attribute.print ++ ['>']
        ++ Content.printAll body
        ++ ('<' :: '/' :: name.toList ++ ['>'])

/-- A body as it is printed. -/
def Content.printAll : List Content → List Char
  | [] => []
  | item :: rest =>
      Content.print item ++ (separator item rest ++ Content.printAll rest)

end

/-- A document as it is printed. -/
def Document.print (d : Document) : String :=
  String.ofList (Content.printAll (d.roots.map .element))

-- ============================================================ spellings

theorem blanks_space : Blanks [' '] := by decide +kernel

theorem printValue_spelling {value : List Char} (h : Spellable value) :
    ∃ bare chars blanks, printValue value = chars ++ blanks
      ∧ ValueSpelling value bare chars ∧ Blanks blanks
      ∧ (bare = true → blanks ≠ []) := by
  unfold printValue
  by_cases hdouble : '"' ∉ value
  · rw [if_pos hdouble]
    exact ⟨false, _, [], (List.append_nil _).symm, .double hdouble,
      List.forall_mem_nil _, fun h => absurd h Bool.false_ne_true⟩
  rw [if_neg hdouble]
  by_cases hsingle : '\'' ∉ value
  · rw [if_pos hsingle]
    exact ⟨false, _, [], (List.append_nil _).symm, .single hsingle,
      List.forall_mem_nil _, fun h => absurd h Bool.false_ne_true⟩
  rw [if_neg hsingle]
  rcases (spellable_iff value).mp h with hnone | hnone | hbare
  · exact absurd hnone hdouble
  · exact absurd hnone hsingle
  · exact ⟨true, value, [' '], rfl, .bare hbare, blanks_space,
      fun _ => List.cons_ne_nil _ _⟩

/-- The space behind a value without quotes belongs to the white space
that comes next. -/
theorem printAttributes_spelling {attributes : List Attribute}
    (h : ∀ a ∈ attributes, Spellable a.value.toList) :
    ∃ bare chars blanks,
      attributes.flatMap Attribute.print = chars ++ blanks
        ∧ AttributesSpelling attributes bare chars ∧ Blanks blanks
        ∧ (bare = true → blanks ≠ []) := by
  induction attributes using List.reverseRecOn with
  | nil =>
      exact ⟨false, [], [], rfl, .nil, List.forall_mem_nil _,
        fun h => absurd h Bool.false_ne_true⟩
  | append_singleton attributes a ih =>
      obtain ⟨hbefore, hlast⟩ := List.forall_mem_append.mp h
      obtain ⟨bare, chars, blanks, heq, hspelling, hblanks, -⟩ := ih hbefore
      obtain ⟨bare', value, blanks', heq', hvalue, hblanks', hne⟩ :=
        printValue_spelling (hlast a (List.mem_singleton.mpr rfl))
      have ha : AttributeSpelling a bare'
          (a.name.toList ++ ([] ++ '=' :: ([] ++ value))) :=
        .valued (List.forall_mem_nil _) (List.forall_mem_nil _) hvalue
      have hspace : Blanks (blanks ++ [' ']) :=
        List.forall_mem_append.mpr ⟨hblanks, blanks_space⟩
      refine ⟨bare', _, blanks', ?_, .snoc hspelling hspace
        (List.append_ne_nil_of_right_ne_nil _ (List.cons_ne_nil _ _)) ha,
        hblanks', hne⟩
      rw [List.flatMap_append, heq, List.flatMap_singleton, Attribute.print,
        heq']
      simp

theorem isComment_empty : IsComment ['<', '!', '-', '-', '-', '-', '>'] :=
  @IsComment.mk [] (by decide)

mutual

/-- An element that markup can denote is printed as a spelling of it. -/
theorem Element.print_spelling : (e : Element) → Sound e →
    ElementSpelling e e.print
  | ⟨name, attributes, body, line⟩, .mk htag hbody => by
      obtain ⟨bare, chars, blanks, heq, hspelling, hblanks, hend⟩ :=
        printAttributes_spelling htag.values
      have h : ElementSpelling ⟨name, attributes, body, line⟩ _ :=
        .closed hspelling hblanks hend (Content.printAll_spelling body hbody)
          (List.forall_mem_nil _)
      rw [Element.print, heq]
      simpa using h

/-- A body is printed as a spelling of it. -/
theorem Content.printAll_spelling : (body : List Content) →
    SoundBody body → BodySpelling true body (Content.printAll body)
  | [], _ => .nil true
  | [.text run], _ => .text (.nil false)
  | .text run :: .text run' :: rest, .text _ hrest =>
      .text (.comment isComment_empty
        (Content.printAll_spelling (.text run' :: rest) hrest))
  | .text run :: .element e :: rest, .text _ (.element he hrest) => by
      have hbody : BodySpelling false (.element e :: rest)
          (Element.print e ++ Content.printAll rest) :=
        .element (Element.print_spelling e he)
          (Content.printAll_spelling rest hrest)
      exact .text hbody
  | .element e :: rest, .element he hrest =>
      .element (Element.print_spelling e he)
        (Content.printAll_spelling rest hrest)

end

-- ============================================================ documents

/-- The tokens of a spelling are a flattening of the trees, but for the
lines. -/
theorem Spelling.flattening {roots : List Element} {source : String}
    (hsound : SoundBody (roots.map .element))
    (h : Spelling roots source) :
    ∃ (roots' : List Element) (ts : List Placed), tokens? source
        = .ok (ts ++ [⟨.eof, Position.start.advance source.toList⟩])
      ∧ BodyTokens (roots'.map .element) ts
      ∧ roots'.map Element.unlined = roots.map Element.unlined := by
  obtain ⟨body, ts, done, start, run, hscan, hdone, htokens, hsame⟩ :=
    BodySpelling.scans .start .start [] h (fun _ => rfl) hsound
  obtain ⟨roots', rfl, hsame'⟩ := exists_roots hsame
  have hts : done ++ ScanState.textToken start run = ts := hdone
  refine ⟨roots', ts, ?_, htokens, hsame'⟩
  rw [← hts]
  exact hscan.tokens_eq rfl

/-- A source that is read is laid out as a flattening of what it denotes;
its elements are found in it, at every depth; and what it denotes can be
printed and read again, to the same trees but for the lines. -/
theorem parse_found_and_reprinted {source : String} {d : Document}
    (h : Document.parse? source = .ok d) :
    (∃ covered gap ts, source.toList = covered ++ gap ∧ Comments gap
      ∧ Layout .outside [] covered ts .outside
      ∧ BodyTokens (d.roots.map .element) ts)
    ∧ (∀ e ∈ d.elements, FoundIn source.toList e)
    ∧ ∃ d', Document.parse? d.print = .ok d'
      ∧ d'.roots.map Element.unlined = d.roots.map Element.unlined := by
  obtain ⟨covered, gap, ts, hsource, hgap, htokens, hlayout, hflat⟩ :=
    exists_flattening h
  have hfound : ∀ e ∈ d.elements, FoundIn source.toList e :=
    hflat.foundIn hlayout hsource
  refine ⟨⟨covered, gap, ts, hsource, hgap, hlayout, hflat⟩, hfound, ?_⟩
  have hroots : ∀ run, .text run ∈ d.roots.map Content.element →
      IsText run := by
    intro run hmem
    obtain ⟨e, -, heq⟩ := List.mem_map.mp hmem
    cases heq
  have hsound := Content.sound (d.roots.map .element) hroots hfound
  have hspelling : Spelling d.roots d.print := by
    rw [Spelling, Document.print, String.toList_ofList]
    exact Content.printAll_spelling _ hsound
  obtain ⟨roots', ts', htokens', hflat', hsame⟩ :=
    hspelling.flattening hsound
  refine ⟨⟨roots'⟩, ?_, hsame⟩
  rw [Document.parse?, htokens']
  exact hflat'.document_eq _

/-- A value with both quotes in it, and two texts with a comment between
them, on the second line. -/
def reprintedSource : String :=
  "<a>\n<b x=1'\"2\n>one<!-- c -->two</b></a>"

def reprintedDocument : Document :=
  ⟨[⟨"a", [], [.element ⟨"b", [⟨"x", "1'\"2"⟩],
    [.text "one", .text "two"], 2⟩], 1⟩]⟩

theorem parse_found_and_reprinted_sample :
    Document.parse? reprintedSource = .ok reprintedDocument
      ∧ reprintedDocument.print
        = "<a><b x=1'\"2 >one<!---->two</b></a>"
      ∧ (∃ covered gap ts, reprintedSource.toList = covered ++ gap
        ∧ Comments gap ∧ Layout .outside [] covered ts .outside
        ∧ BodyTokens (reprintedDocument.roots.map .element) ts)
      ∧ (∀ e ∈ reprintedDocument.elements,
        FoundIn reprintedSource.toList e)
      ∧ ∃ d', Document.parse? reprintedDocument.print = .ok d'
        ∧ d'.roots.map Element.unlined
          = reprintedDocument.roots.map Element.unlined := by
  have hparse : Document.parse? reprintedSource = .ok reprintedDocument := by
    rfl
  exact ⟨hparse, by decide +kernel, parse_found_and_reprinted hparse⟩

end EntityMarkup
