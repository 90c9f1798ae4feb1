/-
The ways to write trees as markup. A spelling is a run of characters: of
a value, of an attribute, of all attributes of a tag, of an element, of
what stands between a tag and its closing tag. The writer is free in
every place where the reader is lenient: the quotes, white space, comments,
the two ways to end a tag that has nothing in its body.

Two things have to be watched from one piece to the next. A value without
quotes goes on until white space or a slash and a bracket end it, so an
attribute's spelling says whether it ends in such a value. And text goes
on until a tag or a comment ends it, so what may follow depends on whether
a run of text has begun.
-/
import EntityMarkup.Markup.Element
import EntityMarkup.Proofs.Markup.Classes

namespace EntityMarkup

-- ============================================================== pieces

/-- Nothing but white space. -/
def Blanks (chars : List Char) : Prop :=
  ∀ c ∈ chars, Text.isBlank c = true

instance (chars : List Char) : Decidable (Blanks chars) :=
  decidable_of_iff (chars.all Text.isBlank = true) List.all_eq_true

/-- What a name of a tag or an attribute consists of. -/
structure IsName (name : List Char) : Prop where
  ne_nil : name ≠ []
  chars : ∀ c ∈ name, isNameChar c = true

instance (name : List Char) : Decidable (IsName name) :=
  decidable_of_iff (name ≠ [] ∧ name.all isNameChar = true)
    ⟨fun h => ⟨h.1, List.all_eq_true.mp h.2⟩,
      fun h => ⟨h.ne_nil, List.all_eq_true.mpr h.chars⟩⟩

/-- A comment, up to the first place where it can end. -/
inductive IsComment : List Char → Prop
  | mk {body : List Char} (hbody : ¬ ['-', '-', '>'] <:+: body) :
      IsComment ('<' :: '!' :: '-' :: '-' :: (body ++ ['-', '-', '>']))

/-- A character of a value without quotes. -/
structure IsBareChar (c : Char) : Prop where
  not_blank : Text.isBlank c = false
  ne_end : c ≠ '>'

instance (c : Char) : Decidable (IsBareChar c) :=
  decidable_of_iff (Text.isBlank c = false ∧ c ≠ '>')
    ⟨fun h => ⟨h.1, h.2⟩, fun h => ⟨h.not_blank, h.ne_end⟩⟩

/-- A value that needs no quotes. As it has no bracket, no slash in it
can end the tag. -/
structure IsBareValue (value : List Char) : Prop where
  ne_nil : value ≠ []
  chars : ∀ c ∈ value, IsBareChar c
  not_double : value.head? ≠ some '"'
  not_single : value.head? ≠ some '\''

instance (value : List Char) : Decidable (IsBareValue value) :=
  decidable_of_iff
    (value ≠ [] ∧ value.all (decide <| IsBareChar ·) = true
      ∧ value.head? ≠ some '"' ∧ value.head? ≠ some '\'')
    ⟨fun h => ⟨h.1, fun c hc =>
        of_decide_eq_true (List.all_eq_true.mp h.2.1 c hc), h.2.2.1, h.2.2.2⟩,
      fun h => ⟨h.ne_nil, List.all_eq_true.mpr fun c hc =>
        decide_eq_true (h.chars c hc), h.not_double, h.not_single⟩⟩

-- ========================================================== attributes

/-- The spellings of a value. The flag tells whether it goes without
quotes. -/
inductive ValueSpelling (value : List Char) : Bool → List Char → Prop
  | double (h : '"' ∉ value) :
      ValueSpelling value false ('"' :: (value ++ ['"']))
  | single (h : '\'' ∉ value) :
      ValueSpelling value false ('\'' :: (value ++ ['\'']))
  | bare (h : IsBareValue value) : ValueSpelling value true value

/-- The spellings of an attribute. The flag tells whether it ends in a
value without quotes. -/
inductive AttributeSpelling : Attribute → Bool → List Char → Prop
  | flag (name : String) :
      AttributeSpelling ⟨name, "true"⟩ false name.toList
  | valued {name value : String} {before behind chars : List Char}
      {bare : Bool} (hbefore : Blanks before) (hbehind : Blanks behind)
      (hvalue : ValueSpelling value.toList bare chars) :
      AttributeSpelling ⟨name, value⟩ bare
        (name.toList ++ (before ++ '=' :: (behind ++ chars)))

/-- The spellings of a tag's attributes, each behind white space. The
flag tells whether the last ends in a value without quotes. -/
inductive AttributesSpelling : List Attribute → Bool → List Char → Prop
  | nil : AttributesSpelling [] false []
  | snoc {attributes : List Attribute} {a : Attribute} {bare bare' : Bool}
      {before blanks chars : List Char}
      (hbefore : AttributesSpelling attributes bare before)
      (hblanks : Blanks blanks) (hne : blanks ≠ [])
      (ha : AttributeSpelling a bare' chars) :
      AttributesSpelling (attributes ++ [a]) bare'
        (before ++ (blanks ++ chars))

-- ============================================================ elements

mutual

/-- The spellings of an element. Without a body it may end at its opening
tag. Where a bracket ends an opening tag, it is apart from a value without
quotes. -/
inductive ElementSpelling : Element → List Char → Prop
  | selfClosed {name : String} {attributes : List Attribute} {line : Nat}
      {bare : Bool} {chars blanks : List Char}
      (hattributes : AttributesSpelling attributes bare chars)
      (hblanks : Blanks blanks) :
      ElementSpelling ⟨name, attributes, [], line⟩
        ('<' :: name.toList ++ chars ++ (blanks ++ ['/', '>']))
  | closed {name : String} {attributes : List Attribute}
      {body : List Content} {line : Nat} {bare : Bool}
      {chars blanks inside blanks' : List Char}
      (hattributes : AttributesSpelling attributes bare chars)
      (hblanks : Blanks blanks) (hend : bare = true → blanks ≠ [])
      (hbody : BodySpelling true body inside)
      (hblanks' : Blanks blanks') :
      ElementSpelling ⟨name, attributes, body, line⟩
        ('<' :: name.toList ++ chars ++ (blanks ++ ['>']) ++ inside
          ++ ('<' :: '/' :: name.toList ++ (blanks' ++ ['>'])))

/-- The spellings of a list of body items. The flag tells whether a run of
text may begin here. Comments may stand anywhere, and so may white space
that does not become part of a text. -/
inductive BodySpelling : Bool → List Content → List Char → Prop
  | nil (fresh : Bool) : BodySpelling fresh [] []
  | comment {fresh : Bool} {body : List Content} {comment chars : List Char}
      (hcomment : IsComment comment) (hrest : BodySpelling true body chars) :
      BodySpelling fresh body (comment ++ chars)
  | blanks {body : List Content} {blanks chars : List Char}
      (hblanks : Blanks blanks) (hrest : BodySpelling false body chars) :
      BodySpelling true body (blanks ++ chars)
  | text {run : String} {body : List Content} {chars : List Char}
      (hrest : BodySpelling false body chars) :
      BodySpelling true (.text run :: body) (run.toList ++ chars)
  | element {fresh : Bool} {e : Element} {body : List Content}
      {chars chars' : List Char} (he : ElementSpelling e chars)
      (hrest : BodySpelling true body chars') :
      BodySpelling fresh (.element e :: body) (chars ++ chars')

end

/-- The spellings of a whole source. -/
def Spelling (roots : List Element) (source : String) : Prop :=
  BodySpelling true (roots.map .element) source.toList

-- =============================================================== trees

/-- A value that has a spelling. -/
def Spellable (value : List Char) : Prop :=
  ∃ bare chars, ValueSpelling value bare chars

/-- Text that is kept: not blank, and of one piece. -/
structure IsText (run : String) : Prop where
  not_blank : Text.isBlankText run = false
  no_tag : '<' ∉ run.toList

instance (run : String) : Decidable (IsText run) :=
  decidable_of_iff (Text.isBlankText run = false ∧ '<' ∉ run.toList)
    ⟨fun h => ⟨h.1, h.2⟩, fun h => ⟨h.not_blank, h.no_tag⟩⟩

/-- What is asked of an opening tag's name and attributes. -/
structure SoundTag (name : String) (attributes : List Attribute) :
    Prop where
  name : IsName name.toList
  names : ∀ a ∈ attributes, IsName a.name.toList
  distinct : (attributes.map (·.name)).Nodup
  values : ∀ a ∈ attributes, Spellable a.value.toList

mutual

/-- An element that markup can denote. -/
inductive Sound : Element → Prop
  | mk {name : String} {attributes : List Attribute}
      {body : List Content} {line : Nat}
      (htag : SoundTag name attributes) (hbody : SoundBody body) :
      Sound ⟨name, attributes, body, line⟩

/-- A body that markup can denote. -/
inductive SoundBody : List Content → Prop
  | nil : SoundBody []
  | text {run : String} {body : List Content} (htext : IsText run)
      (hrest : SoundBody body) : SoundBody (.text run :: body)
  | element {e : Element} {body : List Content} (he : Sound e)
      (hrest : SoundBody body) : SoundBody (.element e :: body)

end

theorem SoundBody.of_roots {roots : List Element}
    (h : ∀ e ∈ roots, Sound e) : SoundBody (roots.map .element) := by
  induction roots with
  | nil => exact .nil
  | cons e rest ih =>
      exact .element (h e (List.mem_cons_self ..))
        (ih fun e' he' => h e' (List.mem_cons_of_mem e he'))

-- =============================================================== lines

mutual

/-- The item without the lines its elements start on. -/
def Content.unlined : Content → Content
  | .text run => .text run
  | .element e => .element (Element.unlined e)

/-- The element without the lines it and those inside it start on. -/
def Element.unlined : Element → Element
  | ⟨name, attributes, body, _⟩ =>
      ⟨name, attributes, Content.unlinedAll body, 0⟩

/-- A body without lines. -/
def Content.unlinedAll : List Content → List Content
  | [] => []
  | item :: rest => Content.unlined item :: Content.unlinedAll rest

end

end EntityMarkup
