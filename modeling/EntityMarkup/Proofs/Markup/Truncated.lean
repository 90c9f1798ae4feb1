/-
Sources that are cut off. The scan of the first part of a source is where
the scan of the whole was at the cut, and the reading of its tokens too:
the complete elements are a first part of those of the whole, and the open
ones are told by the tokens (`Reads.standing`). If the cut is in a comment
or in a tag, the scan cannot end there; else the reading has to stop
between tags, and what stops it can only be an element that is open. Text
that the cut leaves outside every element is blank, since the text it
belongs to in the whole is.
-/
import EntityMarkup.Proofs.Markup.Fitting
import EntityMarkup.Proofs.Markup.Joined

namespace EntityMarkup

open ScanState (outside textToken written)

-- ========================================================== open tags

/-- The names of the tags that are open, innermost first, behind one more
token. -/
def namesBehind (names : List String) (t : Placed) : List String :=
  match t.token with
  | .opening name => name :: names
  | .closing _ | .selfClose => names.tail
  | .attrName _ | .value _ | .text _ | .equals | .tagEnd | .eof => names

/-- The names of the tags that tokens leave open, innermost first. -/
def openTags (ts : List Placed) : List String :=
  ts.foldl namesBehind []

/-- What is complete and which tags are open. -/
def Reading.standing? : Reading → Option (List Element × List String)
  | .content nest => some (nest.roots, nest.opened.map (·.name))
  | .tag nest head | .named nest head _ | .awaiting nest head _
  | .valued nest head _ =>
    some (nest.roots, head.name :: nest.opened.map (·.name))
  | .missing _ _ => none

section

variable {nest nest' : Nest} {head : OpenTag}
  {reading reading' : Reading} {t : Placed} {ts : List Placed}
  {roots : List Element} {names : List String}

/-- A token adds to the complete elements, if anything, and opens or
closes a tag. -/
def Follows (t : Placed) (roots : List Element) (names : List String)
    (reading : Reading) : Prop :=
  ∀ nextRoots nextNames,
    reading.standing? = some (nextRoots, nextNames) →
    nextNames = namesBehind names t ∧ roots <:+ nextRoots

theorem Nest.add_standing (nest : Nest) (e : Element) :
    (nest.add e).opened.map (·.name) = nest.opened.map (·.name)
      ∧ nest.roots <:+ (nest.add e).roots := by
  obtain ⟨roots, opened⟩ := nest
  cases opened with
  | nil => exact ⟨rfl, List.suffix_cons e roots⟩
  | cons inner outer => exact ⟨rfl, List.suffix_rfl⟩

theorem stepContent_follows
    (hstep : Reading.stepContent nest t = .ok reading') :
    Follows t nest.roots (nest.opened.map (·.name)) reading' := by
  obtain ⟨token, pos⟩ := t
  obtain ⟨roots, opened⟩ := nest
  intro nextRoots nextNames hnext
  cases token with
  | opening name =>
      cases hstep
      cases hnext
      exact ⟨rfl, List.suffix_rfl⟩
  | text run =>
      simp only [Reading.stepContent] at hstep
      split at hstep
      · cases hstep
        cases hnext
        exact ⟨rfl, List.suffix_rfl⟩
      · cases opened with
        | nil => cases hstep
        | cons inner outer =>
            cases hstep
            cases hnext
            exact ⟨rfl, List.suffix_rfl⟩
  | closing name =>
      cases opened with
      | nil => cases hstep
      | cons inner outer =>
          simp only [Reading.stepContent] at hstep
          split at hstep
          · cases hstep
            cases hnext
            exact Nest.add_standing ⟨roots, outer⟩ inner.element
          · cases hstep
  | attrName | value | equals | tagEnd | selfClose | eof =>
      cases opened with
      | nil | cons => cases hstep

theorem stepTag_follows (hstep : Reading.stepTag nest head t = .ok reading') :
    Follows t nest.roots (head.name :: nest.opened.map (·.name))
      reading' := by
  obtain ⟨token, pos⟩ := t
  intro nextRoots nextNames hnext
  cases token with
  | attrName name =>
      cases hstep
      cases hnext
      exact ⟨rfl, List.suffix_rfl⟩
  | tagEnd =>
      cases hstep
      cases hnext
      exact ⟨rfl, List.suffix_rfl⟩
  | selfClose =>
      cases hstep
      cases hnext
      exact Nest.add_standing nest head.element
  | opening | closing | value | text | equals | eof => cases hstep

theorem addStep_follows {a : Attribute} {pos : Position}
    (hstep : (do Reading.stepTag nest (← head.add a pos) t)
      = .ok reading') :
    Follows t nest.roots (head.name :: nest.opened.map (·.name))
      reading' := by
  cases hadd : head.add a pos with
  | error e =>
      rw [hadd] at hstep
      cases hstep
  | ok head' =>
      rw [hadd] at hstep
      obtain ⟨-, rfl⟩ := OpenTag.add_eq_ok hadd
      have hfollows := stepTag_follows (show Reading.stepTag nest
        { head with attributes := a :: head.attributes } t = _ from hstep)
      exact hfollows

/-- One token more. -/
theorem Reading.step_follows
    (hstanding : reading.standing? = some (roots, names))
    (hstep : reading.step t = .ok reading') :
    Follows t roots names reading' := by
  cases reading with
  | content nest =>
      cases hstanding
      exact stepContent_follows hstep
  | tag nest head =>
      cases hstanding
      exact stepTag_follows hstep
  | named nest head name =>
      cases hstanding
      simp only [Reading.step] at hstep
      split at hstep
      · next hequals =>
        intro nextRoots nextNames hnext
        cases hstep
        cases hnext
        rw [namesBehind, hequals]
        exact ⟨rfl, List.suffix_rfl⟩
      · exact addStep_follows hstep
  | awaiting nest head name =>
      cases hstanding
      intro nextRoots nextNames hnext
      obtain ⟨token, pos⟩ := t
      cases token with
      | value chars =>
          cases hstep
          cases hnext
          exact ⟨rfl, List.suffix_rfl⟩
      | opening | closing | attrName | text | equals | tagEnd | selfClose
      | eof =>
          cases hstep
          cases hnext
  | valued nest head last =>
      cases hstanding
      exact addStep_follows hstep
  | missing name found => cases hstanding

/-- Tokens that lead between tags add to the complete elements, and leave
those tags open that they open and do not close. -/
theorem Reads.standing (h : Reads reading ts (.content nest))
    (hstanding : reading.standing? = some (roots, names)) :
    nest.opened.map (·.name) = ts.foldl namesBehind names
      ∧ roots <:+ nest.roots := by
  generalize hlast : Reading.content nest = last at h
  induction h generalizing roots names with
  | nil reading =>
      subst hlast
      cases hstanding
      exact ⟨rfl, List.suffix_rfl⟩
  | @cons reading mid reading' t ts hne hstep hrest ih =>
      have hfollows := Reading.step_follows hstanding hstep
      cases hmid : mid.standing? with
      | some next =>
          obtain ⟨nextRoots, nextNames⟩ := next
          obtain ⟨rfl, hgrow⟩ := hfollows _ _ hmid
          obtain ⟨hnames, hmore⟩ := ih hmid hlast
          exact ⟨hnames, hgrow.trans hmore⟩
      | none =>
          -- behind a token in place of a value nothing can be read
          cases mid with
          | missing name found =>
              cases hrest with
              | nil => cases hlast
              | cons hne' hstep' hrest' => cases hstep'
          | content | tag | named | awaiting | valued => cases hmid

/-- From the start on, the tokens tell which tags are open. -/
theorem Reads.openTags_eq (h : Reads (.content .empty) ts (.content nest)) :
    openTags ts = nest.opened.map (·.name) :=
  (h.standing rfl).1.symm

end

-- ============================================================ the cut

/-- The faults of a source that ends in a comment or in a tag. -/
inductive IsCut : MarkupFault → Prop
  | comment : IsCut .unterminatedComment
  | tag : IsCut .unterminatedTag
  | value : IsCut .unterminatedValue
  | tagName : IsCut (.unexpected .noTagName)
  | closing (name : String) : IsCut (.unexpected (.inClosing name))
  | slash : IsCut (.unexpected .afterSlash)

theorem ScanState.finish_error {state : ScanState} {here : Position}
    {e : MarkupError} (h : state.finish here = .error e) :
    IsCut e.fault := by
  cases state with
  | text start run => cases h
  | angle start =>
      cases h
      exact .tagName
  | bang start =>
      cases h
      exact .tagName
  | bangDash start =>
      cases h
      exact .tagName
  | comment start dashes =>
      cases h
      exact .comment
  | closingName start name =>
      simp only [finish] at h
      split at h
      · cases h
        exact .tagName
      · cases h
        exact .closing _
  | closingEnd start name =>
      cases h
      exact .closing _
  | slash start =>
      cases h
      exact .slash
  | quoted start quote chars =>
      cases h
      exact .value
  | openingName | tag | attrName | value | bare | bareSlash =>
      cases h
      exact .tag

/-- How the first part of an accepted source is read. -/
inductive ReadInPart (a : String) (d : Document) : Prop
  /-- No tag is open: the elements so far, which are a first part of all
  the elements. -/
  | roots {ts : List Placed} {d' : Document} (htokens : tokens? a = .ok ts)
      (hopen : openTags ts = []) (hparse : Document.parse? a = .ok d')
      (hroots : d'.roots <+: d.roots)
  /-- Tags are open: the innermost is reported, at the end. -/
  | inside {ts : List Placed} {name : String} {outer : List String}
      (htokens : tokens? a = .ok ts) (hopen : openTags ts = name :: outer)
      (hparse : Document.parse? a
        = .error ⟨.unclosedTag name, place a.toList⟩)
  /-- There are no tokens, since the source ends in a comment or a tag. -/
  | cut {e : MarkupError} (htokens : tokens? a = .error e)
      (hparse : Document.parse? a = .error e) (hcut : IsCut e.fault)

section

variable {a b : String} {d : Document} {ts : List Placed}
  {start : Position} {run : List Char}

/-- Text that the first part of an accepted source ends in outside every
element is blank. -/
theorem blanks_of_accepted (h : Document.parse? (a ++ b) = .ok d)
    (hscan : Scans (outside .start) .start a.toList ts (.text start run))
    {roots : List Element}
    (hreads : Reads (.content .empty) ts (.content ⟨roots, []⟩)) :
    Blanks run := by
  by_cases hblanks : Blanks run
  · exact hblanks
  exfalso
  obtain ⟨text, rest, hb, htext, hrest⟩ := exists_cut b.toList
  have hne : ¬ Blanks (text.reverse ++ run) := fun hall =>
    hblanks fun c hc => hall c (List.mem_append_right _ hc)
  have htokens := hscan.tokens?_eq b.toList
  rw [← String.toList_append, String.ofList_toList, hb,
    tokensFrom?_text start _ run htext hrest, map_append_map] at htokens
  unfold Document.parse? at h
  rw [htokens] at h
  cases hmore : tokensFrom? (outside ((place a.toList).advance text))
      ((place a.toList).advance text) rest with
  | error e =>
      rw [hmore] at h
      cases h
  | ok more =>
      rw [hmore] at h
      have hrun : (Reading.content .empty).run .start
          (ts ++ (textToken start (text.reverse ++ run) ++ more))
          = .ok d := by
        rw [← List.append_assoc]
        exact h
      obtain ⟨last, heq⟩ := hreads.run_eq .start
        (textToken start (text.reverse ++ run) ++ more)
      rw [heq, run_text more roots start last hne] at hrun
      cases hrun

/-- Text is read where an element is open, and blank text everywhere. -/
theorem reads_textToken (nest : Nest) (start : Position)
    (hrun : nest.opened = [] → Blanks run) :
    ∃ nest', Reads (.content nest) (textToken start run) (.content nest')
      ∧ nest'.roots = nest.roots := by
  unfold textToken
  split
  · exact ⟨nest, .nil _, rfl⟩
  · cases hblank : Text.isBlankText (written run) with
    | true =>
        have hstep : Reading.step (.content nest)
            ⟨.text (written run), start⟩ = .ok (.content nest) :=
          if_pos hblank
        exact ⟨nest, .single (fun heq => nomatch heq) hstep, rfl⟩
    | false =>
        have hopened : nest.opened ≠ [] := by
          intro hnil
          rw [(isBlankText_written run).mpr (hrun hnil)] at hblank
          cases hblank
        have haccepts : nest.Accepts [.text (written run)] :=
          fun hnil => absurd hnil hopened
        refine ⟨_, reads_text start haccepts hblank, ?_⟩
        obtain ⟨roots, opened⟩ := nest
        cases opened with
        | nil | cons => rfl

/-- What the mark of the end means behind the tokens of a source. -/
theorem Reads.parse?_eq {nest : Nest} {pos : Position}
    (h : Reads (.content .empty) ts (.content nest))
    (htokens : tokens? a = .ok (ts ++ [⟨.eof, pos⟩])) :
    Document.parse? a = (Reading.content nest).stop pos pos
      ∧ openTags (ts ++ [⟨.eof, pos⟩]) = nest.opened.map (·.name) := by
  constructor
  · obtain ⟨last, heq⟩ := h.run_eq .start [⟨.eof, pos⟩]
    rw [Document.parse?, htokens]
    exact heq
  · rw [← h.openTags_eq, openTags, List.foldl_append]
    rfl

/-- The first part of an accepted source is read as a first part of its
elements, unless a tag is open at its end, which then is the fault, or it
ends in a comment or a tag. -/
theorem parse?_prefix (h : Document.parse? (a ++ b) = .ok d) :
    ReadInPart a d := by
  obtain ⟨tokens, lastStart, lastRun, hwhole, -, hall⟩ := exists_accepted h
  rw [String.toList_append] at hwhole
  obtain ⟨state, ts, more, rfl, hscan, -⟩ := hwhole.split
  obtain ⟨reading, hreads, hrest⟩ := hall.split
  have htokens := hscan.tokens?_eq []
  rw [List.append_nil, String.ofList_toList] at htokens
  cases hfinish : state.finish (place a.toList) with
  | error e =>
      rw [tokensFrom?, hfinish] at htokens
      refine .cut htokens ?_ (ScanState.finish_error hfinish)
      rw [Document.parse?, htokens]
      rfl
  | ok last =>
      obtain ⟨start, run, rfl, rfl⟩ := ScanState.finish_ok hfinish
      obtain ⟨nest, rfl⟩ := hreads.exists_nest hscan
      have hrun : nest.opened = [] → Blanks run := by
        intro hnil
        obtain ⟨roots, opened⟩ := nest
        cases hnil
        exact blanks_of_accepted h hscan hreads
      obtain ⟨nest', hlast, hroots⟩ := reads_textToken nest start hrun
      have hgrow := (hrest.standing rfl).2
      rw [← hroots] at hgrow
      have htokens' : tokens? a = .ok (ts ++ textToken start run
          ++ [⟨.eof, place a.toList⟩]) := by
        rw [htokens, tokensFrom?, hfinish, List.append_assoc]
        rfl
      obtain ⟨hparse, hopen⟩ := (hreads.append hlast).parse?_eq htokens'
      obtain ⟨roots, opened⟩ := nest'
      cases opened with
      | nil =>
          refine .roots htokens' hopen hparse ?_
          have hprefix := List.reverse_prefix.mpr hgrow
          rw [List.reverse_reverse] at hprefix
          exact hprefix
      | cons inner outer => exact .inside htokens' hopen hparse

end

/-- Cut behind the attribute of the inner tag. -/
theorem parse?_prefix_cut :
    Document.parse? ("<a>x<b y='1'" ++ "/></a>")
        = .ok ⟨[⟨"a", [], [.text "x",
          .element ⟨"b", [⟨"y", "1"⟩], [], 1⟩], 1⟩]⟩
      ∧ ReadInPart "<a>x<b y='1'" ⟨[⟨"a", [], [.text "x",
          .element ⟨"b", [⟨"y", "1"⟩], [], 1⟩], 1⟩]⟩ := by
  have hparse : Document.parse? ("<a>x<b y='1'" ++ "/></a>")
      = .ok ⟨[⟨"a", [], [.text "x",
        .element ⟨"b", [⟨"y", "1"⟩], [], 1⟩], 1⟩]⟩ := by rfl
  exact ⟨hparse, parse?_prefix hparse⟩

end EntityMarkup
