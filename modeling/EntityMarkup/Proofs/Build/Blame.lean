/-
Which step an error of a build is about. An error names a step for a tag:
the handler that an attribute was given to, the making of the entity, the
placing of a line or a child, the closing; or it names what no step could
be taken for. `Blames` lists these ways, one for each place of a build
that can fail, with the type and the phase that the error tells.

The tag that an error is about is the first in document order that is not
built, so all tags before it have kinds: what comes before was built, and
nothing is built without a kind (`element_known`). Each part of a build is
shown to blame its steps, and so does the whole (`document_blaming`).
-/
import EntityMarkup.Proofs.Build.Applied
import EntityMarkup.Proofs.Build.Blaming
import EntityMarkup.Proofs.Build.Placement
import EntityMarkup.Proofs.Markup.Found

namespace EntityMarkup

namespace Build

open Relation (ReflTransGen)
open Run (Blaming bind_result_ok call_bind_result_ok)

variable {E D : Type} [Entity E] [Draft D E] {setting : Setting E D}

-- ================================================================ faults

/-- What the attributes of a tag are bound to: the entity that was made
for it, as binding has left it so far, or a component of that entity. -/
inductive Target (setting : Setting E D) (made : E) : Slot → E → Prop
  | whole {e : E} (h : ReflTransGen (BindingChange setting) made e) :
      Target setting made .whole e
  | component {e part e' : E} {parts : List E} {index : Nat}
      (h : ReflTransGen (BindingChange setting) made e)
      (hparts : Entity.components? e = some parts)
      (hpart : parts[index]? = some part)
      (h' : ReflTransGen (Rebound setting) part e') :
      Target setting made (.component index) e'

/-- The error blames the call for the tag of this element, or it blames
the tag and no call for it. There is one way for each place of a build
that can fail. -/
inductive Blames (setting : Setting E D) (x : Element) :
    BuildError → Option (Call E) → Prop
  /-- The tag has no kind. -/
  | unknownTag (hnone : setting.registry.kind? x.name = none) :
      Blames setting x (.unknownTag x.name x.line) none
  /-- A building handler fails on one of the tag's attributes. -/
  | building {kind : TagKind E D} {a : Attribute} {owner : String}
      {handler : BuildingHandler D} {draft : D} {cause : Cause}
      (hkind : setting.registry.kind? x.name = some kind)
      (ha : a ∈ x.attributes)
      (hfound : setting.registry.building? kind.declaredType a.name
        = some (owner, handler))
      (hfailed : (handler a.value draft).result = .error cause) :
      Blames setting x
        (.handlerFailure a.name kind.declaredType .building cause)
        (some (.ofReply x.name (.building owner a.name a.value)
          (handler a.value draft)))
  /-- The entity cannot be made from the draft. -/
  | instantiate {kind : TagKind E D} {draft : D} {taken : List String}
      {cause : Cause}
      (hkind : setting.registry.kind? x.name = some kind)
      (hbuilt : (buildAttributes setting.registry x.name
        kind.declaredType kind.newDraft x.attributes).result
          = .ok (draft, taken))
      (hfailed : (kind.instantiate draft).result = .error cause) :
      Blames setting x
        (.handlerFailure buildStep kind.declaredType .building cause)
        (some (.ofReply x.name .instantiate (kind.instantiate draft)))
  /-- The draft cannot be finished for the entity, whose type is as the
  draft left it. -/
  | finish {kind : TagKind E D} {draft : D} {taken : List String} {e : E}
      {cause : Cause}
      (hkind : setting.registry.kind? x.name = some kind)
      (hbuilt : (buildAttributes setting.registry x.name
        kind.declaredType kind.newDraft x.attributes).result
          = .ok (draft, taken))
      (hmade : (kind.instantiate draft).result = .ok e)
      (hfailed : (Draft.finish ((kind.instantiate draft).state,
        e)).result = .error cause) :
      Blames setting x
        (.handlerFailure buildStep (Entity.typeName
          (Draft.finish ((kind.instantiate draft).state, e)).state.2)
          .building cause)
        (some (.ofReply x.name .finish
          (Draft.finish ((kind.instantiate draft).state, e))))
  /-- The entity is composite and has no components. -/
  | missingComponents {kind : TagKind E D} {made : E}
      (hkind : setting.registry.kind? x.name = some kind)
      (hmade : (make setting.registry x.name kind x.attributes).result
        = .ok made)
      (hnone : Entity.components? made = some []) :
      Blames setting x (.missingComponents (Entity.typeName made)) none
  /-- A binding handler fails on one of the tag's attributes. Whatever it
  is bound to, the error tells the type of the entity that was made. -/
  | binding {kind : TagKind E D} {made target : E} {slot : Slot}
      {a : Attribute} {owner : String} {handler : BindingHandler E}
      {cause : Cause}
      (hkind : setting.registry.kind? x.name = some kind)
      (hmade : (make setting.registry x.name kind x.attributes).result
        = .ok made)
      (htarget : Target setting made slot target)
      (ha : a ∈ x.attributes)
      (hfound : setting.registry.binding? (Entity.typeName target) a.name
        = some (owner, handler))
      (hfailed : (handler ⟨x.name, setting.actions⟩ a.value
        ⟨target, .empty⟩).result = .error cause) :
      Blames setting x
        (.handlerFailure a.name (Entity.typeName made) .binding cause)
        (some (.ofBinding setting x.name slot owner a.name a.value handler
          target))
  /-- One of the tag's attributes has no handler, and the build is
  strict. -/
  | unknownAttribute {kind : TagKind E D} {made target : E}
      {a : Attribute} (hstrict : setting.config.strict = true)
      (hkind : setting.registry.kind? x.name = some kind)
      (hmade : (make setting.registry x.name kind x.attributes).result
        = .ok made)
      (htarget : Target setting made .whole target)
      (ha : a ∈ x.attributes)
      (hnone : setting.registry.binding? (Entity.typeName target) a.name
        = none) :
      Blames setting x (.unknownAttribute a.name (Entity.typeName made))
        none
  /-- A line of the tag's text is refused. -/
  | line {kind : TagKind E D} {line : String} {e : E} {cause : Cause}
      (hkind : setting.registry.kind? x.name = some kind)
      (hfailed : (kind.placeLine line e).result = .error cause) :
      Blames setting x
        (.invalidPlacement
          (Entity.typeName (kind.placeLine line e).state)
          ("text " ++ Text.quoted line) cause)
        (some (.ofReply x.name (.line .byKind line)
          (kind.placeLine line e)))
  /-- A child is refused by the tag's kind. -/
  | child {kind : TagKind E D} {childTag : String} {child e : E}
      {cause : Cause}
      (hkind : setting.registry.kind? x.name = some kind)
      (hfailed : (kind.placeChild child e).result = .error cause) :
      Blames setting x
        (.invalidPlacement
          (Entity.typeName (kind.placeChild child e).state)
          ("<" ++ childTag ++ "> (" ++ Entity.typeName child ++ ")") cause)
        (some (.ofReply x.name (.child .byKind childTag)
          (kind.placeChild child e)))
  /-- A child refuses to attach itself to the tag's entity. -/
  | attaching {childTag : String} {child e : E} {cause : Cause}
      (hfailed : (Entity.attachTo child e).result = .error cause) :
      Blames setting x
        (.invalidPlacement (Entity.typeName (Entity.attachTo child e).state)
          ("<" ++ childTag ++ "> (" ++ Entity.typeName child ++ ")") cause)
        (some (.ofReply x.name (.child .attached childTag)
          (Entity.attachTo child e)))
  /-- The close hook of the tag's kind fails. -/
  | close {kind : TagKind E D} {e : E} {cause : Cause}
      (hkind : setting.registry.kind? x.name = some kind)
      (hfailed : (kind.onClose e).result = .error cause) :
      Blames setting x
        (.handlerFailure closeStep (Entity.typeName (kind.onClose e).state)
          .binding cause)
        (some (.ofReply x.name .close (kind.onClose e)))

/-- Among elements in document order, the first whose tag this is about
comes after tags that all have kinds. -/
def FirstTo (registry : Registry E D) (elements : List Element)
    (P : Element → Prop) : Prop :=
  ∃ earlier x later, elements = earlier ++ x :: later
    ∧ (∀ y ∈ earlier, (registry.kind? y.name).isSome = true) ∧ P x

omit [Entity E] [Draft D E] in
theorem FirstTo.before {registry : Registry E D}
    {elements more : List Element} {P : Element → Prop}
    (h : FirstTo registry elements P) :
    FirstTo registry (elements ++ more) P := by
  obtain ⟨earlier, x, later, rfl, hearlier, hx⟩ := h
  exact ⟨earlier, x, later ++ more, by simp, hearlier, hx⟩

omit [Entity E] [Draft D E] in
theorem FirstTo.behind {registry : Registry E D}
    {known elements : List Element} {P : Element → Prop}
    (hknown : ∀ y ∈ known, (registry.kind? y.name).isSome = true)
    (h : FirstTo registry elements P) :
    FirstTo registry (known ++ elements) P := by
  obtain ⟨earlier, x, later, rfl, hearlier, hx⟩ := h
  exact ⟨known ++ earlier, x, later, (List.append_assoc ..).symm,
    List.forall_mem_append.mpr ⟨hknown, hearlier⟩, hx⟩

-- =============================================================== opening

variable {x : Element} {kind : TagKind E D}

/-- Offering attributes to building handlers blames these. -/
theorem buildAttributes_blaming
    (hkind : setting.registry.kind? x.name = some kind) (draft : D) :
    (buildAttributes setting.registry x.name kind.declaredType draft
      x.attributes).Blaming (Call.Made setting) (Blames setting x) := by
  refine Blaming.foldlM (fun _ => True) _ trivial ?_
  intro state a ha _
  refine ⟨?_, fun _ _ => trivial⟩
  obtain ⟨draft, taken⟩ := state
  unfold buildAttribute
  split
  · exact .pure _
  · next owner handler hfound =>
    refine .record (.call _ (.building a.value draft hkind hfound)
      ⟨rfl, rfl, rfl, rfl⟩ ?_ fun _ _ => .pure _)
    intro cause hfailed
    exact .building hkind ha hfound hfailed

/-- Making the entity blames the one step or the other. -/
theorem instantiate_blaming
    (hkind : setting.registry.kind? x.name = some kind) {draft : D}
    {taken : List String}
    (hbuilt : (buildAttributes setting.registry x.name kind.declaredType
      kind.newDraft x.attributes).result = .ok (draft, taken)) :
    (instantiate x.name kind draft).Blaming (Call.Made setting)
      (Blames setting x) := by
  unfold instantiate
  refine .call _ (.instantiate draft hkind) ⟨rfl, rfl, rfl, rfl⟩ ?_ ?_
  · intro cause hfailed
    exact .instantiate hkind hbuilt hfailed
  · intro e hmade
    refine .call _ (.finish x.name _ e) ⟨rfl, rfl, rfl, rfl⟩ ?_
      fun _ _ => .pure _
    intro cause hfailed
    exact .finish hkind hbuilt hmade hfailed

/-- A pass leaves its target rebound. -/
theorem bindPass_rebound {tag owner : String} {slot : Slot}
    {judging : Bool} {attributes : List Attribute} {b b' : Binding E}
    (h : (bindPass setting tag owner slot judging attributes b).result
      = .ok b') : ReflTransGen (Rebound setting) b.target b'.target := by
  have hnone : Tally False attributes b.taken ([] : List (Call E))
      b.taken := ⟨rfl, .nil, (List.append_nil _).symm⟩
  have hmakes : (bindPass setting tag owner slot judging attributes
      b).Makes (Call.Made setting) _ _ :=
    bindPass_tally owner slot judging (fun hkept => hkept.elim) hnone
  obtain ⟨calls, -, -, -, hok, -⟩ := hmakes.exists_calls
  exact (hok b' h).2

/-- So do the passes that a composite entity has before the last one. -/
theorem bindComposite_rebound {tag owner : String}
    {attributes : List Attribute} {b : Binding E}
    {r : Binding E × List (Hooks E)}
    (h : (bindComposite setting tag owner attributes b).result = .ok r) :
    ReflTransGen (BindingChange setting) b.target r.1.target := by
  have hnone : Tally False attributes b.taken ([] : List (Call E))
      b.taken := ⟨rfl, .nil, (List.append_nil _).symm⟩
  have hmakes : (bindComposite setting tag owner attributes b).Makes
      (Call.Made setting) _ _ :=
    bindComposite_tally owner (fun hkept => hkept.elim) hnone
  obtain ⟨calls, -, -, -, hok, -⟩ := hmakes.exists_calls
  exact (hok r h).2

/-- A pass over a target blames the handlers that the target has, and the
pass that judges an attribute that it has none for. -/
theorem bindPass_blaming
    (hkind : setting.registry.kind? x.name = some kind) {made : E}
    (hmade : (make setting.registry x.name kind x.attributes).result
      = .ok made) (slot : Slot) (judging : Bool) {b : Binding E}
    (hslot : judging = true → slot = .whole)
    (htarget : ∀ e, ReflTransGen (Rebound setting) b.target e →
      Target setting made slot e) :
    (bindPass setting x.name (Entity.typeName made) slot judging
      x.attributes b).Blaming (Call.Made setting) (Blames setting x) := by
  refine Blaming.foldlM
    (fun b' => ReflTransGen (Rebound setting) b.target b'.target) _ .refl ?_
  intro b' a ha hb'
  refine ⟨?_, fun b'' hb'' => ?_⟩
  · unfold bindAttribute
    split
    · exact .pure _
    · split
      · next hnone =>
        split
        · next hjudging =>
          unfold rejectUnknown
          split
          · next hstrict =>
            have hwhole := htarget _ hb'
            rw [hslot hjudging] at hwhole
            exact Blaming.bind (.fail (.unknownAttribute hstrict hkind
              hmade hwhole ha hnone)) fun _ h => nomatch h
          · exact .ignore (.pure _)
        · exact .pure _
      · next declaredBy handler hfound =>
        refine .record (.call _ (.binding x.name slot a.value hfound)
          ⟨rfl, rfl, rfl, rfl⟩ ?_ fun _ _ => .pure _)
        intro cause hfailed
        exact .binding hkind hmade (htarget _ hb') ha hfound hfailed
  · rw [← bindPass_singleton] at hb''
    exact hb'.trans (bindPass_rebound hb'')

/-- The passes over components blame the handlers of these. -/
theorem bindParts_blaming
    (hkind : setting.registry.kind? x.name = some kind) {made e : E}
    (hmade : (make setting.registry x.name kind x.attributes).result
      = .ok made) (hreached : ReflTransGen (BindingChange setting) made e)
    {all : List E} (hall : Entity.components? e = some all) (index : Nat)
    (taken : List String) {parts : List E}
    (hparts : all.drop index = parts) :
    (bindParts setting x.name (Entity.typeName made) x.attributes index
      taken parts).Blaming (Call.Made setting) (Blames setting x) := by
  induction parts generalizing index taken with
  | nil => exact .pure _
  | cons part parts ih =>
      unfold bindParts
      have hpart : all[index]? = some part := by
        have h := congrArg List.head? hparts
        rw [List.head?_drop] at h
        exact h
      have hrest : all.drop (index + 1) = parts := by
        rw [← List.drop_drop, hparts]
        rfl
      refine Blaming.bind ?_ fun b _ =>
        (ih (index + 1) b.taken hrest).bind fun _ _ => .pure _
      refine bindPass_blaming hkind hmade (.component index) false
        (fun hjudging => by cases hjudging) ?_
      intro e' he'
      exact .component hreached hall hpart he'

/-- Binding blames handlers, or the want of components, or an attribute
without a handler. -/
theorem bindAttributes_blaming
    (hkind : setting.registry.kind? x.name = some kind) {made : E}
    (hmade : (make setting.registry x.name kind x.attributes).result
      = .ok made) (taken : List String) :
    (bindAttributes setting x.name x.attributes taken made).Blaming
      (Call.Made setting) (Blames setting x) := by
  -- every pass over the whole entity starts at what binding made of it
  have hpass : ∀ (judging : Bool) (b : Binding E),
      ReflTransGen (BindingChange setting) made b.target →
      (bindPass setting x.name (Entity.typeName made) .whole judging
        x.attributes b).Blaming (Call.Made setting) (Blames setting x) := by
    intro judging b hb
    refine bindPass_blaming hkind hmade .whole judging (fun _ => rfl) ?_
    intro e he
    exact .whole (hb.trans (BindingChange.of_rebound he))
  have hlast : ∀ r : Binding E × List (Hooks E),
      ReflTransGen (BindingChange setting) made r.1.target →
      (bindPass setting x.name (Entity.typeName made) .whole true
        x.attributes r.1 >>= fun b => Pure.pure (b, r.2)).Blaming
        (Call.Made setting) (Blames setting x) :=
    fun r hr => (hpass true r.1 hr).bind fun _ _ => .pure _
  unfold bindAttributes
  split
  · exact hlast (⟨made, .empty, taken⟩, []) .refl
  · next hnone =>
    exact Blaming.bind (.fail (.missingComponents hkind hmade hnone))
      fun _ h => nomatch h
  · refine Blaming.bind ?_ fun r hr => hlast r (bindComposite_rebound hr)
    unfold bindComposite
    refine (hpass false _ .refl).bind fun b hb => ?_
    have hreached := BindingChange.of_rebound (bindPass_rebound hb)
    split
    · exact .pure _
    · next parts hparts =>
      exact (bindParts_blaming hkind hmade hreached hparts 0 b.taken
        rfl).bind fun _ _ => .pure _

/-- Hooks cannot fail. -/
theorem runActions_blaming
    (blames : BuildError → Option (Call E) → Prop) (tag : String)
    (moment : Moment) (slot : Slot) (index : Nat)
    (actions : List (Action E)) (e : E) :
    (runActions tag moment slot index actions e).Blaming
      (Call.Made setting) blames := by
  induction actions generalizing index e with
  | nil => exact .pure e
  | cons action rest ih =>
      unfold runActions
      exact .act (.hook tag moment slot index action e) (ih ..)

theorem runHooks_blaming (blames : BuildError → Option (Call E) → Prop)
    (tag : String) (moment : Moment) (e : E) (hooks : Hooks E)
    (partHooks : List (Hooks E)) :
    (runHooks tag moment e hooks partHooks).Blaming (Call.Made setting)
      blames := by
  have hparts : ∀ (parts : List E) (index : Nat) (hs : List (Hooks E)),
      (runPartHooks tag moment index parts hs).Blaming (Call.Made setting)
        blames := by
    intro parts
    induction parts with
    | nil =>
        intro index hs
        cases hs <;> exact .pure []
    | cons part parts ih =>
        intro index hs
        cases hs with
        | nil => exact .pure _
        | cons own rest =>
            exact (runActions_blaming ..).bind fun _ _ =>
              (ih ..).bind fun _ _ => .pure _
  unfold runHooks
  split
  · exact (Blaming.pure _).bind fun _ _ => runActions_blaming ..
  · rw [map_eq_pure_bind]
    exact ((hparts ..).bind fun _ _ => .pure _).bind fun _ _ =>
      runActions_blaming ..

/-- Opening a tag blames its name, or a step of the opening. -/
theorem openTag_blaming (parent : Option String) (x : Element) :
    (openTag setting parent x.name x.attributes x.line).Blaming
      (Call.Made setting) (Blames setting x) := by
  unfold openTag
  split
  · next hnone => exact .fail (.unknownTag hnone)
  · next kind hkind =>
    refine .record ?_
    refine (buildAttributes_blaming hkind kind.newDraft).bind ?_
    intro (draft, taken) hbuilt
    refine (instantiate_blaming hkind hbuilt).bind ?_
    intro made hinstance
    have hmade : (make setting.registry x.name kind x.attributes).result
        = .ok made := by
      rw [make, Run.bind_of_ok hbuilt]
      exact hinstance
    exact (bindAttributes_blaming hkind hmade taken).bind fun _ _ =>
      (runHooks_blaming ..).bind fun _ _ => .pure _

/-- A tag that is opened has a kind. -/
theorem openTag_known {parent : Option String} {opened : OpenedTag E D}
    (h : (openTag setting parent x.name x.attributes x.line).result
      = .ok opened) :
    opened.name = x.name
      ∧ setting.registry.kind? x.name = some opened.kind := by
  unfold openTag at h
  cases hkind : setting.registry.kind? x.name with
  | none =>
      rw [hkind] at h
      cases h
  | some kind =>
      rw [hkind] at h
      obtain ⟨_, -, h⟩ := bind_result_ok h
      obtain ⟨_, -, h⟩ := bind_result_ok h
      obtain ⟨_, -, h⟩ := bind_result_ok h
      obtain ⟨_, -, h⟩ := bind_result_ok h
      obtain ⟨_, -, h⟩ := bind_result_ok h
      cases h
      exact ⟨rfl, rfl⟩

-- ================================================================= body

/-- The tag that is filled is the element's. -/
structure Serves (setting : Setting E D) (x : Element)
    (tag : OpenedTag E D) : Prop where
  name_eq : tag.name = x.name
  kind_eq : setting.registry.kind? x.name = some tag.kind

section

variable {tag tag' : OpenedTag E D}

omit [Entity E] [Draft D E] in
/-- A tag stays the element's when its entity changes. -/
theorem Serves.with (h : Serves setting x tag) (e : E) :
    Serves setting x { tag with entity := e } :=
  ⟨h.name_eq, h.kind_eq⟩

omit [Draft D E] in
theorem Serves.line (hserves : Serves setting x tag) {line : String}
    (h : (placeLine tag line).result = .ok tag') :
    Serves setting x tag' := by
  cases hnodes : Entity.nodes? tag.entity with
  | some nodes =>
      rw [placeLine_node hnodes h]
      exact hserves.with _
  | none =>
      rw [(placeLine_byKind hnodes h).2]
      exact hserves.with _

omit [Draft D E] in
theorem Serves.child (hserves : Serves setting x tag) {childTag : String}
    {child : E} (h : (placeChild tag childTag child).result = .ok tag') :
    Serves setting x tag' := by
  cases hattach : Entity.isAttachable child with
  | true =>
      rw [(placeChild_attached hattach h).2]
      exact hserves.with _
  | false =>
      cases hnodes : Entity.nodes? tag.entity with
      | some nodes =>
          rw [placeChild_node hattach hnodes h]
          exact hserves.with _
      | none =>
          rw [(placeChild_byKind hattach hnodes h).2]
          exact hserves.with _

omit [Draft D E] in
theorem Serves.lines (hserves : Serves setting x tag)
    {lines : List String}
    (h : (lines.foldlM placeLine tag).result = .ok tag') :
    Serves setting x tag' := by
  induction lines generalizing tag with
  | nil =>
      cases h
      exact hserves
  | cons line lines ih =>
      rw [List.foldlM_cons] at h
      obtain ⟨mid, hfirst, hrest⟩ := bind_result_ok h
      exact ih (hserves.line hfirst) hrest

theorem Serves.item (hserves : Serves setting x tag)
    {c : Content} (h : (item setting c tag).result = .ok tag') :
    Serves setting x tag' := by
  cases c with
  | text run =>
      unfold Build.item at h
      exact hserves.lines h
  | element y =>
      unfold Build.item at h
      obtain ⟨child, -, hplaced⟩ := bind_result_ok h
      exact hserves.child hplaced

theorem Serves.body {content : List Content}
    (hserves : Serves setting x tag)
    (h : (body setting content tag).result = .ok tag') :
    Serves setting x tag' := by
  induction content generalizing tag with
  | nil =>
      cases h
      exact hserves
  | cons c rest ih =>
      unfold Build.body at h
      obtain ⟨mid, hfirst, hrest⟩ := bind_result_ok h
      exact ih (hserves.item hfirst) hrest

/-- Placing a line blames the kind that refuses it. -/
theorem placeLine_blaming (hserves : Serves setting x tag)
    (line : String) :
    (placeLine tag line).Blaming (Call.Made setting) (Blames setting x) := by
  obtain ⟨hname, hkind⟩ := hserves
  unfold placeLine
  rw [hname]
  split
  · exact .silent (.lineNode x.name line) (.pure _)
  · refine .call _ (.line line tag.entity hkind) ⟨rfl, rfl, rfl, rfl⟩ ?_
      fun _ _ => .pure _
    intro cause hfailed
    exact .line hkind hfailed

theorem placeText_blaming (hserves : Serves setting x tag)
    (run : String) :
    (placeText tag run).Blaming (Call.Made setting) (Blames setting x) := by
  refine Blaming.foldlM (Serves setting x) _ hserves ?_
  intro mid line _ hmid
  exact ⟨placeLine_blaming hmid line, fun _ h => hmid.line h⟩

/-- Placing a child blames the kind, or the child that attaches itself. -/
theorem placeChild_blaming (hserves : Serves setting x tag)
    (childTag : String) (child : E) :
    (placeChild tag childTag child).Blaming (Call.Made setting)
      (Blames setting x) := by
  obtain ⟨hname, hkind⟩ := hserves
  unfold placeChild
  dsimp only
  rw [hname]
  split
  · refine .record (.call _ (.attaching x.name childTag child tag.entity)
      ⟨rfl, rfl, rfl, rfl⟩ ?_ fun _ _ => .pure _)
    intro cause hfailed
    exact .attaching hfailed
  · split
    · exact .record (.silent (.childNode x.name childTag) (.pure _))
    · refine .record (.call _ (.child childTag child tag.entity hkind)
        ⟨rfl, rfl, rfl, rfl⟩ ?_ fun _ _ => .pure _)
      intro cause hfailed
      exact .child hkind hfailed

/-- Closing a tag blames the kind's own hook. -/
theorem closeTag_blaming (hserves : Serves setting x tag) :
    (closeTag tag).Blaming (Call.Made setting) (Blames setting x) := by
  obtain ⟨hname, hkind⟩ := hserves
  unfold closeTag
  rw [hname]
  refine .record (.call _ (.close tag.entity hkind) ⟨rfl, rfl, rfl, rfl⟩ ?_
    fun _ _ => runHooks_blaming ..)
  intro cause hfailed
  exact .close hkind hfailed

end

-- ========================================================= whole elements

section

variable {tag tag' : OpenedTag E D}

mutual

/-- What is built has kinds for all of its tags. -/
theorem element_known : (x : ElementOf Content) → {parent : Option String} →
    {e : E} → (h : (element setting parent x).result = .ok e) →
    ∀ y ∈ Element.all x, (setting.registry.kind? y.name).isSome = true
  | ⟨name, attributes, content, line⟩, parent, e, h => by
    unfold element at h
    obtain ⟨tag, hopened, h⟩ := bind_result_ok h
    obtain ⟨filled, hfilled, -⟩ := bind_result_ok h
    have hkind :=
      (openTag_known (x := ⟨name, attributes, content, line⟩) hopened).2
    rw [Element.all]
    exact List.forall_mem_cons.mpr
      ⟨by rw [hkind]; rfl, body_known content hfilled⟩

theorem body_known : (content : List Content) →
    {tag tag' : OpenedTag E D} →
    (h : (body setting content tag).result = .ok tag') →
    ∀ y ∈ Content.elementsAll content,
      (setting.registry.kind? y.name).isSome = true
  | [], tag, tag', _ => List.forall_mem_nil _
  | c :: rest, tag, tag', h => by
    unfold body at h
    obtain ⟨mid, hfirst, hrest⟩ := bind_result_ok h
    rw [Content.elementsAll]
    exact List.forall_mem_append.mpr
      ⟨item_known c hfirst, body_known rest hrest⟩

theorem item_known : (c : Content) → {tag tag' : OpenedTag E D} →
    (h : (item setting c tag).result = .ok tag') →
    ∀ y ∈ Content.elements c,
      (setting.registry.kind? y.name).isSome = true
  | .text run, tag, tag', _ => by
    rw [Content.elements]
    exact List.forall_mem_nil _
  | .element x, tag, tag', h => by
    unfold item at h
    obtain ⟨child, hchild, -⟩ := bind_result_ok h
    rw [Content.elements]
    exact element_known x hchild

end

/-- The error is about this element, or about the first of those inside
it. -/
def AtOrIn (setting : Setting E D) (x : Element) (inside : List Element)
    (e : BuildError) (last : Option (Call E)) : Prop :=
  Blames setting x e last
    ∨ FirstTo setting.registry inside fun y => Blames setting y e last

mutual

/-- Building an element blames the first of its tags that is not built. -/
theorem element_blaming (parent : Option String) :
    (x : ElementOf Content) →
    (element setting parent x).Blaming (Call.Made setting) fun e last =>
      FirstTo setting.registry (Element.all x) fun y =>
        Blames setting y e last
  | ⟨name, attributes, content, line⟩ => by
    let x : Element := ⟨name, attributes, content, line⟩
    -- steps for the tag itself come before and after those of its body
    have hown : ∀ e last, Blames setting x e last →
        FirstTo setting.registry (Element.all x) fun y =>
          Blames setting y e last := by
      intro e last h
      rw [Element.all]
      exact ⟨[], x, Content.elementsAll content, rfl, by simp, h⟩
    unfold element
    refine Blaming.bind ((openTag_blaming parent x).mono hown) ?_
    intro tag hopened
    obtain ⟨hname, hkind⟩ := openTag_known (x := x) hopened
    have hserves : Serves setting x tag := ⟨hname, hkind⟩
    have hknown : ∀ y ∈ [x],
        (setting.registry.kind? y.name).isSome = true :=
      List.forall_mem_singleton.mpr (by rw [hkind]; rfl)
    refine Blaming.bind ((body_blaming content hserves).mono ?_) ?_
    · intro e last h
      rcases h with h | h
      · exact hown e last h
      · rw [Element.all]
        exact h.behind hknown
    · intro filled hfilled
      exact (closeTag_blaming (hserves.body hfilled)).mono hown

/-- Filling a tag blames it, or the first tag inside that is not built. -/
theorem body_blaming {x : Element} : (content : List Content) →
    {tag : OpenedTag E D} → (hserves : Serves setting x tag) →
    (body setting content tag).Blaming (Call.Made setting)
      (AtOrIn setting x (Content.elementsAll content))
  | [], tag, _ => .pure tag
  | c :: rest, tag, hserves => by
    unfold body
    rw [Content.elementsAll]
    refine Blaming.bind ((item_blaming c hserves).mono ?_) ?_
    · intro e last h
      exact h.imp_right FirstTo.before
    · intro mid hfirst
      refine (body_blaming rest (hserves.item hfirst)).mono ?_
      intro e last h
      exact h.imp_right fun h => h.behind (item_known c hfirst)

theorem item_blaming {x : Element} : (c : Content) →
    {tag : OpenedTag E D} → (hserves : Serves setting x tag) →
    (item setting c tag).Blaming (Call.Made setting)
      (AtOrIn setting x (Content.elements c))
  | .text run, tag, hserves => by
    unfold item
    exact (placeText_blaming hserves run).mono fun _ _ => Or.inl
  | .element y, tag, hserves => by
    unfold item
    rw [Content.elements]
    refine Blaming.bind ((element_blaming (some tag.name) y).mono ?_) ?_
    · exact fun _ _ => Or.inr
    · intro child _
      exact (placeChild_blaming hserves y.name child).mono
        fun _ _ => Or.inl

end

/-- Building a document blames the first of its tags that is not built. -/
theorem document_blaming (d : Document) :
    (document setting d).Blaming (Call.Made setting) fun e last =>
      FirstTo setting.registry d.elements fun y =>
        Blames setting y e last := by
  unfold document Document.elements
  induction d.roots with
  | nil => exact .pure []
  | cons x roots ih =>
      rw [List.mapM_cons, List.map_cons, Content.elementsAll,
        Content.elements]
      refine Blaming.bind ((element_blaming none x).mono ?_) ?_
      · exact fun _ _ => FirstTo.before
      · intro entity hentity
        refine Blaming.bind (ih.mono ?_) fun _ _ => .pure _
        exact fun _ _ h => h.behind (element_known x hentity)

end

end Build

end EntityMarkup
