/-
What a tag comes to without an attribute that it passes over. No handler
was there for the attribute in any of the passes, at the time when it was
its turn: else its name would be done with, names that are done with stay
so (`Sifts.kept`), and it would not be passed over in the end
(`bindPass_ignored`). So taking the attribute out of the tag takes out
what happens at its turns, which is nothing, and the warning
(`openTag_remaining`).

A run without some of its warnings is a function of the run
(`Run.mute`), and it commutes with joining runs, as cutting does. So the
two openings are related pass by pass (`Sifts.bind`).
-/
import EntityMarkup.Proofs.Build.Offer
import EntityMarkup.Proofs.Build.Strictness

namespace EntityMarkup

namespace Event

/-- An attribute of one of these names is passed over. -/
def passes (names : List String) : Event → Bool
  | .ignored _ _ name => name ∈ names
  | .entry _ | .step _ _ => false

theorem passes_of_not_isIgnored {names : List String} {e : Event}
    (h : e.isIgnored = false) : e.passes names = false := by
  cases e with
  | ignored => cases h
  | entry | step => rfl

theorem isIgnored_of_passes {names : List String} {e : Event}
    (h : e.passes names = true) : e.isIgnored = true := by
  cases e with
  | ignored => rfl
  | entry | step => cases h

end Event

namespace Run

variable {α β : Type} {names : List String}

-- =============================================================== muting

/-- The run without the warnings about attributes of these names. -/
def mute (names : List String) (x : Run α) : Run α :=
  ⟨x.events.filter fun e => !e.passes names, x.result⟩

theorem mute_bind (x : Run α) (f : α → Run β) :
    (x >>= f).mute names = x.mute names >>= fun a => (f a).mute names := by
  cases hx : x.result with
  | ok a =>
      have hmute : (x.mute names).result = .ok a := hx
      rw [bind_of_ok hx, bind_of_ok hmute]
      simp only [mute, List.filter_append]
  | error e =>
      have hmute : (x.mute names).result = .error e := hx
      rw [bind_of_error hx, bind_of_error hmute]
      rfl

/-- A run without such warnings is left as it is. -/
theorem mute_eq_self {x : Run α}
    (h : ∀ e ∈ x.events, e.passes names = false) : x.mute names = x := by
  have hall : ∀ e ∈ x.events, (!e.passes names) = true := by
    intro e he
    rw [h e he]
    rfl
  show (⟨x.events.filter _, x.result⟩ : Run α) = x
  rw [List.filter_eq_self.mpr hall]

/-- Nothing is passed over. -/
def Quiet (x : Run α) : Prop := ∀ e ∈ x.events, e.isIgnored = false

theorem Quiet.mute {x : Run α} (h : x.Quiet) : x.mute names = x :=
  mute_eq_self fun e he => Event.passes_of_not_isIgnored (h e he)

/-- A run that is not cut passes nothing over. -/
theorem Quiet.of_cut {x : Run α} (h : x.cut = x) : x.Quiet := by
  intro e he
  cases e with
  | entry | step => rfl
  | ignored tag owner name =>
      exfalso
      obtain ⟨before, tag, owner, name, after, hevents, hfirst, hcut⟩ :=
        cut_of_mem he
      have hbefore : before = x.events := by
        rw [← h, hcut]
      apply hfirst tag owner name
      rw [hbefore, hevents]
      simp

theorem Quiet.pure (a : α) : (Pure.pure a : Run α).Quiet :=
  List.forall_mem_nil _

theorem Quiet.bind {x : Run α} {f : α → Run β} (hx : x.Quiet)
    (hf : ∀ a, x.result = .ok a → (f a).Quiet) : (x >>= f).Quiet := by
  cases hr : x.result with
  | ok a =>
      rw [bind_of_ok hr]
      exact List.forall_mem_append.mpr ⟨hx, hf a hr⟩
  | error e =>
      rw [bind_of_error hr]
      exact hx

-- ============================================================== sifting

/-- `y` is `x` without the warnings about these names, if `x` does not
have them done with in the end. Names that are done with before are done
with in the end. -/
structure Sifts (names taken : List String) (done : α → List String)
    (x y : Run α) : Prop where
  kept : ∀ a, x.result = .ok a → taken ⊆ done a
  muted : ∀ a, x.result = .ok a → (∀ name ∈ names, name ∉ done a) →
    y = x.mute names

variable {taken : List String} {done : α → List String}
  {done' : β → List String}

theorem Sifts.pure {a : α} (h : taken ⊆ done a) :
    Sifts names taken done (Pure.pure a) (Pure.pure a) := by
  refine ⟨fun a' ha' => ?_, fun _ _ _ => rfl⟩
  cases ha'
  exact h

theorem Sifts.fail (e : BuildError) :
    Sifts names taken done (Run.fail e) (Run.fail e) :=
  ⟨fun _ h => (nomatch h), fun _ h => (nomatch h)⟩

theorem Sifts.bind {x y : Run α} {f g : α → Run β}
    (hx : Sifts names taken done x y)
    (hf : ∀ a, x.result = .ok a →
      Sifts names (done a) done' (f a) (g a)) :
    Sifts names taken done' (x >>= f) (y >>= g) := by
  constructor
  · intro b hb
    obtain ⟨a, ha, hfa⟩ := bind_result_ok hb
    exact List.Subset.trans (hx.kept a ha) ((hf a ha).kept b hfa)
  · intro b hb hnames
    obtain ⟨a, ha, hfa⟩ := bind_result_ok hb
    -- what is not done with in the end is not done with in between
    have hbetween : ∀ name ∈ names, name ∉ done a := by
      intro name hname hmem
      exact hnames name hname ((hf a ha).kept b hfa hmem)
    have hmute : (x.mute names).result = .ok a := ha
    rw [hx.muted a ha hbetween, mute_bind, bind_of_ok hmute,
      bind_of_ok hmute, (hf a ha).muted b hfa hnames]

-- ========================================================= whole runs

/-- Attributes of all these names are passed over. -/
def Warns (names : List String) (x : Run α) : Prop :=
  ∀ name ∈ names, ∃ tag owner, .ignored tag owner name ∈ x.events

/-- `y` is `x` without the warnings about these names, if `x` has an
answer and these warnings. -/
def Mutes (names : List String) (x y : Run α) : Prop :=
  ∀ a, x.result = .ok a → x.Warns names → y = x.mute names

theorem Mutes.next {x : Run α} {f g : α → Run β} (hx : x.Quiet)
    (hf : ∀ a, x.result = .ok a → Mutes names (f a) (g a)) :
    Mutes names (x >>= f) (x >>= g) := by
  intro b hb hwarns
  obtain ⟨a, ha, hfa⟩ := bind_result_ok hb
  have hrest : (f a).Warns names := by
    intro name hname
    obtain ⟨tag, owner, hmem⟩ := hwarns name hname
    rw [bind_of_ok ha] at hmem
    rcases List.mem_append.mp hmem with hmem | hmem
    · cases hx _ hmem
    · exact ⟨tag, owner, hmem⟩
  rw [mute_bind, hx.mute, bind_of_ok ha, bind_of_ok ha,
    hf a ha b hfa hrest]

theorem Mutes.before {x y : Run α} {f : α → Run β}
    (hx : Mutes names x y) (hf : ∀ a, (f a).Quiet) :
    Mutes names (x >>= f) (y >>= f) := by
  intro b hb hwarns
  obtain ⟨a, ha, -⟩ := bind_result_ok hb
  have hfirst : x.Warns names := by
    intro name hname
    obtain ⟨tag, owner, hmem⟩ := hwarns name hname
    rw [bind_of_ok ha] at hmem
    rcases List.mem_append.mp hmem with hmem | hmem
    · exact ⟨tag, owner, hmem⟩
    · cases hf a _ hmem
  have hmute : (x.mute names).result = .ok a := ha
  rw [mute_bind, hx a ha hfirst, bind_of_ok hmute, bind_of_ok hmute,
    (hf a).mute]

end Run

namespace Build

open Run (Mutes Quiet Sifts bind_result_ok call_bind_result_ok)

variable {E D : Type} {names : List String}

-- ============================================================ the passes

/-- Attributes without a building handler may as well not be there for
building. -/
theorem buildAttributes_remaining {registry : Registry E D}
    (tag : String) {declared : String}
    (h : ∀ name ∈ names, registry.building? declared name = none)
    (draft : D) (attributes : List Attribute) :
    buildAttributes registry tag declared draft (remaining attributes names)
      = buildAttributes registry tag declared draft attributes := by
  unfold buildAttributes
  generalize (draft, ([] : List String)) = state
  induction attributes generalizing state with
  | nil => rfl
  | cons a rest ih =>
      unfold remaining at ih ⊢
      by_cases hmem : a.name ∈ names
      · have hskip : buildAttribute registry tag declared state a
            = pure state := by
          unfold buildAttribute
          rw [h a.name hmem]
        rw [List.filter_cons_of_neg (by simpa using hmem), ih,
          List.foldlM_cons, hskip, pure_bind]
      · rw [List.filter_cons_of_pos (by simpa using hmem),
          List.foldlM_cons, List.foldlM_cons]
        congr 1
        funext state'
        exact ih state'

variable {tag owner : String}

/-- What an attribute's turn in a pass comes to: nothing, a warning, or
the attribute is bound. -/
inductive Turn (tag owner : String) (b : Binding E) (a : Attribute) :
    Binding E → List Event → Prop
  | idle : Turn tag owner b a b []
  | ignored (hfree : a.name ∉ b.taken) :
      Turn tag owner b a b [.ignored tag owner a.name]
  | bound {b' : Binding E} {events : List Event}
      (htaken : b'.taken = b.taken ++ [a.name])
      (hquiet : ∀ e ∈ events, e.isIgnored = false) :
      Turn tag owner b a b' events

/-- Names that are done with stay so. -/
theorem Turn.kept {b b' : Binding E} {a : Attribute} {events : List Event}
    (h : Turn tag owner b a b' events) : b.taken ⊆ b'.taken := by
  cases h with
  | idle | ignored => exact List.Subset.refl _
  | bound htaken => simp [htaken]

/-- No name but the attribute's is done with besides. -/
theorem Turn.taken {b b' : Binding E} {a : Attribute} {events : List Event}
    (h : Turn tag owner b a b' events) {name : String}
    (hname : name ∈ b'.taken) : name ∈ b.taken ∨ name = a.name := by
  cases h with
  | idle | ignored => exact Or.inl hname
  | bound htaken => simpa [htaken] using hname

/-- An attribute that is passed over at its turn is not done with. -/
theorem Turn.ignored_mem {b b' : Binding E} {a : Attribute}
    {events : List Event} (h : Turn tag owner b a b' events)
    {tag' owner' name : String}
    (hmem : .ignored tag' owner' name ∈ events) :
    name = a.name ∧ b' = b ∧ a.name ∉ b.taken := by
  cases h with
  | idle => cases hmem
  | ignored hfree =>
      cases List.mem_singleton.mp hmem
      exact ⟨rfl, rfl, hfree⟩
  | bound _ hquiet =>
      have hno := hquiet _ hmem
      cases hno

/-- None but the attribute whose turn it is is passed over. -/
theorem Turn.passes_eq {b b' : Binding E} {a : Attribute}
    {events : List Event} (h : Turn tag owner b a b' events)
    (ha : a.name ∉ names) : ∀ e ∈ events, e.passes names = false := by
  intro e he
  cases h with
  | idle => cases he
  | ignored =>
      cases List.mem_singleton.mp he
      simpa [Event.passes] using ha
  | bound _ hquiet => exact Event.passes_of_not_isIgnored (hquiet e he)

variable [Entity E] {setting : Setting E D}

theorem bindAttribute_turn {slot : Slot} {judging : Bool}
    {b b' : Binding E} {a : Attribute}
    (h : (bindAttribute setting tag owner slot judging b a).result
      = .ok b') :
    Turn tag owner b a b'
      (bindAttribute setting tag owner slot judging b a).events := by
  unfold bindAttribute at h ⊢
  by_cases hmem : a.name ∈ b.taken
  · rw [if_pos hmem] at h ⊢
    cases h
    exact .idle
  · rw [if_neg hmem] at h ⊢
    cases hfound : setting.registry.binding? (Entity.typeName b.target)
        a.name with
    | none =>
        rw [hfound] at h
        cases judging with
        | false =>
            cases h
            exact .idle
        | true =>
            simp only [if_true, rejectUnknown] at h ⊢
            by_cases hstrict : setting.config.strict = true
            · rw [if_pos hstrict] at h
              cases h
            · rw [if_neg hstrict] at h ⊢
              cases h
              exact .ignored hmem
    | some found =>
        obtain ⟨declaredBy, handler⟩ := found
        rw [hfound] at h
        obtain ⟨_, -, hpure⟩ := call_bind_result_ok h
        cases hpure
        refine .bound rfl (Quiet.of_cut ?_)
        simp only [Run.cut_bind, Run.cut_record, Run.cut_step,
          Run.cut_call, Run.cut_pure]

section

variable {slot : Slot} {judging : Bool} {b : Binding E} {a : Attribute}

/-- An attribute of another name is bound as before. -/
theorem bindAttribute_sifts (ha : a.name ∉ names) :
    Sifts names b.taken Binding.taken
      (bindAttribute setting tag owner slot judging b a)
      (bindAttribute setting tag owner slot judging b a) := by
  constructor
  · intro b' h
    exact (bindAttribute_turn h).kept
  · intro b' h _
    exact (Run.mute_eq_self ((bindAttribute_turn h).passes_eq ha)).symm

/-- An attribute that is not bound may as well not be there. -/
theorem bindAttribute_sifts_pure (ha : a.name ∈ names) :
    Sifts names b.taken Binding.taken
      (bindAttribute setting tag owner slot judging b a) (pure b) := by
  constructor
  · intro b' h
    exact (bindAttribute_turn h).kept
  · intro b' h hnames
    have hturn := bindAttribute_turn h
    show (⟨[], .ok b⟩ : Run (Binding E)) = ⟨List.filter _ _, _⟩
    rw [h]
    generalize (bindAttribute setting tag owner slot judging b a).events
      = events at hturn
    cases hturn with
    | idle => rfl
    | ignored => simp [Event.passes, ha]
    | bound htaken =>
        exfalso
        apply hnames a.name ha
        rw [htaken]
        simp

end

theorem bindPass_cons (slot : Slot) (judging : Bool) (a : Attribute)
    (rest : List Attribute) (b : Binding E) :
    bindPass setting tag owner slot judging (a :: rest) b
      = bindAttribute setting tag owner slot judging b a
        >>= bindPass setting tag owner slot judging rest :=
  List.foldlM_cons

theorem bindPass_sifts (slot : Slot) (judging : Bool)
    (attributes : List Attribute) (b : Binding E) :
    Sifts names b.taken Binding.taken
      (bindPass setting tag owner slot judging attributes b)
      (bindPass setting tag owner slot judging (remaining attributes names)
        b) := by
  induction attributes generalizing b with
  | nil => exact .pure (List.Subset.refl _)
  | cons a rest ih =>
      unfold remaining at ih ⊢
      by_cases hmem : a.name ∈ names
      · rw [List.filter_cons_of_neg (by simpa using hmem), bindPass_cons]
        rw [← pure_bind b (bindPass setting tag owner slot judging _)]
        exact (bindAttribute_sifts_pure hmem).bind fun b' _ => ih b'
      · rw [List.filter_cons_of_pos (by simpa using hmem), bindPass_cons,
          bindPass_cons]
        exact (bindAttribute_sifts hmem).bind fun b' _ => ih b'

theorem bindParts_sifts (attributes : List Attribute) (index : Nat)
    (taken : List String) (parts : List E) :
    Sifts names taken
      (fun r : List E × List (Hooks E) × List String => r.2.2)
      (bindParts setting tag owner attributes index taken parts)
      (bindParts setting tag owner (remaining attributes names) index taken
        parts) := by
  induction parts generalizing index taken with
  | nil => exact .pure (List.Subset.refl _)
  | cons part parts ih =>
      unfold bindParts
      refine Sifts.bind (bindPass_sifts _ _ _ ⟨part, .empty, taken⟩)
        fun b _ => ?_
      refine (ih _ _).bind fun r _ => ?_
      exact .pure (List.Subset.refl _)

theorem bindComposite_sifts (attributes : List Attribute)
    (b : Binding E) :
    Sifts names b.taken
      (fun r : Binding E × List (Hooks E) => r.1.taken)
      (bindComposite setting tag owner attributes b)
      (bindComposite setting tag owner (remaining attributes names) b) := by
  unfold bindComposite
  refine (bindPass_sifts _ _ _ _).bind fun b' _ => ?_
  cases Entity.components? b'.target with
  | none => exact .pure (List.Subset.refl _)
  | some parts =>
      refine (bindParts_sifts _ _ _ _).bind fun r _ => ?_
      exact .pure (List.Subset.refl _)

theorem bindAttributes_sifts (attributes : List Attribute)
    (taken : List String) (e : E) :
    Sifts names taken
      (fun r : Binding E × List (Hooks E) => r.1.taken)
      (bindAttributes setting tag attributes taken e)
      (bindAttributes setting tag (remaining attributes names) taken e) := by
  unfold bindAttributes
  have hlast : ∀ r : Binding E × List (Hooks E),
      Sifts names r.1.taken (fun r => r.1.taken)
        (bindPass setting tag (Entity.typeName e) .whole true attributes r.1
          >>= fun b => pure (b, r.2))
        (bindPass setting tag (Entity.typeName e) .whole true
          (remaining attributes names) r.1 >>= fun b => pure (b, r.2)) :=
    fun r => (bindPass_sifts _ _ _ _).bind fun b _ =>
      .pure (List.Subset.refl _)
  have hfail : ∀ cause, Sifts names taken
      (fun r : Binding E × List (Hooks E) => r.1.taken)
      (Run.fail cause) (Run.fail cause) :=
    fun cause => .fail cause
  split
  · exact hlast (⟨e, .empty, taken⟩, [])
  · exact (hfail _).bind fun r _ => hlast r
  · exact (bindComposite_sifts attributes ⟨e, .empty, taken⟩).bind
      fun r _ => hlast r

-- ================================================== what is passed over

/-- A pass has done with what was, and with names of the attributes. -/
theorem bindPass_taken {slot : Slot} {judging : Bool}
    {attributes : List Attribute} {b b' : Binding E}
    (h : (bindPass setting tag owner slot judging attributes b).result
      = .ok b') {name : String} (hname : name ∈ b'.taken) :
    name ∈ b.taken ∨ name ∈ attributes.map (·.name) := by
  induction attributes generalizing b with
  | nil =>
      cases h
      exact Or.inl hname
  | cons a rest ih =>
      rw [bindPass_cons] at h
      obtain ⟨b₁, hfirst, hrest⟩ := bind_result_ok h
      rw [List.map_cons]
      rcases ih hrest with hmem | hmem
      · rcases (bindAttribute_turn hfirst).taken hmem with hmem | rfl
        · exact Or.inl hmem
        · exact Or.inr (List.mem_cons_self ..)
      · exact Or.inr (List.mem_cons_of_mem _ hmem)

/-- What a pass passes over is not done with in the end, if names are
distinct. -/
theorem bindPass_ignored {slot : Slot} {judging : Bool}
    {attributes : List Attribute} {b b' : Binding E}
    (hdistinct : (attributes.map (·.name)).Nodup)
    (h : (bindPass setting tag owner slot judging attributes b).result
      = .ok b') {tag' owner' name : String}
    (hignored : .ignored tag' owner' name
      ∈ (bindPass setting tag owner slot judging attributes b).events) :
    name ∉ b'.taken := by
  induction attributes generalizing b with
  | nil => cases hignored
  | cons a rest ih =>
      rw [List.map_cons, List.nodup_cons] at hdistinct
      rw [bindPass_cons] at h hignored
      obtain ⟨b₁, hfirst, hrest⟩ := bind_result_ok h
      rw [Run.bind_of_ok hfirst] at hignored
      rcases List.mem_append.mp hignored with hmem | hmem
      · -- it is this one's turn, and no other has its name
        obtain ⟨rfl, rfl, hfree⟩ :=
          (bindAttribute_turn hfirst).ignored_mem hmem
        intro htaken
        rcases bindPass_taken hrest htaken with htaken | htaken
        · exact hfree htaken
        · exact hdistinct.1 htaken
      · exact ih hdistinct.2 hrest hmem

/-- Passes that do not judge pass nothing over. -/
theorem bindPass_quiet {slot : Slot} {attributes : List Attribute}
    {b : Binding E} :
    (bindPass setting tag owner slot false attributes b).Quiet := by
  induction attributes generalizing b with
  | nil => exact .pure _
  | cons a rest ih =>
      rw [bindPass_cons]
      refine Quiet.bind (Quiet.of_cut ?_) fun b₁ _ => ih
      unfold bindAttribute
      split
      · rfl
      · cases setting.registry.binding? (Entity.typeName b.target)
            a.name with
        | none => rfl
        | some found => simp

theorem bindParts_quiet {attributes : List Attribute} {index : Nat}
    {taken : List String} {parts : List E} :
    (bindParts setting tag owner attributes index taken parts).Quiet := by
  induction parts generalizing index taken with
  | nil => exact .pure _
  | cons part parts ih =>
      unfold bindParts
      refine bindPass_quiet.bind fun b _ => ih.bind fun r _ => ?_
      exact .pure _

theorem bindComposite_quiet {attributes : List Attribute}
    {b : Binding E} :
    (bindComposite setting tag owner attributes b).Quiet := by
  unfold bindComposite
  refine bindPass_quiet.bind fun b' _ => ?_
  cases Entity.components? b'.target with
  | none => exact .pure _
  | some parts =>
      exact bindParts_quiet.bind fun r _ => .pure _

/-- What is passed over in binding is not done with in the end. -/
theorem bindAttributes_ignored {attributes : List Attribute}
    (hdistinct : (attributes.map (·.name)).Nodup) {taken : List String}
    {e : E} {r : Binding E × List (Hooks E)}
    (h : (bindAttributes setting tag attributes taken e).result = .ok r)
    {tag' owner' name : String}
    (hignored : .ignored tag' owner' name
      ∈ (bindAttributes setting tag attributes taken e).events) :
    name ∉ r.1.taken := by
  -- the last pass is the only one that passes anything over
  have hlast : ∀ {x : Run (Binding E × List (Hooks E))}, x.Quiet →
      ∀ {f : Binding E × List (Hooks E)
        → Run (Binding E × List (Hooks E))},
      (∀ r, f r = bindPass setting tag (Entity.typeName e) .whole true
        attributes r.1 >>= fun b => pure (b, r.2)) →
      (x >>= f).result = .ok r →
      .ignored tag' owner' name ∈ (x >>= f).events → name ∉ r.1.taken := by
    intro x hquiet f hf hok hmem
    obtain ⟨r₁, hx, hrest⟩ := bind_result_ok hok
    rw [Run.bind_of_ok hx] at hmem
    rcases List.mem_append.mp hmem with hmem | hmem
    · have hno := hquiet _ hmem
      cases hno
    · rw [hf] at hrest hmem
      obtain ⟨b, hpass, hpure⟩ := bind_result_ok hrest
      cases hpure
      rw [Run.bind_of_ok hpass] at hmem
      apply bindPass_ignored hdistinct hpass
      simpa using hmem
  unfold bindAttributes at h hignored
  split at h
  · next hnone =>
    rw [hnone] at hignored
    exact hlast (Quiet.pure _) (fun _ => rfl) h hignored
  · cases h
  · next hsome =>
    rw [hsome] at hignored
    exact hlast bindComposite_quiet (fun _ => rfl) h hignored

/-- Binding without attributes that are passed over. -/
theorem bindAttributes_mutes {attributes : List Attribute}
    (hdistinct : (attributes.map (·.name)).Nodup) (taken : List String)
    (e : E) :
    Mutes names (bindAttributes setting tag attributes taken e)
      (bindAttributes setting tag (remaining attributes names) taken e) := by
  intro r hr hwarns
  refine (bindAttributes_sifts attributes taken e).muted r hr ?_
  intro name hname
  obtain ⟨tag', owner, hmem⟩ := hwarns name hname
  exact bindAttributes_ignored hdistinct hr hmem

-- =============================================================== opening

variable [Draft D E]

/-- What the opening of the element's tag passes over, in order. -/
def warnings (setting : Setting E D) (x : Element) : List Event :=
  (openTag setting none x.name x.attributes x.line).events.filter
    Event.isIgnored

/-- The tag that it is opened inside of makes no difference. -/
theorem openTag_warnings (setting : Setting E D) (parent : Option String)
    (x : Element) :
    (openTag setting parent x.name x.attributes x.line).events.filter
      Event.isIgnored = warnings setting x := by
  unfold warnings openTag
  cases setting.registry.kind? x.name <;> rfl

/-- The attribute of this name is passed over, and no building handler
for the tag's declared type gets it. -/
structure Useless (setting : Setting E D) (x : Element) (name : String) :
    Prop where
  warned : ∃ owner, .ignored x.name owner name ∈ warnings setting x
  unbuilt : ∀ kind, setting.registry.kind? x.name = some kind →
    setting.registry.building? kind.declaredType name = none

/-- Opening a tag without attributes that are useless. -/
theorem openTag_remaining {parent : Option String} {x : Element}
    {opened : OpenedTag E D}
    (hdistinct : (x.attributes.map (·.name)).Nodup)
    (hok : (openTag setting parent x.name x.attributes x.line).result
      = .ok opened)
    (huseless : ∀ name ∈ names, Useless setting x name) :
    openTag setting parent x.name (remaining x.attributes names) x.line
      = (openTag setting parent x.name x.attributes x.line).mute
        names := by
  have hwarns : (openTag setting parent x.name x.attributes
      x.line).Warns names := by
    intro name hname
    obtain ⟨owner, hmem⟩ := (huseless name hname).warned
    rw [← openTag_warnings setting parent x] at hmem
    exact ⟨x.name, owner, (List.mem_filter.mp hmem).1⟩
  suffices h : Mutes names
      (openTag setting parent x.name x.attributes x.line)
      (openTag setting parent x.name (remaining x.attributes names)
        x.line) from h opened hok hwarns
  unfold openTag
  cases hkind : setting.registry.kind? x.name with
  | none => exact fun _ h => nomatch h
  | some kind =>
      dsimp only
      rw [buildAttributes_remaining x.name fun name hname =>
        (huseless name hname).unbuilt kind hkind]
      refine Mutes.next (Quiet.of_cut rfl) fun _ _ => ?_
      refine Mutes.next (Quiet.of_cut (cut_buildAttributes ..))
        fun built _ => ?_
      refine Mutes.next (Quiet.of_cut (cut_instantiate ..))
        fun made _ => ?_
      refine (bindAttributes_mutes hdistinct built.2 made).before ?_
      intro r
      exact (Quiet.of_cut (cut_runHooks ..)).bind fun _ _ => .pure _

end Build

end EntityMarkup
