import AstronomyShop.Library.Json
import AstronomyShop.Library.Machine
import AstronomyShop.Library.WorkingCopy

/-!
# Editing the feature flags

The flags are kept in one file. A `BasicView` loads the file, lets its user change default variants,
and saves everything it has loaded; a `temporary_flag` context reads the file, writes it with one
variant changed, and at its end writes the same data again with the variant changed back. Nobody
looks whether the file has changed in between, so the last write wins with all flags of its author.
-/

namespace AstronomyShop.FeatureFlags

open Machine

/-! ## The file and its editors -/

inductive FlagState where
  | enabled
  | disabled

structure FlagConfig where
  description : String
  state : FlagState
  variants : List (String × Wire.Json)
  defaultVariant : String

/-- The flags of the file; `none` is a flag that it does not have. -/
abbrev Flags := String → Option FlagConfig

abbrev Copy := WorkingCopy String (Option FlagConfig)

/-- `data["flags"][flag]["defaultVariant"] = variant`; a view offers only flags it has loaded. -/
def setDefaultVariant (data : Copy) (flag variant : String) : Copy :=
  data.edit flag (Option.map fun config => { config with defaultVariant := variant })

/-- Where a `temporary_flag` context is: before its start, behind the read, in its body, or left. -/
inductive Context where
  | start
  | opened (data : Copy) (oldVariant : String)
  | body (data : Copy) (oldVariant : String)
  | left

inductive Editor where
  | basicView (flagData : Option Copy)
  | temporaryFlag (flag variant : String) (context : Context)

structure State (ι : Type) where
  file : Flags
  editors : ι → Editor

/-! ## The steps -/

inductive Event (ι : Type) where
  | readFile (i : ι)
  | updateFlagData (i : ι) (flagId selectedVariant : String)
  | save (i : ι)
  | enter (i : ι)
  | writeOn (i : ι)
  | writeBack (i : ι)

namespace Event

variable {ι : Type}

def editor : Event ι → ι
  | .readFile i => i
  | .updateFlagData i _ _ => i
  | .save i => i
  | .enter i => i
  | .writeOn i => i
  | .writeBack i => i

end Event

variable {ι : Type}

/-- What an event writes to the file, and how it leaves its editor. -/
def act (file : Flags) : Event ι → Editor → Option (Option Copy × Editor)
  | .readFile _, .basicView _ => some (none, .basicView (some (.checkOut file)))
  | .updateFlagData _ flagId selectedVariant, .basicView (some flagData) =>
    some (none, .basicView (some (setDefaultVariant flagData flagId selectedVariant)))
  | .save _, .basicView (some flagData) => some (some flagData, .basicView (some flagData))
  | .enter _, .temporaryFlag flag variant .start =>
    match file flag with
    | none => some (none, .temporaryFlag flag variant .left)
    | some config =>
      some (none, .temporaryFlag flag variant (.opened (.checkOut file) config.defaultVariant))
  | .writeOn _, .temporaryFlag flag variant (.opened data oldVariant) =>
    let data := setDefaultVariant data flag variant
    some (some data, .temporaryFlag flag variant (.body data oldVariant))
  | .writeBack _, .temporaryFlag flag variant (.body data oldVariant) =>
    let data := setDefaultVariant data flag oldVariant
    some (some data, .temporaryFlag flag variant .left)
  | _, _ => none

/-- The copy that an event writes to the file. -/
def written (s : State ι) (e : Event ι) : Option Copy :=
  (act s.file e (s.editors e.editor)).bind Prod.fst

def next [DecidableEq ι] (s : State ι) (e : Event ι) : Option (State ι) :=
  (act s.file e (s.editors e.editor)).map fun p =>
    { file := (p.1.map WorkingCopy.data).getD s.file
      editors := Function.update s.editors e.editor p.2 }

def Step [DecidableEq ι] (s : State ι) (e : Event ι) (s' : State ι) : Prop := next s e = some s'

/-! ## One step -/

/-- The copy that an editor holds. -/
def Editor.copy : Editor → Option Copy
  | .basicView flagData => flagData
  | .temporaryFlag _ _ (.opened data _) => some data
  | .temporaryFlag _ _ (.body data _) => some data
  | .temporaryFlag _ _ _ => none

/-- The copy of an editor, if it holds one, is up to date. -/
def Current (file : Flags) (editor : Editor) : Prop := ∀ c, editor.copy = some c → c.UpToDate file

section

variable {file : Flags} {e : Event ι} {editor editor' : Editor} {w : Option Copy}

/-- The event takes the flags from the file. -/
def Reads : Event ι → Prop
  | .readFile _ => True
  | .enter _ => True
  | _ => False

/-- Either the file is read, or the copy is changed once more or not and then written or not. -/
theorem act_cases (hact : act file e editor = some (w, editor')) :
    (Reads e ∧ w = none ∧ ∀ c, editor'.copy = some c → c = .checkOut file) ∨
      (¬ Reads e ∧ ∃ c c', editor.copy = some c ∧ (c' = c ∨ ∃ flag f, c' = c.edit flag f) ∧
        (w = none ∨ w = some c') ∧ ∀ c'', editor'.copy = some c'' → c'' = c') := by
  unfold act at hact
  split at hact
  · cases hact
    exact .inl ⟨trivial, rfl, fun c hc => (Option.some.inj hc).symm⟩
  · cases hact
    exact .inr ⟨id, _, _, rfl, .inr ⟨_, _, rfl⟩, .inl rfl, fun c hc => (Option.some.inj hc).symm⟩
  · cases hact
    exact .inr ⟨id, _, _, rfl, .inl rfl, .inr rfl, fun c hc => (Option.some.inj hc).symm⟩
  · split at hact
    · cases hact
      exact .inl ⟨trivial, rfl, nofun⟩
    · cases hact
      exact .inl ⟨trivial, rfl, fun c hc => (Option.some.inj hc).symm⟩
  · cases hact
    exact .inr ⟨id, _, _, rfl, .inr ⟨_, _, rfl⟩, .inr rfl, fun c hc => (Option.some.inj hc).symm⟩
  · cases hact
    exact .inr ⟨id, _, _, rfl, .inr ⟨_, _, rfl⟩, .inr rfl, nofun⟩
  · cases hact

/-- What an editor writes is its copy, edited once more or not. -/
theorem Current.upToDate_written {c : Copy} (h : Current file editor)
    (hact : act file e editor = some (some c, editor')) : c.UpToDate file := by
  obtain ⟨-, hw, -⟩ | ⟨-, c₀, c', hcopy, hedit, hw, -⟩ := act_cases hact
  · cases hw
  · have hc' : some c = some c' := hw.resolve_left nofun
    rw [Option.some.inj hc']
    exact (h c₀ hcopy).of_edit hedit

/-- Reading makes the copy up to date. -/
theorem current_of_reads (hreads : Reads e) (hact : act file e editor = some (w, editor')) :
    Current ((w.map WorkingCopy.data).getD file) editor' := by
  obtain ⟨-, rfl, hcopy⟩ | ⟨hnot, -⟩ := act_cases hact
  · intro c hc
    rw [hcopy c hc]
    exact WorkingCopy.upToDate_checkOut file
  · exact absurd hreads hnot

/-- After its own step the copy of an editor is up to date, if it was or has been read. -/
theorem Current.after (h : Current file editor) (hact : act file e editor = some (w, editor')) :
    Current ((w.map WorkingCopy.data).getD file) editor' := by
  obtain ⟨hreads, -⟩ | ⟨-, c, c', hcopy, hedit, hw, hcopy'⟩ := act_cases hact
  · exact current_of_reads hreads hact
  · intro c'' hc''
    rw [hcopy' c'' hc'']
    rcases hw with rfl | rfl
    · exact (h c hcopy).of_edit hedit
    · exact WorkingCopy.upToDate_data c'

end

section

variable [DecidableEq ι] {s s' : State ι} {e : Event ι} {es : List (Event ι)}

/-- What a step does to the file and to its editor. -/
theorem Step.cases (h : Step s e s') : ∃ editor',
    act s.file e (s.editors e.editor) = some (written s e, editor') ∧
      s'.file = ((written s e).map WorkingCopy.data).getD s.file ∧
        s'.editors = Function.update s.editors e.editor editor' := by
  unfold Step next at h
  obtain ⟨⟨w, editor'⟩, hact, rfl⟩ := Option.map_eq_some_iff.mp h
  have hwritten : written s e = w := by
    unfold written
    rw [hact]
    rfl
  rw [hwritten]
  exact ⟨editor', hact, rfl, rfl⟩

theorem Step.file_of_written (h : Step s e s') {c : Copy} (hc : written s e = some c) :
    s'.file = c.data := by
  obtain ⟨-, -, hfile, -⟩ := h.cases
  rw [hfile, hc]
  rfl

theorem Step.file_of_not_written (h : Step s e s') (hnone : written s e = none) :
    s'.file = s.file := by
  obtain ⟨-, -, hfile, -⟩ := h.cases
  rw [hfile, hnone]
  rfl

/-- Every editor that does not write leaves the copies of the others up to date. -/
theorem Current.step {i : ι} (hi : Current s.file (s.editors i)) (h : Step s e s')
    (hothers : e.editor ≠ i → written s e = none) : Current s'.file (s'.editors i) := by
  obtain ⟨editor', hact, hfile, heditors⟩ := h.cases
  by_cases heq : e.editor = i
  · subst heq
    rw [hfile, heditors, Function.update_self]
    exact hi.after hact
  · rw [h.file_of_not_written (hothers heq), heditors, Function.update_of_ne (Ne.symm heq)]
    exact hi

/-! ## Runs -/

/-- The event is no write of an editor other than `i`. -/
def OnlyWriter (i : ι) (s : State ι) (e : Event ι) : Prop := e.editor ≠ i → written s e = none

/-- A write of the event is of an up-to-date copy in which the flag was not edited. -/
def KeepsFlag (flag : String) (s : State ι) (e : Event ι) : Prop :=
  ∀ c, written s e = some c → c.UpToDate s.file ∧ flag ∉ c.edited

theorem writes_only_edited_iff (h : Step s e s') {c : Copy} (hc : written s e = some c) :
    (∀ flag, flag ∉ c.edited → s'.file flag = s.file flag) ↔ c.UpToDate s.file := by
  rw [h.file_of_written hc]
  exact WorkingCopy.writesOnlyEdited_iff

/-- **When edits survive.** A write changes only the flags that its author edited exactly when the
other flags are as its author has read them; that is so when nobody else has written since; and
while it is so for every write, a flag is changed only by those who edited it. -/
theorem edits_survive :
    (∀ (s : State ι) e s' c, Step s e s' → written s e = some c →
      ((∀ flag, flag ∉ c.edited → s'.file flag = s.file flag) ↔ c.UpToDate s.file)) ∧
    (∀ (s : State ι) e s₁ es s₂ e' s₃ c, Step s e s₁ → Reads e →
      Run Step (OnlyWriter e.editor) s₁ es s₂ → Step s₂ e' s₃ → e'.editor = e.editor →
        written s₂ e' = some c → ∀ flag, flag ∉ c.edited → s₃.file flag = s₂.file flag) ∧
    ∀ flag es (s s' : State ι), Run Step (KeepsFlag flag) s es s' →
      s'.file flag = s.file flag := by
  refine ⟨fun s e s' c h hc => writes_only_edited_iff h hc, ?_, ?_⟩
  · intro s e s₁ es s₂ e' s₃ c h hreads hrun h' heditor hc
    have hread : Current s₁.file (s₁.editors e.editor) := by
      obtain ⟨editor', hact, hfile, heditors⟩ := h.cases
      rw [hfile, heditors, Function.update_self]
      exact current_of_reads hreads hact
    have hcurrent : Current s₂.file (s₂.editors e.editor) := by
      refine hrun.invariant (P := fun t => Current t.file (t.editors e.editor)) ?_ hread
      intro t e₁ t' hi hok hstep
      exact hi.step hstep hok
    apply (writes_only_edited_iff h' hc).mpr
    obtain ⟨editor', hact, -⟩ := h'.cases
    rw [hc, heditor] at hact
    exact hcurrent.upToDate_written hact
  · intro flag es s s' hrun
    refine hrun.invariant (P := fun s' => s'.file flag = s.file flag) ?_ rfl
    intro s₁ e s₂ hfile hok hstep
    rw [← hfile]
    cases hw : written s₁ e with
    | none => rw [hstep.file_of_not_written hw]
    | some c =>
      obtain ⟨hcurrent, hflag⟩ := hok c hw
      exact (writes_only_edited_iff hstep hw).mpr hcurrent flag hflag

end

/-! ## Two views of the same file -/

def sampleFlag (defaultVariant : String) : FlagConfig where
  description := "Fail ad service"
  state := .enabled
  variants := [("on", .bool true), ("off", .bool false)]
  defaultVariant := defaultVariant

/-- Two flags that are off, and views that have loaded nothing. -/
def sampleState : State Nat where
  file flag := if flag = "adFailure" ∨ flag = "cartFailure" then some (sampleFlag "off") else none
  editors _ := .basicView none

/-- One view loads and saves a flag while another one loads and changes its copy. The other one
loads again before it saves, and both changes are in the file. -/
theorem edits_survive_reloaded : ∃ s₂ s₃ s₄ : State Nat,
    [.readFile 0, .readFile 1, .updateFlagData 1 "cartFailure" "on",
      .updateFlagData 0 "adFailure" "on"].foldlM next sampleState = some s₂ ∧
    next s₂ (.save 0) = some s₃ ∧ s₃.file "cartFailure" = s₂.file "cartFailure" ∧
    [.readFile 1, .updateFlagData 1 "cartFailure" "on", .save 1].foldlM next s₃ = some s₄ ∧
    s₄.file "adFailure" = s₃.file "adFailure" ∧
    (s₄.file "adFailure").map FlagConfig.defaultVariant = some "on" ∧
    (s₄.file "cartFailure").map FlagConfig.defaultVariant = some "on" := by
  have hread : ∀ s₁, next sampleState (.readFile 0) = some s₁ →
      ∀ s₂, Run Step (OnlyWriter 0) s₁ [.readFile 1, .updateFlagData 1 "cartFailure" "on",
        .updateFlagData 0 "adFailure" "on"] s₂ →
        ∀ s₃ c, next s₂ (.save 0) = some s₃ → written s₂ (.save 0) = some c →
          "cartFailure" ∉ c.edited → s₃.file "cartFailure" = s₂.file "cartFailure" :=
    fun s₁ h₁ s₂ hrun s₃ c h₃ hc =>
      edits_survive.2.1 sampleState (.readFile 0) s₁ _ s₂ (.save 0) s₃ c h₁ trivial hrun h₃ rfl hc
        "cartFailure"
  have hkept : ∀ s₃ s₄ : State Nat, Run Step (KeepsFlag "adFailure") s₃
      [.readFile 1, .updateFlagData 1 "cartFailure" "on", .save 1] s₄ →
        s₄.file "adFailure" = s₃.file "adFailure" :=
    fun s₃ s₄ => edits_survive.2.2 "adFailure" _ s₃ s₄
  refine ⟨_, _, _, rfl, rfl, ?_, rfl, ?_, rfl, rfl⟩
  · exact hread _ rfl _ (.cons (fun _ => rfl) rfl (.cons (fun _ => rfl) rfl
      (.cons (fun _ => rfl) rfl (.nil _)))) _ _ rfl rfl (by decide)
  · refine hkept _ _ (.cons nofun rfl (.cons nofun rfl (.cons ?_ rfl (.nil _))))
    rintro c ⟨⟩
    exact ⟨fun _ _ => rfl, by decide⟩

/-- Both views load, and then each changes a flag of its own and saves. -/
theorem edit_reverted : ¬ ∀ (s : State Nat), (∀ i, (s.editors i).copy = none) → ∀ es s₁ e s₂ c,
    Run Step Any s es s₁ → Step s₁ e s₂ → written s₁ e = some c →
      ∀ flag, flag ∉ c.edited → s₂.file flag = s₁.file flag := by
  intro h
  have hkept := h sampleState (fun _ => rfl)
    [.readFile 0, .readFile 1, .updateFlagData 0 "adFailure" "on", .save 0,
      .updateFlagData 1 "cartFailure" "on"] _ (.save 1) _ _ (.of_foldlM rfl) rfl rfl
    "adFailure" (by decide)
  have hvariant : some "off" = some "on" :=
    congrArg (Option.map FlagConfig.defaultVariant) hkept
  exact absurd hvariant (by decide)

end AstronomyShop.FeatureFlags
