import AstronomyShop.FeatureFlags.Editors

/-!
# Contexts of a temporary flag

What the contexts of `temporary_flag` do to the file, whoever else writes it.

* `left_as_found`: a context that ends leaves the file with all flags as it found them; what was
  written in between is undone, also for other flags and by others.
* `variants_in_force`: of contexts that are opened and left like brackets, exactly the variants of
  those that are open are in force, the innermost first. When all have been left, the file is as it
  was at first.
-/

namespace AstronomyShop.FeatureFlags

open Machine

variable {ι : Type}

/-! ## What a context remembers -/

/-- The flags with the variant of a context in force. -/
def override (flag variant : String) (flags : Flags) : Flags :=
  Function.update flags flag
    ((flags flag).map fun config => { config with defaultVariant := variant })

def Editor.override : Editor → Flags → Flags
  | .temporaryFlag flag variant _ => FeatureFlags.override flag variant
  | .basicView _ => id

/-- The flags with the variants of some contexts in force, the first ones over the others. -/
def inForce (editors : ι → Editor) (is : List ι) (file : Flags) : Flags :=
  is.foldr (fun i => (editors i).override) file

/-- The context has read the flags `found`, or it has been left. -/
def HasRead (found : Flags) : Editor → Prop
  | .temporaryFlag flag _ (.opened data oldVariant) =>
    data = .checkOut found ∧ (found flag).map FlagConfig.defaultVariant = some oldVariant
  | .temporaryFlag flag variant (.body data oldVariant) =>
    data = setDefaultVariant (.checkOut found) flag variant ∧
      (found flag).map FlagConfig.defaultVariant = some oldVariant
  | .temporaryFlag _ _ .left => True
  | _ => False

def Editor.InBody : Editor → Prop
  | .temporaryFlag _ _ (.body _ _) => True
  | _ => False

section

variable {file found : Flags} {editor editor' : Editor} {e : Event ι} {w : Option Copy}
variable {flag variant oldVariant : String}

theorem data_setDefaultVariant (data : Copy) :
    (setDefaultVariant data flag variant).data = override flag variant data.data := rfl

/-- Setting the variant back undoes the change. -/
theorem override_override (hold : (found flag).map FlagConfig.defaultVariant = some oldVariant) :
    override flag oldVariant (override flag variant found) = found := by
  obtain ⟨config, hconfig, rfl⟩ := Option.map_eq_some_iff.mp hold
  unfold override
  rw [Function.update_self, Function.update_idem, hconfig]
  apply Function.update_eq_self_iff.mpr
  exact hconfig.symm

/-- A context that has read some flags keeps them in mind until it is left. -/
theorem HasRead.after (h : HasRead found editor) (hact : act file e editor = some (w, editor')) :
    HasRead found editor' := by
  unfold act at hact
  split at hact
  · exact h.elim
  · exact h.elim
  · exact h.elim
  · exact h.elim
  · cases hact
    obtain ⟨rfl, hold⟩ := h
    exact ⟨rfl, hold⟩
  · cases hact
    trivial
  · cases hact

theorem hasRead_enter {i : ι} (hact : act file (.enter i) editor = some (w, editor')) :
    HasRead file editor' ∧ w = none := by
  unfold act at hact
  split at hact <;> rename_i heq
  · cases heq
  · cases heq
  · cases heq
  · split at hact <;> rename_i hconfig
    · cases hact
      exact ⟨trivial, rfl⟩
    · cases hact
      refine ⟨⟨rfl, ?_⟩, rfl⟩
      rw [hconfig]
      rfl
  · cases heq
  · cases heq
  · cases hact

theorem act_writeOn {i : ι} (h : HasRead found editor)
    (hact : act file (.writeOn i) editor = some (w, editor')) :
    w.map WorkingCopy.data = some (editor.override found) ∧ editor'.InBody := by
  unfold act at hact
  split at hact <;> rename_i heq
  · cases heq
  · cases heq
  · cases heq
  · cases heq
  · cases hact
    obtain ⟨rfl, -⟩ := h
    exact ⟨rfl, trivial⟩
  · cases heq
  · cases hact

/-- What a context writes at its end is what it has read. -/
theorem act_writeBack {i : ι} (h : HasRead found editor)
    (hact : act file (.writeBack i) editor = some (w, editor')) :
    w.map WorkingCopy.data = some found := by
  unfold act at hact
  split at hact <;> rename_i heq
  · cases heq
  · cases heq
  · cases heq
  · cases heq
  · cases heq
  · cases hact
    obtain ⟨rfl, hold⟩ := h
    rw [Option.map_some, data_setDefaultVariant, data_setDefaultVariant]
    exact congrArg some (override_override hold)
  · cases hact

theorem override_after (hact : act file e editor = some (w, editor')) :
    editor'.override = editor.override := by
  unfold act at hact
  split at hact
  · cases hact
    rfl
  · cases hact
    rfl
  · cases hact
    rfl
  · split at hact
    · cases hact
      rfl
    · cases hact
      rfl
  · cases hact
    rfl
  · cases hact
    rfl
  · cases hact

/-- A context enters once. -/
theorem not_inBody_of_enter {i : ι} (hact : act file (.enter i) editor = some (w, editor')) :
    ¬ editor.InBody := by
  unfold act at hact
  split at hact <;> rename_i heq
  · cases heq
  · cases heq
  · cases heq
  · exact id
  · cases heq
  · cases heq
  · cases hact

end

/-! ## Any interleaving -/

section

variable [DecidableEq ι] {s s' : State ι} {e : Event ι} {es : List (Event ι)}

/-- What a step does to its own editor. -/
theorem Step.act_editor (h : Step s e s') :
    act s.file e (s.editors e.editor) = some (written s e, s'.editors e.editor) := by
  obtain ⟨editor', hact, -, heditors⟩ := h.cases
  rw [heditors, Function.update_self]
  exact hact

theorem Step.editors_of_ne {i : ι} (h : Step s e s') (hi : e.editor ≠ i) :
    s'.editors i = s.editors i := by
  obtain ⟨_, -, -, heditors⟩ := h.cases
  rw [heditors, Function.update_of_ne (Ne.symm hi)]

theorem Step.file_eq (h : Step s e s') :
    s'.file = ((written s e).map WorkingCopy.data).getD s.file := by
  obtain ⟨-, -, hfile, -⟩ := h.cases
  exact hfile

theorem HasRead.step {found : Flags} {i : ι} (hi : HasRead found (s.editors i))
    (h : Step s e s') : HasRead found (s'.editors i) := by
  by_cases heq : e.editor = i
  · subst heq
    exact hi.after h.act_editor
  · rw [h.editors_of_ne heq]
    exact hi

theorem Step.override_eq (h : Step s e s') (i : ι) :
    (s'.editors i).override = (s.editors i).override := by
  by_cases heq : e.editor = i
  · subst heq
    exact override_after h.act_editor
  · rw [h.editors_of_ne heq]

theorem Step.enter {i : ι} (h : Step s (.enter i) s') :
    HasRead s.file (s'.editors i) ∧ s'.file = s.file := by
  obtain ⟨hread, hw⟩ := hasRead_enter h.act_editor
  exact ⟨hread, h.file_of_not_written hw⟩

theorem Step.writeOn {i : ι} {found : Flags} (h : Step s (.writeOn i) s')
    (hi : HasRead found (s.editors i)) :
    s'.file = (s.editors i).override found ∧ (s'.editors i).InBody := by
  obtain ⟨hw, hbody⟩ := act_writeOn hi h.act_editor
  rw [h.file_eq, hw]
  exact ⟨rfl, hbody⟩

theorem Step.writeBack {i : ι} {found : Flags} (h : Step s (.writeBack i) s')
    (hi : HasRead found (s.editors i)) : s'.file = found := by
  rw [h.file_eq, act_writeBack hi h.act_editor]
  rfl

/-- An event that writes nothing. -/
def Quiet (s : State ι) (e : Event ι) : Prop := written s e = none

/-- **A context leaves the file as it found it**, in any interleaving with other editors, and so it
stays until somebody writes again. -/
theorem left_as_found (s s₁ s₂ s₃ s₄ : State ι) (i : ι) (es es' : List (Event ι))
    (henter : Step s (.enter i) s₁) (hrun : Run Step Any s₁ es s₂)
    (hback : Step s₂ (.writeBack i) s₃) (hquiet : Run Step Quiet s₃ es' s₄) :
    s₄.file = s.file := by
  have hread : HasRead s.file (s₂.editors i) := by
    refine hrun.invariant (P := fun t => HasRead s.file (t.editors i)) ?_ henter.enter.1
    intro t e t' hi _ hstep
    exact hi.step hstep
  refine hquiet.invariant (P := fun t => t.file = s.file) ?_ (hback.writeBack hread)
  intro t e t' hfile hok hstep
  rw [hstep.file_of_not_written hok, hfile]

end

/-! ## Brackets -/

/-- Contexts that are opened and left like brackets; the ones in `is` are open, the last one first.
A context whose flag is unknown is not opened, and neither is one whose process ends before it
writes. -/
inductive Bracketed : List ι → List (Event ι) → Prop
  | nil : Bracketed [] []
  | opened {is : List ι} {es : List (Event ι)} (i : ι) (h : Bracketed is es) :
    Bracketed (i :: is) (es ++ [.enter i, .writeOn i])
  | refused {is : List ι} {es : List (Event ι)} (i : ι) (h : Bracketed is es) :
    Bracketed is (es ++ [.enter i])
  | left {i : ι} {is : List ι} {es : List (Event ι)} (h : Bracketed (i :: is) es) :
    Bracketed is (es ++ [.writeBack i])

/-- Each of the open contexts has read the flags that those below it have put in force. -/
def Stacked (editors : ι → Editor) (file : Flags) : List ι → Prop
  | [] => True
  | i :: is => i ∉ is ∧ (editors i).InBody ∧ HasRead (inForce editors is file) (editors i) ∧
      Stacked editors file is

theorem inForce_congr {editors editors' : ι → Editor} (is : List ι)
    (h : ∀ i, (editors' i).override = (editors i).override) (file : Flags) :
    inForce editors' is file = inForce editors is file := by
  unfold inForce
  congr 1
  funext i
  exact h i

theorem Stacked.inBody {editors : ι → Editor} {file : Flags} {is : List ι}
    (h : Stacked editors file is) {i : ι} (hi : i ∈ is) : (editors i).InBody := by
  induction is with
  | nil => cases hi
  | cons j is ih =>
    obtain ⟨-, hbody, -, hrest⟩ := h
    rcases List.mem_cons.mp hi with rfl | hi
    · exact hbody
    · exact ih hrest hi

section

variable [DecidableEq ι] {s s' : State ι} {e : Event ι} {es : List (Event ι)}

/-- The open contexts other than the editor of a step stay as they are. -/
theorem Stacked.step {file : Flags} {is : List ι} (h : Stacked s.editors file is)
    (hstep : Step s e s') (he : e.editor ∉ is) : Stacked s'.editors file is := by
  induction is with
  | nil => trivial
  | cons i is ih =>
    obtain ⟨hi, hbody, hread, hrest⟩ := h
    have hsame : s'.editors i = s.editors i := hstep.editors_of_ne (List.ne_of_not_mem_cons he)
    refine ⟨hi, ?_, ?_, ih hrest (List.not_mem_of_not_mem_cons he)⟩
    · rw [hsame]
      exact hbody
    · rw [inForce_congr is hstep.override_eq, hsame]
      exact hread

/-- What is true of the file and of the open contexts after a bracketed run. -/
structure Nested (file : Flags) (is : List ι) (s : State ι) : Prop where
  file_eq : s.file = inForce s.editors is file
  stacked : Stacked s.editors file is

theorem Nested.enter {file : Flags} {is : List ι} {i : ι} (h : Nested file is s)
    (hstep : Step s (.enter i) s') : Nested file is s' ∧ i ∉ is := by
  have hnot : i ∉ is := by
    intro hi
    exact not_inBody_of_enter hstep.act_editor (h.stacked.inBody hi)
  refine ⟨⟨?_, h.stacked.step hstep hnot⟩, hnot⟩
  rw [hstep.enter.2, h.file_eq, inForce_congr is hstep.override_eq]

theorem Nested.opened {file : Flags} {is : List ι} {i : ι} {s₁ : State ι} (h : Nested file is s)
    (henter : Step s (.enter i) s₁) (hwrite : Step s₁ (.writeOn i) s') :
    Nested file (i :: is) s' := by
  obtain ⟨h₁, hnot⟩ := h.enter henter
  have hread : HasRead s₁.file (s₁.editors i) := by
    rw [henter.enter.2]
    exact henter.enter.1
  obtain ⟨hfile, hbody⟩ := hwrite.writeOn hread
  have hforce : inForce s'.editors is file = s₁.file := by
    rw [inForce_congr is hwrite.override_eq, h₁.file_eq]
  refine ⟨?_, hnot, hbody, ?_, h₁.stacked.step hwrite hnot⟩
  · rw [hfile, ← hwrite.override_eq, ← hforce]
    rfl
  · rw [hforce]
    exact hread.step hwrite

theorem Nested.left {file : Flags} {is : List ι} {i : ι} (h : Nested file (i :: is) s)
    (hstep : Step s (.writeBack i) s') : Nested file is s' := by
  obtain ⟨hnot, -, hread, hrest⟩ := h.stacked
  refine ⟨?_, hrest.step hstep hnot⟩
  rw [hstep.writeBack hread, inForce_congr is hstep.override_eq]

theorem nested_of_bracketed {is : List ι} (h : Bracketed is es) (hrun : Run Step Any s es s') :
    Nested s.file is s' := by
  induction h generalizing s' with
  | nil =>
    cases hrun
    exact ⟨rfl, trivial⟩
  | opened i _ ih =>
    obtain ⟨s₁, hrun, hlast⟩ := hrun.split
    cases hlast with
    | cons _ henter hrest =>
      cases hrest with
      | cons _ hwrite hnil =>
        cases hnil
        exact (ih hrun).opened henter hwrite
  | refused i _ ih =>
    obtain ⟨s₁, hrun, hlast⟩ := hrun.split
    exact ((ih hrun).enter hlast.of_single).1
  | left _ ih =>
    obtain ⟨s₁, hrun, hlast⟩ := hrun.split
    exact (ih hrun).left hlast.of_single

theorem Run.override_eq (hrun : Run Step Any s es s') (i : ι) :
    (s'.editors i).override = (s.editors i).override := by
  refine hrun.invariant (P := fun t => (t.editors i).override = (s.editors i).override) ?_ rfl
  intro t e t' hi _ hstep
  rw [hstep.override_eq, hi]

/-- **The variants of the open contexts are in force**, and no others: after any run of contexts
that are opened and left like brackets. -/
theorem variants_in_force (s s' : State ι) (is : List ι) (es : List (Event ι))
    (h : Bracketed is es) (hrun : Run Step Any s es s') :
    s'.file = inForce s.editors is s.file := by
  rw [(nested_of_bracketed h hrun).file_eq]
  exact inForce_congr is (Run.override_eq hrun) s.file

end

/-- Two contexts on the flags of `sampleState`. -/
def sampleContexts : State Nat where
  file := sampleState.file
  editors i := .temporaryFlag (if i = 0 then "adFailure" else "cartFailure") "on" .start

/-- The first context ends while the second one is in its body. -/
theorem left_as_found_overlapping : ∃ s₃ : State Nat,
    [.enter 0, .writeOn 0, .enter 1, .writeOn 1, .writeBack 0].foldlM next sampleContexts = some s₃ ∧
      s₃.file = sampleContexts.file := by
  have hfound : ∀ s₁, next sampleContexts (.enter 0) = some s₁ →
      ∀ s₂, [.writeOn 0, .enter 1, .writeOn 1].foldlM next s₁ = some s₂ →
        ∀ s₃, next s₂ (.writeBack 0) = some s₃ → s₃.file = sampleContexts.file := by
    intro s₁ h₁ s₂ h₂ s₃ h₃
    exact left_as_found sampleContexts s₁ s₂ s₃ s₃ 0 [.writeOn 0, .enter 1, .writeOn 1] [] h₁
      (.of_foldlM h₂) h₃ (.nil s₃)
  exact ⟨_, rfl, hfound _ rfl _ rfl _ rfl⟩

/-- The second context ends inside the first one. -/
theorem variants_in_force_inside : ∃ s' : State Nat,
    [.enter 0, .writeOn 0, .enter 1, .writeOn 1, .writeBack 1].foldlM next sampleContexts = some s' ∧
      s'.file = override "adFailure" "on" sampleContexts.file :=
  ⟨_, rfl, variants_in_force sampleContexts _ [0] _ (((Bracketed.nil.opened 0).opened 1).left)
    (.of_foldlM rfl)⟩

end AstronomyShop.FeatureFlags
