import AstronomyShop.Library.Session

/-!
# Contracts between programs and a state

A `Contract` for the answers of a state: while its invariant holds, a call that is `Routine` is
answered by an event that is `Fine`, and the invariant holds afterwards. A program is on its side
of the contract (`Keeps`) when it makes routine calls as long as all answers are fine.

Both sides together hold along every path of one program (`Contract.path`) and in every
interleaving of any number of them (`Contract.run`).
-/

namespace Interaction

variable {Op : Type} {Res : Op → Type} {α σ Act ι : Type}

/-- The state's side of a contract. -/
structure Contract (answer : σ → (o : Op) → Res o → σ → Prop) where
  Inv : σ → Prop
  Routine : Op → Prop
  Fine : Event Res → Prop
  step {s s' : σ} {e : Event Res} (hs : Inv s) (hroutine : Routine e.op)
    (h : answer s e.op e.reply s') : Inv s' ∧ Fine e

namespace Contract

variable {answer : σ → (o : Op) → Res o → σ → Prop} (C : Contract answer)

/-- The program's side of a contract: each call is routine if all answers before it are fine. -/
def Keeps : List (Event Res) → Prop
  | [] => True
  | e :: t => C.Routine e.op ∧ (C.Fine e → Keeps t)

variable {C}

@[simp] theorem keeps_nil : C.Keeps [] := trivial

@[simp] theorem keeps_cons {e : Event Res} {t : List (Event Res)} :
    C.Keeps (e :: t) ↔ C.Routine e.op ∧ (C.Fine e → C.Keeps t) := Iff.rfl

theorem keeps_append {t₁ t₂ : List (Event Res)} :
    C.Keeps (t₁ ++ t₂) ↔ C.Keeps t₁ ∧ ((∀ e ∈ t₁, C.Fine e) → C.Keeps t₂) := by
  induction t₁ with
  | nil => simp
  | cons e t₁ ih =>
    rw [List.cons_append, keeps_cons, keeps_cons, ih, List.forall_mem_cons]
    constructor
    · rintro ⟨hroutine, h⟩
      exact ⟨⟨hroutine, fun hfine => (h hfine).1⟩, fun hall => (h hall.1).2 hall.2⟩
    · rintro ⟨⟨hroutine, h₁⟩, h₂⟩
      exact ⟨hroutine, fun hfine => ⟨h₁ hfine, fun hall => h₂ ⟨hfine, hall⟩⟩⟩

/-- Calls that are routine whatever was answered before. -/
theorem keeps_of_routine {t : List (Event Res)} (h : ∀ e ∈ t, C.Routine e.op) : C.Keeps t := by
  induction t with
  | nil => trivial
  | cons e t ih =>
    rw [List.forall_mem_cons] at h
    exact ⟨h.1, fun _ => ih h.2⟩

/-- Calls of which all answers are fine are routine. -/
theorem routine_of_keeps {t : List (Event Res)} (h : C.Keeps t) (hfine : ∀ e ∈ t, C.Fine e) :
    ∀ e ∈ t, C.Routine e.op := by
  induction t with
  | nil => simp
  | cons e t ih =>
    rw [List.forall_mem_cons] at hfine
    exact List.forall_mem_cons.mpr ⟨h.1, ih (h.2 hfine.1) hfine.2⟩

/-- All answers on the path of a program that keeps the contract are fine. -/
theorem path {s s' : σ} {t : List (Event Res)} (h : Path answer s t s') (hs : C.Inv s)
    (hkeeps : C.Keeps t) : C.Inv s' ∧ ∀ e ∈ t, C.Fine e := by
  induction h with
  | nil s => exact ⟨hs, by simp⟩
  | cons h _ ih =>
    obtain ⟨hroutine, hrest⟩ := hkeeps
    obtain ⟨hs₁, hfine⟩ := C.step hs hroutine h
    obtain ⟨hs', hall⟩ := ih hs₁ (hrest hfine)
    exact ⟨hs', List.forall_mem_cons.mpr ⟨hfine, hall⟩⟩

/-- The next call of a program that keeps the contract is routine if all answers so far are
fine. -/
theorem routine_of_steps [∀ o, Nonempty (Res o)] {p q : Program Op Res α} {t : List (Event Res)}
    {e : Event Res} (hkeeps : ∀ t a, Runs p t a → C.Keeps t) (h : Steps p (t ++ [e]) q)
    (hfine : ∀ e ∈ t, C.Fine e) : C.Routine e.op := by
  obtain ⟨t', a, hrun⟩ := h.exists_runs
  have hall := hkeeps _ _ hrun
  rw [List.append_assoc, keeps_append] at hall
  exact (hall.2 hfine).1

/-- All answers in an interleaving of programs that keep the contract are fine, when requests of
other parties keep its invariant. -/
theorem run [DecidableEq ι] [∀ o, Nonempty (Res o)] {w : World Op Res σ Act}
    {C : Contract w.answer} {c c' : Config ι Op Res σ α} {ls : List (Label ι Res Act)}
    (h : Run w c ls c') (hs : C.Inv c.shared)
    (hact : ∀ s a s', w.act s a s' → C.Inv s → C.Inv s')
    (hkeeps : ∀ i t a, Runs (c.procs i) t a → C.Keeps t) :
    C.Inv c'.shared ∧ ∀ i, ∀ e ∈ trace i ls, C.Routine e.op ∧ C.Fine e := by
  induction h with
  | nil => exact ⟨hs, by simp⟩
  | @snoc c₁ c₂ ls l before step ih =>
    obtain ⟨hs₁, hall⟩ := ih
    have hrun := (Run.snoc before step).steps
    cases step with
    | act h =>
      refine ⟨hact _ _ _ h hs₁, fun i e he => ?_⟩
      rw [trace_append, trace_act, trace_nil, List.append_nil] at he
      exact hall i e he
    | @call s s' procs i o k hproc r h =>
      have htrace : trace i (ls ++ [.call i ⟨o, r⟩]) = trace i ls ++ [⟨o, r⟩] := by
        rw [trace_append, trace_call_self, trace_nil]
      have hi := hrun i
      rw [htrace] at hi
      have hroutine : C.Routine o :=
        routine_of_steps (hkeeps i) hi fun e he => (hall i e he).2
      obtain ⟨hs₂, hfine⟩ := @Contract.step _ _ _ _ C _ _ ⟨o, r⟩ hs₁ hroutine h
      refine ⟨hs₂, fun j e he => ?_⟩
      by_cases hj : i = j
      · subst hj
        rw [htrace] at he
        rcases List.mem_append.mp he with he | he
        · exact hall i e he
        · obtain rfl := List.mem_singleton.mp he
          exact ⟨hroutine, hfine⟩
      · rw [trace_append, trace_call_ne hj, trace_nil, List.append_nil] at he
        exact hall j e he

end Contract

end Interaction
