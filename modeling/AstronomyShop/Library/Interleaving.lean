import AstronomyShop.Library.Program
import Mathlib.Logic.Function.Basic

/-!
# Programs that share a state

A `World` is a state that calls read and change: `answer s o r s'` says that in the state `s`
the call `o` may be answered with `r`, leaving `s'`. Calls are atomic and may have several
answers, failures among them.

* `Served`: one program runs alone in a world.
* `Run`: any number of programs, and requests of other parties (`act`), take turns in any
  order. The run is recorded as a list of labels, the latest last.

`Run.steps` projects a run to each of its programs, so whatever is known of all runs of a
program holds of its part of an interleaved run. `Run.split` cuts a run at any of its labels.
-/

namespace Interaction

/-- A shared state with the calls on it, and the requests of other parties. -/
structure World (Op : Type) (Res : Op → Type) (σ Act : Type) where
  answer : σ → (o : Op) → Res o → σ → Prop
  act : σ → Act → σ → Prop

variable {Op : Type} {Res : Op → Type} {α β σ Act ι : Type}

/-! ## A program alone -/

/-- In the state `s` the program can be run to the result `a` and the state `s'`. -/
inductive Served (answer : σ → (o : Op) → Res o → σ → Prop) :
    Program Op Res α → σ → α → σ → Prop
  | pure (a : α) (s : σ) : Served answer (.pure a) s a s
  | call {o : Op} {k : Res o → Program Op Res α} {s s₁ s' : σ} {r : Res o} {a : α}
      (h : answer s o r s₁) (rest : Served answer (k r) s₁ a s') :
      Served answer (.call o k) s a s'

section

variable {answer : σ → (o : Op) → Res o → σ → Prop}

theorem served_pure {a b : α} {s s' : σ} :
    Served answer (.pure a : Program Op Res α) s b s' ↔ b = a ∧ s' = s := by
  constructor
  · intro h
    cases h
    exact ⟨rfl, rfl⟩
  · rintro ⟨rfl, rfl⟩
    exact .pure _ _

theorem served_call {o : Op} {k : Res o → Program Op Res α} {s s' : σ} {a : α} :
    Served answer (.call o k) s a s' ↔
      ∃ r s₁, answer s o r s₁ ∧ Served answer (k r) s₁ a s' := by
  constructor
  · intro h
    cases h with
    | call h rest => exact ⟨_, _, h, rest⟩
  · rintro ⟨r, s₁, h, rest⟩
    exact .call h rest

theorem served_bind {p : Program Op Res α} {f : α → Program Op Res β} {s s' : σ} {b : β} :
    Served answer (p >>= f) s b s' ↔
      ∃ a s₁, Served answer p s a s₁ ∧ Served answer (f a) s₁ b s' := by
  induction p generalizing s with
  | pure a =>
    constructor
    · intro h
      exact ⟨a, s, .pure _ _, h⟩
    · rintro ⟨a', s₁, h₁, h₂⟩
      obtain ⟨rfl, rfl⟩ := served_pure.mp h₁
      exact h₂
  | call o k ih =>
    rw [Program.call_bind, served_call]
    constructor
    · rintro ⟨r, s₁, h, rest⟩
      obtain ⟨a, s₂, h₁, h₂⟩ := (ih r).mp rest
      exact ⟨a, s₂, .call h h₁, h₂⟩
    · rintro ⟨a, s₂, h₁, h₂⟩
      obtain ⟨r, s₁, h, rest⟩ := served_call.mp h₁
      exact ⟨r, s₁, h, (ih r).mpr ⟨a, s₂, rest, h₂⟩⟩

/-- Running a program with fixed answers is one way to serve it. -/
theorem served_exec {h : (o : Op) → σ → Res o × σ} (hanswer : ∀ o s, answer s o (h o s).1 (h o s).2)
    (p : Program Op Res α) (s : σ) : Served answer p s (p.exec h s).1 (p.exec h s).2 := by
  induction p generalizing s with
  | pure a => exact .pure a s
  | call o k ih => exact .call (hanswer o s) (ih _ _)

end

/-! ## Programs that take turns -/

structure Config (ι : Type) (Op : Type) (Res : Op → Type) (σ α : Type) where
  shared : σ
  procs : ι → Program Op Res α

/-- A call of the program `i` with its reply, or a request of another party. -/
inductive Label (ι : Type) {Op : Type} (Res : Op → Type) (Act : Type) where
  | call (i : ι) (e : Event Res)
  | act (a : Act)

variable [DecidableEq ι]

inductive Step (w : World Op Res σ Act) :
    Config ι Op Res σ α → Label ι Res Act → Config ι Op Res σ α → Prop
  | call {s s' : σ} {procs : ι → Program Op Res α} {i : ι} {o : Op}
      {k : Res o → Program Op Res α} (hproc : procs i = .call o k) {r : Res o}
      (h : w.answer s o r s') :
      Step w ⟨s, procs⟩ (.call i ⟨o, r⟩) ⟨s', Function.update procs i (k r)⟩
  | act {s s' : σ} {procs : ι → Program Op Res α} {a : Act} (h : w.act s a s') :
      Step w ⟨s, procs⟩ (.act a) ⟨s', procs⟩

inductive Run (w : World Op Res σ Act) (c : Config ι Op Res σ α) :
    List (Label ι Res Act) → Config ι Op Res σ α → Prop
  | nil : Run w c [] c
  | snoc {c₁ c₂ : Config ι Op Res σ α} {ls : List (Label ι Res Act)} {l : Label ι Res Act}
      (before : Run w c ls c₁) (step : Step w c₁ l c₂) : Run w c (ls ++ [l]) c₂

/-- The calls of the program `i` in a run. -/
def trace (i : ι) (ls : List (Label ι Res Act)) : List (Event Res) :=
  ls.filterMap fun
    | .call j e => if j = i then some e else none
    | .act _ => none

section

variable {w : World Op Res σ Act} {c c₁ c₂ : Config ι Op Res σ α} {i : ι}
  {ls ls₁ ls₂ : List (Label ι Res Act)}

@[simp] theorem trace_nil : trace i ([] : List (Label ι Res Act)) = [] := rfl

@[simp] theorem trace_append : trace i (ls₁ ++ ls₂) = trace i ls₁ ++ trace i ls₂ :=
  List.filterMap_append

theorem trace_call_self (e : Event Res) : trace i (.call i e :: ls) = e :: trace i ls := by
  simp [trace]

theorem trace_call_ne {j : ι} (h : j ≠ i) (e : Event Res) :
    trace i (.call j e :: ls) = trace i ls := by
  simp [trace, h]

theorem trace_act (a : Act) : trace i (.act a :: ls) = trace i ls := by
  simp [trace]

theorem trace_map_call (i j : ι) (t : List (Event Res)) :
    trace i (t.map (.call j) : List (Label ι Res Act)) = if j = i then t else [] := by
  induction t with
  | nil => simp
  | cons e t ih =>
    rw [List.map_cons]
    split
    · rename_i hj
      subst hj
      rw [trace_call_self, ih, if_pos rfl]
    · rename_i hj
      rw [trace_call_ne hj, ih, if_neg hj]

theorem mem_trace {e : Event Res} : e ∈ trace i ls ↔ .call i e ∈ ls := by
  unfold trace
  rw [List.mem_filterMap]
  constructor
  · rintro ⟨l, hl, h⟩
    cases l with
    | call j e' =>
      simp only [Option.ite_none_right_eq_some, Option.some.injEq] at h
      obtain ⟨rfl, rfl⟩ := h
      exact hl
    | act a => cases h
  · intro h
    exact ⟨_, h, by simp⟩

/-- A call in the trace of a program splits the run. -/
theorem exists_split_of_trace {e : Event Res} {t₁ t₂ : List (Event Res)}
    (h : trace i ls = t₁ ++ e :: t₂) :
    ∃ ls₁ ls₂, ls = ls₁ ++ .call i e :: ls₂ ∧ trace i ls₁ = t₁ ∧ trace i ls₂ = t₂ := by
  obtain ⟨l₁, l₂, rfl, h₁, h₂⟩ := List.filterMap_eq_append_iff.mp h
  obtain ⟨l₃, l, l₄, rfl, hnone, hl, h₄⟩ := List.filterMap_eq_cons_iff.mp h₂
  have hcall : l = .call i e := by
    cases l with
    | call j e' =>
      simp only [Option.ite_none_right_eq_some, Option.some.injEq] at hl
      rw [hl.1, hl.2]
    | act a => cases hl
  subst hcall
  refine ⟨l₁ ++ l₃, l₄, by simp, ?_, h₄⟩
  have h₃ : trace i l₃ = [] := List.filterMap_eq_nil_iff.mpr hnone
  rw [trace_append, h₃, List.append_nil]
  exact h₁

/-- A run of all is a run of each. -/
theorem Run.steps (h : Run w c ls c₁) (i : ι) : Steps (c.procs i) (trace i ls) (c₁.procs i) := by
  induction h with
  | nil => exact .nil _
  | snoc before step ih =>
    rw [trace_append]
    cases step with
    | @call s s' procs j o k hproc r h =>
      by_cases hj : j = i
      · subst hj
        rw [trace_call_self, trace_nil]
        simp only [Function.update_self]
        exact Steps.snoc (by simpa only [hproc] using ih) r
      · rw [trace_call_ne hj, trace_nil, List.append_nil]
        simpa only [Function.update_of_ne (Ne.symm hj)] using ih
    | act h =>
      rw [trace_act, trace_nil, List.append_nil]
      exact ih

theorem run_nil : Run w c [] c₁ ↔ c₁ = c := by
  constructor
  · intro h
    generalize hls : ([] : List (Label ι Res Act)) = ls at h
    cases h with
    | nil => rfl
    | snoc _ _ => simp at hls
  · rintro rfl
    exact .nil

theorem Run.append (h₁ : Run w c ls₁ c₁) (h₂ : Run w c₁ ls₂ c₂) : Run w c (ls₁ ++ ls₂) c₂ := by
  induction h₂ with
  | nil => simpa using h₁
  | snoc _ step ih =>
    rw [← List.append_assoc]
    exact .snoc ih step

/-- A run can be cut anywhere. -/
theorem Run.split (h : Run w c (ls₁ ++ ls₂) c₂) : ∃ c₁, Run w c ls₁ c₁ ∧ Run w c₁ ls₂ c₂ := by
  generalize hls : ls₁ ++ ls₂ = ls at h
  induction h generalizing ls₂ with
  | nil =>
    obtain ⟨rfl, rfl⟩ := List.append_eq_nil_iff.mp hls
    exact ⟨c, .nil, .nil⟩
  | @snoc c₁ c₂ ls l before step ih =>
    rcases List.eq_nil_or_concat ls₂ with rfl | ⟨ls₂', l', rfl⟩
    · rw [List.append_nil] at hls
      subst hls
      exact ⟨c₂, .snoc before step, .nil⟩
    · rw [List.concat_eq_append, ← List.append_assoc] at hls
      obtain ⟨hls', hl⟩ := List.append_inj' hls rfl
      obtain rfl : l' = l := by simpa using hl
      obtain ⟨c₀, h₁, h₂⟩ := ih hls'
      rw [List.concat_eq_append]
      exact ⟨c₀, h₁, .snoc h₂ step⟩

theorem run_singleton {l : Label ι Res Act} : Run w c [l] c₁ ↔ Step w c l c₁ := by
  constructor
  · intro h
    generalize hls : [l] = ls at h
    cases h with
    | nil => cases hls
    | @snoc c₀ _ ls' l' before step =>
      have happend : [] ++ [l] = ls' ++ [l'] := hls
      obtain ⟨hnil, hl⟩ := List.append_inj' happend rfl
      obtain rfl : l = l' := by simpa using hl
      rw [← hnil, run_nil] at before
      rwa [before] at step
  · intro h
    exact .snoc .nil h

/-- A run through a given label. -/
theorem run_append_cons {l : Label ι Res Act} :
    Run w c (ls₁ ++ l :: ls₂) c₂ ↔
      ∃ c₁ c₁', Run w c ls₁ c₁ ∧ Step w c₁ l c₁' ∧ Run w c₁' ls₂ c₂ := by
  constructor
  · intro h
    obtain ⟨c₁, h₁, h₂⟩ := h.split
    obtain ⟨c₁', hl, h₃⟩ := @Run.split _ _ _ _ _ _ _ w c₁ c₂ [l] ls₂ h₂
    exact ⟨c₁, c₁', h₁, run_singleton.mp hl, h₃⟩
  · rintro ⟨c₁, c₁', h₁, hl, h₃⟩
    exact h₁.append ((run_singleton.mpr hl).append h₃)

/-- A property of the state that no step of a run changes holds at its end. -/
theorem Run.preserves {P : σ → Prop} (h : Run w c ls c₁)
    (hstep : ∀ l ∈ ls, ∀ c₂ c₃ : Config ι Op Res σ α, Step w c₂ l c₃ → P c₂.shared → P c₃.shared)
    (hc : P c.shared) : P c₁.shared := by
  induction h with
  | nil => exact hc
  | snoc _ step ih =>
    rw [List.forall_mem_append] at hstep
    exact hstep.2 _ List.mem_cons_self _ _ step (ih hstep.1)

/-- Calls that leave the state as it is can be made one after the other. -/
theorem run_of_steps {s : σ} {procs : ι → Program Op Res α} {t : List (Event Res)}
    {q : Program Op Res α} (h : Steps (procs i) t q)
    (hanswer : ∀ e ∈ t, w.answer s e.op e.reply s) :
    Run w ⟨s, procs⟩ (t.map (.call i)) ⟨s, Function.update procs i q⟩ := by
  generalize hp : procs i = p at h
  induction h generalizing procs with
  | nil p =>
    rw [← hp, Function.update_eq_self]
    exact .nil
  | @cons o k r t q _ ih =>
    have hrest := @ih (Function.update procs i (k r))
      (fun e he => hanswer e (List.mem_cons_of_mem _ he)) (Function.update_self ..)
    rw [Function.update_idem] at hrest
    have hfirst : Step w ⟨s, procs⟩ (.call i ⟨o, r⟩) ⟨s, Function.update procs i (k r)⟩ :=
      .call hp (hanswer _ List.mem_cons_self)
    exact (run_singleton.mpr hfirst).append hrest

end

end Interaction
