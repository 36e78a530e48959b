import Mathlib.Tactic.Common

/-!
# Runs of a machine

A machine is a relation `step s e s'`: in the state `s` the event `e` can happen and leaves `s'`.
`Run step ok` are its runs of which every event meets a condition `ok` on the state before it and on
itself, so that one machine serves for the statement about all of its runs (`ok` is always true) and
for the statement about those that keep to a rule. What is true at first and kept by every such
event is true after every such run (`Run.invariant`).
-/

namespace Machine

variable {σ ε : Type}

/-- The events `es` lead from a state to another, and each meets `ok` where it happens. -/
inductive Run (step : σ → ε → σ → Prop) (ok : σ → ε → Prop) : σ → List ε → σ → Prop
  | nil (s : σ) : Run step ok s [] s
  | cons {s s₁ s' : σ} {e : ε} {es : List ε} (hok : ok s e) (h : step s e s₁)
      (rest : Run step ok s₁ es s') : Run step ok s (e :: es) s'

/-- Every event is allowed. -/
def Any (_ : σ) (_ : ε) : Prop := True

variable {step : σ → ε → σ → Prop} {ok : σ → ε → Prop} {s s' : σ} {e : ε} {es : List ε}

theorem Run.single (hok : ok s e) (h : step s e s') : Run step ok s [e] s' :=
  .cons hok h (.nil s')

theorem Run.of_single (h : Run step ok s [e] s') : step s e s' := by
  cases h with
  | cons _ hstep hrest =>
    cases hrest
    exact hstep

/-- A run can be cut anywhere. -/
theorem Run.split {es₁ es₂ : List ε} (h : Run step ok s (es₁ ++ es₂) s') :
    ∃ s₁, Run step ok s es₁ s₁ ∧ Run step ok s₁ es₂ s' := by
  induction es₁ generalizing s with
  | nil => exact ⟨s, .nil s, h⟩
  | cons e es₁ ih =>
    cases h with
    | cons hok hstep hrest =>
      obtain ⟨s₁, h₁, h₂⟩ := ih hrest
      exact ⟨s₁, .cons hok hstep h₁, h₂⟩

theorem Run.invariant {P : σ → Prop} (hstep : ∀ {s e s'}, P s → ok s e → step s e s' → P s')
    (h : Run step ok s es s') (hs : P s) : P s' := by
  induction h with
  | nil => exact hs
  | cons hok h _ ih => exact ih (hstep hs hok h)

/-- A machine that is a function runs by folding it. -/
theorem Run.of_foldlM {f : σ → ε → Option σ} (h : es.foldlM f s = some s') :
    Run (fun s e s' => f s e = some s') Any s es s' := by
  induction es generalizing s with
  | nil =>
    cases h
    exact .nil _
  | cons e es ih =>
    rw [List.foldlM_cons] at h
    obtain ⟨s₁, hstep, hrest⟩ := Option.bind_eq_some_iff.mp h
    exact .cons trivial hstep (ih hrest)

end Machine
