import Mathlib.Data.List.Basic
import Mathlib.Tactic.Common

/-!
# Programs that call out

A request handler is a sequential program whose only visible effects are the calls it
makes and the replies it reads. `Program Op Res α` is the tree of such a program: a leaf
returns a value of `α`, a node makes the call `o : Op` and continues with the reply, an
element of `Res o`. Nothing is said about how a call is answered, so a statement about all
runs of a program is a statement about every combination of replies.

* `Steps p t q`: the calls and replies `t` lead from `p` to the rest `q`.
* `Runs p t a`: `t` is a complete run of `p` that returns `a`.
* `runs_pure`, `runs_call`, `runs_bind` take a run apart along the text of the program.
* `Steps.exists_runs`: a run under way can be completed, so a property of complete runs
  that a prefix inherits holds of runs under way as well.
* `Precedes`: no event of one kind occurs before one of another kind.
-/

namespace Interaction

/-- A program over the calls `Op`; the call `o` is answered by an element of `Res o`. -/
inductive Program (Op : Type) (Res : Op → Type) (α : Type) : Type
  | pure (a : α)
  | call (o : Op) (k : Res o → Program Op Res α)

/-- A call together with the reply it got. -/
structure Event {Op : Type} (Res : Op → Type) where
  op : Op
  reply : Res op

variable {Op : Type} {Res : Op → Type} {α β γ : Type}

namespace Program

/-- Run `p`, then `f` on its result. -/
def bind : Program Op Res α → (α → Program Op Res β) → Program Op Res β
  | .pure a, f => f a
  | .call o k, f => .call o fun r => (k r).bind f

instance : Monad (Program Op Res) where
  pure := .pure
  bind := .bind

/-- The program that makes one call and returns its reply. -/
def perform (o : Op) : Program Op Res (Res o) := .call o .pure

@[simp] theorem call_bind (o : Op) (k : Res o → Program Op Res α) (f : α → Program Op Res β) :
    (Program.call o k >>= f) = .call o fun r => k r >>= f := rfl

/-- The result of `p` when each call is answered from a state, which it may change. -/
def exec {σ : Type} (h : (o : Op) → σ → Res o × σ) : Program Op Res α → σ → α × σ
  | .pure a, s => (a, s)
  | .call o k, s => (k (h o s).1).exec h (h o s).2

end Program

open Program

/-! ## Runs -/

/-- The calls and replies `t` lead from the program `p` to the rest `q`. -/
inductive Steps : Program Op Res α → List (Event Res) → Program Op Res α → Prop
  | nil (p : Program Op Res α) : Steps p [] p
  | cons {o : Op} {k : Res o → Program Op Res α} (r : Res o) {t : List (Event Res)}
      {q : Program Op Res α} (rest : Steps (k r) t q) : Steps (.call o k) (⟨o, r⟩ :: t) q

/-- `t` is a complete run of `p`, and `a` its result. -/
def Runs (p : Program Op Res α) (t : List (Event Res)) (a : α) : Prop := Steps p t (.pure a)

theorem Steps.append {p q r : Program Op Res α} {t₁ t₂ : List (Event Res)}
    (h₁ : Steps p t₁ q) (h₂ : Steps q t₂ r) : Steps p (t₁ ++ t₂) r := by
  induction h₁ with
  | nil _ => exact h₂
  | cons reply _ ih => exact .cons reply (ih h₂)

/-- A run can be cut anywhere. -/
theorem Steps.split {p r : Program Op Res α} {t₁ t₂ : List (Event Res)}
    (h : Steps p (t₁ ++ t₂) r) : ∃ q, Steps p t₁ q ∧ Steps q t₂ r := by
  induction t₁ generalizing p with
  | nil => exact ⟨p, .nil p, h⟩
  | cons e t₁ ih =>
    cases h with
    | cons reply rest =>
      obtain ⟨q, h₁, h₂⟩ := ih rest
      exact ⟨q, .cons reply h₁, h₂⟩

/-- One more call at the end of a run under way. -/
theorem Steps.snoc {p : Program Op Res α} {t : List (Event Res)} {o : Op}
    {k : Res o → Program Op Res α} (h : Steps p t (.call o k)) (r : Res o) :
    Steps p (t ++ [⟨o, r⟩]) (k r) := h.append (.cons r (.nil _))

theorem runs_pure {a b : α} {t : List (Event Res)} :
    Runs (.pure a : Program Op Res α) t b ↔ t = [] ∧ b = a := by
  constructor
  · intro h
    cases h
    exact ⟨rfl, rfl⟩
  · rintro ⟨rfl, rfl⟩
    exact .nil _

theorem runs_call {o : Op} {k : Res o → Program Op Res α} {t : List (Event Res)} {b : α} :
    Runs (.call o k) t b ↔ ∃ r t', t = ⟨o, r⟩ :: t' ∧ Runs (k r) t' b := by
  constructor
  · intro h
    cases h with
    | cons r rest => exact ⟨r, _, rfl, rest⟩
  · rintro ⟨r, t', rfl, h⟩
    exact .cons r h

theorem runs_perform_bind {o : Op} {f : Res o → Program Op Res β} {t : List (Event Res)} {b : β} :
    Runs (perform o >>= f) t b ↔ ∃ r t', t = ⟨o, r⟩ :: t' ∧ Runs (f r) t' b := runs_call

theorem runs_bind {p : Program Op Res α} {f : α → Program Op Res β} {t : List (Event Res)}
    {b : β} :
    Runs (p >>= f) t b ↔ ∃ t₁ t₂ a, t = t₁ ++ t₂ ∧ Runs p t₁ a ∧ Runs (f a) t₂ b := by
  induction p generalizing t with
  | pure a =>
    constructor
    · intro h
      exact ⟨[], t, a, rfl, .nil _, h⟩
    · rintro ⟨t₁, t₂, a', rfl, h₁, h₂⟩
      obtain ⟨rfl, rfl⟩ := runs_pure.mp h₁
      exact h₂
  | call o k ih =>
    rw [call_bind, runs_call]
    constructor
    · rintro ⟨r, t', rfl, h⟩
      obtain ⟨t₁, t₂, a, rfl, h₁, h₂⟩ := (ih r).mp h
      exact ⟨⟨o, r⟩ :: t₁, t₂, a, rfl, .cons r h₁, h₂⟩
    · rintro ⟨t₁, t₂, a, rfl, h₁, h₂⟩
      obtain ⟨r, t', rfl, h⟩ := runs_call.mp h₁
      exact ⟨r, t' ++ t₂, rfl, (ih r).mpr ⟨t', t₂, a, rfl, h, h₂⟩⟩

theorem runs_bind_pure {p : Program Op Res α} {f : α → β} {t : List (Event Res)} {b : β} :
    Runs (p >>= fun a => Program.pure (f a)) t b ↔ ∃ a, Runs p t a ∧ b = f a := by
  rw [runs_bind]
  constructor
  · rintro ⟨t₁, t₂, a, rfl, h₁, h₂⟩
    obtain ⟨rfl, rfl⟩ := runs_pure.mp h₂
    rw [List.append_nil]
    exact ⟨a, h₁, rfl⟩
  · rintro ⟨a, h, rfl⟩
    exact ⟨t, [], a, (List.append_nil t).symm, h, .nil _⟩

/-- A run of a program that may fail, with another one after it. -/
theorem runs_exceptT_bind {E : Type} {x : ExceptT E (Program Op Res) α}
    {f : α → ExceptT E (Program Op Res) β} {t : List (Event Res)} {r : Except E β} :
    Runs (x >>= f).run t r ↔
      (∃ a t₁ t₂, t = t₁ ++ t₂ ∧ Runs x.run t₁ (.ok a) ∧ Runs (f a).run t₂ r) ∨
        ∃ err, Runs x.run t (.error err) ∧ r = .error err := by
  have hbind : (x >>= f).run = x.run >>= ExceptT.bindCont f := rfl
  rw [hbind, runs_bind]
  constructor
  · rintro ⟨t₁, t₂, r', rfl, h₁, h₂⟩
    cases r' with
    | ok a => exact .inl ⟨a, t₁, t₂, rfl, h₁, h₂⟩
    | error err =>
      obtain ⟨rfl, rfl⟩ := runs_pure.mp h₂
      rw [List.append_nil]
      exact .inr ⟨err, h₁, rfl⟩
  · rintro (⟨a, t₁, t₂, rfl, h₁, h₂⟩ | ⟨err, h₁, rfl⟩)
    · exact ⟨t₁, t₂, .ok a, rfl, h₁, h₂⟩
    · exact ⟨t, [], .error err, (List.append_nil t).symm, h₁, .nil _⟩

/-- A program under way can be run to its end, whatever it is, when every call has some
reply. -/
theorem exists_runs [∀ o, Nonempty (Res o)] (p : Program Op Res α) : ∃ t a, Runs p t a := by
  induction p with
  | pure a => exact ⟨[], a, .nil _⟩
  | call o k ih =>
    obtain ⟨r⟩ := (inferInstance : Nonempty (Res o))
    obtain ⟨t, a, h⟩ := ih r
    exact ⟨⟨o, r⟩ :: t, a, .cons r h⟩

/-- The run of `p` in which the reply to every call is the value of `h`. -/
def Program.answered (h : (o : Op) → Res o) : Program Op Res α → List (Event Res) × α
  | .pure a => ([], a)
  | .call o k => (⟨o, h o⟩ :: ((k (h o)).answered h).1, ((k (h o)).answered h).2)

theorem runs_answered (h : (o : Op) → Res o) (p : Program Op Res α) :
    Runs p (p.answered h).1 (p.answered h).2 := by
  induction p with
  | pure a => exact .nil _
  | call o k ih => exact .cons (h o) (ih (h o))

theorem reply_of_mem_answered {h : (o : Op) → Res o} {p : Program Op Res α} {e : Event Res}
    (he : e ∈ (p.answered h).1) : e.reply = h e.op := by
  induction p with
  | pure a => cases he
  | call o k ih =>
    rcases List.mem_cons.mp he with rfl | he
    · rfl
    · exact ih (h o) he

/-- A run under way is a prefix of a complete run. -/
theorem Steps.exists_runs [∀ o, Nonempty (Res o)] {p q : Program Op Res α}
    {t : List (Event Res)} (h : Steps p t q) : ∃ t' a, Runs p (t ++ t') a := by
  obtain ⟨t', a, h'⟩ := Interaction.exists_runs q
  exact ⟨t', a, h.append h'⟩

/-! ## The order of events -/

/-- In the trace `t`, every event with `Q` comes after some event with `P`. -/
def Precedes (P Q : Event Res → Prop) (t : List (Event Res)) : Prop :=
  ∀ pre e post, t = pre ++ e :: post → Q e → ∃ e' ∈ pre, P e'

theorem precedes_of_forall_not {P Q : Event Res → Prop} {t : List (Event Res)}
    (h : ∀ e ∈ t, ¬ Q e) : Precedes P Q t := by
  rintro pre e post rfl hQ
  exact absurd hQ (h e (by simp))

/-- A split of `t₁ ++ t₂` at an element that is not in `t₁` is a split of `t₂`. -/
theorem split_append_right {E : Type} {t₁ t₂ pre post : List E} {e : E}
    (h : t₁ ++ t₂ = pre ++ e :: post) (he : e ∉ t₁) :
    ∃ mid, pre = t₁ ++ mid ∧ t₂ = mid ++ e :: post := by
  rcases List.append_eq_append_iff.mp h with ⟨mid, rfl, rfl⟩ | ⟨mid, rfl, hmid⟩
  · exact ⟨mid, rfl, rfl⟩
  · cases mid with
    | nil => exact ⟨[], by simp, by simpa using hmid.symm⟩
    | cons e' mid =>
      obtain ⟨rfl, -⟩ : e = e' ∧ post = mid ++ t₂ := by simpa using hmid
      exact absurd (by simp) he

/-- `Precedes` passes over a first part without `Q`; after a `P` in it the second part is
free. -/
theorem precedes_append {P Q : Event Res → Prop} {t₁ t₂ : List (Event Res)}
    (h₁ : ∀ e ∈ t₁, ¬ Q e) (h₂ : Precedes P Q t₂ ∨ ∃ e ∈ t₁, P e) :
    Precedes P Q (t₁ ++ t₂) := by
  intro pre e post heq hQ
  obtain ⟨mid, rfl, rfl⟩ := split_append_right heq fun he => h₁ e he hQ
  rcases h₂ with h₂ | ⟨e', he', hP⟩
  · obtain ⟨e', he', hP⟩ := h₂ mid e post rfl hQ
    exact ⟨e', List.mem_append_right _ he', hP⟩
  · exact ⟨e', List.mem_append_left _ he', hP⟩

theorem precedes_cons {P Q : Event Res → Prop} {e : Event Res} {t : List (Event Res)}
    (h₁ : ¬ Q e) (h₂ : Precedes P Q t ∨ P e) : Precedes P Q (e :: t) := by
  have happend : Precedes P Q ([e] ++ t) :=
    precedes_append (by simpa using h₁) (by simpa using h₂)
  exact happend

end Interaction
