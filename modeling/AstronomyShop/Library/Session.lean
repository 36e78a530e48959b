import AstronomyShop.Library.Interleaving
import Mathlib.Data.List.Induction

/-!
# Requests one after another

A `Path` follows the calls of a run through the state that answers them, so a program that is
`Served` is a run of the program along a path (`served_iff`). A `Session` serves requests one
after another and records each of them with its reply, the latest last.

`schedule` runs programs that take turns in a given order, with the replies of a function; what
it computes is a `Run`.
-/

namespace Interaction

variable {Op : Type} {Res : Op → Type} {α σ Act ι : Type}

/-! ## Paths -/

/-- The calls with the replies `t` lead from the state `s` to the state `s'`. -/
inductive Path (answer : σ → (o : Op) → Res o → σ → Prop) : σ → List (Event Res) → σ → Prop
  | nil (s : σ) : Path answer s [] s
  | cons {s s₁ s' : σ} {e : Event Res} {t : List (Event Res)} (h : answer s e.op e.reply s₁)
      (rest : Path answer s₁ t s') : Path answer s (e :: t) s'

section

variable {answer answer' : σ → (o : Op) → Res o → σ → Prop} {s s' : σ}

theorem path_nil : Path answer s [] s' ↔ s' = s := by
  constructor
  · intro h
    cases h
    rfl
  · rintro rfl
    exact .nil _

theorem path_cons {e : Event Res} {t : List (Event Res)} :
    Path answer s (e :: t) s' ↔ ∃ s₁, answer s e.op e.reply s₁ ∧ Path answer s₁ t s' := by
  constructor
  · intro h
    cases h with
    | cons h rest => exact ⟨_, h, rest⟩
  · rintro ⟨s₁, h, rest⟩
    exact .cons h rest

theorem path_singleton {e : Event Res} : Path answer s [e] s' ↔ answer s e.op e.reply s' := by
  rw [path_cons]
  constructor
  · rintro ⟨s₁, h, rest⟩
    rwa [path_nil.mp rest]
  · intro h
    exact ⟨s', h, .nil _⟩

theorem path_append {t₁ t₂ : List (Event Res)} :
    Path answer s (t₁ ++ t₂) s' ↔ ∃ s₁, Path answer s t₁ s₁ ∧ Path answer s₁ t₂ s' := by
  induction t₁ generalizing s with
  | nil =>
    constructor
    · intro h
      exact ⟨s, .nil s, h⟩
    · rintro ⟨s₁, h₁, h₂⟩
      rwa [path_nil.mp h₁] at h₂
  | cons e t₁ ih =>
    rw [List.cons_append, path_cons]
    constructor
    · rintro ⟨s₁, h, rest⟩
      obtain ⟨s₂, h₁, h₂⟩ := ih.mp rest
      exact ⟨s₂, .cons h h₁, h₂⟩
    · rintro ⟨s₂, h₁, h₂⟩
      obtain ⟨s₁, h, rest⟩ := path_cons.mp h₁
      exact ⟨s₁, h, ih.mpr ⟨s₂, rest, h₂⟩⟩

/-- A property of the state that no call of a path changes holds at its end. -/
theorem Path.preserves {P : σ → Prop} {t : List (Event Res)} (h : Path answer s t s')
    (hstep : ∀ e ∈ t, ∀ s₁ s₂, answer s₁ e.op e.reply s₂ → P s₁ → P s₂) (hs : P s) : P s' := by
  induction h with
  | nil s => exact hs
  | cons h _ ih =>
    apply ih
    · intro e he
      exact hstep e (List.mem_cons_of_mem _ he)
    · exact hstep _ List.mem_cons_self _ _ h hs

/-- To be served is to run along a path. -/
theorem served_iff {p : Program Op Res α} {a : α} :
    Served answer p s a s' ↔ ∃ t, Runs p t a ∧ Path answer s t s' := by
  constructor
  · intro h
    induction h with
    | pure a s => exact ⟨[], .nil _, .nil s⟩
    | @call o _ _ _ _ r _ h _ ih =>
      obtain ⟨t, hrun, hpath⟩ := ih
      exact ⟨⟨o, r⟩ :: t, .cons r hrun, .cons h hpath⟩
  · rintro ⟨t, hrun, hpath⟩
    induction t generalizing p s with
    | nil =>
      cases hrun
      rw [path_nil.mp hpath]
      exact .pure _ _
    | cons e t ih =>
      obtain ⟨s₁, h, hrest⟩ := path_cons.mp hpath
      cases hrun with
      | cons r rest => exact .call h (ih rest hrest)

theorem Path.mono {t : List (Event Res)} (h : Path answer s t s')
    (hanswer : ∀ s o r s', answer s o r s' → answer' s o r s') : Path answer' s t s' := by
  induction h with
  | nil s => exact .nil s
  | cons h _ ih => exact .cons (hanswer _ _ _ _ h) ih

theorem Served.mono {p : Program Op Res α} {a : α} (h : Served answer p s a s')
    (hanswer : ∀ s o r s', answer s o r s' → answer' s o r s') : Served answer' p s a s' := by
  obtain ⟨t, hrun, hpath⟩ := served_iff.mp h
  exact served_iff.mpr ⟨t, hrun, hpath.mono hanswer⟩

end

/-! ## Sessions -/

/-- Requests that are served one after the other, each with its reply. -/
inductive Session {Request Reply : Type} (answer : σ → (o : Op) → Res o → σ → Prop)
    (handler : Request → Program Op Res Reply) (s : σ) : List (Request × Reply) → σ → Prop
  | nil : Session answer handler s [] s
  | snoc {before : List (Request × Reply)} {s₁ s₂ : σ} {request : Request} {reply : Reply}
      (h : Session answer handler s before s₁)
      (served : Served answer (handler request) s₁ reply s₂) :
      Session answer handler s (before ++ [(request, reply)]) s₂

section

variable {Request Reply : Type} {answer answer' : σ → (o : Op) → Res o → σ → Prop}
  {handler : Request → Program Op Res Reply} {s s' : σ}

theorem session_snoc {before : List (Request × Reply)} {request : Request} {reply : Reply} :
    Session answer handler s (before ++ [(request, reply)]) s' ↔
      ∃ s₁, Session answer handler s before s₁ ∧ Served answer (handler request) s₁ reply s' := by
  constructor
  · intro h
    generalize hsnoc : before ++ [(request, reply)] = exchanges at h
    cases h with
    | nil => simp at hsnoc
    | @snoc before' s₁ _ request' reply' h served =>
      obtain ⟨rfl, hlast⟩ := List.append_inj' hsnoc rfl
      obtain ⟨rfl, rfl⟩ : request = request' ∧ reply = reply' := by simpa using hlast
      exact ⟨s₁, h, served⟩
  · rintro ⟨s₁, h, served⟩
    exact .snoc h served

/-- A session can be cut anywhere. -/
theorem Session.split {before after : List (Request × Reply)}
    (h : Session answer handler s (before ++ after) s') :
    ∃ s₁, Session answer handler s before s₁ ∧ Session answer handler s₁ after s' := by
  induction after using List.reverseRecOn generalizing s' with
  | nil =>
    rw [List.append_nil] at h
    exact ⟨s', h, .nil⟩
  | append_singleton after exchange ih =>
    obtain ⟨request, reply⟩ := exchange
    rw [← List.append_assoc] at h
    obtain ⟨s₂, hbefore, served⟩ := session_snoc.mp h
    obtain ⟨s₁, h₁, h₂⟩ := ih hbefore
    exact ⟨s₁, h₁, .snoc h₂ served⟩

/-- The exchanges when each call is answered from a state, which it may change. -/
def converse (answered : (o : Op) → σ → Res o × σ) (handler : Request → Program Op Res Reply) :
    List Request → σ → List (Request × Reply) × σ
  | [], s => ([], s)
  | request :: requests, s =>
    let (reply, s₁) := (handler request).exec answered s
    let (exchanges, s₂) := converse answered handler requests s₁
    ((request, reply) :: exchanges, s₂)

theorem session_cons {s₁ : σ} {request : Request} {reply : Reply}
    {exchanges : List (Request × Reply)} (served : Served answer (handler request) s reply s₁)
    (h : Session answer handler s₁ exchanges s') :
    Session answer handler s ((request, reply) :: exchanges) s' := by
  induction h with
  | nil => exact @Session.snoc _ _ _ _ _ _ handler _ [] _ _ _ _ .nil served
  | snoc _ next ih =>
    rw [← List.cons_append]
    exact .snoc ih next

theorem session_converse {answered : (o : Op) → σ → Res o × σ}
    (hanswer : ∀ o s, answer s o (answered o s).1 (answered o s).2) (requests : List Request)
    (s : σ) : Session answer handler s (converse answered handler requests s).1
      (converse answered handler requests s).2 := by
  induction requests generalizing s with
  | nil => exact .nil
  | cons request requests ih => exact session_cons (served_exec hanswer _ s) (ih _)

end

/-! ## Schedules -/

section

variable [DecidableEq ι]

/-- The next call of the program `i`, answered by the function `h`. -/
def turn (h : (o : Op) → σ → Res o × σ) (i : ι) (c : Config ι Op Res σ α) :
    List (Label ι Res Act) × Config ι Op Res σ α :=
  match c.procs i with
  | .pure _ => ([], c)
  | .call o k =>
    let (r, s') := h o c.shared
    ([.call i ⟨o, r⟩], ⟨s', Function.update c.procs i (k r)⟩)

/-- The programs take turns in the given order. -/
def schedule (h : (o : Op) → σ → Res o × σ) :
    List ι → Config ι Op Res σ α → List (Label ι Res Act) × Config ι Op Res σ α
  | [], c => ([], c)
  | i :: is, c =>
    let (ls, c₁) := turn h i c
    let (ls', c₂) := schedule h is c₁
    (ls ++ ls', c₂)

theorem run_turn {w : World Op Res σ Act} {h : (o : Op) → σ → Res o × σ}
    (hanswer : ∀ o s, w.answer s o (h o s).1 (h o s).2) (i : ι) (c : Config ι Op Res σ α) :
    Run w c (turn h i c).1 (turn h i c : List (Label ι Res Act) × Config ι Op Res σ α).2 := by
  obtain ⟨s, procs⟩ := c
  unfold turn
  dsimp only
  cases hproc : procs i with
  | pure a => exact .nil
  | call o k => exact run_singleton.mpr (.call hproc (hanswer o s))

/-- What a schedule computes is a run. -/
theorem run_schedule {w : World Op Res σ Act} {h : (o : Op) → σ → Res o × σ}
    (hanswer : ∀ o s, w.answer s o (h o s).1 (h o s).2) (is : List ι)
    (c : Config ι Op Res σ α) : Run w c (schedule h is c).1
      (schedule h is c : List (Label ι Res Act) × Config ι Op Res σ α).2 := by
  induction is generalizing c with
  | nil => exact .nil
  | cons i is ih => exact (run_turn hanswer i c).append (ih _)

end

end Interaction
