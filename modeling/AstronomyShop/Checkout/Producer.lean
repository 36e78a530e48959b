import AstronomyShop.Library.Machine
import Mathlib.Logic.Function.Basic

/-!
# Acknowledgements of the orders in Kafka

All calls of `sendToPostProcessor` share one asynchronous producer. A call sends its message and
then takes whatever comes first out of the channels `Successes` and `Errors`; nothing says whose
message that is. The errors are also taken by the goroutine of `CreateKafkaProducer`, and with the
flag `kafkaQueueProblems` a call leaves goroutines behind that send its message again and take a
success each.

The channels are first in, first out. The producer answers the messages that it holds in any order.
-/

namespace AstronomyShop.Kafka

open Machine

/-! ## The state -/

/-- A message, as the call sends it or as a goroutine of the call sends it again. -/
inductive Message (ι : Type) where
  | order (i : ι)
  | overload (i : ι)
  deriving DecidableEq

/-- What a call puts into its span. -/
inductive Outcome (ι : Type) where
  | success (successMsg : Message ι)
  | failure (errMsg : Message ι)
  | cancelled
  | notSent
  deriving DecidableEq

/-- Where a call is: before its start, in the outer `select`, in the inner one, behind it, or back. -/
inductive Phase where
  | idle
  | sending
  | waiting
  | answered
  | returned
  deriving DecidableEq

structure State (ι : Type) where
  phase : ι → Phase
  outcome : ι → Option (Outcome ι)
  /-- The goroutines of a call that have not sent yet, and those that wait for a success. -/
  unsent : ι → Nat
  unacknowledged : ι → Nat
  /-- What the producer has accepted and not answered, and its two channels of answers. -/
  inFlight : List (Message ι)
  successes : List (Message ι)
  errors : List (Message ι)

def State.start (ι : Type) : State ι where
  phase _ := .idle
  outcome _ := none
  unsent _ := 0
  unacknowledged _ := 0
  inFlight := []
  successes := []
  errors := []

/-! ## The steps -/

inductive Event (ι : Type) where
  | call (i : ι)
  | marshalFailed (i : ι)
  | send (i : ι)
  | sendCancelled (i : ι)
  | receiveSuccess (i : ι)
  | receiveError (i : ι)
  | receiveCancelled (i : ι)
  | featureFlag (i : ι) (ffValue : Int)
  | sendOverload (i : ι)
  | receiveOverload (i : ι)
  | postSuccess
  | postError
  | drainError

variable {ι : Type}

namespace State

variable [DecidableEq ι]

def setPhase (s : State ι) (i : ι) (p : Phase) : State ι :=
  { s with phase := Function.update s.phase i p }

def setOutcome (s : State ι) (i : ι) (o : Outcome ι) : State ι :=
  { s with outcome := Function.update s.outcome i (some o) }

theorem setPhase_phase (s : State ι) (i j : ι) (p : Phase) :
    (s.setPhase i p).phase j = if j = i then p else s.phase j :=
  Function.update_apply s.phase i p j

theorem setOutcome_outcome (s : State ι) (i j : ι) (o : Outcome ι) :
    (s.setOutcome i o).outcome j = if j = i then some o else s.outcome j :=
  Function.update_apply s.outcome i (some o) j

end State

/-- A context may be cancelled at any time, and then its branch of a `select` may be taken. -/
inductive Step [DecidableEq ι] : State ι → Event ι → State ι → Prop
  | call {s : State ι} {i : ι} (h : s.phase i = .idle) :
      Step s (.call i) (s.setPhase i .sending)
  | marshalFailed {s : State ι} {i : ι} (h : s.phase i = .idle) :
      Step s (.marshalFailed i) (s.setPhase i .returned)
  | send {s : State ι} {i : ι} (h : s.phase i = .sending) :
      Step s (.send i) { s.setPhase i .waiting with inFlight := .order i :: s.inFlight }
  | sendCancelled {s : State ι} {i : ι} (h : s.phase i = .sending) :
      Step s (.sendCancelled i) ((s.setPhase i .returned).setOutcome i .notSent)
  | receiveSuccess {s : State ι} {i : ι} {m : Message ι} {rest : List (Message ι)}
      (h : s.phase i = .waiting) (hm : s.successes = m :: rest) :
      Step s (.receiveSuccess i)
        { (s.setPhase i .answered).setOutcome i (.success m) with successes := rest }
  | receiveError {s : State ι} {i : ι} {m : Message ι} {rest : List (Message ι)}
      (h : s.phase i = .waiting) (hm : s.errors = m :: rest) :
      Step s (.receiveError i)
        { (s.setPhase i .answered).setOutcome i (.failure m) with errors := rest }
  | receiveCancelled {s : State ι} {i : ι} (h : s.phase i = .waiting) :
      Step s (.receiveCancelled i) ((s.setPhase i .answered).setOutcome i .cancelled)
  | featureFlag {s : State ι} {i : ι} {ffValue : Int} (h : s.phase i = .answered) :
      Step s (.featureFlag i ffValue)
        { s.setPhase i .returned with
            unsent := Function.update s.unsent i ffValue.toNat }
  | sendOverload {s : State ι} {i : ι} {n : Nat} (h : s.unsent i = n + 1) :
      Step s (.sendOverload i)
        { s with
            unsent := Function.update s.unsent i n
            unacknowledged := Function.update s.unacknowledged i (s.unacknowledged i + 1)
            inFlight := .overload i :: s.inFlight }
  | receiveOverload {s : State ι} {i : ι} {n : Nat} {m : Message ι} {rest : List (Message ι)}
      (h : s.unacknowledged i = n + 1) (hm : s.successes = m :: rest) :
      Step s (.receiveOverload i)
        { s with
            unacknowledged := Function.update s.unacknowledged i n
            successes := rest }
  | postSuccess {s : State ι} {m : Message ι} {before after : List (Message ι)}
      (h : s.inFlight = before ++ m :: after) :
      Step s .postSuccess { s with inFlight := before ++ after, successes := s.successes ++ [m] }
  | postError {s : State ι} {m : Message ι} {before after : List (Message ι)}
      (h : s.inFlight = before ++ m :: after) :
      Step s .postError { s with inFlight := before ++ after, errors := s.errors ++ [m] }
  | drainError {s : State ι} {m : Message ι} {rest : List (Message ι)}
      (hm : s.errors = m :: rest) : Step s .drainError { s with errors := rest }

/-! ## Whose acknowledgement it is -/

/-- Every call that has recorded a success has received its own message. -/
def OwnAcknowledgements (s : State ι) : Prop :=
  ∀ i m, s.outcome i = some (.success m) → m = .order i

/-- A call sends only when no other message and no other call is on the way, and a goroutine only
when no call waits. -/
def Alone (s : State ι) : Event ι → Prop
  | .send _ => s.inFlight = [] ∧ s.successes = [] ∧ ∀ j, s.phase j ≠ .waiting
  | .sendOverload _ => ∀ j, s.phase j ≠ .waiting
  | _ => True

/-- What the producer holds or has acknowledged. -/
def State.OnTheWay (s : State ι) (m : Message ι) : Prop := m ∈ s.inFlight ∨ m ∈ s.successes

/-- While a call waits, nothing but its message is on the way. -/
structure Exclusive (s : State ι) : Prop where
  own : OwnAcknowledgements s
  onTheWay : ∀ i, s.phase i = .waiting → ∀ m, s.OnTheWay m → m = .order i

theorem exclusive_start : Exclusive (State.start ι) where
  own _ _ h := by cases h
  onTheWay _ h := by cases h

/-- A step that lets no call wait and puts nothing on the way. -/
theorem Exclusive.weaken {s s' : State ι} (hs : Exclusive s) (hown : OwnAcknowledgements s')
    (hphase : ∀ i, s'.phase i = .waiting → s.phase i = .waiting)
    (hway : ∀ m, s'.OnTheWay m → s.OnTheWay m) : Exclusive s' where
  own := hown
  onTheWay i hi m hm := hs.onTheWay i (hphase i hi) m (hway m hm)

section

variable [DecidableEq ι] {s s' : State ι} {i j : ι}

theorem waiting_of_setPhase {p : Phase} (hp : p ≠ .waiting)
    (h : (s.setPhase i p).phase j = .waiting) : s.phase j = .waiting := by
  rw [State.setPhase_phase] at h
  split at h
  · exact absurd h hp
  · exact h

theorem OwnAcknowledgements.setOutcome {o : Outcome ι} (h : OwnAcknowledgements s)
    (ho : ∀ m, o = .success m → m = .order i) : OwnAcknowledgements (s.setOutcome i o) := by
  intro j m hj
  rw [State.setOutcome_outcome] at hj
  split at hj
  · rename_i hji
    rw [hji]
    exact ho m (Option.some.inj hj)
  · exact h j m hj

/-- **What one step keeps** when the messages are sent one at a time. -/
theorem Exclusive.step {e : Event ι} (hs : Exclusive s) (hok : Alone s e) (h : Step s e s') :
    Exclusive s' := by
  cases h with
  | call => exact hs.weaken hs.own (fun _ => waiting_of_setPhase (by decide)) (fun _ => id)
  | marshalFailed => exact hs.weaken hs.own (fun _ => waiting_of_setPhase (by decide)) (fun _ => id)
  | @send i h =>
    obtain ⟨hflight, hsuccesses, hwaiting⟩ := hok
    refine ⟨hs.own, ?_⟩
    intro j hj m hm
    have hji : j = i := by
      by_contra hne
      have hphase := State.setPhase_phase s i j .waiting
      rw [if_neg hne] at hphase
      exact hwaiting j (hphase ▸ hj)
    simp only [State.OnTheWay, State.setPhase, hflight, hsuccesses, List.mem_singleton,
      List.not_mem_nil, or_false] at hm
    rw [hm, hji]
  | sendCancelled =>
    exact hs.weaken (OwnAcknowledgements.setOutcome hs.own (by simp))
      (fun _ => waiting_of_setPhase (by decide)) (fun _ => id)
  | @receiveSuccess i m rest hi hm =>
    have hway : s.OnTheWay m := .inr (hm ▸ List.mem_cons_self)
    apply hs.weaken
    · apply OwnAcknowledgements.setOutcome hs.own
      rintro _ ⟨⟩
      exact hs.onTheWay i hi m hway
    · intro j
      exact waiting_of_setPhase (by decide)
    · intro m' hm'
      exact hm'.imp id fun h => hm ▸ List.mem_cons_of_mem m h
  | receiveError =>
    exact hs.weaken (OwnAcknowledgements.setOutcome hs.own (by simp))
      (fun _ => waiting_of_setPhase (by decide)) (fun _ => id)
  | receiveCancelled =>
    exact hs.weaken (OwnAcknowledgements.setOutcome hs.own (by simp))
      (fun _ => waiting_of_setPhase (by decide)) (fun _ => id)
  | featureFlag => exact hs.weaken hs.own (fun _ => waiting_of_setPhase (by decide)) (fun _ => id)
  | sendOverload =>
    refine ⟨hs.own, ?_⟩
    intro j hj
    exact absurd hj (hok j)
  | @receiveOverload i n m rest hi hm =>
    refine hs.weaken hs.own (fun _ => id) ?_
    intro m' hm'
    exact hm'.imp id fun h => hm ▸ List.mem_cons_of_mem m h
  | @postSuccess m before after h =>
    refine hs.weaken hs.own (fun _ => id) ?_
    intro m' hm'
    simp only [State.OnTheWay, h, List.mem_append, List.mem_cons, List.not_mem_nil,
      or_false] at hm' ⊢
    tauto
  | @postError m before after h =>
    refine hs.weaken hs.own (fun _ => id) ?_
    intro m' hm'
    simp only [State.OnTheWay, h, List.mem_append, List.mem_cons] at hm' ⊢
    tauto
  | drainError => exact hs.weaken hs.own (fun _ => id) (fun _ => id)

/-! ## What can happen otherwise -/

/-- From the state a call can come to record a success that is not its own. -/
def CanMisattribute (s : State ι) : Prop :=
  ∃ es s', Run Step Any s es s' ∧ ¬ OwnAcknowledgements s'

theorem CanMisattribute.of_step {e : Event ι} (h : Step s e s') (hs : CanMisattribute s') :
    CanMisattribute s := by
  obtain ⟨es, s'', hrun, hmis⟩ := hs
  exact ⟨e :: es, s'', .cons trivial h hrun, hmis⟩

/-- The call takes the first success. -/
theorem canMisattribute_of_success {m : Message ι} {rest : List (Message ι)}
    (hi : s.phase i = .waiting) (hm : s.successes = m :: rest) (hne : m ≠ .order i) :
    CanMisattribute s := by
  refine ⟨_, _, Run.single trivial (Step.receiveSuccess hi hm), ?_⟩
  intro hown
  apply hne
  apply hown i m
  exact (State.setOutcome_outcome _ i i _).trans (if_pos rfl)

/-- The producer acknowledges a message, and the call takes it. -/
theorem canMisattribute_of_inFlight {m : Message ι} (hi : s.phase i = .waiting)
    (hm : m ∈ s.inFlight) (hempty : s.successes = []) (hne : m ≠ .order i) :
    CanMisattribute s := by
  obtain ⟨before, after, hsplit⟩ := List.append_of_mem hm
  apply CanMisattribute.of_step (Step.postSuccess hsplit)
  have hsuccesses : s.successes ++ [m] = [m] := by rw [hempty, List.nil_append]
  exact canMisattribute_of_success hi hsuccesses hne

/-- How often the message of a call is on the way. -/
def State.copies (s : State ι) (i : ι) : Nat :=
  s.inFlight.count (.order i) + s.successes.count (.order i)

/-- The call has not sent its message. -/
def State.Unsent (s : State ι) (i : ι) : Prop := s.phase i = .idle ∨ s.phase i = .sending

/-- A message is on the way at most once, and only when it has been sent. -/
structure SentOnce (s : State ι) : Prop where
  unsent : ∀ i, s.Unsent i → s.copies i = 0
  once : ∀ i, s.copies i ≤ 1

theorem sentOnce_start : SentOnce (State.start ι) where
  unsent _ _ := rfl
  once _ := Nat.zero_le 1

theorem SentOnce.weaken (hs : SentOnce s) (hphase : ∀ i, s'.Unsent i → s.Unsent i)
    (hcopies : ∀ i, s'.copies i ≤ s.copies i) : SentOnce s' where
  unsent i hi := Nat.eq_zero_of_le_zero (hs.unsent i (hphase i hi) ▸ hcopies i)
  once i := Nat.le_trans (hcopies i) (hs.once i)

theorem copies_le (hflight : s'.inFlight.Sublist s.inFlight)
    (hsuccesses : s'.successes.Sublist s.successes) (i : ι) : s'.copies i ≤ s.copies i :=
  Nat.add_le_add (hflight.count_le _) (hsuccesses.count_le _)

theorem unsent_of_setPhase {p : Phase} (hp : p = .sending → s.phase i = .idle) (hidle : p ≠ .idle)
    (h : (s.setPhase i p).Unsent j) : s.Unsent j := by
  unfold State.Unsent at h
  rw [State.setPhase_phase] at h
  split at h
  · rename_i hji
    rw [hji]
    exact .inl (hp (h.resolve_left hidle))
  · exact h

theorem SentOnce.step {e : Event ι} (hs : SentOnce s) (h : Step s e s') : SentOnce s' := by
  cases h with
  | call h => exact hs.weaken (fun _ => unsent_of_setPhase (fun _ => h) nofun) fun _ => Nat.le_refl _
  | @send i h =>
    have hcopies : ∀ j, State.copies { s.setPhase i .waiting with
        inFlight := .order i :: s.inFlight } j = s.copies j + if j = i then 1 else 0 := by
      intro j
      unfold State.copies
      by_cases hj : j = i
      · simp only [hj, List.count_cons_self, if_true, State.setPhase]
        omega
      · have hne : Message.order i ≠ .order j := by simpa [eq_comm] using hj
        simp only [List.count_cons_of_ne hne, if_neg hj, State.setPhase]
        omega
    have hi := hs.unsent i (.inr h)
    constructor
    · intro j hj
      have hunsent : s.Unsent j := unsent_of_setPhase (p := .waiting) nofun nofun hj
      have hne : j ≠ i := by
        rintro rfl
        have hphase := State.setPhase_phase s j j .waiting
        rw [if_pos rfl] at hphase
        rcases hj with hj | hj <;> cases hphase.symm.trans hj
      rw [hcopies, if_neg hne, hs.unsent j hunsent]
    · intro j
      have hj := hs.once j
      rw [hcopies]
      split
      · rename_i hji
        rw [hji]
        omega
      · exact hj
  | sendOverload =>
    refine hs.weaken (fun _ => id) ?_
    intro j
    simp [State.copies]
  | @postSuccess m before after h =>
    refine hs.weaken (fun _ => id) ?_
    intro j
    simp only [State.copies, h, List.count_append, List.count_cons, List.count_nil]
    omega
  | postError h =>
    refine hs.weaken (fun _ => id) (copies_le ?_ (List.Sublist.refl _))
    rw [h]
    exact (List.Sublist.refl _).append (List.sublist_cons_self _ _)
  | receiveSuccess _ hm =>
    refine hs.weaken (fun _ => unsent_of_setPhase nofun nofun)
      (copies_le (List.Sublist.refl _) ?_)
    rw [hm]
    exact List.sublist_cons_self _ _
  | receiveOverload _ hm =>
    refine hs.weaken (fun _ => id) (copies_le (List.Sublist.refl _) ?_)
    rw [hm]
    exact List.sublist_cons_self _ _
  | drainError => exact hs.weaken (fun _ => id) fun _ => Nat.le_refl _
  | _ => exact hs.weaken (fun _ => unsent_of_setPhase nofun nofun) fun _ => Nat.le_refl _

/-- A call that sends while something else is on the way, or while another call waits. -/
theorem canMisattribute_of_send (hs : SentOnce s) (hi : s.phase i = .sending)
    (hnot : ¬ Alone s (.send i)) :
    CanMisattribute { s.setPhase i .waiting with inFlight := .order i :: s.inFlight } := by
  have hwaiting : (s.setPhase i .waiting).phase i = .waiting :=
    (State.setPhase_phase s i i _).trans (if_pos rfl)
  have hcopies : s.inFlight.count (.order i) + s.successes.count (.order i) = 0 :=
    hs.unsent i (.inr hi)
  have hflight : ∀ m ∈ s.inFlight, m ≠ .order i := by
    rintro _ hm rfl
    have := List.count_pos_iff.mpr hm
    omega
  have hsuccesses : ∀ m ∈ s.successes, m ≠ .order i := by
    rintro _ hm rfl
    have := List.count_pos_iff.mpr hm
    omega
  cases hqueue : s.successes with
  | cons m rest =>
    exact canMisattribute_of_success hwaiting hqueue (hsuccesses m (hqueue ▸ List.mem_cons_self))
  | nil =>
    by_cases hempty : s.inFlight = []
    · -- nothing is on the way, so another call waits and can take this acknowledgement
      obtain ⟨j, hj⟩ : ∃ j, s.phase j = .waiting := by
        by_contra hnone
        exact hnot ⟨hempty, hqueue, not_exists.mp hnone⟩
      have hne : j ≠ i := by
        rintro rfl
        cases hi.symm.trans hj
      have hj' : (s.setPhase i .waiting).phase j = .waiting := by
        rw [State.setPhase_phase, if_neg hne, hj]
      refine canMisattribute_of_inFlight hj' List.mem_cons_self hqueue ?_
      simpa [eq_comm] using hne
    · obtain ⟨m, hm⟩ := List.exists_mem_of_ne_nil _ hempty
      exact canMisattribute_of_inFlight hwaiting (List.mem_cons_of_mem _ hm) hqueue (hflight m hm)

/-- A goroutine that sends while a call waits. -/
theorem canMisattribute_of_sendOverload {n : Nat} (hs : SentOnce s) (hj : s.phase j = .waiting)
    (hflight : .overload i ∈ s.inFlight) (hi : s.unacknowledged i = n + 1) :
    CanMisattribute s := by
  cases hqueue : s.successes with
  | nil => exact canMisattribute_of_inFlight hj hflight hqueue nofun
  | cons m rest =>
    by_cases hm : m = .order j
    · -- the goroutine takes the acknowledgement of the call away
      apply CanMisattribute.of_step (Step.receiveOverload hi hqueue)
      cases rest with
      | nil => exact canMisattribute_of_inFlight hj hflight rfl nofun
      | cons m' rest =>
        refine canMisattribute_of_success hj rfl ?_
        rintro rfl
        have honce := hs.once j
        rw [State.copies, hqueue, hm, List.count_cons_self, List.count_cons_self] at honce
        omega
    · exact canMisattribute_of_success hj hqueue hm

/-- After a step against the rule, a call can come to record the wrong success. -/
theorem canMisattribute_of_not_alone {e : Event ι} (hs : SentOnce s) (h : Step s e s')
    (hnot : ¬ Alone s e) : CanMisattribute s' := by
  have hs' := hs.step h
  cases h with
  | send h => exact canMisattribute_of_send hs h hnot
  | @sendOverload i n h =>
    obtain ⟨j, hj⟩ := not_forall_not.mp hnot
    have hi : Function.update s.unacknowledged i (s.unacknowledged i + 1) i =
        s.unacknowledged i + 1 := Function.update_self i _ s.unacknowledged
    exact canMisattribute_of_sendOverload hs' hj List.mem_cons_self hi
  | _ => exact absurd trivial hnot

/-- **An acknowledgement belongs to its own order** when messages are sent one at a time; once that
is given up, a run can be continued so that it does not. -/
theorem own_acknowledgements :
    (∀ es (s : State ι), Run Step Alone (State.start ι) es s → OwnAcknowledgements s) ∧
      ∀ es (s : State ι) e s', Run Step Any (State.start ι) es s → Step s e s' → ¬ Alone s e →
        CanMisattribute s' := by
  constructor
  · intro es s h
    exact (h.invariant (fun hs => hs.step) exclusive_start).own
  · intro es s e s' h hstep hnot
    have hs : SentOnce s := h.invariant (fun hs _ => hs.step) sentOnce_start
    exact canMisattribute_of_not_alone hs hstep hnot

end

/-- Two calls, one after the other. -/
def callsInTurn : List (Event Bool) :=
  [.call false, .send false, .postSuccess, .receiveSuccess false, .call true, .send true,
    .postSuccess, .receiveSuccess true]

/-- Each of them records its own success. -/
theorem own_acknowledgement_in_turn : ∃ s, Run Step Alone (State.start Bool) callsInTurn s ∧
    s.outcome false = some (.success (.order false)) ∧
      s.outcome true = some (.success (.order true)) ∧ OwnAcknowledgements s := by
  obtain ⟨s, hrun, hfirst, hsecond⟩ : ∃ s, Run Step Alone (State.start Bool) callsInTurn s ∧
      s.outcome false = some (.success (.order false)) ∧
        s.outcome true = some (.success (.order true)) :=
    ⟨_, .cons trivial (.call rfl) (.cons ⟨rfl, rfl, by decide⟩ (.send rfl)
      (.cons trivial (@Step.postSuccess _ _ _ (.order false) [] [] rfl)
        (.cons trivial (.receiveSuccess rfl rfl) (.cons trivial (.call rfl)
          (.cons ⟨rfl, rfl, by decide⟩ (.send rfl)
            (.cons trivial (@Step.postSuccess _ _ _ (.order true) [] [] rfl)
              (.cons trivial (.receiveSuccess rfl rfl) (.nil _)))))))), rfl, rfl⟩
  exact ⟨s, hrun, hfirst, hsecond, own_acknowledgements.1 callsInTurn s hrun⟩

/-- Two calls send, the producer answers them in order, and the second call is the first to look
for an answer. -/
theorem acknowledgements_swapped : ¬ ∀ es (s : State Nat),
    Run Step Any (State.start Nat) es s → OwnAcknowledgements s := by
  intro h
  have hown := h [.call 0, .call 1, .send 0, .send 1, .postSuccess, .postSuccess, .receiveSuccess 1]
    _ (.cons trivial (.call rfl) (.cons trivial (.call rfl) (.cons trivial (.send rfl)
      (.cons trivial (.send rfl)
        (.cons trivial (@Step.postSuccess _ _ _ (.order 0) [.order 1] [] rfl)
          (.cons trivial (@Step.postSuccess _ _ _ (.order 1) [] [] rfl)
            (.cons trivial (.receiveSuccess rfl rfl) (.nil _))))))))
  exact absurd (hown 1 (.order 0) rfl) (by decide)

end AstronomyShop.Kafka
