import AstronomyShop.Ad.Service
import AstronomyShop.Library.Contract

/-!
# The load of the ad service

While the flag `adHighCpu` is on, requests have four threads compute logarithms, and stop them again
once it is off. The requests run in parallel. The lists of workers are guarded by a lock; the field
`running` and the singleton are not, so that a request may read any value of them that was ever
written.

* `workers_of_run`: a thread runs if and only if it is in the list of a `CPULoad`, and each list has
  the workers that were started since it was last cleared.
* `load_ends`: with one `CPULoad`, no thread is left after the last stop.
* `second_instance_leaks`: with a second one there may be.
* `load_follows_flag`: requests one after another have four threads run while the flag is on.
-/

namespace AstronomyShop.AdService

open Interaction Protos

/-! ## The objects -/

structure CPULoad where
  running : Bool := false
  runningWorkers : List Nat := []

/-- The objects that the requests share. A `Logarithmizer` is known by the number of its thread. -/
structure Jvm where
  current : Option Nat := none
  created : Nat := 0
  cpuLoads : Nat → CPULoad := fun _ => {}
  threads : Nat := 0
  shouldRun : Nat → Bool := fun _ => false

namespace Jvm

/-- The workers of a `CPULoad`. -/
def workers (s : Jvm) (cpuLoad : Nat) : List Nat := (s.cpuLoads cpuLoad).runningWorkers

def setRunning (cpuLoad : Nat) (running : Bool) (s : Jvm) : Jvm :=
  { s with
    cpuLoads := Function.update s.cpuLoads cpuLoad
      { s.cpuLoads cpuLoad with running := running } }

def startWorker (cpuLoad : Nat) (s : Jvm) : Jvm :=
  { s with
    threads := s.threads + 1
    shouldRun := Function.update s.shouldRun s.threads true
    cpuLoads := Function.update s.cpuLoads cpuLoad
      { s.cpuLoads cpuLoad with runningWorkers := s.workers cpuLoad ++ [s.threads] } }

def spawnLoadWorkers (cpuLoad : Nat) : Nat → Jvm → Jvm
  | 0, s => s
  | n + 1, s => spawnLoadWorkers cpuLoad n (s.startWorker cpuLoad)

def stopWorkers (cpuLoad : Nat) (s : Jvm) : Jvm :=
  { s with
    shouldRun := (s.workers cpuLoad).foldl
      (fun shouldRun worker => Function.update shouldRun worker false) s.shouldRun
    cpuLoads := Function.update s.cpuLoads cpuLoad
      { s.cpuLoads cpuLoad with runningWorkers := [] } }

end Jvm

/-- How a call may be answered. -/
def Answers (s : Jvm) : (o : AdCall) → AdReply o → Jvm → Prop
  | .getBooleanValue _, _, s' => s' = s
  | .nextInt bound, r, s' => (0 < bound → r < bound) ∧ s' = s
  | .readInstance, r, s' => (∀ cpuLoad, r = some cpuLoad → cpuLoad < s.created) ∧ s' = s
  | .newCPULoad, r, s' => r = s.created ∧ s' = { s with created := s.created + 1 }
  | .writeInstance cpuLoad, _, s' => s' = { s with current := some cpuLoad }
  | .readRunning _, _, s' => s' = s
  | .writeRunning cpuLoad running, _, s' => s' = s.setRunning cpuLoad running
  | .spawnLoadWorkers cpuLoad n, _, s' => s' = s.spawnLoadWorkers cpuLoad n
  | .stopWorkers cpuLoad, _, s' => s' = s.stopWorkers cpuLoad
  | .collectGarbage, _, s' => s' = s

def jvm : World AdCall AdReply Jvm Empty where
  answer := Answers
  act _ a _ := a.elim

/-! ## What the steps do to the workers -/

namespace Jvm

variable {s : Jvm} {cpuLoad : Nat}

@[simp] theorem workers_setRunning (running : Bool) :
    (s.setRunning cpuLoad running).workers = s.workers := by
  funext i
  unfold workers setRunning
  by_cases hi : i = cpuLoad
  · subst hi
    simp
  · simp [Function.update_of_ne hi]

theorem workers_startWorker (i : Nat) : (s.startWorker cpuLoad).workers i =
    if i = cpuLoad then s.workers i ++ [s.threads] else s.workers i := by
  unfold startWorker
  by_cases hi : i = cpuLoad
  · subst hi
    simp [workers]
  · simp [workers, hi]

theorem workers_stopWorkers (i : Nat) : (s.stopWorkers cpuLoad).workers i =
    if i = cpuLoad then [] else s.workers i := by
  unfold stopWorkers
  by_cases hi : i = cpuLoad
  · subst hi
    simp [workers]
  · simp [workers, hi]

/-- The loop over the workers. -/
theorem shouldRun_stopWorkers (w : Nat) : (s.stopWorkers cpuLoad).shouldRun w =
    (decide (w ∉ s.workers cpuLoad) && s.shouldRun w) := by
  have hloop : ∀ (ws : List Nat) (shouldRun : Nat → Bool),
      ws.foldl (fun shouldRun worker => Function.update shouldRun worker false) shouldRun w =
        (decide (w ∉ ws) && shouldRun w) := by
    intro ws
    induction ws with
    | nil => intro shouldRun; simp
    | cons w' ws ih =>
      intro shouldRun
      rw [List.foldl_cons, ih]
      by_cases hw : w = w'
      · subst hw
        simp
      · simp [hw]
  exact hloop _ _

end Jvm

/-- The threads that run are those in the lists of workers, each in one list and once. -/
structure Tracked (s : Jvm) : Prop where
  shouldRun_iff : ∀ w, s.shouldRun w = true ↔ ∃ i, w ∈ s.workers i
  owner : ∀ i j w, w ∈ s.workers i → w ∈ s.workers j → i = j
  nodup : ∀ i, (s.workers i).Nodup
  lt_threads : ∀ i w, w ∈ s.workers i → w < s.threads

theorem tracked_fresh : Tracked {} where
  shouldRun_iff w := by simp [Jvm.workers]
  owner i j w h := by simp [Jvm.workers] at h
  nodup i := List.nodup_nil
  lt_threads i w h := by simp [Jvm.workers] at h

namespace Tracked

variable {s : Jvm} {cpuLoad : Nat}

theorem of_workers {s' : Jvm} (h : Tracked s) (hworkers : s'.workers = s.workers)
    (hshould : s'.shouldRun = s.shouldRun) (hthreads : s'.threads = s.threads) : Tracked s' where
  shouldRun_iff := by
    rw [hworkers, hshould]
    exact h.shouldRun_iff
  owner := by
    rw [hworkers]
    exact h.owner
  nodup := by
    rw [hworkers]
    exact h.nodup
  lt_threads := by
    rw [hworkers, hthreads]
    exact h.lt_threads

/-- A worker of the started ones is an old one or the new one. -/
theorem mem_startWorker {i w : Nat} : w ∈ (s.startWorker cpuLoad).workers i ↔
    w ∈ s.workers i ∨ (i = cpuLoad ∧ w = s.threads) := by
  rw [Jvm.workers_startWorker]
  split
  · rename_i hi
    simp [hi]
  · rename_i hi
    simp [hi]

theorem startWorker (h : Tracked s) : Tracked (s.startWorker cpuLoad) := by
  have hnew : ∀ i, s.threads ∉ s.workers i := fun i hmem =>
    absurd (h.lt_threads i _ hmem) (lt_irrefl _)
  refine ⟨?_, ?_, ?_, ?_⟩
  · intro w
    show Function.update s.shouldRun s.threads true w = true ↔ _
    by_cases hw : w = s.threads
    · subst hw
      rw [Function.update_self]
      exact iff_of_true rfl ⟨cpuLoad, mem_startWorker.mpr (.inr ⟨rfl, rfl⟩)⟩
    · rw [Function.update_of_ne hw, h.shouldRun_iff]
      simp only [mem_startWorker, hw, and_false, or_false]
  · intro i j w hi hj
    rcases mem_startWorker.mp hi with hold | ⟨hi', hw⟩
    · rcases mem_startWorker.mp hj with hold' | ⟨-, hw⟩
      · exact h.owner i j w hold hold'
      · exact absurd (hw ▸ hold) (hnew i)
    · rcases mem_startWorker.mp hj with hold' | ⟨hj', -⟩
      · exact absurd (hw ▸ hold') (hnew j)
      · exact hi'.trans hj'.symm
  · intro i
    rw [Jvm.workers_startWorker]
    split
    · exact List.nodup_append.mpr ⟨h.nodup i, List.nodup_singleton _, by
        intro w hw w' hw' heq
        obtain rfl := List.mem_singleton.mp hw'
        exact hnew i (heq ▸ hw)⟩
    · exact h.nodup i
  · intro i w hmem
    show w < s.threads + 1
    rcases mem_startWorker.mp hmem with hmem | ⟨-, rfl⟩
    · have := h.lt_threads i w hmem
      omega
    · omega

theorem spawnLoadWorkers (h : Tracked s) (n : Nat) : Tracked (s.spawnLoadWorkers cpuLoad n) := by
  induction n generalizing s with
  | zero => exact h
  | succ n ih => exact ih h.startWorker

theorem stopWorkers (h : Tracked s) : Tracked (s.stopWorkers cpuLoad) := by
  have hmem : ∀ i w, w ∈ (s.stopWorkers cpuLoad).workers i ↔ i ≠ cpuLoad ∧ w ∈ s.workers i := by
    intro i w
    rw [Jvm.workers_stopWorkers]
    split
    · rename_i hi
      simp [hi]
    · rename_i hi
      simp [hi]
  refine ⟨?_, ?_, ?_, ?_⟩
  · intro w
    rw [Jvm.shouldRun_stopWorkers, Bool.and_eq_true, decide_eq_true_iff, h.shouldRun_iff]
    constructor
    · rintro ⟨hnot, i, hi⟩
      refine ⟨i, (hmem i w).mpr ⟨?_, hi⟩⟩
      rintro rfl
      exact hnot hi
    · rintro ⟨i, hi⟩
      obtain ⟨hne, hi⟩ := (hmem i w).mp hi
      exact ⟨fun hstopped => hne (h.owner i cpuLoad w hi hstopped), i, hi⟩
  · intro i j w hi hj
    exact h.owner i j w ((hmem i w).mp hi).2 ((hmem j w).mp hj).2
  · intro i
    rw [Jvm.workers_stopWorkers]
    split
    · exact List.nodup_nil
    · exact h.nodup i
  · intro i w hi
    exact h.lt_threads i w ((hmem i w).mp hi).2

end Tracked

theorem spawnLoadWorkers_frame (s : Jvm) (cpuLoad n : Nat) :
    (s.spawnLoadWorkers cpuLoad n).created = s.created ∧
      (s.spawnLoadWorkers cpuLoad n).current = s.current ∧
      ∀ i, i ≠ cpuLoad → (s.spawnLoadWorkers cpuLoad n).workers i = s.workers i := by
  induction n generalizing s with
  | zero => exact ⟨rfl, rfl, fun i _ => rfl⟩
  | succ n ih =>
    obtain ⟨hcreated, hcurrent, hothers⟩ := ih (s.startWorker cpuLoad)
    refine ⟨hcreated, hcurrent, fun i hi => ?_⟩
    rw [Jvm.spawnLoadWorkers, hothers i hi, Jvm.workers_startWorker, if_neg hi]

theorem length_workers_spawnLoadWorkers {s : Jvm} {cpuLoad : Nat} (n i : Nat) :
    ((s.spawnLoadWorkers cpuLoad n).workers i).length =
      (s.workers i).length + if i = cpuLoad then n else 0 := by
  induction n generalizing s with
  | zero => simp [Jvm.spawnLoadWorkers]
  | succ n ih =>
    rw [Jvm.spawnLoadWorkers, ih, Jvm.workers_startWorker]
    split
    · rw [List.length_append, List.length_singleton]
      omega
    · rfl

/-! ## Runs -/

/-- The number of workers in the list of a `CPULoad` after a call, with `n` of them before. -/
def dueAfter (i n : Nat) : AdEvent → Nat
  | ⟨.spawnLoadWorkers cpuLoad count, _⟩ => if i = cpuLoad then n + count else n
  | ⟨.stopWorkers cpuLoad, _⟩ => if i = cpuLoad then 0 else n
  | _ => n

variable {ι : Type}

/-- The workers started for a `CPULoad` since they were last stopped. -/
def due (i : Nat) (ls : List (Label ι AdReply Empty)) : Nat :=
  ls.foldl (fun n l => match l with
    | .call _ e => dueAfter i n e
    | .act a => a.elim) 0

theorem due_snoc (i : Nat) (j : ι) (ls : List (Label ι AdReply Empty)) (e : AdEvent) :
    due i (ls ++ [.call j e]) = dueAfter i (due i ls) e := by
  simp [due]

section

variable [DecidableEq ι] {s s' : Jvm} {e : AdEvent}

/-- **What one call does to the workers.** -/
theorem answers_workers (hs : Tracked s) (h : Answers s e.op e.reply s') :
    Tracked s' ∧ ∀ i, (s'.workers i).length = dueAfter i (s.workers i).length e := by
  obtain ⟨op, reply⟩ := e
  cases op with
  | getBooleanValue flag =>
    obtain rfl : s' = s := h
    exact ⟨hs, fun i => rfl⟩
  | nextInt bound =>
    obtain rfl : s' = s := h.2
    exact ⟨hs, fun i => rfl⟩
  | readInstance =>
    obtain rfl : s' = s := h.2
    exact ⟨hs, fun i => rfl⟩
  | newCPULoad =>
    obtain rfl : s' = { s with created := s.created + 1 } := h.2
    exact ⟨hs.of_workers rfl rfl rfl, fun i => rfl⟩
  | writeInstance cpuLoad =>
    obtain rfl : s' = { s with current := some cpuLoad } := h
    exact ⟨hs.of_workers rfl rfl rfl, fun i => rfl⟩
  | readRunning cpuLoad =>
    obtain rfl : s' = s := h
    exact ⟨hs, fun i => rfl⟩
  | writeRunning cpuLoad running =>
    obtain rfl : s' = s.setRunning cpuLoad running := h
    refine ⟨hs.of_workers (Jvm.workers_setRunning running) rfl rfl, fun i => ?_⟩
    rw [Jvm.workers_setRunning]
    rfl
  | spawnLoadWorkers cpuLoad count =>
    obtain rfl : s' = s.spawnLoadWorkers cpuLoad count := h
    refine ⟨hs.spawnLoadWorkers count, fun i => ?_⟩
    rw [length_workers_spawnLoadWorkers]
    show _ = if i = cpuLoad then _ else _
    split
    · rfl
    · rfl
  | stopWorkers cpuLoad =>
    obtain rfl : s' = s.stopWorkers cpuLoad := h
    refine ⟨hs.stopWorkers, fun i => ?_⟩
    rw [Jvm.workers_stopWorkers]
    show _ = if i = cpuLoad then _ else _
    split
    · rfl
    · rfl
  | collectGarbage =>
    obtain rfl : s' = s := h
    exact ⟨hs, fun i => rfl⟩

variable {α : Type} {c c' : Config ι AdCall AdReply Jvm α} {ls : List (Label ι AdReply Empty)}

/-- **The threads that run** are those in the lists of workers, in any interleaving of any
requests. -/
theorem workers_of_run (h : Run jvm c ls c') (hfresh : c.shared = {}) :
    Tracked c'.shared ∧ ∀ i, (c'.shared.workers i).length = due i ls := by
  induction h with
  | nil =>
    rw [hfresh]
    exact ⟨tracked_fresh, fun i => rfl⟩
  | snoc _ step ih =>
    obtain ⟨htracked, hdue⟩ := ih
    cases step with
    | @call s s' procs j o k hproc r h =>
      obtain ⟨htracked', hdue'⟩ := answers_workers (e := ⟨o, r⟩) htracked h
      refine ⟨htracked', fun i => ?_⟩
      rw [due_snoc, ← hdue i]
      exact hdue' i
    | @act _ _ _ a h => exact a.elim

end

/-! ## One `CPULoad` -/

/-- Calls on a `CPULoad`, if any, are on the first one. -/
def UsesFirst : AdCall → Prop
  | .readRunning cpuLoad => cpuLoad = 0
  | .writeRunning cpuLoad _ => cpuLoad = 0
  | .spawnLoadWorkers cpuLoad _ => cpuLoad = 0
  | .stopWorkers cpuLoad => cpuLoad = 0
  | _ => True

/-- Calls that have nothing to do with the load. -/
def IsQuiet : AdCall → Prop
  | .getBooleanValue flag => flag ≠ "adHighCpu"
  | .nextInt _ => True
  | .collectGarbage => True
  | _ => False

theorem IsQuiet.usesFirst {o : AdCall} (h : IsQuiet o) : UsesFirst o := by
  cases o <;> first | exact h.elim | trivial

/-- What is read from the static field is null or the first `CPULoad`. -/
def ReadsFirst : AdEvent → Prop
  | ⟨.readInstance, r⟩ => ∀ cpuLoad, r = some cpuLoad → cpuLoad = 0
  | _ => True

/-- A request uses the `CPULoad` that it reads. -/
def firstContract : Contract fun (_ : Unit) o (r : AdReply o) (_ : Unit) => ReadsFirst ⟨o, r⟩ where
  Inv _ := True
  Routine := UsesFirst
  Fine := ReadsFirst
  step _ _ h := ⟨trivial, h⟩

section

variable {t : List AdEvent} {cpuLoad : Nat}

theorem keeps_getInstance {r : Option Nat} (h : Runs getInstance t r) :
    firstContract.Keeps t ∧
      ((∀ e ∈ t, ReadsFirst e) → ∀ cpuLoad, r = some cpuLoad → cpuLoad = 0) := by
  have hlast : ∀ {t r}, Runs (call .readInstance) t r →
      t = [⟨.readInstance, r⟩] := by
    intro t r h
    obtain ⟨r', t', rfl, h'⟩ := runs_call.mp h
    obtain ⟨rfl, rfl⟩ := runs_pure.mp h'
    rfl
  obtain ⟨first, t₁, rfl, h₁⟩ := runs_perform_bind.mp h
  cases first with
  | none =>
    obtain ⟨created, t₂, rfl, h₂⟩ := runs_perform_bind.mp h₁
    obtain ⟨_, t₃, rfl, h₃⟩ := runs_perform_bind.mp h₂
    obtain rfl := hlast h₃
    refine ⟨⟨trivial, fun _ => ⟨trivial, fun _ => ⟨trivial, fun _ => ⟨trivial, fun _ => trivial⟩⟩⟩⟩,
      fun hall => ?_⟩
    exact hall ⟨.readInstance, r⟩ (by simp)
  | some first =>
    obtain rfl := hlast h₁
    refine ⟨⟨trivial, fun _ => ⟨trivial, fun _ => trivial⟩⟩, fun hall => ?_⟩
    exact hall ⟨.readInstance, r⟩ (by simp)

theorem usesFirst_execute {enabled : Bool} {r : Unit} (h : Runs (execute cpuLoad enabled) t r)
    (hfirst : cpuLoad = 0) : ∀ e ∈ t, UsesFirst e.op := by
  cases enabled with
  | true =>
    obtain ⟨running, t₁, rfl, h₁⟩ := runs_perform_bind.mp h
    cases running with
    | true =>
      obtain ⟨rfl, -⟩ := runs_pure.mp h₁
      simp [UsesFirst, hfirst]
    | false =>
      obtain ⟨_, t₂, rfl, h₂⟩ := runs_perform_bind.mp h₁
      obtain ⟨_, t₃, rfl, h₃⟩ := runs_call.mp h₂
      obtain ⟨rfl, -⟩ := runs_pure.mp h₃
      simp [UsesFirst, hfirst]
  | false =>
    obtain ⟨_, t₁, rfl, h₁⟩ := runs_perform_bind.mp h
    obtain ⟨_, t₂, rfl, h₂⟩ := runs_call.mp h₁
    obtain ⟨rfl, -⟩ := runs_pure.mp h₂
    simp [UsesFirst, hfirst]

theorem quiet_randomAds {n : Nat} {ads : List Ad} (h : Runs (randomAds n) t ads) :
    ∀ e ∈ t, IsQuiet e.op := by
  induction n generalizing t ads with
  | zero =>
    obtain ⟨rfl, -⟩ := runs_pure.mp h
    simp
  | succ n ih =>
    obtain ⟨index, t₁, rfl, hrest⟩ := runs_perform_bind.mp h
    obtain ⟨later, hlater, rfl⟩ := runs_bind_pure.mp hrest
    exact List.forall_mem_cons.mpr ⟨trivial, ih hlater⟩

theorem quiet_selectAds {contextKeys : List String} {ads : List Ad}
    (h : Runs (selectAds contextKeys) t ads) : ∀ e ∈ t, IsQuiet e.op := by
  obtain ⟨t₁, t₂, first, rfl, hfirst, hsecond⟩ := runs_bind.mp h
  refine List.forall_mem_append.mpr ⟨?_, ?_⟩
  · unfold requestedAds at hfirst
    split at hfirst
    · obtain ⟨rfl, -⟩ := runs_pure.mp hfirst
      simp
    · exact quiet_randomAds hfirst
  · split at hsecond
    · exact quiet_randomAds hsecond
    · obtain ⟨rfl, -⟩ := runs_pure.mp hsecond
      simp

theorem quiet_simulatedFailure {failed : Bool} (h : Runs simulatedFailure t failed) :
    ∀ e ∈ t, IsQuiet e.op := by
  obtain ⟨flag, t₁, rfl, h₁⟩ := runs_perform_bind.mp h
  cases flag with
  | true =>
    obtain ⟨draw, t₂, rfl, h₂⟩ := runs_perform_bind.mp h₁
    obtain ⟨rfl, -⟩ := runs_pure.mp h₂
    simp [IsQuiet]
  | false =>
    obtain ⟨rfl, -⟩ := runs_pure.mp h₁
    simp [IsQuiet]

theorem quiet_manualGc {r : Unit} (h : Runs manualGc t r) : ∀ e ∈ t, IsQuiet e.op := by
  obtain ⟨flag, t₁, rfl, h₁⟩ := runs_perform_bind.mp h
  cases flag with
  | true =>
    obtain ⟨_, t₂, rfl, h₂⟩ := runs_call.mp h₁
    obtain ⟨rfl, -⟩ := runs_pure.mp h₂
    simp [IsQuiet]
  | false =>
    obtain ⟨rfl, -⟩ := runs_pure.mp h₁
    simp [IsQuiet]

/-- What a request does with its `CPULoad`: everything else is quiet. -/
theorem served_runs {req : AdRequest} {r : Except AdError (List Ad)}
    (h : Runs (getAds req) t r) :
    ∃ t₁ t₂ t₃ read enabled, t = t₁ ++ ⟨.getBooleanValue "adHighCpu", enabled⟩ :: (t₂ ++ t₃) ∧
      Runs getInstance t₁ read ∧ (∀ e ∈ t₃, IsQuiet e.op) ∧
      (t₂ = [] ∧ read = none ∨ ∃ cpuLoad, read = some cpuLoad ∧
        Runs (execute cpuLoad enabled) t₂ ()) := by
  obtain ⟨t₁, t₂, read, rfl, hinstance, h₁⟩ := runs_bind.mp h
  obtain ⟨enabled, t₃, rfl, h₂⟩ := runs_perform_bind.mp h₁
  cases read with
  | none =>
    obtain ⟨rfl, -⟩ := runs_pure.mp h₂
    exact ⟨t₁, [], [], none, enabled, rfl, hinstance, by simp, .inl ⟨rfl, rfl⟩⟩
  | some cpuLoad =>
    obtain ⟨t₄, t₅, _, rfl, hexecute, h₃⟩ := runs_bind.mp h₂
    obtain ⟨t₆, t₇, ads, rfl, hselect, h₄⟩ := runs_bind.mp h₃
    obtain ⟨t₈, t₉, failed, rfl, hfailed, h₅⟩ := runs_bind.mp h₄
    refine ⟨t₁, t₄, _, some cpuLoad, enabled, rfl, hinstance, ?_, .inr ⟨cpuLoad, rfl, hexecute⟩⟩
    refine List.forall_mem_append.mpr ⟨quiet_selectAds hselect, ?_⟩
    refine List.forall_mem_append.mpr ⟨quiet_simulatedFailure hfailed, ?_⟩
    cases failed with
    | true =>
      obtain ⟨rfl, -⟩ := runs_pure.mp h₅
      simp
    | false =>
      obtain ⟨t₁₀, t₁₁, _, rfl, hgc, h₆⟩ := runs_bind.mp h₅
      obtain ⟨rfl, -⟩ := runs_pure.mp h₆
      rw [List.append_nil]
      exact quiet_manualGc hgc

/-- **A request uses the `CPULoad` that it reads.** -/
theorem keeps_getAds {req : AdRequest} {r : Except AdError (List Ad)} (h : Runs (getAds req) t r) :
    firstContract.Keeps t := by
  obtain ⟨t₁, t₂, t₃, read, enabled, rfl, hinstance, hquiet, hexecute⟩ := served_runs h
  obtain ⟨hkeeps, hread⟩ := keeps_getInstance hinstance
  refine Contract.keeps_append.mpr ⟨hkeeps, fun hfine => ?_⟩
  refine ⟨trivial, fun _ => Contract.keeps_of_routine (List.forall_mem_append.mpr ⟨?_, ?_⟩)⟩
  · rcases hexecute with ⟨rfl, -⟩ | ⟨cpuLoad, rfl, hexecute⟩
    · simp
    · exact usesFirst_execute hexecute (hread hfine cpuLoad rfl)
  · exact fun e he => (hquiet e he).usesFirst

end

def AdCall.isCreation : AdCall → Bool
  | newCPULoad => true
  | _ => false

def AdCall.isSpawn : AdCall → Bool
  | spawnLoadWorkers _ _ => true
  | _ => false

/-- The number of `CPULoad`s that are created. -/
def creations {ι : Type} (ls : List (Label ι AdReply Empty)) : Nat :=
  ls.countP fun
    | .call _ e => e.op.isCreation
    | .act _ => false

theorem answers_created {s s' : Jvm} {e : AdEvent} (h : Answers s e.op e.reply s') :
    s'.created = s.created + if e.op.isCreation then 1 else 0 := by
  obtain ⟨op, reply⟩ := e
  cases op with
  | newCPULoad =>
    obtain rfl : s' = { s with created := s.created + 1 } := h.2
    rfl
  | nextInt bound =>
    obtain rfl : s' = s := h.2
    rfl
  | readInstance =>
    obtain rfl : s' = s := h.2
    rfl
  | spawnLoadWorkers cpuLoad n =>
    obtain rfl : s' = s.spawnLoadWorkers cpuLoad n := h
    exact (spawnLoadWorkers_frame s cpuLoad n).1
  | _ =>
    cases h
    rfl

/-- Calls that start no worker leave none where there were none. -/
theorem due_append_eq_zero {i : Nat} {ls ls' : List (Label ι AdReply Empty)} (hdue : due i ls = 0)
    (h : ∀ j e, .call j e ∈ ls' → dueAfter i 0 e = 0) : due i (ls ++ ls') = 0 := by
  induction ls' using List.reverseRecOn with
  | nil =>
    rw [List.append_nil]
    exact hdue
  | append_singleton ls' l ih =>
    have hbefore : due i (ls ++ ls') = 0 := ih fun j e he => h j e (List.mem_append_left _ he)
    cases l with
    | call j e =>
      rw [← List.append_assoc, due_snoc, hbefore]
      exact h j e (by simp)
    | act a => exact a.elim

theorem dueAfter_zero_of_not_spawn {e : AdEvent} (h : e.op.isSpawn = false) (i : Nat) :
    dueAfter i 0 e = 0 := by
  obtain ⟨op, reply⟩ := e
  cases op with
  | spawnLoadWorkers cpuLoad n => cases h
  | stopWorkers cpuLoad => exact ite_self 0
  | _ => rfl

theorem dueAfter_zero_of_usesFirst {e : AdEvent} (h : UsesFirst e.op) {i : Nat} (hi : i ≠ 0) :
    dueAfter i 0 e = 0 := by
  obtain ⟨op, reply⟩ := e
  cases op with
  | spawnLoadWorkers cpuLoad n =>
    obtain rfl : cpuLoad = 0 := h
    exact if_neg hi
  | stopWorkers cpuLoad => exact ite_self 0
  | _ => rfl

section

variable {ι : Type} [DecidableEq ι] {α : Type} {c c' : Config ι AdCall AdReply Jvm α}
  {ls : List (Label ι AdReply Empty)}

/-- A request reads a `CPULoad` that was created before. -/
theorem read_lt_creations (h : Run jvm c ls c') (hfresh : c.shared = {}) :
    c'.shared.created = creations ls ∧
      ∀ i cpuLoad, .call i ⟨.readInstance, some cpuLoad⟩ ∈ ls → cpuLoad < creations ls := by
  induction h with
  | nil =>
    rw [hfresh]
    exact ⟨rfl, by simp⟩
  | @snoc c₁ c₂ ls l _ step ih =>
    obtain ⟨hcreated, hread⟩ := ih
    have hmono : creations (ls ++ [l]) = creations ls + creations [l] := List.countP_append
    cases step with
    | @call s s' procs j o k hproc r h =>
      have hstep : creations [(.call j ⟨o, r⟩ : Label ι AdReply Empty)] =
          if o.isCreation then 1 else 0 := by
        cases hcreation : o.isCreation <;> simp [creations, hcreation]
      have hcreated' := answers_created (e := ⟨o, r⟩) h
      refine ⟨by rw [hmono, hstep, ← hcreated]; exact hcreated', fun i cpuLoad hmem => ?_⟩
      rcases List.mem_append.mp hmem with hold | hnew
      · have := hread i cpuLoad hold
        omega
      · obtain hlabel := List.mem_singleton.mp hnew
        cases hlabel
        have hlt : cpuLoad < s.created := h.1 cpuLoad rfl
        have hs : s.created = creations ls := hcreated
        omega
    | @act _ _ _ a h => exact a.elim

variable {reqs : ι → AdRequest} {c : Config ι AdCall AdReply Jvm (Except AdError (List Ad))}

/-- With one `CPULoad` all calls are on it. -/
theorem usesFirst_of_run (h : Run jvm ⟨{}, fun i => getAds (reqs i)⟩ ls c)
    (hone : creations ls ≤ 1) {i : ι} {e : AdEvent} (he : .call i e ∈ ls) : UsesFirst e.op := by
  obtain ⟨-, hread⟩ := read_lt_creations h rfl
  have hfine : ∀ e ∈ trace i ls, ReadsFirst e := by
    rintro ⟨op, reply⟩ hmem
    cases op with
    | readInstance =>
      rintro cpuLoad rfl
      have := hread i cpuLoad (mem_trace.mp hmem)
      omega
    | _ => trivial
  obtain ⟨t', r, hrun⟩ := (h.steps i).exists_runs
  have hkeeps := (Contract.keeps_append.mp (keeps_getAds hrun)).1
  exact Contract.routine_of_keeps hkeeps hfine e (mem_trace.mpr he)

/-- **The load ends**, in any interleaving of requests of which one has created the only `CPULoad`:
when the workers are stopped and no request starts any after that, no thread runs. -/
theorem load_ends (reqs : ι → AdRequest) (ls before after : List (Label ι AdReply Empty))
    (c : Config ι AdCall AdReply Jvm (Except AdError (List Ad)))
    (h : Run jvm ⟨{}, fun i => getAds (reqs i)⟩ ls c) (hone : creations ls ≤ 1) (i : ι)
    (cpuLoad : Nat) (hls : ls = before ++ .call i ⟨.stopWorkers cpuLoad, ()⟩ :: after)
    (hafter : ∀ j e, .call j e ∈ after → e.op.isSpawn = false) :
    ∀ w, c.shared.shouldRun w = false := by
  obtain ⟨htracked, hdue⟩ := workers_of_run h rfl
  have hfirst : ∀ j e, .call j e ∈ ls → UsesFirst e.op := fun j e he => usesFirst_of_run h hone he
  have hstop : cpuLoad = 0 := hfirst i ⟨.stopWorkers cpuLoad, ()⟩ (by simp [hls])
  have hnone : ∀ k, due k ls = 0 := by
    intro k
    by_cases hk : k = 0
    · have hcleared : due k (before ++ [.call i ⟨.stopWorkers cpuLoad, ()⟩]) = 0 := by
        rw [due_snoc, hk, hstop]
        rfl
      rw [hls, List.append_cons]
      exact due_append_eq_zero hcleared fun j e he => dueAfter_zero_of_not_spawn (hafter j e he) k
    · have hall := @due_append_eq_zero ι k [] ls rfl fun j e he =>
        dueAfter_zero_of_usesFirst (hfirst j e he) hk
      rwa [List.nil_append] at hall
  intro w
  rw [← Bool.not_eq_true, htracked.shouldRun_iff]
  rintro ⟨k, hk⟩
  have hlength := hdue k
  rw [hnone k] at hlength
  rw [List.eq_nil_of_length_eq_zero hlength] at hk
  cases hk

end

/-! ## One request after another -/

/-- A call that reads what was written last. -/
def Latest (s : Jvm) (o : AdCall) (r : AdReply o) (s' : Jvm) : Prop :=
  Answers s o r s' ∧ match o, r with
    | .readInstance, r => r = s.current
    | .readRunning cpuLoad, r => r = (s.cpuLoads cpuLoad).running
    | _, _ => True

/-- The load is on or off: the one `CPULoad`, if it is there already, has four workers or none. -/
structure Switched (s : Jvm) (on : Bool) : Prop where
  tracked : Tracked s
  current : s.current = none ∧ s.created = 0 ∨ s.current = some 0 ∧ s.created = 1
  running : (s.cpuLoads 0).running = on
  length_workers : (s.workers 0).length = if on then threadCount else 0
  others : ∀ i, i ≠ 0 → s.workers i = []

theorem switched_fresh : Switched {} false where
  tracked := tracked_fresh
  current := .inl ⟨rfl, rfl⟩
  running := rfl
  length_workers := rfl
  others _ _ := rfl

section

variable {s s' : Jvm} {t : List AdEvent} {on : Bool}

theorem path_quiet (h : Path Latest s t s') (hquiet : ∀ e ∈ t, IsQuiet e.op) : s' = s := by
  refine @Path.preserves _ _ _ _ _ _ (fun s₁ => s₁ = s) _ h ?_ rfl
  rintro ⟨op, reply⟩ he s₁ s₂ hlatest rfl
  have hop := hquiet _ he
  cases op with
  | getBooleanValue flag => exact hlatest.1
  | nextInt bound => exact hlatest.1.2
  | collectGarbage => exact hlatest.1
  | _ => exact hop.elim

/-- The first request creates the `CPULoad`, and all find it. -/
theorem getInstance_switched {r : Option Nat} (hrun : Runs getInstance t r)
    (h : Path Latest s t s') (hs : Switched s on) :
    Switched s' on ∧ r = some 0 ∧ s'.current = some 0 := by
  have hlast : ∀ {t r s}, Runs (call .readInstance) t r → Path Latest s t s' →
      s' = s ∧ r = s.current := by
    intro t r s hrun h
    obtain ⟨r', t', rfl, hrest⟩ := runs_call.mp hrun
    obtain ⟨rfl, rfl⟩ := runs_pure.mp hrest
    obtain ⟨⟨-, hsame⟩, hread⟩ := path_singleton.mp h
    exact ⟨hsame, hread⟩
  obtain ⟨first, t₁, rfl, h₁⟩ := runs_perform_bind.mp hrun
  obtain ⟨s₁, ⟨⟨-, hsame⟩, hfirst⟩, hpath₁⟩ := path_cons.mp h
  obtain rfl : s₁ = s := hsame
  cases first with
  | none =>
    obtain ⟨created, t₂, rfl, h₂⟩ := runs_perform_bind.mp h₁
    obtain ⟨s₂, ⟨⟨hcreated, rfl⟩, -⟩, hpath₂⟩ := path_cons.mp hpath₁
    obtain ⟨_, t₃, rfl, h₃⟩ := runs_perform_bind.mp h₂
    obtain ⟨s₃, ⟨rfl, -⟩, hpath₃⟩ := path_cons.mp hpath₂
    obtain ⟨rfl, rfl⟩ := hlast h₃ hpath₃
    have hnone : s₁.created = 0 := by
      rcases hs.current with ⟨-, hnone⟩ | ⟨hsome, -⟩
      · exact hnone
      · rw [← hfirst] at hsome
        cases hsome
    have hzero : created = 0 := hcreated.trans hnone
    rw [hzero]
    refine ⟨⟨hs.tracked.of_workers rfl rfl rfl, .inr ⟨rfl, ?_⟩, hs.running, hs.length_workers,
      hs.others⟩, rfl, rfl⟩
    show s₁.created + 1 = 1
    omega
  | some first =>
    obtain ⟨rfl, rfl⟩ := hlast h₁ hpath₁
    have hcurrent : s'.current = some 0 := by
      rcases hs.current with ⟨hnone, -⟩ | ⟨hsome, -⟩
      · rw [hnone] at hfirst
        cases hfirst
      · exact hsome
    exact ⟨hs, hcurrent, hcurrent⟩

/-- **`execute` is a switch.** -/
theorem execute_switched {enabled : Bool} (hrun : Runs (execute 0 enabled) t ())
    (h : Path Latest s t s') (hs : Switched s on) : Switched s' enabled := by
  cases enabled with
  | true =>
    obtain ⟨running, t₁, rfl, h₁⟩ := runs_perform_bind.mp hrun
    obtain ⟨s₁, ⟨hsame, hread⟩, hpath₁⟩ := path_cons.mp h
    obtain rfl : s₁ = s := hsame
    have hrunning : running = on := hread.trans hs.running
    cases running with
    | true =>
      obtain ⟨rfl, -⟩ := runs_pure.mp h₁
      obtain rfl := path_nil.mp hpath₁
      rwa [hrunning]
    | false =>
      obtain ⟨_, t₂, rfl, h₂⟩ := runs_perform_bind.mp h₁
      obtain ⟨s₂, ⟨rfl, -⟩, hpath₂⟩ := path_cons.mp hpath₁
      obtain ⟨_, t₃, rfl, h₃⟩ := runs_call.mp h₂
      obtain ⟨rfl, -⟩ := runs_pure.mp h₃
      obtain ⟨rfl, -⟩ := path_singleton.mp hpath₂
      obtain ⟨hcreated, hcurrent, hothers⟩ := spawnLoadWorkers_frame s₁ 0 threadCount
      have hlength := @length_workers_spawnLoadWorkers s₁ 0 threadCount 0
      have hbefore := hs.length_workers
      rw [← hrunning] at hbefore
      refine ⟨(hs.tracked.spawnLoadWorkers _).of_workers (Jvm.workers_setRunning _) rfl rfl, ?_, ?_,
        ?_, ?_⟩
      · rcases hs.current with ⟨hnone, hzero⟩ | ⟨hsome, hone⟩
        · exact .inl ⟨hcurrent.trans hnone, hcreated.trans hzero⟩
        · exact .inr ⟨hcurrent.trans hsome, hcreated.trans hone⟩
      · simp [Jvm.setRunning]
      · rw [Jvm.workers_setRunning, hlength, hbefore]
        rfl
      · intro i hi
        rw [Jvm.workers_setRunning, hothers i hi, hs.others i hi]
  | false =>
    obtain ⟨_, t₁, rfl, h₁⟩ := runs_perform_bind.mp hrun
    obtain ⟨s₁, ⟨rfl, -⟩, hpath₁⟩ := path_cons.mp h
    obtain ⟨_, t₂, rfl, h₂⟩ := runs_call.mp h₁
    obtain ⟨rfl, -⟩ := runs_pure.mp h₂
    obtain ⟨rfl, -⟩ := path_singleton.mp hpath₁
    have htracked : Tracked (s.setRunning 0 false) :=
      hs.tracked.of_workers (Jvm.workers_setRunning _) rfl rfl
    refine ⟨htracked.stopWorkers, hs.current, ?_, ?_, ?_⟩
    · simp [Jvm.stopWorkers, Jvm.setRunning]
    · rw [Jvm.workers_stopWorkers, if_pos rfl]
      rfl
    · intro i hi
      rw [Jvm.workers_stopWorkers, if_neg hi, Jvm.workers_setRunning, hs.others i hi]

/-- The value of the flag, if the call reads it. -/
def loadFlagOf : AdEvent → Option Bool
  | ⟨.getBooleanValue flag, enabled⟩ => if flag = "adHighCpu" then some enabled else none
  | _ => none

/-- The value of the flag in a request. -/
def loadFlag (t : List AdEvent) : Option Bool := t.findSome? loadFlagOf

theorem loadFlag_getInstance {r : Option Nat} (hrun : Runs getInstance t r) :
    loadFlag t = none := by
  obtain ⟨first, t₁, rfl, h₁⟩ := runs_perform_bind.mp hrun
  cases first with
  | none =>
    obtain ⟨created, t₂, rfl, h₂⟩ := runs_perform_bind.mp h₁
    obtain ⟨_, t₃, rfl, h₃⟩ := runs_perform_bind.mp h₂
    obtain ⟨last, t₄, rfl, h₄⟩ := runs_call.mp h₃
    obtain ⟨rfl, -⟩ := runs_pure.mp h₄
    rfl
  | some first =>
    obtain ⟨last, t₂, rfl, h₂⟩ := runs_call.mp h₁
    obtain ⟨rfl, -⟩ := runs_pure.mp h₂
    rfl

/-- **One request switches the load** to its flag. -/
theorem getAds_switched {req : AdRequest} {r : Except AdError (List Ad)}
    (hrun : Runs (getAds req) t r) (h : Path Latest s t s') (hs : Switched s on) :
    ∃ enabled, loadFlag t = some enabled ∧ Switched s' enabled := by
  obtain ⟨t₁, t₂, t₃, read, enabled, rfl, hinstance, hquiet, hexecute⟩ := served_runs hrun
  obtain ⟨s₁, hpath₁, hrest⟩ := path_append.mp h
  obtain ⟨s₂, hflag, hrest⟩ := path_cons.mp hrest
  obtain ⟨s₃, hpath₂, hpath₃⟩ := path_append.mp hrest
  obtain ⟨hs₁, hread, -⟩ := getInstance_switched hinstance hpath₁ hs
  obtain rfl : s₂ = s₁ := hflag.1
  obtain rfl := path_quiet hpath₃ hquiet
  refine ⟨enabled, ?_, ?_⟩
  · unfold loadFlag
    rw [List.findSome?_append, show t₁.findSome? loadFlagOf = none from
      loadFlag_getInstance hinstance]
    rfl
  · rcases hexecute with ⟨-, hnone⟩ | ⟨cpuLoad, hsome, hexecute⟩
    · rw [hnone] at hread
      cases hread
    · rw [hsome] at hread
      obtain rfl := Option.some.inj hread
      exact execute_switched hexecute hpath₂ hs₁

/-- **The load follows the flag**, where requests come one after another: four threads run after a
request that has found the flag on, none after one that has found it off. -/
theorem load_follows_flag (requests : List (AdRequest × List AdEvent × Except AdError (List Ad)))
    (hruns : ∀ x ∈ requests, Runs (getAds x.1) x.2.1 x.2.2)
    (h : Path Latest {} (requests.flatMap fun x => x.2.1) s') :
    ∃ threads : List Nat, threads.Nodup ∧ (∀ w, s'.shouldRun w = true ↔ w ∈ threads) ∧
      threads.length =
        if (requests.getLast?.bind fun x => loadFlag x.2.1) = some true then threadCount
        else 0 := by
  have hswitched : Switched s'
      ((requests.getLast?.bind fun x => loadFlag x.2.1) = some true : Bool) := by
    induction requests using List.reverseRecOn generalizing s' with
    | nil =>
      obtain rfl := path_nil.mp h
      exact switched_fresh
    | append_singleton requests x ih =>
      rw [List.flatMap_append, List.flatMap_singleton] at h
      obtain ⟨s₁, hbefore, hlast⟩ := path_append.mp h
      have hs₁ := ih (fun y hy => hruns y (List.mem_append_left _ hy)) hbefore
      obtain ⟨enabled, hflag, hs'⟩ := getAds_switched (hruns x (by simp)) hlast hs₁
      rw [List.getLast?_concat, Option.bind_some, hflag]
      simpa using hs'
  refine ⟨s'.workers 0, hswitched.tracked.nodup 0, fun w => ?_, ?_⟩
  · rw [hswitched.tracked.shouldRun_iff]
    constructor
    · rintro ⟨i, hi⟩
      by_cases hzero : i = 0
      · exact hzero ▸ hi
      · rw [hswitched.others i hzero] at hi
        cases hi
    · intro hw
      exact ⟨0, hw⟩
  · rw [hswitched.length_workers]
    simp

end

/-- The first request, which finds the flag on. -/
def loadOn : List AdEvent :=
  [⟨.readInstance, none⟩, ⟨.newCPULoad, 0⟩, ⟨.writeInstance 0, ()⟩, ⟨.readInstance, some 0⟩,
    ⟨.getBooleanValue "adHighCpu", true⟩, ⟨.readRunning 0, false⟩, ⟨.spawnLoadWorkers 0 4, ()⟩,
    ⟨.writeRunning 0 true, ()⟩, ⟨.getBooleanValue "adFailure", false⟩,
    ⟨.getBooleanValue "adManualGc", false⟩]

theorem runs_loadOn : Runs (getAds ⟨["telescopes"]⟩) loadOn (.ok [explorerTelescope]) :=
  .cons _ (.cons _ (.cons _ (.cons _ (.cons _ (.cons _ (.cons _ (.cons _ (.cons _ (.cons _
    (.nil _))))))))))

/-- The next one, which finds it off. -/
def loadOff : List AdEvent :=
  [⟨.readInstance, some 0⟩, ⟨.readInstance, some 0⟩, ⟨.getBooleanValue "adHighCpu", false⟩,
    ⟨.writeRunning 0 false, ()⟩, ⟨.stopWorkers 0, ()⟩, ⟨.getBooleanValue "adFailure", false⟩,
    ⟨.getBooleanValue "adManualGc", false⟩]

theorem runs_loadOff : Runs (getAds ⟨["telescopes"]⟩) loadOff (.ok [explorerTelescope]) :=
  .cons _ (.cons _ (.cons _ (.cons _ (.cons _ (.cons _ (.cons _ (.nil _)))))))

theorem paths_loadOnOff : ∃ s₁ s₂, Path Latest {} loadOn s₁ ∧ Path Latest s₁ loadOff s₂ := by
  have hread : ∀ cpuLoad, some 0 = some cpuLoad → cpuLoad < 0 + 1 := by
    rintro cpuLoad ⟨⟩
    exact Nat.zero_lt_one
  exact ⟨_, _,
    .cons ⟨⟨nofun, rfl⟩, rfl⟩ (.cons ⟨⟨rfl, rfl⟩, trivial⟩ (.cons ⟨rfl, trivial⟩
      (.cons ⟨⟨hread, rfl⟩, rfl⟩ (.cons ⟨rfl, trivial⟩ (.cons ⟨rfl, rfl⟩ (.cons ⟨rfl, trivial⟩
        (.cons ⟨rfl, trivial⟩ (.cons ⟨rfl, trivial⟩ (.cons ⟨rfl, trivial⟩ (.nil _)))))))))),
    .cons ⟨⟨hread, rfl⟩, rfl⟩ (.cons ⟨⟨hread, rfl⟩, rfl⟩ (.cons ⟨rfl, trivial⟩
      (.cons ⟨rfl, trivial⟩ (.cons ⟨rfl, trivial⟩ (.cons ⟨rfl, trivial⟩ (.cons ⟨rfl, trivial⟩
        (.nil _)))))))⟩

/-- Four threads run after the first request, and none after the second. -/
theorem load_follows_flag_on_off : ∃ (s₁ s₂ : Jvm) (threads : List Nat),
    Path Latest {} loadOn s₁ ∧ (∀ w, s₁.shouldRun w = true ↔ w ∈ threads) ∧ threads.length = 4 ∧
      Path Latest s₁ loadOff s₂ ∧ ∀ w, s₂.shouldRun w ≠ true := by
  obtain ⟨s₁, s₂, hon, hoff⟩ := paths_loadOnOff
  obtain ⟨threads, -, hthreads, hlength⟩ := load_follows_flag
    [(⟨["telescopes"]⟩, loadOn, .ok [explorerTelescope])]
    (List.forall_mem_singleton.mpr runs_loadOn) (by simpa using hon)
  obtain ⟨threads', -, hthreads', hlength'⟩ := load_follows_flag
    [(⟨["telescopes"]⟩, loadOn, .ok [explorerTelescope]),
      (⟨["telescopes"]⟩, loadOff, .ok [explorerTelescope])]
    (List.forall_mem_cons.mpr ⟨runs_loadOn, List.forall_mem_singleton.mpr runs_loadOff⟩)
    (path_append.mpr ⟨s₁, hon, by simpa using hoff⟩)
  obtain rfl : threads' = [] := List.eq_nil_of_length_eq_zero hlength'
  refine ⟨s₁, s₂, threads, hon, hthreads, hlength, hoff, fun w hw => ?_⟩
  exact absurd ((hthreads' w).mp hw) List.not_mem_nil

/-! ## Samples -/

/-- Calls answered with the last values that were written, while `adHighCpu` is on as long as there
are fewer than `limit` threads. -/
def respond (limit : Nat) : (o : AdCall) → Jvm → AdReply o × Jvm
  | .getBooleanValue flag, s => (flag == "adHighCpu" && decide (s.threads < limit), s)
  | .nextInt _, s => (0, s)
  | .readInstance, s => (s.current.filter (· < s.created), s)
  | .newCPULoad, s => (s.created, { s with created := s.created + 1 })
  | .writeInstance cpuLoad, s => ((), { s with current := some cpuLoad })
  | .readRunning cpuLoad, s => ((s.cpuLoads cpuLoad).running, s)
  | .writeRunning cpuLoad running, s => ((), s.setRunning cpuLoad running)
  | .spawnLoadWorkers cpuLoad n, s => ((), s.spawnLoadWorkers cpuLoad n)
  | .stopWorkers cpuLoad, s => ((), s.stopWorkers cpuLoad)
  | .collectGarbage, s => ((), s)

theorem answers_respond (limit : Nat) (o : AdCall) (s : Jvm) :
    jvm.answer s o (respond limit o s).1 (respond limit o s).2 := by
  cases o with
  | nextInt bound => exact ⟨id, rfl⟩
  | readInstance =>
    refine ⟨fun cpuLoad h => ?_, rfl⟩
    have hfilter := (Option.filter_eq_some_iff.mp h).2
    exact of_decide_eq_true hfilter
  | newCPULoad => exact ⟨rfl, rfl⟩
  | _ => rfl

/-- A request starts the workers, and the next one stops them. -/
def loadAndStop : List (Label Bool AdReply Empty) ×
    Config Bool AdCall AdReply Jvm (Except AdError (List Ad)) :=
  schedule (respond 1) (List.replicate 12 true ++ List.replicate 12 false)
    ⟨{}, fun _ => getAds ⟨["telescopes"]⟩⟩

/-- The first of the workers has ended. -/
theorem load_ends_loadAndStop : loadAndStop.2.shared.shouldRun 0 = false := by
  have hlast : loadAndStop.1 = loadAndStop.1.take 14 ++
      .call false ⟨.stopWorkers 0, ()⟩ :: loadAndStop.1.drop 15 := rfl
  have hspawn : ((loadAndStop.1.drop 15).all fun l => match l with
      | .call _ e => !e.op.isSpawn
      | .act _ => true) = true := by decide +kernel
  have hafter : ∀ j e, .call j e ∈ loadAndStop.1.drop 15 → e.op.isSpawn = false := fun j e he => by
    simpa using List.all_eq_true.mp hspawn _ he
  exact load_ends (fun _ => ⟨["telescopes"]⟩) loadAndStop.1 _ _ loadAndStop.2
    (run_schedule (answers_respond 1) _ _) (by decide +kernel) false 0 hlast hafter 0

/-- The first two requests find no `CPULoad`, and a third one stops the workers of the second. -/
def twoInstances : List (Label (Fin 3) AdReply Empty) ×
    Config (Fin 3) AdCall AdReply Jvm (Except AdError (List Ad)) :=
  schedule (respond 8)
    ([0, 1] ++ List.replicate 9 0 ++ List.replicate 9 1 ++ List.replicate 7 2)
    ⟨{}, fun _ => getAds ⟨["telescopes"]⟩⟩

/-- A second `CPULoad` takes the place of the first one, whose workers then run for ever. -/
theorem second_instance_leaks :
    ¬ ∀ (ls before after : List (Label (Fin 3) AdReply Empty))
      (c : Config (Fin 3) AdCall AdReply Jvm (Except AdError (List Ad))) (i : Fin 3)
      (cpuLoad : Nat), Run jvm ⟨{}, fun _ => getAds ⟨["telescopes"]⟩⟩ ls c →
      ls = before ++ .call i ⟨.stopWorkers cpuLoad, ()⟩ :: after →
      (∀ j e, .call j e ∈ after → e.op.isSpawn = false) →
      ∀ w, c.shared.shouldRun w = false := by
  intro h
  have hlast : twoInstances.1 = twoInstances.1.take 24 ++
      .call 2 ⟨.stopWorkers 1, ()⟩ :: twoInstances.1.drop 25 := rfl
  have hspawn : ((twoInstances.1.drop 25).all fun l => match l with
      | .call _ e => !e.op.isSpawn
      | .act _ => true) = true := by decide +kernel
  have hstopped := h twoInstances.1 _ _ twoInstances.2 2 1
    (run_schedule (answers_respond 8) _ _) hlast
    (fun j e he => by simpa using List.all_eq_true.mp hspawn _ he) 0
  have hruns : twoInstances.2.shared.shouldRun 0 = true := by decide +kernel
  rw [hruns] at hstopped
  cases hstopped

end AstronomyShop.AdService
