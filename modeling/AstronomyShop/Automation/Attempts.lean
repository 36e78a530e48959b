import AstronomyShop.Automation.Restart
import Mathlib.Algebra.BigOperators.Group.Finset.Piecewise
import Mathlib.Data.List.TakeWhile

/-!
# How often a container is restarted

An exception at some container ends an attempt, and the next attempt begins with the first container
again. So a container is restarted once by every attempt that gets past it (`restarts_eq_card`): a
request that reports success has restarted every container at least once, and some of them up to
five times. Each is restarted at most once exactly when at most one attempt gets past the first.
-/

namespace AstronomyShop.Automation

/-! ## The attempts -/

/-- The number of attempts that `retry` makes. -/
def attemptsMade {α : Type} (body : Nat → Effects α) (n : Nat) : Nat → Nat
  | 0 => 0
  | left + 1 =>
    match (body n).2 with
    | .ok _ => 1
    | .error _ => attemptsMade body (n + 1) left + 1

section

variable {α : Type} {body : Nat → Effects α} {n left : Nat}

theorem attemptsMade_le : attemptsMade body n left ≤ left := by
  induction left generalizing n with
  | zero => exact le_rfl
  | succ left ih =>
    unfold attemptsMade
    split
    · omega
    · have := @ih (n + 1)
      omega

/-- The effects of `retry` are those of its attempts. -/
theorem retry_fst : (retry body n left).1 =
    (List.range' n (attemptsMade body n left)).flatMap fun k => (body k).1 := by
  induction left generalizing n with
  | zero => rfl
  | succ left ih =>
    unfold retry attemptsMade
    split
    · rename_i hok
      rw [hok, List.range'_one, List.flatMap_singleton, hok]
    · rename_i herror
      rw [herror, ih]
      simp [List.range'_succ, herror]

/-- A result is that of the last attempt. -/
theorem retry_ok {a : α} (h : (retry body n left).2 = .ok a) :
    ∃ k, attemptsMade body n left = k + 1 ∧ (body (n + k)).2 = .ok a := by
  induction left generalizing n with
  | zero => cases h
  | succ left ih =>
    unfold retry at h
    unfold attemptsMade
    split at h
    · rename_i hok
      rw [hok]
      exact ⟨0, rfl, by rw [Nat.add_zero, hok]; exact h⟩
    · rename_i herror
      rw [herror]
      obtain ⟨k, hmade, hlast⟩ := ih h
      refine ⟨k + 1, by rw [hmade], ?_⟩
      rw [← hlast]
      congr 2
      omega

end

/-- The attempts of a request. -/
def requestAttempts (docker : Docker) (service : String) : Nat :=
  attemptsMade (attempt docker service) 0 5

/-- The restart raises no exception. -/
def succeeds (restart : Container → Except String Unit) (cont : Container) : Bool :=
  (restart cont).isOk

/-- The containers that attempt number `n` restarts successfully. -/
def succeeded (docker : Docker) (service : String) (n : Nat) : List Container :=
  (attempt docker service n).1.filter (succeeds (docker.restart n))

/-- How often a request restarts a container successfully. -/
def restarts (docker : Docker) (service : String) (cont : Container) : Nat :=
  ((List.range (requestAttempts docker service)).flatMap (succeeded docker service)).count cont

section

variable {docker : Docker} {service : String} {cont : Container} {all : List Container} {n : Nat}

/-- The restarts of a request are those of its attempts. -/
theorem restartService_fst : (restartService docker service).1 =
    (List.range (requestAttempts docker service)).flatMap fun k =>
      (attempt docker service k).1 := by
  rw [List.range_eq_range']
  exact retry_fst

/-! ## One attempt -/

/-- The loop restarts the containers in front of the first that fails. -/
theorem filter_restartEach {restart : Container → Except String Unit}
    (containers : List Container) :
    (restartEach restart containers).1.filter (succeeds restart) =
      containers.takeWhile (succeeds restart) := by
  induction containers with
  | nil => rfl
  | cons first containers ih =>
    unfold restartEach
    cases h : restart first with
    | error err =>
      have hfirst : succeeds restart first = false := by
        unfold succeeds
        rw [h]
        rfl
      simp [hfirst]
    | ok a =>
      have hfirst : succeeds restart first = true := by
        unfold succeeds
        rw [h]
        rfl
      dsimp only
      rw [List.filter_cons_of_pos hfirst, List.takeWhile_cons_of_pos hfirst, ih]

theorem succeeds_of_restartEach_ok {restart : Container → Except String Unit}
    {containers : List Container} (h : (restartEach restart containers).2 = .ok ()) :
    ∀ c ∈ containers, succeeds restart c = true := by
  induction containers with
  | nil => simp
  | cons first containers ih =>
    unfold restartEach at h
    split at h
    · cases h
    · rename_i hok
      rw [List.forall_mem_cons]
      refine ⟨?_, ih h⟩
      unfold succeeds
      rw [hok]
      rfl

/-- An attempt restarts nothing when it cannot list the containers, and otherwise those in front of
the first that fails. -/
theorem succeeded_cases (hdocker : docker.Deploys all) :
    succeeded docker service n = [] ∨
      succeeded docker service n =
        (findContainers all service).takeWhile (succeeds (docker.restart n)) := by
  unfold succeeded attempt
  split
  · exact .inl rfl
  · rename_i hlist
    obtain rfl := hdocker n _ hlist
    dsimp only
    split
    · exact .inl rfl
    · right
      rw [← filter_restartEach]
      split
      · rename_i hrestart
        rw [hrestart]
      · rename_i hrestart
        rw [hrestart]

/-- An attempt that reports success has restarted all of them. -/
theorem succeeded_of_attempt_ok (hdocker : docker.Deploys all) {msg : String}
    (h : (attempt docker service n).2 = .ok (true, msg)) :
    succeeded docker service n = findContainers all service := by
  unfold succeeded
  unfold attempt at h ⊢
  split at h
  · cases h
  · rename_i listed hlist
    obtain rfl : all = listed := (hdocker n _ hlist).symm
    dsimp only at h ⊢
    split at h
    · cases h
    · rename_i hfound
      split at h
      · cases h
      · rename_i hrestart
        have hall := succeeds_of_restartEach_ok (congrArg Prod.snd hrestart)
        have hfilter := @filter_restartEach (docker.restart n) (findContainers all service)
        rw [hrestart, List.takeWhile_eq_self_iff.mpr hall] at hfilter
        rw [if_neg hfound]
        exact hfilter

/-- What an attempt restarts begins with the first container. -/
theorem head_mem_succeeded (hdocker : docker.Deploys all) {first : Container}
    {rest : List Container} (hfound : findContainers all service = first :: rest)
    (h : succeeded docker service n ≠ []) : first ∈ succeeded docker service n := by
  rcases @succeeded_cases docker service all n hdocker with hnone | hsome
  · exact absurd hnone h
  · rw [hsome, hfound] at h ⊢
    by_cases hfirst : succeeds (docker.restart n) first = true
    · rw [List.takeWhile_cons_of_pos hfirst]
      exact List.mem_cons_self
    · rw [List.takeWhile_cons_of_neg hfirst] at h
      exact absurd rfl h

theorem mem_found_of_mem_succeeded (hdocker : docker.Deploys all)
    (h : cont ∈ succeeded docker service n) : cont ∈ findContainers all service := by
  rcases @succeeded_cases docker service all n hdocker with hnone | hsome
  · rw [hnone] at h
    cases h
  · rw [hsome] at h
    exact (List.takeWhile_sublist _).subset h

theorem nodup_succeeded (hdocker : docker.Deploys all) (hnodup : all.Nodup) :
    (succeeded docker service n).Nodup := by
  rcases @succeeded_cases docker service all n hdocker with hnone | hsome
  · rw [hnone]
    exact List.nodup_nil
  · rw [hsome]
    exact (hnodup.filter _).sublist (List.takeWhile_sublist _)

/-! ## All attempts -/

/-- A container is restarted once by every attempt that gets past it. -/
theorem restarts_eq_card (hdocker : docker.Deploys all) (hnodup : all.Nodup) :
    restarts docker service cont = ((Finset.range (requestAttempts docker service)).filter
      fun k => cont ∈ succeeded docker service k).card := by
  unfold restarts
  rw [List.count_flatMap, Finset.card_filter]
  have hcount : List.count cont ∘ succeeded docker service =
      fun k => if cont ∈ succeeded docker service k then 1 else 0 := by
    ext k
    rw [Function.comp_apply, List.Nodup.count (nodup_succeeded hdocker hnodup)]
  rw [hcount]
  rfl

theorem restarts_le (hdocker : docker.Deploys all) (hnodup : all.Nodup) :
    restarts docker service cont ≤ 5 := by
  rw [restarts_eq_card hdocker hnodup]
  calc _ ≤ (Finset.range (requestAttempts docker service)).card := Finset.card_filter_le _ _
    _ = requestAttempts docker service := Finset.card_range _
    _ ≤ 5 := attemptsMade_le

/-- Only containers that match are restarted. -/
theorem restarts_eq_zero (hdocker : docker.Deploys all)
    (hcont : cont ∉ findContainers all service) : restarts docker service cont = 0 := by
  unfold restarts
  rw [List.count_eq_zero]
  intro hmem
  obtain ⟨k, -, hk⟩ := List.mem_flatMap.mp hmem
  exact hcont (mem_found_of_mem_succeeded hdocker hk)

/-- A request that reports success has restarted every container in its last attempt. -/
theorem one_le_restarts (hdocker : docker.Deploys all) (hnodup : all.Nodup) {msg : String}
    (h : (restartService docker service).2 = .ok (true, msg))
    (hcont : cont ∈ findContainers all service) : 1 ≤ restarts docker service cont := by
  obtain ⟨k, hmade, hlast⟩ := retry_ok h
  rw [Nat.zero_add] at hlast
  rw [restarts_eq_card hdocker hnodup, Nat.one_le_iff_ne_zero, Finset.card_ne_zero]
  refine ⟨k, Finset.mem_filter.mpr ⟨?_, ?_⟩⟩
  · rw [Finset.mem_range, requestAttempts, hmade]
    exact Nat.lt_succ_self k
  · rw [succeeded_of_attempt_ok hdocker hlast]
    exact hcont

/-- No two attempts of the request get past the first container. -/
def StartsOnce (docker : Docker) (service : String) : Prop :=
  ∀ j k, j < k → k < requestAttempts docker service →
    succeeded docker service j = [] ∨ succeeded docker service k = []

/-- No container is restarted twice exactly when no two attempts get past the first. -/
theorem restarts_le_one_iff (hdocker : docker.Deploys all) (hnodup : all.Nodup) :
    (∀ c, restarts docker service c ≤ 1) ↔ StartsOnce docker service := by
  simp only [restarts_eq_card hdocker hnodup, Finset.card_le_one, Finset.mem_filter,
    Finset.mem_range]
  constructor
  · intro h j k hjk hk
    by_contra hboth
    rw [not_or] at hboth
    obtain ⟨first, rest, hfound⟩ : ∃ first rest, findContainers all service = first :: rest := by
      obtain ⟨c, hc⟩ := List.exists_mem_of_ne_nil _ hboth.1
      exact List.exists_cons_of_ne_nil (List.ne_nil_of_mem (mem_found_of_mem_succeeded hdocker hc))
    have hsame := h first j ⟨hjk.trans hk, head_mem_succeeded hdocker hfound hboth.1⟩ k
      ⟨hk, head_mem_succeeded hdocker hfound hboth.2⟩
    omega
  · intro h c j ⟨hj, hcj⟩ k ⟨hk, hck⟩
    have hempty : ∀ i, c ∈ succeeded docker service i → succeeded docker service i ≠ [] :=
      fun i hi => List.ne_nil_of_mem hi
    rcases lt_trichotomy j k with hlt | heq | hlt
    · exact absurd (h j k hlt hk) (not_or.mpr ⟨hempty j hcj, hempty k hck⟩)
    · exact heq
    · exact absurd (h k j hlt hj) (not_or.mpr ⟨hempty k hck, hempty j hcj⟩)

/-! ## What the endpoint reports -/

/-- The endpoint answers 200. -/
def ReportsSuccess (docker : Docker) (payload : Payload) : Prop :=
  ∃ response, (restartRoute docker payload).2 = .ok response ∧ response.statusCode = 200

theorem reportsSuccess_iff {payload : Payload} (hnamed : payload.named = some service)
    (hne : service ≠ "") :
    ReportsSuccess docker payload ↔
      ∃ msg, (restartService docker service).2 = .ok (true, msg) := by
  unfold ReportsSuccess restartRoute
  rw [hnamed]
  dsimp only
  rw [if_neg hne]
  split
  · rename_i herror
    rw [herror]
    simp
  · rename_i ok msg hok
    rw [hok]
    cases ok with
    | true => simp
    | false => simp

/-- Each container once when the request reports success, and none twice when it fails. -/
def RestartedOnce (containers : List Container) (docker : Docker) (payload : Payload)
    (service : String) : Prop :=
  (ReportsSuccess docker payload →
    ∀ c ∈ findContainers containers service, restarts docker service c = 1) ∧
  (¬ ReportsSuccess docker payload → ∀ c, restarts docker service c ≤ 1)

end

/-- **How often a request restarts a container.** It does what its attempts do, which restart a
container five times at most, and at least once when it reports success; never more often than they
should exactly when no two attempts get past the first container. -/
theorem restarts_of_request (containers : List Container) (hnodup : containers.Nodup)
    (docker : Docker) (hdocker : docker.Deploys containers) (payload : Payload) (service : String)
    (hnamed : payload.named = some service) (hne : service ≠ "") :
    (restartService docker service).1 = (List.range (requestAttempts docker service)).flatMap
        (fun k => (attempt docker service k).1) ∧
      (∀ c, restarts docker service c ≤ 5) ∧
      (ReportsSuccess docker payload →
        ∀ c ∈ findContainers containers service, 1 ≤ restarts docker service c) ∧
      (RestartedOnce containers docker payload service ↔ StartsOnce docker service) := by
  have hatLeast : ReportsSuccess docker payload →
      ∀ c ∈ findContainers containers service, 1 ≤ restarts docker service c := by
    intro hsuccess c hc
    obtain ⟨msg, hmsg⟩ := (reportsSuccess_iff hnamed hne).mp hsuccess
    exact one_le_restarts hdocker hnodup hmsg hc
  refine ⟨restartService_fst, fun c => restarts_le hdocker hnodup, hatLeast, ?_⟩
  rw [← restarts_le_one_iff hdocker hnodup]
  constructor
  · intro ⟨hsuccess, hfailure⟩ c
    by_cases hreports : ReportsSuccess docker payload
    · by_cases hc : c ∈ findContainers containers service
      · exact (hsuccess hreports c hc).le
      · rw [restarts_eq_zero hdocker hc]
        exact Nat.zero_le 1
    · exact hfailure hreports c
  · intro h
    refine ⟨?_, fun _ => h⟩
    intro hreports c hc
    exact le_antisymm (h c) (hatLeast hreports c hc)

/-- The daemon that fails to restart a container at first. -/
def Docker.failingOnce (containers : List Container) (cont : Container) : Docker where
  list _ := .ok containers
  restart n c := if n = 0 ∧ c = cont then .error "timeout" else .ok ()

theorem Docker.deploys_failingOnce {containers : List Container} {cont : Container} :
    (Docker.failingOnce containers cont).Deploys containers := by
  intro n listed hlisted
  cases hlisted
  rfl

def flagdContainers : List Container := [⟨"flagd", "flagd"⟩, ⟨"flagd-ui", "flagd-ui"⟩]

/-- The first container fails at first. The second attempt restarts both. -/
theorem restarts_of_request_flagd :
    requestAttempts (.failingOnce flagdContainers ⟨"flagd", "flagd"⟩) "flagd" = 2 ∧
      RestartedOnce flagdContainers (.failingOnce flagdContainers ⟨"flagd", "flagd"⟩)
        { service := "flagd" } "flagd" := by
  have hmade : requestAttempts (.failingOnce flagdContainers ⟨"flagd", "flagd"⟩) "flagd" = 2 := by
    decide +kernel
  refine ⟨hmade, (restarts_of_request flagdContainers (by decide) _ Docker.deploys_failingOnce
    { service := "flagd" } "flagd" (by decide +kernel) (by decide)).2.2.2.mpr ?_⟩
  intro j k hjk hk
  obtain rfl : j = 0 := by omega
  exact .inl (by decide +kernel)

/-- The second container fails at first, and the first one is restarted twice. -/
theorem restarted_twice : ¬ ∀ (containers : List Container) (docker : Docker) (payload : Payload)
    (service : String), containers.Nodup → docker.Deploys containers →
      payload.named = some service → service ≠ "" →
        RestartedOnce containers docker payload service := by
  intro h
  have honce := (h flagdContainers (.failingOnce flagdContainers ⟨"flagd-ui", "flagd-ui"⟩)
    { service := "flagd" } "flagd" (by decide) Docker.deploys_failingOnce (by decide +kernel)
    (by decide)).1 ⟨_, rfl, by decide +kernel⟩ ⟨"flagd", "flagd"⟩ (by decide +kernel)
  exact absurd honce (by decide +kernel)

end AstronomyShop.Automation
