import Mathlib.Tactic.Common

/-!
# Restarting a service

The endpoint `/restart-service` of the response automation restarts the containers whose name
starts with the name of the service, up to five times while something fails. Container names are
service names in the compose file, and some of them start with another one, as `frontend-proxy`
starts with `frontend`.
-/

namespace AstronomyShop.Automation

/-! ## Docker -/

structure Container where
  name : String
  service : String
  deriving DecidableEq

/-- How the Docker daemon answers in each attempt. -/
structure Docker where
  list : Nat → Except String (List Container)
  restart : Nat → Container → Except String Unit

/-- What was restarted, and how it ended. An exception is the `error` case. -/
abbrev Effects (α : Type) := List Container × Except String α

/-! ## The functions of the service -/

def startswith (s start : String) : Bool := start.toList.isPrefixOf s.toList

def findContainers (all : List Container) (serviceName : String) : List Container :=
  all.filter fun c => startswith c.name serviceName

/-- The loop over the containers. -/
def restartEach (restart : Container → Except String Unit) : List Container → Effects Unit
  | [] => ([], .ok ())
  | cont :: containers =>
    match restart cont with
    | .error err => ([cont], .error err)
    | .ok () => (cont :: (restartEach restart containers).1, (restartEach restart containers).2)

/-- The body of `_restart_service`. -/
def attempt (docker : Docker) (service : String) (n : Nat) : Effects (Bool × String) :=
  match docker.list n with
  | .error err => ([], .error err)
  | .ok all =>
    let containers := findContainers all service
    if containers = [] then
      ([], .ok (false, "Service " ++ service ++ " not found"))
    else
      match restartEach (docker.restart n) containers with
      | (restarted, .error err) => (restarted, .error err)
      | (restarted, .ok ()) =>
        (restarted, .ok (true, "Restarted " ++ toString containers.length ++ " container(s) for " ++
          service))

/-- `@retry`: `left` more attempts, of which the next is number `n`. -/
def retry {α : Type} (body : Nat → Effects α) (n : Nat) : Nat → Effects α
  | 0 => ([], .error "RetryError")
  | left + 1 =>
    match body n with
    | (restarted, .ok a) => (restarted, .ok a)
    | (restarted, .error _) =>
      (restarted ++ (retry body (n + 1) left).1, (retry body (n + 1) left).2)

def restartService (docker : Docker) (service : String) : Effects (Bool × String) :=
  retry (attempt docker service) 0 5

/-- The fields of the request that may name the service. -/
structure Payload where
  component : Option String := none
  service : Option String := none
  serviceName : Option String := none

/-- `or` of Python on texts that may be missing. -/
def orElse (a b : Option String) : Option String := if a.getD "" = "" then b else a

def Payload.named (p : Payload) : Option String :=
  orElse (orElse p.component p.service) p.serviceName

structure Response where
  statusCode : Nat
  field : String
  text : String
  deriving DecidableEq

/-- The route; an exception becomes the 500 of the framework. -/
def restartRoute (docker : Docker) (payload : Payload) : Effects Response :=
  match payload.named with
  | none => ([], .ok ⟨400, "error", "No service name in payload"⟩)
  | some service =>
    if service = "" then
      ([], .ok ⟨400, "error", "No service name in payload"⟩)
    else
      match restartService docker service with
      | (restarted, .error err) => (restarted, .error err)
      | (restarted, .ok (ok, msg)) => (restarted, .ok ⟨if ok then 200 else 500, "message", msg⟩)

/-! ## What is restarted -/

section

variable {docker : Docker} {service : String} {cont : Container} {all : List Container}

theorem startswith_iff {s start : String} :
    startswith s start = true ↔ start.toList <+: s.toList := List.isPrefixOf_iff_prefix

theorem mem_findContainers : cont ∈ findContainers all service ↔
    cont ∈ all ∧ service.toList <+: cont.name.toList := by
  rw [findContainers, List.mem_filter, startswith_iff]

theorem mem_restartEach {restart : Container → Except String Unit} {containers : List Container}
    (h : cont ∈ (restartEach restart containers).1) : cont ∈ containers := by
  induction containers with
  | nil => cases h
  | cons first containers ih =>
    unfold restartEach at h
    split at h
    · rw [List.mem_singleton.mp h]
      exact List.mem_cons_self
    · rcases List.mem_cons.mp h with rfl | h
      · exact List.mem_cons_self
      · exact List.mem_cons_of_mem _ (ih h)

/-- Without a failure all of them are restarted. -/
theorem restartEach_ok {restart : Container → Except String Unit} (h : ∀ c, restart c = .ok ())
    (containers : List Container) : restartEach restart containers = (containers, .ok ()) := by
  induction containers with
  | nil => rfl
  | cons first containers ih =>
    unfold restartEach
    rw [h first, ih]

/-- Every listing that succeeds gives the deployed containers. -/
def Docker.Deploys (docker : Docker) (containers : List Container) : Prop :=
  ∀ n all, docker.list n = .ok all → all = containers

theorem mem_attempt (hdocker : docker.Deploys all) {n : Nat}
    (h : cont ∈ (attempt docker service n).1) : cont ∈ findContainers all service := by
  unfold attempt at h
  split at h
  · cases h
  · rename_i hlist
    obtain rfl := hdocker n _ hlist
    dsimp only at h
    split at h
    · cases h
    · split at h
      · rename_i hrestart
        exact mem_restartEach (by rw [hrestart]; exact h)
      · rename_i hrestart
        exact mem_restartEach (by rw [hrestart]; exact h)

/-- **What one attempt keeps to, all attempts keep to.** -/
theorem mem_retry {α : Type} {body : Nat → Effects α} {P : Container → Prop}
    (hbody : ∀ n, ∀ c ∈ (body n).1, P c) {n left : Nat} (h : cont ∈ (retry body n left).1) :
    P cont := by
  induction left generalizing n with
  | zero => cases h
  | succ left ih =>
    unfold retry at h
    split at h
    · rename_i hok
      exact hbody n cont (by rw [hok]; exact h)
    · rename_i herror
      rcases List.mem_append.mp h with h | h
      · exact hbody n cont (by rw [herror]; exact h)
      · exact ih h

theorem mem_restartService (hdocker : docker.Deploys all)
    (h : cont ∈ (restartService docker service).1) :
    cont ∈ all ∧ service.toList <+: cont.name.toList := by
  have hbody : ∀ n, ∀ c ∈ (attempt docker service n).1,
      c ∈ all ∧ service.toList <+: c.name.toList := by
    intro n c hc
    exact mem_findContainers.mp (mem_attempt hdocker hc)
  exact mem_retry hbody h

/-- The daemon that answers every time. -/
def Docker.working (containers : List Container) : Docker where
  list _ := .ok containers
  restart _ _ := .ok ()

theorem Docker.deploys_working : (Docker.working all).Deploys all := by
  intro n listed hlisted
  cases hlisted
  rfl

/-- With nothing failing, the first attempt restarts all containers found. -/
theorem restartService_working :
    (restartService (.working all) service).1 = findContainers all service := by
  have hattempt : ∃ answer,
      attempt (.working all) service 0 = (findContainers all service, .ok answer) := by
    unfold attempt
    dsimp only [Docker.working]
    rw [restartEach_ok (fun _ => rfl)]
    by_cases hfound : findContainers all service = []
    · rw [if_pos hfound, hfound]
      exact ⟨_, rfl⟩
    · rw [if_neg hfound]
      exact ⟨_, rfl⟩
  obtain ⟨answer, hanswer⟩ := hattempt
  unfold restartService retry
  rw [hanswer]

/-- The named service alone is restarted exactly when no other name starts with its name. -/
theorem restartService_only_iff (hconvention : ∀ c ∈ all, c.name = c.service) :
    (∀ docker : Docker, docker.Deploys all →
      ∀ c ∈ (restartService docker service).1, c.service = service) ↔
      ∀ c ∈ all, service.toList <+: c.name.toList → c.name = service := by
  constructor
  · intro h c hc hstarts
    have hrestarted : c ∈ (restartService (.working all) service).1 := by
      rw [restartService_working]
      exact mem_findContainers.mpr ⟨hc, hstarts⟩
    rw [hconvention c hc]
    exact h _ Docker.deploys_working c hrestarted
  · intro h docker hdocker c hc
    obtain ⟨hmem, hstarts⟩ := mem_restartService hdocker hc
    rw [← hconvention c hmem]
    exact h c hmem hstarts

theorem restartRoute_named {payload : Payload} (hnamed : payload.named = some service)
    (hne : service ≠ "") :
    (restartRoute docker payload).1 = (restartService docker service).1 := by
  unfold restartRoute
  rw [hnamed]
  dsimp only
  rw [if_neg hne]
  split
  · rename_i herror
    rw [herror]
  · rename_i hok
    rw [hok]

/-- A request that names no service restarts nothing. -/
theorem restartRoute_unnamed {payload : Payload}
    (h : ∀ service, payload.named = some service → service = "") :
    (restartRoute docker payload).1 = [] := by
  unfold restartRoute
  split
  · rfl
  · rename_i hnamed
    rw [if_pos (h _ hnamed)]

end

/-- **A request restarts the named service alone exactly when** no other deployed container has a
name that starts with the name of the service. -/
theorem restarts_only_service_iff (containers : List Container)
    (hconvention : ∀ c ∈ containers, c.name = c.service) (payload : Payload) :
    (∀ docker : Docker, docker.Deploys containers →
      ∀ c ∈ (restartRoute docker payload).1, payload.named = some c.service) ↔
      ∀ service, payload.named = some service → service ≠ "" →
        ∀ c ∈ containers, service.toList <+: c.name.toList → c.name = service := by
  by_cases hservice : ∃ service, payload.named = some service ∧ service ≠ ""
  · obtain ⟨service, hnamed, hne⟩ := hservice
    have honly := @restartService_only_iff service _ hconvention
    simp only [restartRoute_named hnamed hne, hnamed, Option.some.injEq]
    constructor
    · rintro h _ rfl _
      apply honly.mp
      intro docker hdocker c hc
      exact (h docker hdocker c hc).symm
    · intro h docker hdocker c hc
      exact (honly.mpr (h service rfl hne) docker hdocker c hc).symm
  · have hempty : ∀ service, payload.named = some service → service = "" := by
      intro service hnamed
      by_contra hne
      exact hservice ⟨service, hnamed, hne⟩
    constructor
    · intro _ service hnamed hne
      exact absurd (hempty service hnamed) hne
    · intro _ docker _ c hc
      rw [restartRoute_unnamed hempty] at hc
      cases hc

/-- A restart of `cart` restarts nothing else. -/
theorem restarts_only_cart :
    ¬ ∃ c ∈ (restartRoute (.working [⟨"frontend", "frontend"⟩, ⟨"cart", "cart"⟩])
      { service := "cart" }).1, c.service ≠ "cart" := by
  have honly := (restarts_only_service_iff [⟨"frontend", "frontend"⟩, ⟨"cart", "cart"⟩]
    (by decide) { service := "cart" }).mpr
  intro ⟨c, hc, hne⟩
  have hcart : some "cart" = some c.service := by
    apply honly _ _ Docker.deploys_working c hc
    intro service hservice _
    cases hservice
    decide +kernel
  exact hne (Option.some.inj hcart).symm

/-- A restart of `frontend` restarts `frontend-proxy`. -/
theorem proxy_restarted : ¬ ∀ containers : List Container,
    (∀ c ∈ containers, c.name = c.service) → ∀ (payload : Payload) (docker : Docker),
      docker.Deploys containers →
        ∀ c ∈ (restartRoute docker payload).1, payload.named = some c.service := by
  intro h
  have hproxy := h [⟨"frontend", "frontend"⟩, ⟨"frontend-proxy", "frontend-proxy"⟩] (by decide)
    { service := "frontend" } _ Docker.deploys_working ⟨"frontend-proxy", "frontend-proxy"⟩
    (by decide +kernel)
  exact absurd hproxy (by decide +kernel)

end AstronomyShop.Automation
