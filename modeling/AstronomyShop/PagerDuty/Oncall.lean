import AstronomyShop.Library.Interleaving
import Mathlib.Data.List.Nodup

/-!
# Who is on call

`ensure_team_has_real_oncall` of the PagerDuty helpers: the first escalation policy of every known
team is looked up, and then each is rewritten, that of one team with the real users and the others
with the dummy users. Every request can fail, and one that fails may have been carried out.

* `written_prefix`: what a call leaves behind, wherever it fails.
* `real_users_on_call`: after a call that succeeds, the real users are on call for the team, and for
  no other; but not if a later team has the same policy.
-/

namespace AstronomyShop.PagerDuty

open Interaction

/-! ## Writes to a map -/

section

variable {K V : Type} [DecidableEq K] {p : K → V} {k : K} {v : V}

/-- The map after some writes, one after another. -/
def writeAll (p : K → V) (writes : List (K × V)) : K → V :=
  writes.foldl (fun p w => Function.update p w.1 w.2) p

theorem writeAll_append (p : K → V) (ws ws' : List (K × V)) :
    writeAll p (ws ++ ws') = writeAll (writeAll p ws) ws' := List.foldl_append

theorem writeAll_of_not_mem {writes : List (K × V)} (h : k ∉ writes.map Prod.fst) :
    writeAll p writes k = p k := by
  induction writes generalizing p with
  | nil => rfl
  | cons w ws ih =>
    rw [List.map_cons] at h
    have hrest : writeAll (Function.update p w.1 w.2) ws k = Function.update p w.1 w.2 k :=
      ih (List.not_mem_of_not_mem_cons h)
    rw [Function.update_of_ne (List.ne_of_not_mem_cons h)] at hrest
    exact hrest

/-- The last write to a key decides. -/
theorem exists_of_writeAll {writes : List (K × V)} (h : k ∈ writes.map Prod.fst) :
    ∃ v, (k, v) ∈ writes ∧ writeAll p writes k = v := by
  induction writes generalizing p with
  | nil => cases h
  | cons w ws ih =>
    by_cases hlater : k ∈ ws.map Prod.fst
    · obtain ⟨v, hv, heq⟩ := ih (p := Function.update p w.1 w.2) hlater
      exact ⟨v, List.mem_cons_of_mem w hv, heq⟩
    · obtain rfl : k = w.1 := (List.mem_cons.mp h).resolve_right hlater
      refine ⟨w.2, List.mem_cons_self, ?_⟩
      have hrest : writeAll (Function.update p w.1 w.2) ws w.1 =
          Function.update p w.1 w.2 w.1 := writeAll_of_not_mem hlater
      rw [Function.update_self] at hrest
      exact hrest

end

/-! ## The account -/

structure EscalationRule where
  escalationDelayInMinutes : Nat
  targets : List (String × String)
  deriving DecidableEq

/-- The escalation policies of each team, and the rules of each policy. -/
structure Account where
  teams : String → Option (List String)
  policies : String → List EscalationRule

inductive PdCall where
  | getTeam (teamId : String)
  | putPolicy (epId : String) (rules : List EscalationRule)

abbrev PdReply : PdCall → Type
  | .getTeam _ => Except String (List String)
  | .putPolicy _ _ => Except String Unit

abbrev Helper := Program PdCall PdReply

abbrev call (o : PdCall) : Helper (PdReply o) := Program.perform o

def Account.put (s : Account) (epId : String) (rules : List EscalationRule) : Account :=
  { s with policies := Function.update s.policies epId rules }

/-- How the account answers: any request may fail, and a write that fails may have taken place. -/
def Answers (s : Account) : (o : PdCall) → PdReply o → Account → Prop
  | .getTeam teamId, r, s' => s' = s ∧ ∀ eps, r = .ok eps → s.teams teamId = some eps
  | .putPolicy epId rules, r, s' => s' = s.put epId rules ∨ (s' = s ∧ r ≠ .ok ())

/-! ## The helpers -/

/-- The environment: users, and the team of each key of `PD_TEAM_MAP`. -/
structure Env where
  realUsers : List String
  dummyUsers : List String
  teamMap : List (String × String)
  nodup : (teamMap.map Prod.fst).Nodup

inductive PdError where
  | keyError (text : String)
  | runtimeError (text : String)
  | http (text : String)

def rewriteRules (userIds : List String) : List EscalationRule :=
  userIds.map fun uid => ⟨5, [(uid, "user_reference")]⟩

def rewriteEscalationPolicy (epId : String) (userIds : List String) :
    Helper (Except PdError Unit) := do
  match ← call (.putPolicy epId (rewriteRules userIds)) with
  | .error err => return .error (.http err)
  | .ok () => return .ok ()

def firstEscalationPolicyId (teamId : String) : Helper (Except PdError String) := do
  match ← call (.getTeam teamId) with
  | .error err => return .error (.http err)
  | .ok [] => return .error (.runtimeError ("Team " ++ teamId ++ " has no escalation policy"))
  | .ok (ep :: _) => return .ok ep

/-- The comprehension that looks up the policy of every team. -/
def firstPolicies : List (String × String) → Helper (Except PdError (List (String × String)))
  | [] => return .ok []
  | (key, teamId) :: teamMap => do
    match ← firstEscalationPolicyId teamId with
    | .error err => return .error err
    | .ok ep =>
      match ← firstPolicies teamMap with
      | .error err => return .error err
      | .ok teams => return .ok ((key, ep) :: teams)

def desiredUsers (env : Env) (teamKey key : String) : List String :=
  if key = teamKey then env.realUsers else env.dummyUsers

def rewriteTeams (env : Env) (teamKey : String) :
    List (String × String) → Helper (Except PdError Unit)
  | [] => return .ok ()
  | (key, ep) :: teams => do
    match ← rewriteEscalationPolicy ep (desiredUsers env teamKey key) with
    | .error err => return .error err
    | .ok () => rewriteTeams env teamKey teams

def ensureTeamHasRealOncall (env : Env) (teamKey : String) : Helper (Except PdError Unit) :=
  if teamKey ∈ env.teamMap.map Prod.fst then do
    match ← firstPolicies env.teamMap with
    | .error err => return .error err
    | .ok teams => rewriteTeams env teamKey teams
  else
    return .error (.keyError ("Team key '" ++ teamKey ++ "' not in PD_TEAM_MAP env var"))

/-! ## What a call does -/

/-- A team of the map with its first policy. -/
def HasFirstPolicy (s : Account) (team : String × String) (found : String × String) : Prop :=
  found.1 = team.1 ∧ ∃ eps, s.teams team.2 = some (found.2 :: eps)

/-- The writes of a call. -/
def writes (env : Env) (teamKey : String) (teams : List (String × String)) :
    List (String × List EscalationRule) :=
  teams.map fun team => (team.2, rewriteRules (desiredUsers env teamKey team.1))

/-- The teams of the map with their first policies, in the order of the map. -/
def FirstPolicies (s : Account) : List (String × String) → List (String × String) → Prop :=
  List.Forall₂ (HasFirstPolicy s)

variable {env : Env} {teamKey : String} {s s' : Account}

theorem served_firstEscalationPolicyId {teamId : String} {r : Except PdError String}
    (h : Served Answers (firstEscalationPolicyId teamId) s r s') :
    s' = s ∧ ∀ ep, r = .ok ep → ∃ eps, s.teams teamId = some (ep :: eps) := by
  obtain ⟨reply, s₁, ⟨rfl, hreply⟩, h₁⟩ := served_call.mp h
  cases reply with
  | error err =>
    obtain ⟨rfl, rfl⟩ := served_pure.mp h₁
    exact ⟨rfl, nofun⟩
  | ok eps =>
    cases eps with
    | nil =>
      obtain ⟨rfl, rfl⟩ := served_pure.mp h₁
      exact ⟨rfl, nofun⟩
    | cons ep eps =>
      obtain ⟨rfl, rfl⟩ := served_pure.mp h₁
      refine ⟨rfl, ?_⟩
      intro ep' hep
      cases hep
      exact ⟨eps, hreply _ rfl⟩

theorem served_firstPolicies {teamMap : List (String × String)}
    {r : Except PdError (List (String × String))}
    (h : Served Answers (firstPolicies teamMap) s r s') :
    s' = s ∧ ∀ teams, r = .ok teams → FirstPolicies s teamMap teams := by
  induction teamMap generalizing r s' with
  | nil =>
    obtain ⟨rfl, rfl⟩ := served_pure.mp h
    refine ⟨rfl, ?_⟩
    intro teams hteams
    cases hteams
    exact .nil
  | cons team teamMap ih =>
    obtain ⟨r₁, s₁, hfirst, h₁⟩ := served_bind.mp h
    obtain ⟨rfl, hep⟩ := served_firstEscalationPolicyId hfirst
    cases r₁ with
    | error err =>
      obtain ⟨rfl, rfl⟩ := served_pure.mp h₁
      exact ⟨rfl, nofun⟩
    | ok ep =>
      obtain ⟨r₂, s₂, hrest, h₂⟩ := served_bind.mp h₁
      obtain ⟨rfl, hteams⟩ := ih hrest
      cases r₂ with
      | error err =>
        obtain ⟨rfl, rfl⟩ := served_pure.mp h₂
        exact ⟨rfl, nofun⟩
      | ok teams =>
        obtain ⟨rfl, rfl⟩ := served_pure.mp h₂
        refine ⟨rfl, ?_⟩
        intro teams' heq
        cases heq
        exact .cons ⟨rfl, hep ep rfl⟩ (hteams teams rfl)

theorem served_rewriteEscalationPolicy {ep : String} {userIds : List String}
    {r : Except PdError Unit} (h : Served Answers (rewriteEscalationPolicy ep userIds) s r s') :
    s' = s.put ep (rewriteRules userIds) ∨ (s' = s ∧ r ≠ .ok ()) := by
  obtain ⟨reply, s₁, hreply, h₁⟩ := served_call.mp h
  cases reply with
  | error err =>
    obtain ⟨rfl, rfl⟩ := served_pure.mp h₁
    rcases hreply with hput | ⟨hsame, -⟩
    · exact .inl hput
    · exact .inr ⟨hsame, nofun⟩
  | ok _ =>
    obtain ⟨rfl, rfl⟩ := served_pure.mp h₁
    rcases hreply with hput | ⟨-, hnot⟩
    · exact .inl hput
    · exact absurd rfl hnot

/-- A call that rewrites the policies of some teams stops after some of them; it has rewritten all of
them if it succeeds. -/
theorem served_rewriteTeams {teams : List (String × String)} {r : Except PdError Unit}
    (h : Served Answers (rewriteTeams env teamKey teams) s r s') :
    s'.teams = s.teams ∧ ∃ done rest, teams = done ++ rest ∧
      s'.policies = writeAll s.policies (writes env teamKey done) ∧ (r = .ok () → rest = []) := by
  induction teams generalizing s with
  | nil =>
    obtain ⟨rfl, rfl⟩ := served_pure.mp h
    exact ⟨rfl, [], [], rfl, rfl, fun _ => rfl⟩
  | cons team teams ih =>
    obtain ⟨r₁, s₁, hput, h₁⟩ := served_bind.mp h
    cases r₁ with
    | error err =>
      obtain ⟨rfl, rfl⟩ := served_pure.mp h₁
      rcases served_rewriteEscalationPolicy hput with rfl | ⟨rfl, -⟩
      · exact ⟨rfl, [team], teams, rfl, rfl, nofun⟩
      · exact ⟨rfl, [], team :: teams, rfl, rfl, nofun⟩
    | ok _ =>
      obtain rfl := (served_rewriteEscalationPolicy hput).resolve_right fun hnot => hnot.2 rfl
      obtain ⟨hteams, done, rest, rfl, hpolicies, hrest⟩ := ih h₁
      exact ⟨hteams, team :: done, rest, rfl, hpolicies, hrest⟩

/-- **What a call leaves behind**: in the order of the map, the policies of some of the teams have
been rewritten, those of all teams if it succeeds. -/
theorem written_prefix {r : Except PdError Unit}
    (h : Served Answers (ensureTeamHasRealOncall env teamKey) s r s') :
    s'.teams = s.teams ∧ ((s'.policies = s.policies ∧ r ≠ .ok ()) ∨
      ∃ done rest, FirstPolicies s env.teamMap (done ++ rest) ∧
        s'.policies = writeAll s.policies (writes env teamKey done) ∧
          (r = .ok () → teamKey ∈ env.teamMap.map Prod.fst ∧ rest = [])) := by
  unfold ensureTeamHasRealOncall at h
  split at h <;> rename_i hkey
  · obtain ⟨r₁, s₁, hfirst, h₁⟩ := served_bind.mp h
    obtain ⟨rfl, hteams⟩ := served_firstPolicies hfirst
    cases r₁ with
    | error err =>
      obtain ⟨rfl, rfl⟩ := served_pure.mp h₁
      exact ⟨rfl, .inl ⟨rfl, nofun⟩⟩
    | ok teams =>
      obtain ⟨hsame, done, rest, rfl, hpolicies, hrest⟩ := served_rewriteTeams h₁
      exact ⟨hsame, .inr ⟨done, rest, hteams _ rfl, hpolicies, fun hr => ⟨hkey, hrest hr⟩⟩⟩
  · obtain ⟨rfl, rfl⟩ := served_pure.mp h
    exact ⟨rfl, .inl ⟨rfl, nofun⟩⟩

/-! ## Who is on call after it -/

theorem rewriteRules_injective : Function.Injective rewriteRules := by
  apply List.map_injective_iff.mpr
  intro uid uid' h
  simpa using h

/-- The looked up policies have the keys of the map. -/
theorem FirstPolicies.keys {teamMap teams : List (String × String)}
    (h : FirstPolicies s teamMap teams) : teams.map Prod.fst = teamMap.map Prod.fst := by
  induction h with
  | nil => rfl
  | cons hfirst _ ih => rw [List.map_cons, List.map_cons, hfirst.1, ih]

theorem FirstPolicies.exists_team {teamMap teams : List (String × String)}
    (h : FirstPolicies s teamMap teams) {found : String × String} (hfound : found ∈ teams) :
    ∃ team ∈ teamMap, HasFirstPolicy s team found := by
  induction h with
  | nil => cases hfound
  | cons hfirst _ ih =>
    rcases List.mem_cons.mp hfound with rfl | hfound
    · exact ⟨_, List.mem_cons_self, hfirst⟩
    · obtain ⟨team, hteam, hhas⟩ := ih hfound
      exact ⟨team, List.mem_cons_of_mem _ hteam, hhas⟩

/-- A key of the map stands there once. -/
theorem key_not_mem {pre post : List (String × String)} {key ep : String}
    (h : ((pre ++ (key, ep) :: post).map Prod.fst).Nodup) :
    key ∉ pre.map Prod.fst ∧ key ∉ post.map Prod.fst := by
  rw [List.map_append, List.map_cons, List.nodup_middle, List.nodup_cons, List.mem_append,
    not_or] at h
  exact h.1

theorem mem_writes {teams : List (String × String)} {ep : String} {rules : List EscalationRule} :
    (ep, rules) ∈ writes env teamKey teams ↔
      ∃ key, (key, ep) ∈ teams ∧ rules = rewriteRules (desiredUsers env teamKey key) := by
  unfold writes
  rw [List.mem_map]
  constructor
  · rintro ⟨team, hteam, heq⟩
    cases heq
    exact ⟨team.1, hteam, rfl⟩
  · rintro ⟨key, hkey, rfl⟩
    exact ⟨(key, ep), hkey, rfl⟩

theorem map_fst_writes (teams : List (String × String)) :
    (writes env teamKey teams).map Prod.fst = teams.map Prod.snd := by
  unfold writes
  rw [List.map_map]
  rfl

/-- A policy that a call has rewritten has the users of a team that has it. -/
theorem exists_of_writes {policies : String → List EscalationRule}
    {teams : List (String × String)} {ep : String} (h : ep ∈ teams.map Prod.snd) :
    ∃ key, (key, ep) ∈ teams ∧ writeAll policies (writes env teamKey teams) ep =
      rewriteRules (desiredUsers env teamKey key) := by
  rw [← map_fst_writes] at h
  obtain ⟨rules, hrules, heq⟩ := exists_of_writeAll (p := policies) h
  obtain ⟨key, hkey, rfl⟩ := mem_writes.mp hrules
  exact ⟨key, hkey, heq⟩

/-- The team whose policy is written last decides. -/
theorem writes_target_iff {policies : String → List EscalationRule}
    {pre post : List (String × String)} {ep : String} (husers : env.realUsers ≠ env.dummyUsers)
    (hpost : teamKey ∉ post.map Prod.fst) :
    writeAll policies (writes env teamKey (pre ++ (teamKey, ep) :: post)) ep =
        rewriteRules env.realUsers ↔ ep ∉ post.map Prod.snd := by
  have hsplit : writes env teamKey (pre ++ (teamKey, ep) :: post) =
      (writes env teamKey pre ++ [(ep, rewriteRules env.realUsers)]) ++ writes env teamKey post := by
    simp [writes, desiredUsers]
  rw [hsplit, writeAll_append]
  constructor
  · intro hreal hlater
    obtain ⟨key, hkey, heq⟩ := exists_of_writes hlater
    rw [heq] at hreal
    have hne : key ≠ teamKey := by
      rintro rfl
      exact hpost (List.mem_map_of_mem hkey)
    rw [desiredUsers, if_neg hne] at hreal
    exact husers (rewriteRules_injective hreal).symm
  · intro hlater
    rw [← map_fst_writes] at hlater
    rw [writeAll_of_not_mem hlater, writeAll_append]
    exact Function.update_self ..

/-- **The real users are on call for one team.** Whatever happens, a call changes only first
policies of the teams, and only to what it is meant to. When it succeeds, every policy that is not
that of the team has the dummy users; and the policy of the team has the real users if and only if
no later team of the map has the same one. -/
theorem real_users_on_call (env : Env) (teamKey : String) (s s' : Account)
    (r : Except PdError Unit) (h : Served Answers (ensureTeamHasRealOncall env teamKey) s r s') :
    (∀ ep, s'.policies ep ≠ s.policies ep → ∃ team found, team ∈ env.teamMap ∧
      HasFirstPolicy s team found ∧ found.2 = ep ∧
        s'.policies ep = rewriteRules (desiredUsers env teamKey found.1)) ∧
    (r = .ok () → ∃ pre ep post, FirstPolicies s env.teamMap (pre ++ (teamKey, ep) :: post) ∧
      (∀ found ∈ pre ++ post, found.2 ≠ ep →
        s'.policies found.2 = rewriteRules env.dummyUsers) ∧
      (env.realUsers ≠ env.dummyUsers →
        (s'.policies ep = rewriteRules env.realUsers ↔ ep ∉ post.map Prod.snd))) := by
  obtain ⟨-, ⟨hsame, hnot⟩ | ⟨done, rest, hfirst, hpolicies, hok⟩⟩ := written_prefix h
  · exact ⟨fun ep hne => absurd (congrFun hsame ep) hne, fun hr => absurd hr hnot⟩
  · constructor
    · intro ep hne
      rw [hpolicies] at hne ⊢
      have hmem : ep ∈ done.map Prod.snd := by
        by_contra hnot
        rw [← map_fst_writes] at hnot
        exact hne (writeAll_of_not_mem hnot)
      obtain ⟨key, hkey, heq⟩ := exists_of_writes hmem
      obtain ⟨team, hteam, hfound⟩ :=
        FirstPolicies.exists_team hfirst (List.mem_append_left rest hkey)
      exact ⟨team, (key, ep), hteam, hfound, rfl, heq⟩
    · intro hr
      obtain ⟨hkey, rfl⟩ := hok hr
      rw [List.append_nil] at hfirst
      rw [← FirstPolicies.keys hfirst] at hkey
      obtain ⟨⟨key, ep⟩, hmem, rfl⟩ := List.mem_map.mp hkey
      obtain ⟨pre, post, rfl⟩ := List.append_of_mem hmem
      have hnodup : ((pre ++ (key, ep) :: post).map Prod.fst).Nodup := by
        rw [FirstPolicies.keys hfirst]
        exact env.nodup
      obtain ⟨hnotpre, hnotpost⟩ := key_not_mem hnodup
      refine ⟨pre, ep, post, hfirst, ?_, ?_⟩
      · intro found hfound hne
        have hwritten : found.2 ∈ (pre ++ (key, ep) :: post).map Prod.snd := by
          apply List.mem_map_of_mem
          rcases List.mem_append.mp hfound with hpre | hpost
          · exact List.mem_append_left _ hpre
          · exact List.mem_append_right _ (List.mem_cons_of_mem _ hpost)
        obtain ⟨key', hkey', heq⟩ := exists_of_writes hwritten
        rw [hpolicies, heq, desiredUsers, if_neg]
        rintro rfl
        rcases List.mem_append.mp hkey' with hpre | hrest
        · exact hnotpre (List.mem_map.mpr ⟨_, hpre, rfl⟩)
        · rcases List.mem_cons.mp hrest with heq' | hpost
          · exact hne (Prod.mk.inj heq').2
          · exact hnotpost (List.mem_map.mpr ⟨_, hpost, rfl⟩)
      · intro husers
        rw [hpolicies]
        exact writes_target_iff husers hnotpost

/-! ## Two teams -/

/-- The teams of the shop and of the payments. -/
def sampleEnv : Env where
  realUsers := ["R1", "R2"]
  dummyUsers := ["D1"]
  teamMap := [("shopstack", "T1"), ("finguard", "T2")]
  nodup := by decide

/-- Each team has a policy of its own, which nobody is in. -/
def sampleAccount : Account where
  teams teamId := if teamId = "T1" then some ["E1"] else if teamId = "T2" then some ["E2"] else none
  policies _ := []

/-- Every request is carried out. -/
def respond : (o : PdCall) → Account → PdReply o × Account
  | .getTeam teamId, s => ((s.teams teamId).elim (.error "404") .ok, s)
  | .putPolicy epId rules, s => (.ok (), s.put epId rules)

def finguardOnCall : Except PdError Unit × Account :=
  (ensureTeamHasRealOncall sampleEnv "finguard").exec respond sampleAccount

theorem answers_respond (o : PdCall) (s : Account) :
    Answers s o (respond o s).1 (respond o s).2 := by
  cases o with
  | getTeam teamId =>
    refine ⟨rfl, ?_⟩
    intro eps heps
    cases hteam : s.teams teamId with
    | none =>
      rw [respond, hteam] at heps
      cases heps
    | some eps' =>
      rw [respond, hteam] at heps
      cases heps
      rfl
  | putPolicy epId rules => exact .inl rfl

theorem real_users_on_call_finguard : ∃ pre ep post,
    FirstPolicies sampleAccount sampleEnv.teamMap (pre ++ ("finguard", ep) :: post) ∧
      (finguardOnCall.2.policies ep = rewriteRules ["R1", "R2"] ↔ ep ∉ post.map Prod.snd) := by
  obtain ⟨-, hok⟩ := real_users_on_call sampleEnv "finguard" sampleAccount finguardOnCall.2
    finguardOnCall.1 (served_exec answers_respond _ sampleAccount)
  obtain ⟨pre, ep, post, hfirst, -, htarget⟩ := hok rfl
  exact ⟨pre, ep, post, hfirst, htarget (by decide)⟩

end AstronomyShop.PagerDuty
