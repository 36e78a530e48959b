import AstronomyShop.Library.Contract

/-!
# Sessions in the browser

The user id under which a browser has its cart is made up by the first page that finds none in the
local storage, and is kept there with the selected currency. Any number of pages share the storage,
and each call on it is a step of its own.

* `user_id_kept`: once a session is stored, no page ever has another user id, however the pages take
  turns, and the currency is one that was stored or selected.
* `app_loses_user`: the copy of the gateway in the app does not wait for the session that it writes
  back, and loses the user id.
-/

namespace AstronomyShop.Sessions

open Interaction

/-- `ISession`, as it is parsed: a member may be missing. -/
structure Session where
  userId : Option String
  currencyCode : Option String
  deriving DecidableEq

/-! ## The storage -/

/-- Calls on the entry `session` of the storage. What is written is parsed as it was. -/
inductive StorageCall where
  | getItem
  | setItem (session : Session)

abbrev StorageReply : StorageCall → Type
  | .getItem => Option Session
  | .setItem _ => Unit

instance : (o : StorageCall) → Nonempty (StorageReply o)
  | .getItem => ⟨none⟩
  | .setItem _ => ⟨()⟩

abbrev Page := Program StorageCall StorageReply

abbrev StorageEvent := Event StorageReply

abbrev call (o : StorageCall) : Page (StorageReply o) := Program.perform o

def Answers (s : Option Session) : (o : StorageCall) → StorageReply o → Option Session → Prop
  | .getItem, r, s' => r = s ∧ s' = s
  | .setItem session, _, s' => s' = some session

/-- The storage that pages share. -/
def localStorage : World StorageCall StorageReply (Option Session) Empty where
  answer := Answers
  act _ a _ := a.elim

/-! ## The gateway -/

/-- `defaultSession` of a page, with the id that it has drawn. -/
def defaultSession (id : String) : Session where
  userId := some id
  currencyCode := some "USD"

def getSession (id : String) : Page Session := do
  match ← call .getItem with
  | none =>
    call (.setItem (defaultSession id))
    return defaultSession id
  | some session => return session

def setCurrencyCode (id value : String) : Page Session := do
  let session ← getSession id
  call (.setItem { session with currencyCode := some value })
  return session

/-- What pages do with their sessions. -/
inductive Task where
  | getSession
  | setCurrencyCode (value : String)

/-- A task of a page that has drawn the id; it returns the session that was read. -/
def Task.perform (id : String) : Task → Page Session
  | getSession => Sessions.getSession id
  | setCurrencyCode value => Sessions.setCurrencyCode id value

/-! ## One user id -/

/-- A session of the user, in one of the currencies. -/
def Belongs (userId : String) (currencies : String → Prop) (session : Session) : Prop :=
  session.userId = some userId ∧ ∃ code, session.currencyCode = some code ∧ currencies code

/-- The storage has a session of the user, as long as such sessions are written. -/
def sessionContract (userId : String) (currencies : String → Prop) :
    Contract localStorage.answer where
  Inv s := ∃ session, s = some session ∧ Belongs userId currencies session
  Routine
    | .getItem => True
    | .setItem session => Belongs userId currencies session
  Fine
    | ⟨.getItem, r⟩ => ∃ session, r = some session ∧ Belongs userId currencies session
    | ⟨.setItem _, _⟩ => True
  step := by
    rintro s s' ⟨op, reply⟩ hs hroutine h
    cases op with
    | getItem =>
      obtain ⟨rfl, rfl⟩ := h
      exact ⟨hs, hs⟩
    | setItem session =>
      obtain rfl : s' = some session := h
      exact ⟨⟨session, rfl, hroutine⟩, trivial⟩

section

variable {userId id : String} {currencies : String → Prop} {t : List StorageEvent}
  {session : Session}

/-- `getSession` reads a session of the user. -/
theorem getSession_keeps (h : Runs (getSession id) t session) :
    (sessionContract userId currencies).Keeps t ∧
      ((∀ e ∈ t, (sessionContract userId currencies).Fine e) →
        Belongs userId currencies session) := by
  obtain ⟨stored, t₁, rfl, h₁⟩ := runs_perform_bind.mp h
  have hstored : (sessionContract userId currencies).Fine ⟨.getItem, stored⟩ →
      ∃ s, stored = some s ∧ Belongs userId currencies s := fun hfine => hfine
  cases stored with
  | none =>
    -- a page does not find the storage empty any more
    refine ⟨⟨trivial, fun hfine => ?_⟩, fun hall => ?_⟩
    · obtain ⟨s, hs, -⟩ := hstored hfine
      cases hs
    · obtain ⟨s, hs, -⟩ := hstored (hall _ List.mem_cons_self)
      cases hs
  | some stored =>
    obtain ⟨rfl, rfl⟩ := runs_pure.mp h₁
    refine ⟨⟨trivial, fun _ => trivial⟩, fun hall => ?_⟩
    obtain ⟨s, hs, hbelongs⟩ := hstored (hall _ List.mem_cons_self)
    rwa [Option.some.inj hs]

theorem perform_keeps {task : Task}
    (hvalue : ∀ value, task = .setCurrencyCode value → currencies value)
    (h : Runs (task.perform id) t session) : (sessionContract userId currencies).Keeps t := by
  cases task with
  | getSession => exact (getSession_keeps h).1
  | setCurrencyCode value =>
    obtain ⟨t₁, t₂, read, rfl, hread, h₁⟩ := runs_bind.mp h
    obtain ⟨hkeeps, hbelongs⟩ := @getSession_keeps userId id currencies _ _ hread
    obtain ⟨_, t₃, rfl, h₂⟩ := runs_perform_bind.mp h₁
    obtain ⟨rfl, -⟩ := runs_pure.mp h₂
    refine Contract.keeps_append.mpr ⟨hkeeps, fun hfine => ⟨?_, fun _ => trivial⟩⟩
    exact ⟨(hbelongs hfine).1, value, rfl, hvalue value rfl⟩

theorem perform_belongs {task : Task} (h : Runs (task.perform id) t session)
    (hfine : ∀ e ∈ t, (sessionContract userId currencies).Fine e) :
    Belongs userId currencies session := by
  cases task with
  | getSession => exact (getSession_keeps h).2 hfine
  | setCurrencyCode value =>
    obtain ⟨t₁, t₂, read, rfl, hread, h₁⟩ := runs_bind.mp h
    obtain ⟨_, t₃, rfl, h₂⟩ := runs_perform_bind.mp h₁
    obtain ⟨-, rfl⟩ := runs_pure.mp h₂
    exact (getSession_keeps hread).2 fun e he => hfine e (List.mem_append_left _ he)

end

/-- **The user id is kept.** While a session is stored, in any interleaving of what any number of
pages do: all sessions that are read, and the one that is stored, are of its user, in the stored
currency or in one that a page has selected. -/
theorem user_id_kept {ι : Type} [DecidableEq ι] (userId code : String) (ids : ι → String)
    (tasks : ι → Task) (ls : List (Label ι StorageReply Empty))
    (c : Config ι StorageCall StorageReply (Option Session) Session)
    (h : Run localStorage
      ⟨some ⟨some userId, some code⟩, fun i => (tasks i).perform (ids i)⟩ ls c) :
    let currencies := fun value => value = code ∨ ∃ i, tasks i = .setCurrencyCode value
    (∃ session, c.shared = some session ∧ Belongs userId currencies session) ∧
      ∀ i session, c.procs i = .pure session → Belongs userId currencies session := by
  intro currencies
  have hrun := @Contract.run StorageCall StorageReply _ _ Empty ι _ _ localStorage
    (sessionContract userId currencies) _ _ _ h ⟨_, rfl, rfl, code, rfl, .inl rfl⟩
    (fun _ a => a.elim) fun i t session ht =>
      perform_keeps (fun value hvalue => .inr ⟨i, hvalue⟩) ht
  refine ⟨hrun.1, fun i session hdone => ?_⟩
  have hsteps := h.steps i
  rw [hdone] at hsteps
  exact perform_belongs hsteps fun e he => (hrun.2 i e he).2

/-- The storage of one browser. -/
def respond : (o : StorageCall) → Option Session → StorageReply o × Option Session
  | .getItem, s => (s, s)
  | .setItem session, _ => ((), some session)

theorem answers_respond (o : StorageCall) (s : Option Session) :
    localStorage.answer s o (respond o s).1 (respond o s).2 := by
  cases o with
  | getItem => exact ⟨rfl, rfl⟩
  | setItem session => rfl

/-- One page selects euros, while another one reads the session. -/
def eurosSelected : List (Label Bool StorageReply Empty) ×
    Config Bool StorageCall StorageReply (Option Session) Session :=
  schedule respond [true, false, true]
    ⟨some ⟨some "u1", some "USD"⟩, fun i => (if i then Task.setCurrencyCode "EUR" else
      Task.getSession).perform (if i then "a" else "b")⟩

theorem user_id_kept_euros : ∃ session, eurosSelected.2.shared = some session ∧
    session.userId = some "u1" := by
  obtain ⟨⟨session, hstored, hbelongs⟩, -⟩ := user_id_kept "u1" "USD"
    (fun i => if i then "a" else "b")
    (fun i => if i then Task.setCurrencyCode "EUR" else Task.getSession) eurosSelected.1
    eurosSelected.2 (run_schedule answers_respond _ _)
  exact ⟨session, hstored, hbelongs.1⟩

/-- Two pages that find the storage empty at the same time. -/
def twoPages : List (Label Bool StorageReply Empty) ×
    Config Bool StorageCall StorageReply (Option Session) Session :=
  schedule respond [true, false, true, false]
    ⟨none, fun i => Task.getSession.perform (if i then "a" else "b")⟩

/-- From an empty storage two pages may have carts of different users. -/
theorem first_pages_differ :
    ¬ ∀ (ls : List (Label Bool StorageReply Empty))
      (c : Config Bool StorageCall StorageReply (Option Session) Session)
      (session session' : Session),
      Run localStorage ⟨none, fun i => Task.getSession.perform (if i then "a" else "b")⟩ ls c →
      c.procs true = .pure session → c.procs false = .pure session' →
      session.userId = session'.userId := by
  intro h
  have hsame := h twoPages.1 twoPages.2 (defaultSession "a") (defaultSession "b")
    (run_schedule answers_respond _ _) rfl rfl
  exact absurd hsame (by decide)

/-! ## The app -/

/-- `setSessionValue` of the app: `getSession` is started, and the spread of its promise has no
members. -/
def appSetCurrencyCode (id value : String) : Page Unit := do
  let stored ← call .getItem
  call (.setItem ⟨none, some value⟩)
  if stored = none then call (.setItem (defaultSession id)) else return ()

/-- What the app stores: a session with no user, or, where there was none, its default session
without the currency that was selected. -/
theorem app_loses_user {id value : String} {s s' : Option Session}
    (h : Served localStorage.answer (appSetCurrencyCode id value) s () s') :
    s' = if s = none then some (defaultSession id) else some ⟨none, some value⟩ := by
  obtain ⟨stored, s₁, ⟨hread, rfl⟩, h₁⟩ := served_call.mp h
  rw [← hread]
  obtain ⟨_, s₂, hwrite, h₂⟩ := served_call.mp h₁
  obtain rfl : s₂ = some ⟨none, some value⟩ := hwrite
  cases stored with
  | none =>
    obtain ⟨_, s₃, hwrite', h₃⟩ := served_call.mp h₂
    obtain rfl : s₃ = some (defaultSession id) := hwrite'
    exact (served_pure.mp h₃).2
  | some session => exact (served_pure.mp h₂).2

end AstronomyShop.Sessions
