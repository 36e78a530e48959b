import AstronomyShop.Cart.Soundness
import AstronomyShop.Library.Totals
import Mathlib.Data.Int.ModEq

/-!
# Operations that take turns

Operations of any number of callers send their commands to Valkey in any order; no transaction
holds the commands of one operation together.

* `connecting_harmless_iff`: opening a connection at any time does no harm to the cart of a user
  exactly when the user is not called `cart`.
* `additions_kept`: no addition is lost while nobody writes the cart between the read and the
  write of another addition.
-/

namespace AstronomyShop.CartService

open Interaction

/-- Valkey, with every command executed. -/
def valkeyWorld (valkey : String) : World StoreCall StoreReply Db Empty where
  answer := Responds valkey
  act _ a _ := a.elim

section

variable {ι α : Type} [DecidableEq ι] {valkey userId : String}
  {c c' : Config ι StoreCall StoreReply Db α}

/-- A call that does not write at the key of a user keeps the stored cart. -/
theorem storedCart_of_step {i : ι} {e : StoreEvent}
    (h : Step (valkeyWorld valkey) c (.call i e) c') (hwrites : e.op.writes ≠ some userId) :
    storedCart c'.shared userId = storedCart c.shared userId := by
  cases h with
  | call hproc h =>
    exact storedCart_congr (entry_of_answer (answers_of_responds _ _ _ _ h) hwrites)

theorem storedCart_of_run {ls : List (Label ι StoreReply Empty)}
    (h : Run (valkeyWorld valkey) c ls c')
    (hwrites : ∀ i e, .call i e ∈ ls → e.op.writes ≠ some userId) :
    storedCart c'.shared userId = storedCart c.shared userId := by
  refine @Run.preserves _ _ _ _ _ _ _ _ _ _ _
    (fun db => storedCart db userId = storedCart c.shared userId) h ?_ rfl
  intro l hl c₂ c₃ hstep hc₂
  cases l with
  | act a => exact a.elim
  | call i e => exact (storedCart_of_step hstep (hwrites i e hl)).trans hc₂

end

/-! ## Connecting at any time -/

/-- An operation on the cart of a user, or the start of a replica. -/
inductive Task where
  | update (u : Update)
  | getCart
  | connect

def Task.perform (valkeyAddress userId : String) : Task → Service (Except String Response)
  | update u => do
    return (← (Request.update userId u).perform valkeyAddress).mapError RpcException.detail
  | getCart => do
    return (← (Request.getCart userId).perform valkeyAddress).mapError RpcException.detail
  | connect => do
    return (← (ensureRedisConnected valkeyAddress).run).map fun _ => Response.empty

/-- The calls of `EnsureRedisConnected`. -/
def StoreCall.IsConnecting : StoreCall → Prop
  | .isConnectionOpened _ => True
  | .connect _ => True
  | .command _ (.stringSet _ _) => True
  | .command _ (.stringGet _) => True
  | _ => False

/-- Whatever operations of a user and starts of replicas take turns: no step of connecting
changes the stored cart of the user, and all operations succeed. -/
def ConnectingIsHarmless (userId : String) : Prop :=
  ∀ (valkey : String) (ι : Type) [DecidableEq ι] (tasks : ι → Task)
    (ls : List (Label ι StoreReply Empty)) (c : Config ι StoreCall StoreReply Db _),
    Run (valkeyWorld valkey) ⟨noCarts, fun i => (tasks i).perform valkey userId⟩ ls c →
      (∀ i e c', Step (valkeyWorld valkey) c (.call i e) c' → e.op.IsConnecting →
        storedCart c'.shared userId = storedCart c.shared userId) ∧
      ∀ i r, c.procs i = .pure r → ∃ response, r = .ok response

theorem task_succeeds {task : Task} {valkey userId : String} {t : List StoreEvent}
    {r : Except String Response} (h : Runs (task.perform valkey userId) t r)
    (huser : userId ≠ "cart") : Succeeds valkey t r := by
  have hmap : ∀ {ε α : Type} {r' : Except ε α}, Succeeds valkey t r' →
      (∀ a, r' = .ok a → ∃ response, r = .ok response) → Succeeds valkey t r := by
    intro ε α r' hsucceeds hok
    refine ⟨hsucceeds.1, fun hfine => ?_⟩
    obtain ⟨a, ha⟩ := hsucceeds.2 hfine
    exact hok a ha
  cases task with
  | update u =>
    obtain ⟨r', hrun, rfl⟩ := runs_bind_pure.mp h
    refine hmap (request_succeeds hrun huser) ?_
    rintro response rfl
    exact ⟨response, rfl⟩
  | getCart =>
    obtain ⟨r', hrun, rfl⟩ := runs_bind_pure.mp h
    refine hmap (request_succeeds hrun huser) ?_
    rintro response rfl
    exact ⟨response, rfl⟩
  | connect =>
    obtain ⟨r', hrun, rfl⟩ := runs_bind_pure.mp h
    refine hmap (ensureRedisConnected_run hrun).succeeds ?_
    rintro a rfl
    exact ⟨_, rfl⟩

theorem writes_of_isConnecting {o : StoreCall} {valkey : String} (h : o.IsConnecting)
    (hroutine : o.Routine valkey) : o.writes = none ∨ o.writes = some "cart" := by
  cases o with
  | booleanFlag name => exact .inl rfl
  | isConnectionOpened address => exact .inl rfl
  | connect address => exact .inl rfl
  | command address c =>
    cases c with
    | stringSet key value => exact .inr (congrArg some hroutine.2)
    | stringGet key => exact .inl rfl
    | hashGet key field => exact .inl rfl
    | hashSet key field cart => exact h.elim
    | keyExpire key => exact .inl rfl

/-- The first addition of the user `cart`, over a new connection. -/
def firstOfCart : List (Label Unit StoreReply Empty) ×
    Config Unit StoreCall StoreReply Db (Except String Response) :=
  schedule (respondFrom false "v") (List.replicate 5 ())
    ⟨noCarts, fun _ => (Task.update (.addItem "bulb" 1)).perform "v" "cart"⟩

theorem run_firstOfCart : Run (valkeyWorld "v")
    ⟨noCarts, fun _ => (Task.update (.addItem "bulb" 1)).perform "v" "cart"⟩
    firstOfCart.1 firstOfCart.2 :=
  run_schedule (responds_respondFrom false) _ _

/-- The test value of the new connection is no cart, so the addition fails. -/
theorem not_connectingIsHarmless_cart : ¬ ConnectingIsHarmless "cart" := by
  intro hharmless
  have hfails : ∃ ex, firstOfCart.2.procs () = .pure (.error ex) := ⟨_, rfl⟩
  obtain ⟨ex, hfails⟩ := hfails
  obtain ⟨-, hok⟩ := hharmless "v" Unit _ _ _ run_firstOfCart
  obtain ⟨response, hresponse⟩ := hok () _ hfails
  cases hresponse

/-- **Connecting never touches a cart exactly when** the user is not called `cart`, which is the
key of the test value written for each new connection. -/
theorem connecting_harmless_iff (userId : String) :
    ConnectingIsHarmless userId ↔ userId ≠ "cart" := by
  constructor
  · rintro hharmless rfl
    exact not_connectingIsHarmless_cart hharmless
  · intro huser valkey ι _ tasks ls c hrun
    have hcontract : ∀ {ls c}, Run (valkeyWorld valkey)
        ⟨noCarts, fun i => (tasks i).perform valkey userId⟩ ls c →
        Sound c.shared ∧ ∀ i, ∀ e ∈ trace i ls, e.op.Routine valkey ∧ FineEvent e :=
      fun hrun => @Contract.run _ _ _ _ _ _ _ _ (valkeyWorld valkey) (cartContract valkey) _ _ _
        hrun sound_noCarts (fun _ a => a.elim) (fun i t r h => (task_succeeds h huser).1)
    refine ⟨fun i e c' hstep hconnecting => ?_, fun i r hdone => ?_⟩
    · have hroutine : e.op.Routine valkey := by
        refine ((hcontract (Run.snoc hrun hstep)).2 i e ?_).1
        rw [trace_append, trace_call_self]
        exact List.mem_append_right _ List.mem_cons_self
      have hwrites : e.op.writes ≠ some userId := by
        rcases writes_of_isConnecting hconnecting hroutine with hnone | hcart
        · rw [hnone]
          rintro ⟨⟩
        · rw [hcart]
          exact fun heq => huser (Option.some.inj heq).symm
      exact storedCart_of_step hstep hwrites
    · have hsteps := hrun.steps i
      rw [hdone] at hsteps
      exact (task_succeeds hsteps huser).2 fun e he => ((hcontract hrun).2 i e he).2

/-- The user `cart` cannot fill a cart. -/
theorem connecting_not_harmless : ¬ ∀ userId, userId ≠ "" → ConnectingIsHarmless userId := by
  intro h
  exact not_connectingIsHarmless_cart (h "cart" (by decide))

/-! ## Additions at the same time -/

section

variable {ι : Type} {address valkey userId productId : String} {quantity : Int32} {db : Db}
  {t : List StoreEvent}

abbrev cartRead (address userId : String) (value : Option Cart) : StoreEvent :=
  ⟨.command address (.hashGet userId cartFieldName), .ok value⟩

abbrev cartWrite (address userId : String) (cart : Cart) : StoreEvent :=
  ⟨.command address (.hashSet userId cartFieldName cart), .ok ()⟩

/-- The trace of an addition that succeeds: after connecting it reads the cart, writes it with
the addition and sets its expiry. -/
structure Addition (address userId productId : String) (quantity : Int32)
    (t : List StoreEvent) where
  connecting : List StoreEvent
  connect : ConnectRun address connecting (.ok ())
  value : Option Cart
  cart : Cart
  hcart : addToCart userId value productId quantity = .ok cart
  trace_eq : t = (connecting ++ [cartRead address userId value]) ++
    [cartWrite address userId cart,
      ⟨.command address (.keyExpire userId), .ok ()⟩]

theorem exists_addition (h : Runs (addItemAsync address userId productId quantity) t (.ok ())) :
    Nonempty (Addition address userId productId quantity t) := by
  generalize hr : (.ok () : Except RpcException Unit) = r at h
  cases addItemAsync_run h with
  | unconnected connect => cases hr
  | unread connect err => cases hr
  | unmatched connect hcart => cases hr
  | @write t₁ t₂ r connect value cart hcart write =>
    cases write with
    | unwritten err => cases hr
    | unexpired err => cases hr
    | written => exact ⟨⟨t₁, connect, value, cart, hcart, by simp⟩⟩

/-- The test value of a new connection is not written at the key of the user. -/
def TestApart (address userId : String) (t : List StoreEvent) : Prop :=
  userId ≠ "cart" ∨ ⟨.isConnectionOpened address, false⟩ ∉ t

namespace Addition

/-- The calls up to the read of the cart. -/
def reading (A : Addition address userId productId quantity t) : List StoreEvent :=
  A.connecting ++ [cartRead address userId A.value]

variable (A : Addition address userId productId quantity t) (happart : TestApart address userId t)
include happart

/-- Nothing is written at the key of the user before the cart. -/
theorem not_writes : ∀ e ∈ A.reading, e.op.writes ≠ some userId := by
  have hconnecting : ∀ e ∈ A.connecting, e.op.writes ≠ some userId := by
    have happart' : userId ≠ "cart" ∨ ⟨.isConnectionOpened address, false⟩ ∉ A.connecting := by
      refine happart.imp_right fun hnot hmem => hnot ?_
      rw [A.trace_eq]
      exact List.mem_append_left _ (List.mem_append_left _ hmem)
    have hconnect := A.connect
    generalize A.connecting = t₀ at hconnect happart'
    cases hconnect with
    | opened => simp [StoreCall.writes]
    | connected value =>
      have hne : "cart" ≠ userId := by
        rcases happart' with huser | hopened
        · exact huser.symm
        · simp at hopened
      simp [StoreCall.writes, hne]
  unfold reading
  rw [List.forall_mem_append]
  exact ⟨hconnecting, by simp [StoreCall.writes]⟩

/-- The only write at the key of the user is the one of the cart, right after the read. -/
theorem write_split {t₁ t₂ : List StoreEvent} {e : StoreEvent} (h : t = t₁ ++ e :: t₂)
    (he : e.op.writes = some userId) :
    t₁ = A.reading ∧ e = cartWrite address userId A.cart := by
  have hnot := A.not_writes happart
  have hsplit := A.trace_eq.symm.trans h
  obtain ⟨mid, rfl, hmid⟩ := split_append_right hsplit fun hmem => hnot e hmem he
  cases mid with
  | nil =>
    obtain ⟨hwrite, -⟩ := List.cons.inj hmid
    exact ⟨List.append_nil _, hwrite.symm⟩
  | cons e' mid =>
    have htail : [⟨.command address (.keyExpire userId), .ok ()⟩] = mid ++ e :: t₂ :=
      (List.cons.inj hmid).2
    have hmem : e ∈ mid ++ e :: t₂ := by simp
    rw [← htail, List.mem_singleton] at hmem
    rw [hmem] at he
    cases he

end Addition

/-- What a call adds to the stored quantity of a product, by writing the cart with an item. -/
def writtenBy (userId productId : String) (item : CartItem) (e : StoreEvent) : Int :=
  if e.op.writes = some userId ∧ productId = item.productId then item.quantity.toInt else 0

theorem Addition.sum_writtenBy {item : CartItem}
    (A : Addition address userId item.productId item.quantity t)
    (happart : TestApart address userId t) (productId : String) :
    (t.map (writtenBy userId productId item)).sum =
      if productId = item.productId then item.quantity.toInt else 0 := by
  have hzero : (A.reading.map (writtenBy userId productId item)).sum = 0 := by
    refine List.sum_eq_zero fun n hn => ?_
    obtain ⟨e, he, rfl⟩ := List.mem_map.mp hn
    exact if_neg fun hwrites => A.not_writes happart e he hwrites.1
  unfold Addition.reading at hzero
  rw [congrArg (List.map _) A.trace_eq, List.map_append, List.sum_append, hzero]
  simp [writtenBy, StoreCall.writes]

/-- No other call writes the cart between the read of an addition and its write. -/
def WritesSeparated (address userId : String) (ls : List (Label ι StoreReply Empty)) : Prop :=
  ∀ before between after i value cart, ls = before ++
      .call i (cartRead address userId value) ::
        (between ++ .call i (cartWrite address userId cart) ::
          after) →
    ∀ j cart', j ≠ i →
      .call j (cartWrite address userId cart') ∉ between

/-- The callers of a run, call by call. -/
def callers (ls : List (Label ι StoreReply Empty)) : List ι :=
  ls.filterMap fun
    | .call i _ => some i
    | .act _ => none

/-- Additions that come one after the other are separated. -/
theorem writesSeparated_of_callers [PartialOrder ι] {ls : List (Label ι StoreReply Empty)}
    (h : (callers ls).Pairwise (· ≤ ·)) : WritesSeparated address userId ls := by
  rintro before between after i value cart rfl j cart' hj hmem
  obtain ⟨b₁, b₂, rfl⟩ := List.append_of_mem hmem
  simp only [callers, List.filterMap_append, List.filterMap_cons, List.pairwise_append,
    List.pairwise_cons, List.mem_append, List.mem_cons] at h
  obtain ⟨-, ⟨hread, -, -, hwrite⟩, -⟩ := h
  have hij : i ≤ j := hread j (.inl (.inr (.inl rfl)))
  have hji : j ≤ i := hwrite j (.inr (.inl rfl)) i (.inl rfl)
  exact hj (le_antisymm hji hij)

end

section

variable {ι : Type} [DecidableEq ι] {valkey userId productId : String} {items : ι → CartItem}
  {db : Db} {ls : List (Label ι StoreReply Empty)}
  {c : Config ι StoreCall StoreReply Db (Except RpcException Unit)}

/-- A number of additions that all succeed, each with its trace in the run. -/
structure Additions (valkey userId : String) (items : ι → CartItem)
    (ls : List (Label ι StoreReply Empty)) where
  addition : ∀ i, Addition valkey userId (items i).productId (items i).quantity (trace i ls)
  apart : ∀ i, TestApart valkey userId (trace i ls)
  separated : WritesSeparated valkey userId ls

/-- A write at the key of the user is the one of the cart of its addition, with the read of it
somewhere before. -/
theorem Additions.write_split (A : Additions valkey userId items ls)
    {ls₁ ls₂ : List (Label ι StoreReply Empty)} {i : ι} {e : StoreEvent}
    (hls : ls = ls₁ ++ .call i e :: ls₂) (he : e.op.writes = some userId) :
    trace i ls₁ = (A.addition i).reading ∧
      e = cartWrite valkey userId (A.addition i).cart := by
  have htrace : trace i ls = trace i ls₁ ++ e :: trace i ls₂ := by
    rw [hls, trace_append, trace_call_self]
  exact (A.addition i).write_split (A.apart i) htrace he

/-- When an addition writes the cart, what it has read is still stored. -/
theorem Additions.storedCart_eq (A : Additions valkey userId items ls)
    {c₀ c₁ : Config ι StoreCall StoreReply Db (Except RpcException Unit)}
    {ls₁ ls₂ : List (Label ι StoreReply Empty)} {i : ι} {e : StoreEvent}
    (hls : ls = ls₁ ++ .call i e :: ls₂) (h : Run (valkeyWorld valkey) c₀ ls₁ c₁)
    (he : e.op.writes = some userId) :
    storedCart c₁.shared userId = (A.addition i).value := by
  obtain ⟨hread, rfl⟩ := A.write_split hls he
  obtain ⟨a, b, rfl, -, hb⟩ := exists_split_of_trace hread
  obtain ⟨c₂, c₃, -, hstep, hrest⟩ := run_append_cons.mp h
  have hkept : storedCart c₁.shared userId = storedCart c₃.shared userId := by
    refine storedCart_of_run hrest fun j e' hmem hwrites => ?_
    by_cases hj : j = i
    · subst hj
      rw [← mem_trace, hb] at hmem
      cases hmem
    · obtain ⟨b₁, b₂, hb₁⟩ := List.append_of_mem hmem
      have hls' : ls = (a ++ .call i (cartRead valkey userId (A.addition i).value) :: b₁) ++
          .call j e' :: (b₂ ++ .call i (cartWrite valkey userId (A.addition i).cart) :: ls₂) :=
        hls.trans (by simp [hb₁])
      obtain ⟨-, rfl⟩ := A.write_split hls' hwrites
      rw [List.append_assoc, List.cons_append] at hls
      exact A.separated a b ls₂ i _ _ hls j _ hj hmem
  rw [hkept]
  cases hstep with
  | call hproc hanswer =>
    obtain ⟨rfl, hvalue, -⟩ := hashGet_ok (answers_of_responds _ _ _ _ hanswer)
    exact hvalue.symm

/-- One call adds to the stored quantity what it writes, as an `int32`. -/
theorem Additions.step (A : Additions valkey userId items ls)
    {c₀ c₁ c₂ : Config ι StoreCall StoreReply Db (Except RpcException Unit)}
    {ls₁ ls₂ : List (Label ι StoreReply Empty)} {i : ι} {e : StoreEvent}
    (hls : ls = ls₁ ++ .call i e :: ls₂) (h : Run (valkeyWorld valkey) c₀ ls₁ c₁)
    (hstep : Step (valkeyWorld valkey) c₁ (.call i e) c₂) :
    quantityOf productId (storedItems c₂.shared userId) ≡
      quantityOf productId (storedItems c₁.shared userId) +
        writtenBy userId productId (items i) e [ZMOD 2 ^ 32] := by
  unfold writtenBy
  rw [storedItems_eq, storedItems_eq]
  by_cases he : e.op.writes = some userId
  · rw [A.storedCart_eq hls h he]
    obtain ⟨-, rfl⟩ := A.write_split hls he
    cases hstep with
    | call hproc hanswer =>
      rw [(hashSet_ok (answers_of_responds _ _ _ _ hanswer)).1, Option.map_some, Option.getD_some,
        quantityOf_addToItems (addToCart_items (A.addition i).hcart)]
      by_cases hproduct : productId = (items i).productId
      · rw [if_pos hproduct, if_pos ⟨rfl, hproduct⟩]
        exact Int.bmod_emod
      · rw [if_neg hproduct, if_neg fun hboth => hproduct hboth.2, add_zero]
  · rw [storedCart_of_step hstep he, if_neg fun hboth => he hboth.1, add_zero]

/-- The stored quantity so far. -/
theorem Additions.run [Fintype ι] (A : Additions valkey userId items ls)
    {c₀ c₁ : Config ι StoreCall StoreReply Db (Except RpcException Unit)}
    {ls₁ ls₂ : List (Label ι StoreReply Empty)} (hls : ls = ls₁ ++ ls₂)
    (h : Run (valkeyWorld valkey) c₀ ls₁ c₁) :
    quantityOf productId (storedItems c₁.shared userId) ≡
      quantityOf productId (storedItems c₀.shared userId) +
        total Finset.univ (fun i => writtenBy userId productId (items i)) ls₁ [ZMOD 2 ^ 32] := by
  induction h generalizing ls₂ with
  | nil => simp [total]
  | @snoc c₁ c₂ ls₁ l before step ih =>
    rw [List.append_assoc, List.singleton_append] at hls
    cases l with
    | act a => exact a.elim
    | call i e =>
      rw [total_append, total_call, if_pos (Finset.mem_univ i), ← add_assoc]
      exact (A.step hls before step).trans ((ih hls).add_right _)

/-- **No addition is lost while writes are separated.** For any interleaving of additions for one
user that all succeed: if no call writes the cart between the read and the write of another
one, the stored quantity of a product is what it was and all that is added, modulo 2³². -/
theorem additions_kept [Fintype ι]
    (h : Run (valkeyWorld valkey) ⟨db, fun i =>
      addItemAsync valkey userId (items i).productId (items i).quantity⟩ ls c)
    (hdone : ∀ i, c.procs i = .pure (.ok ())) (hseparated : WritesSeparated valkey userId ls)
    (happart : ∀ i, TestApart valkey userId (trace i ls)) (productId : String) :
    quantityOf productId (storedItems c.shared userId) ≡
      quantityOf productId (storedItems db userId) +
        ∑ i, (if productId = (items i).productId then (items i).quantity.toInt else 0)
      [ZMOD 2 ^ 32] := by
  have haddition : ∀ i, Nonempty
      (Addition valkey userId (items i).productId (items i).quantity (trace i ls)) := by
    intro i
    have hsteps := h.steps i
    rw [hdone i] at hsteps
    exact exists_addition hsteps
  have A : Additions valkey userId items ls :=
    ⟨fun i => (haddition i).some, happart, hseparated⟩
  have hrun := @Additions.run _ _ _ _ productId _ _ _ A _ _ _ [] (List.append_nil _).symm h
  rw [total_eq_sum] at hrun
  simp only [fun i => (A.addition i).sum_writtenBy (happart i) productId] at hrun
  exact hrun

end

/-- Two additions of a bulb, their calls in the given order. -/
def bulbsAdded (order : List Bool) : List (Label Bool StoreReply Empty) ×
    Config Bool StoreCall StoreReply Db (Except RpcException Unit) :=
  schedule (respondFrom true "v") order ⟨noCarts, fun _ => addItemAsync "v" "u1" "bulb" 1⟩

theorem run_bulbsAdded (order : List Bool) : Run (valkeyWorld "v")
    ⟨noCarts, fun _ => addItemAsync "v" "u1" "bulb" 1⟩ (bulbsAdded order).1 (bulbsAdded order).2 :=
  run_schedule (responds_respondFrom true) order _

/-- One addition after the other. -/
def inTurn : List Bool := List.replicate 4 false ++ List.replicate 4 true

theorem additions_kept_inTurn :
    quantityOf "bulb" (storedItems (bulbsAdded inTurn).2.shared "u1") ≡
      quantityOf "bulb" (storedItems noCarts "u1") + ∑ _i : Bool, 1 [ZMOD 2 ^ 32] := by
  have hdone : ∀ i, (bulbsAdded inTurn).2.procs i = .pure (.ok ()) := by
    intro i
    cases i <;> rfl
  have hturn : (callers (bulbsAdded inTurn).1).Pairwise (· ≤ ·) := by
    have hcallers : callers (bulbsAdded inTurn).1 = inTurn := rfl
    rw [hcallers]
    decide
  exact @additions_kept Bool _ "v" "u1" (fun _ => ⟨"bulb", 1⟩) noCarts _ _ _
    (run_bulbsAdded inTurn) hdone (writesSeparated_of_callers hturn) (fun i => .inl (by decide))
    "bulb"

/-- Both read the cart before either writes it. -/
def bothRead : List Bool := [true, true, false, false, true, true, false, false]

/-- Two bulbs are added at the same time, and one of them is lost. -/
theorem addition_lost : ¬ ∀ (items : Bool → CartItem) (db : Db)
    (ls : List (Label Bool StoreReply Empty))
    (c : Config Bool StoreCall StoreReply Db (Except RpcException Unit)) (productId : String),
    Run (valkeyWorld "v") ⟨db, fun i =>
      addItemAsync "v" "u1" (items i).productId (items i).quantity⟩ ls c →
    (∀ i, c.procs i = .pure (.ok ())) →
    quantityOf productId (storedItems c.shared "u1") ≡ quantityOf productId (storedItems db "u1") +
      ∑ i, (if productId = (items i).productId then (items i).quantity.toInt else 0)
      [ZMOD 2 ^ 32] := by
  intro h
  have hdone : ∀ i, (bulbsAdded bothRead).2.procs i = .pure (.ok ()) := by
    intro i
    cases i <;> rfl
  have hkept := h (fun _ => ⟨"bulb", 1⟩) noCarts _ _ "bulb" (run_bulbsAdded bothRead) hdone
  have hstored : storedItems (bulbsAdded bothRead).2.shared "u1" = [⟨"bulb", 1⟩] := rfl
  rw [hstored] at hkept
  exact absurd hkept (by decide)

end AstronomyShop.CartService
