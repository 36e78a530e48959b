import AstronomyShop.Frontend.Protos
import AstronomyShop.Library.Program
import AstronomyShop.Rendering

/-!
# The payment service

The handler of `Charge`: a program that asks for a flag, draws a random number, and reads the clock
twice, once for the month and once for the year. Which cards there are, and which numbers are
correct, is left to `simple-card-validator`. A number that is zero is not sent, and is `undefined`
to the handler.

* `accepted_iff`: when a charge is accepted, in terms of what the handler has read.
* `accepts_good_cards`: what an accepted card is, which cards are accepted for sure, and which are
  refused at the turn of the year.
-/

namespace AstronomyShop.PaymentService

open Interaction Protos

/-- What `getCardDetails` tells of a number. -/
structure CardDetails where
  cardType : String
  valid : Bool

/-- A month of the calendar. -/
structure Month where
  year : Int
  month : Int
  valid : 1 ≤ month ∧ month ≤ 12
  deriving DecidableEq

def Month.index (m : Month) : Int := m.year * 12 + m.month

inductive PaymentCall where
  | setProviderAndWait
  | getNumberValue (flag : String) (byDefault : ℚ)
  | random
  | uuidv4
  | newDate

abbrev PaymentReply : PaymentCall → Type
  | .setProviderAndWait => Except String Unit
  | .getNumberValue _ _ => ℚ
  | .random => ℚ
  | .uuidv4 => String
  | .newDate => Month

abbrev Payment := Program PaymentCall PaymentReply

abbrev PaymentEvent := Event PaymentReply

abbrev call (o : PaymentCall) : Payment (PaymentReply o) := Program.perform o

/-! ## The checks -/

/-- A number of the decoded card; zero is `undefined`. -/
def field (n : Int32) : Option Int := if n = 0 then none else some n.toInt

/-- `${n}` -/
def fieldText (n : Int32) : String := jsField n.toInt

/-- `number.substr(-4)` -/
def lastFourDigits (number : String) : String :=
  .ofList (number.toList.drop (number.toList.length - 4))

/-- Whether the card has expired. Where the year or the month is `undefined` the sum is `NaN`, and
no number is above it. -/
def expired (currentYear currentMonth : Int) (card : CreditCardInfo) : Bool :=
  match field card.creditCardExpirationYear, field card.creditCardExpirationMonth with
  | some year, some month => year * 12 + month < currentYear * 12 + currentMonth
  | _, _ => false

/-- The checks of a card, in their order. -/
def checkCard (details : CardDetails) (currentYear currentMonth : Int) (card : CreditCardInfo) :
    Except String Unit :=
  if !details.valid then
    .error "Credit card info is invalid."
  else if details.cardType ∉ ["visa", "mastercard"] then
    .error ("Sorry, we cannot process " ++ details.cardType ++
      " credit cards. Only VISA or MasterCard is accepted.")
  else if expired currentYear currentMonth card then
    .error ("The credit card (ending " ++ lastFourDigits card.creditCardNumber ++ ") expired on " ++
      fieldText card.creditCardExpirationMonth ++ "/" ++
      fieldText card.creditCardExpirationYear ++ ".")
  else
    .ok ()

/-! ## The handler -/

/-- Whether `paymentFailure` strikes: a random number is drawn only if the flag is positive. -/
def paymentFails (numberVariant : ℚ) : Payment Bool :=
  if 0 < numberVariant then do
    let draw ← call .random
    return decide (draw < numberVariant)
  else
    return false

/-- The end of `charge`: the checks, and the amount that is logged. -/
def conclude (details : CardDetails) (currentYear currentMonth : Int) (card : CreditCardInfo)
    (request : ChargeRequest) (transactionId : String) : Except String String :=
  match checkCard details currentYear currentMonth card with
  | .error err => .error err
  | .ok () =>
    match request.amount with
    | none =>
      .error "Cannot destructure property 'units' of 'request.amount' as it is undefined."
    | some _ => .ok transactionId

/-- `charge` behind the flag. -/
def chargeCard (cardDetails : String → CardDetails) (request : ChargeRequest) :
    Payment (Except String String) := do
  match request.creditCard with
  | none =>
    return .error
      "Cannot destructure property 'creditCardNumber' of 'request.creditCard' as it is undefined."
  | some card =>
    let currentMonth ← call .newDate
    let currentYear ← call .newDate
    if card.creditCardNumber = "" then
      return .error "Cannot read properties of undefined (reading 'substr')"
    else
      let transactionId ← call .uuidv4
      return conclude (cardDetails card.creditCardNumber) currentYear.year currentMonth.month card
        request transactionId

def charge (cardDetails : String → CardDetails) (request : ChargeRequest) :
    Payment (Except String String) := do
  match ← call .setProviderAndWait with
  | .error err => return .error err
  | .ok () =>
    let numberVariant ← call (.getNumberValue "paymentFailure" 0)
    if ← paymentFails numberVariant then
      return .error "Payment request failed. Invalid token. app.loyalty.level=gold"
    else
      chargeCard cardDetails request

def chargeServiceHandler (cardDetails : String → CardDetails) (request : ChargeRequest) :
    Payment (Except String String) :=
  match request.amount with
  | none => return .error "Cannot read properties of undefined (reading 'units')"
  | some _ => charge cardDetails request

/-! ## Runs -/

variable {cardDetails : String → CardDetails} {request : ChargeRequest} {card : CreditCardInfo}
variable {t : List PaymentEvent} {r : Except String String} {tx : String}

/-- The card is not refused for its number or its kind. -/
def Processed (cardDetails : String → CardDetails) (card : CreditCardInfo) : Prop :=
  card.creditCardNumber ≠ "" ∧ (cardDetails card.creditCardNumber).valid = true ∧
    (cardDetails card.creditCardNumber).cardType ∈ ["visa", "mastercard"]

/-- The last month of a card. -/
def lastMonth (card : CreditCardInfo) : Int :=
  card.creditCardExpirationYear.toInt * 12 + card.creditCardExpirationMonth.toInt

/-- The card has a last month. -/
def Dated (card : CreditCardInfo) : Prop :=
  card.creditCardExpirationYear ≠ 0 ∧ card.creditCardExpirationMonth ≠ 0

theorem expired_iff {currentYear currentMonth : Int} :
    expired currentYear currentMonth card = true ↔
      Dated card ∧ lastMonth card < currentYear * 12 + currentMonth := by
  unfold expired field Dated lastMonth
  by_cases hyear : card.creditCardExpirationYear = 0
  · simp [hyear]
  · by_cases hmonth : card.creditCardExpirationMonth = 0
    · simp [hyear, hmonth]
    · simp [hyear, hmonth]

theorem checkCard_ok_iff {details : CardDetails} {currentYear currentMonth : Int} :
    checkCard details currentYear currentMonth card = .ok () ↔
      details.valid = true ∧ details.cardType ∈ ["visa", "mastercard"] ∧
        ¬ expired currentYear currentMonth card = true := by
  unfold checkCard
  by_cases hvalid : details.valid = true
  · by_cases htype : details.cardType ∈ ["visa", "mastercard"]
    · by_cases hexpired : expired currentYear currentMonth card = true
      · simp [hvalid, htype, hexpired]
      · simp [hvalid, htype, hexpired]
    · simp [hvalid, htype]
  · simp [hvalid]

theorem paymentFails_runs {numberVariant : ℚ} {fails : Bool}
    (h : Runs (paymentFails numberVariant) t fails) :
    (numberVariant ≤ 0 ∧ t = [] ∧ fails = false) ∨
      ∃ draw, t = [⟨.random, draw⟩] ∧ fails = decide (draw < numberVariant) := by
  unfold paymentFails at h
  split at h
  · rename_i hpos
    obtain ⟨draw, t₁, rfl, h₁⟩ := runs_perform_bind.mp h
    obtain ⟨rfl, rfl⟩ := runs_pure.mp h₁
    exact .inr ⟨draw, rfl, rfl⟩
  · rename_i hpos
    obtain ⟨rfl, rfl⟩ := runs_pure.mp h
    exact .inl ⟨not_lt.mp hpos, rfl, rfl⟩

theorem conclude_ok_iff {details : CardDetails} {currentYear currentMonth : Int}
    {transactionId : String} :
    (∃ tx, conclude details currentYear currentMonth card request transactionId = .ok tx) ↔
      checkCard details currentYear currentMonth card = .ok () ∧ request.amount.isSome = true := by
  unfold conclude
  split <;> rename_i hcheck
  · simp [hcheck]
  · split <;> rename_i hamount
    · simp [hamount]
    · simp [hcheck, hamount]

/-- The shapes of a run of `chargeCard`. -/
inductive CardRun (cardDetails : String → CardDetails) (request : ChargeRequest) :
    List PaymentEvent → Except String String → Prop
  | noCard {err : String} (hcard : request.creditCard = none) :
    CardRun cardDetails request [] (.error err)
  | noNumber {card : CreditCardInfo} {err : String} (hcard : request.creditCard = some card)
      (hnumber : card.creditCardNumber = "") (m₁ m₂ : Month) :
    CardRun cardDetails request [⟨.newDate, m₁⟩, ⟨.newDate, m₂⟩] (.error err)
  | checked {card : CreditCardInfo} {r : Except String String}
      (hcard : request.creditCard = some card) (hnumber : card.creditCardNumber ≠ "")
      (m₁ m₂ : Month) (tx : String)
      (hr : (∃ transactionId, r = .ok transactionId) ↔
        checkCard (cardDetails card.creditCardNumber) m₂.year m₁.month card = .ok () ∧
          request.amount.isSome = true) :
    CardRun cardDetails request [⟨.newDate, m₁⟩, ⟨.newDate, m₂⟩, ⟨.uuidv4, tx⟩] r

theorem chargeCard_runs (h : Runs (chargeCard cardDetails request) t r) :
    CardRun cardDetails request t r := by
  unfold chargeCard at h
  split at h
  · rename_i hcard
    obtain ⟨rfl, rfl⟩ := runs_pure.mp h
    exact .noCard hcard
  · rename_i card hcard
    obtain ⟨m₁, t₁, rfl, h₁⟩ := runs_perform_bind.mp h
    obtain ⟨m₂, t₂, rfl, h₂⟩ := runs_perform_bind.mp h₁
    split at h₂
    · rename_i hnumber
      obtain ⟨rfl, rfl⟩ := runs_pure.mp h₂
      exact .noNumber hcard hnumber m₁ m₂
    · rename_i hnumber
      obtain ⟨tx, t₃, rfl, h₃⟩ := runs_perform_bind.mp h₂
      obtain ⟨rfl, rfl⟩ := runs_pure.mp h₃
      exact .checked hcard hnumber m₁ m₂ tx conclude_ok_iff

/-- The trace of a charge that the flag has spared. -/
def sparedTrace (numberVariant : ℚ) (draws rest : List PaymentEvent) : List PaymentEvent :=
  ⟨.setProviderAndWait, .ok ()⟩ :: ⟨.getNumberValue "paymentFailure" 0, numberVariant⟩ ::
    (draws ++ rest)

/-- The shapes of a run of `charge`. -/
inductive ChargeRun (cardDetails : String → CardDetails) (request : ChargeRequest) :
    List PaymentEvent → Except String String → Prop
  | noProvider (err : String) :
    ChargeRun cardDetails request [⟨.setProviderAndWait, .error err⟩] (.error err)
  | failed {numberVariant draw : ℚ} {err : String} (hdraw : draw < numberVariant) :
    ChargeRun cardDetails request
      [⟨.setProviderAndWait, .ok ()⟩, ⟨.getNumberValue "paymentFailure" 0, numberVariant⟩,
        ⟨.random, draw⟩] (.error err)
  | spared {numberVariant : ℚ} {draws rest : List PaymentEvent} {r : Except String String}
      (hdraws : draws = [] ∨ ∃ draw, draws = [⟨.random, draw⟩] ∧ numberVariant ≤ draw)
      (hrest : CardRun cardDetails request rest r) :
    ChargeRun cardDetails request (sparedTrace numberVariant draws rest) r

theorem charge_runs (h : Runs (charge cardDetails request) t r) :
    ChargeRun cardDetails request t r := by
  obtain ⟨ready, t₁, rfl, h₁⟩ := runs_perform_bind.mp h
  cases ready with
  | error err =>
    obtain ⟨rfl, rfl⟩ := runs_pure.mp h₁
    exact .noProvider err
  | ok _ =>
    obtain ⟨numberVariant, t₂, rfl, h₂⟩ := runs_perform_bind.mp h₁
    obtain ⟨draws, rest, fails, rfl, hdraws, h₃⟩ := runs_bind.mp h₂
    obtain ⟨-, rfl, rfl⟩ | ⟨draw, rfl, rfl⟩ := paymentFails_runs hdraws
    · exact .spared (.inl rfl) (chargeCard_runs h₃)
    · by_cases hdraw : draw < numberVariant
      · rw [decide_eq_true hdraw] at h₃
        obtain ⟨rfl, rfl⟩ := runs_pure.mp h₃
        exact .failed hdraw
      · rw [decide_eq_false hdraw] at h₃
        exact .spared (.inr ⟨draw, rfl, not_lt.mp hdraw⟩) (chargeCard_runs h₃)

/-- What a run has read of the calendar. -/
def readings (t : List PaymentEvent) : List Month :=
  t.filterMap fun
    | ⟨.newDate, m⟩ => some m
    | _ => none

/-- The provider of flags is there, and `paymentFailure` has not struck. -/
def Undisturbed (t : List PaymentEvent) : Prop :=
  (∀ err, ⟨.setProviderAndWait, .error err⟩ ∉ t) ∧
    ∀ numberVariant draw, ⟨.getNumberValue "paymentFailure" 0, numberVariant⟩ ∈ t →
      ⟨.random, draw⟩ ∈ t → numberVariant ≤ draw

/-- The month that the first reading gives, in the year that the second one gives. -/
def MixedMonth (t : List PaymentEvent) (n : Int) : Prop :=
  ∃ m₁ m₂, readings t = [m₁, m₂] ∧ n = m₂.year * 12 + m₁.month

/-- When the checks of a card end with a transaction. -/
theorem CardRun.accepted_iff (h : CardRun cardDetails request t r) :
    (∃ tx, r = .ok tx) ↔ request.amount.isSome = true ∧ ∃ card,
      request.creditCard = some card ∧ Processed cardDetails card ∧
        ∀ n, MixedMonth t n → Dated card → n ≤ lastMonth card := by
  cases h with
  | noCard hcard => simp [hcard]
  | noNumber hcard hnumber => simp [hcard, Processed, hnumber]
  | @checked card r hcard hnumber m₁ m₂ tx hr =>
    have hmixed : ∀ n, MixedMonth [⟨.newDate, m₁⟩, ⟨.newDate, m₂⟩, ⟨.uuidv4, tx⟩] n ↔
        n = m₂.year * 12 + m₁.month := by
      intro n
      simp [MixedMonth, readings]
    rw [hr, checkCard_ok_iff, expired_iff, hcard]
    constructor
    · rintro ⟨⟨hvalid, htype, hexpired⟩, hamount⟩
      refine ⟨hamount, card, rfl, ⟨hnumber, hvalid, htype⟩, ?_⟩
      intro n hn hdated
      rw [hmixed] at hn
      rw [hn]
      exact not_lt.mp fun hlt => hexpired ⟨hdated, hlt⟩
    · rintro ⟨hamount, card', hcard', ⟨-, hvalid, htype⟩, hmonth⟩
      obtain rfl := Option.some.inj hcard'
      refine ⟨⟨hvalid, htype, ?_⟩, hamount⟩
      rintro ⟨hdated, hlt⟩
      exact absurd (hmonth _ ((hmixed _).mpr rfl) hdated) (not_le.mpr hlt)

theorem CardRun.no_flag (h : CardRun cardDetails request t r) :
    ∀ e ∈ t, (∃ m, e = ⟨.newDate, m⟩) ∨ ∃ tx, e = ⟨.uuidv4, tx⟩ := by
  cases h with
  | noCard _ => simp
  | noNumber _ _ _ _ => simp
  | checked _ _ _ _ _ _ => simp

section

variable {numberVariant : ℚ} {draws rest : List PaymentEvent}

theorem undisturbed_sparedTrace
    (hdraws : draws = [] ∨ ∃ draw, draws = [⟨.random, draw⟩] ∧ numberVariant ≤ draw)
    (hrest : ∀ e ∈ rest, (∃ m, e = ⟨.newDate, m⟩) ∨ ∃ tx, e = ⟨.uuidv4, tx⟩) :
    Undisturbed (sparedTrace numberVariant draws rest) := by
  have hmem : ∀ e ∈ sparedTrace numberVariant draws rest,
      e = ⟨.setProviderAndWait, .ok ()⟩ ∨
        e = ⟨.getNumberValue "paymentFailure" 0, numberVariant⟩ ∨
          (∃ draw, e = ⟨.random, draw⟩ ∧ numberVariant ≤ draw) ∨
            (∃ m, e = ⟨.newDate, m⟩) ∨ ∃ tx, e = ⟨.uuidv4, tx⟩ := by
    intro e he
    rcases List.mem_cons.mp he with he | he
    · exact .inl he
    · rcases List.mem_cons.mp he with he | he
      · exact .inr (.inl he)
      · rcases List.mem_append.mp he with he | he
        · rcases hdraws with rfl | ⟨draw, rfl, hle⟩
          · cases he
          · exact .inr (.inr (.inl ⟨draw, List.mem_singleton.mp he, hle⟩))
        · exact .inr (.inr (.inr (hrest e he)))
  constructor
  · intro err he
    obtain heq | heq | ⟨draw, heq, -⟩ | ⟨m, heq⟩ | ⟨tx, heq⟩ := hmem _ he <;> cases heq
  · intro v draw hv hdraw
    have hvariant : v = numberVariant := by
      obtain heq | heq | ⟨draw, heq, -⟩ | ⟨m, heq⟩ | ⟨tx, heq⟩ := hmem _ hv <;> cases heq
      rfl
    rw [hvariant]
    obtain heq | heq | ⟨draw, heq, hle⟩ | ⟨m, heq⟩ | ⟨tx, heq⟩ := hmem _ hdraw <;> cases heq
    exact hle

theorem readings_sparedTrace
    (hdraws : draws = [] ∨ ∃ draw, draws = [⟨.random, draw⟩] ∧ numberVariant ≤ draw) :
    readings (sparedTrace numberVariant draws rest) = readings rest := by
  rcases hdraws with rfl | ⟨draw, rfl, -⟩
  · rfl
  · rfl

end

/-- **When a charge is accepted.** -/
theorem accepted_iff (h : Runs (chargeServiceHandler cardDetails request) t r) :
    (∃ tx, r = .ok tx) ↔ Undisturbed t ∧ request.amount.isSome = true ∧ ∃ card,
      request.creditCard = some card ∧ Processed cardDetails card ∧
        ∀ n, MixedMonth t n → Dated card → n ≤ lastMonth card := by
  unfold chargeServiceHandler at h
  split at h <;> rename_i hamount
  · obtain ⟨rfl, rfl⟩ := runs_pure.mp h
    simp [hamount]
  · cases charge_runs h with
    | noProvider err => simp [Undisturbed]
    | @failed numberVariant draw err hdraw =>
      simp only [reduceCtorEq, exists_false, false_iff]
      rintro ⟨⟨-, hspared⟩, -⟩
      have hle : numberVariant ≤ draw := hspared numberVariant draw (by simp) (by simp)
      exact absurd hdraw (not_lt.mpr hle)
    | @spared numberVariant draws rest r hdraws hrest =>
      rw [hrest.accepted_iff]
      have hmixed : ∀ n, MixedMonth (sparedTrace numberVariant draws rest) n ↔
          MixedMonth rest n := by
        intro n
        unfold MixedMonth
        rw [readings_sparedTrace hdraws]
      rw [and_iff_right (undisturbed_sparedTrace hdraws hrest.no_flag)]
      simp only [hmixed]

theorem CardRun.readings_eq (h : CardRun cardDetails request t (.ok tx)) :
    ∃ m₁ m₂, readings t = [m₁, m₂] := by
  cases h with
  | checked _ _ m₁ m₂ _ _ => exact ⟨m₁, m₂, rfl⟩

theorem readings_of_accepted (h : Runs (chargeServiceHandler cardDetails request) t (.ok tx)) :
    ∃ m₁ m₂, readings t = [m₁, m₂] := by
  unfold chargeServiceHandler at h
  split at h
  · obtain ⟨-, hr⟩ := runs_pure.mp h
    cases hr
  · cases charge_runs h with
    | spared hdraws hrest =>
      rw [readings_sparedTrace hdraws]
      exact hrest.readings_eq

/-- The clock does not go back. -/
def Forward (t : List PaymentEvent) : Prop :=
  ∀ m₁ m₂, readings t = [m₁, m₂] → m₁.index ≤ m₂.index

theorem Month.index_le_mixed {m₁ m₂ : Month} (h : m₁.index ≤ m₂.index) :
    m₁.index ≤ m₂.year * 12 + m₁.month := by
  have h₁ := m₁.valid
  have h₂ := m₂.valid
  unfold Month.index at *
  omega

/-- An accepted card has not expired before the charge, if its month and its year are given and the
clock does not go back between the two readings. -/
theorem unexpired_of_accepted (h : Runs (chargeServiceHandler cardDetails request) t (.ok tx)) :
    ∃ card, request.creditCard = some card ∧ Processed cardDetails card ∧
      (Forward t → ∃ today ∈ readings t, Dated card → today.index ≤ lastMonth card) := by
  obtain ⟨m₁, m₂, hreadings⟩ := readings_of_accepted h
  obtain ⟨-, -, card, hcard, hprocessed, hmonth⟩ := (accepted_iff h).mp ⟨tx, rfl⟩
  refine ⟨card, hcard, hprocessed, fun hforward => ⟨m₁, by simp [hreadings], ?_⟩⟩
  intro hdated
  calc m₁.index ≤ m₂.year * 12 + m₁.month := Month.index_le_mixed (hforward m₁ m₂ hreadings)
    _ ≤ lastMonth card := hmonth _ ⟨m₁, m₂, hreadings, rfl⟩ hdated

/-- **Good cards are accepted.** An accepted card is of a kind that is processed and has not
expired, unless its month or its year is zero or the clock goes back between its two readings.
Undisturbed, a card that is good at both readings is accepted, except that when a year begins in
between it must be good up to the month of the old year in the new one. -/
theorem accepts_good_cards (cardDetails : String → CardDetails) (request : ChargeRequest)
    (t : List PaymentEvent) (r : Except String String)
    (h : Runs (chargeServiceHandler cardDetails request) t r) :
    (∀ tx, r = .ok tx → ∃ card, request.creditCard = some card ∧ Processed cardDetails card ∧
      (Forward t → ∃ today ∈ readings t, Dated card → today.index ≤ lastMonth card)) ∧
    (Undisturbed t → request.amount.isSome = true → ∀ card, request.creditCard = some card →
      Processed cardDetails card → (∀ today ∈ readings t, today.index ≤ lastMonth card) →
        ((∃ tx, r = .ok tx) ↔ ∀ m₁ m₂, readings t = [m₁, m₂] → m₁.year < m₂.year →
          Dated card → m₂.year * 12 + m₁.month ≤ lastMonth card)) := by
  constructor
  · rintro tx rfl
    exact unexpired_of_accepted h
  · intro hundisturbed hamount card hcard hprocessed hgood
    rw [accepted_iff h]
    constructor
    · rintro ⟨-, -, card', hcard', -, hmonth⟩ m₁ m₂ hreadings - hdated
      obtain rfl := Option.some.inj (hcard.symm.trans hcard')
      exact hmonth _ ⟨m₁, m₂, hreadings, rfl⟩ hdated
    · intro hyear
      refine ⟨hundisturbed, hamount, card, hcard, hprocessed, ?_⟩
      rintro n ⟨m₁, m₂, hreadings, rfl⟩ hdated
      by_cases hlt : m₁.year < m₂.year
      · exact hyear m₁ m₂ hreadings hlt hdated
      · have hgood₁ : m₁.index ≤ lastMonth card := hgood m₁ (by simp [hreadings])
        unfold Month.index at hgood₁
        omega

/-! ## A charge -/

/-- Every number is that of a visa card. -/
def onlyVisa (_ : String) : CardDetails := ⟨"visa", true⟩

def sampleCard : CreditCardInfo where
  creditCardNumber := "4432-8015-6152-0454"
  creditCardCvv := 672
  creditCardExpirationYear := 2030
  creditCardExpirationMonth := 1

/-- A quarter of the charges fails; this is none of them, in December 2025. -/
def sampleReply : (o : PaymentCall) → PaymentReply o
  | .setProviderAndWait => .ok ()
  | .getNumberValue _ _ => 1 / 4
  | .random => 1 / 2
  | .uuidv4 => "tx1"
  | .newDate => ⟨2025, 12, by decide⟩

def sampleCharge : List PaymentEvent × Except String String :=
  (chargeServiceHandler onlyVisa ⟨some ⟨"USD", 26, 0⟩, some sampleCard⟩).answered sampleReply

theorem readings_sampleCharge :
    readings sampleCharge.1 = [⟨2025, 12, by decide⟩, ⟨2025, 12, by decide⟩] := by
  decide +kernel

theorem forward_sampleCharge : Forward sampleCharge.1 := by
  intro m₁ m₂ h
  obtain ⟨rfl, rfl⟩ : _ = m₁ ∧ _ = m₂ := by simpa [readings_sampleCharge] using h
  exact le_rfl

theorem accepted_sampleCharge : sampleCharge.2 = .ok "tx1" := by decide +kernel

theorem runs_sampleCharge : Runs
    (chargeServiceHandler onlyVisa ⟨some ⟨"USD", 26, 0⟩, some sampleCard⟩) sampleCharge.1
    (.ok "tx1") := by
  rw [← accepted_sampleCharge]
  exact runs_answered sampleReply _

theorem accepts_good_cards_december : ∃ card, some sampleCard = some card ∧
    Processed onlyVisa card ∧
      ∃ today ∈ readings sampleCharge.1, Dated card → today.index ≤ lastMonth card := by
  obtain ⟨card, hcard, hprocessed, hunexpired⟩ :=
    (accepts_good_cards onlyVisa ⟨some ⟨"USD", 26, 0⟩, some sampleCard⟩ sampleCharge.1 (.ok "tx1")
      runs_sampleCharge).1 "tx1" rfl
  exact ⟨card, hcard, hprocessed, hunexpired forward_sampleCharge⟩

end AstronomyShop.PaymentService
