import AstronomyShop.Checkout.Payloads
import AstronomyShop.Currency.Accuracy
import AstronomyShop.Library.DecimalText
import AstronomyShop.Shipping.Service

/-!
# Amounts as text

Four places turn an amount into decimal text: the span of a charge in the payment service, the span
and the log of an order in checkout, the confirmation email, and `Display` of a quote in shipping.
All but checkout put the digits of the fraction behind the point as they are, so that leading zeros
get lost; checkout divides the billionths by a billion. A zero field of a message is not sent: it is
`undefined` to the payment service and nothing to the email. Payment and checkout then read their
text as a double: from `2 ^ 24` units on doubles are coarser than billionths, and the nearest one
can be on the other side of a half cent.
-/

namespace AstronomyShop

open DecimalText ExactDouble Wire

/-! ## The renderers -/

/-- A number of a decoded message in a template literal. -/
def jsField (n : Int) : String := if n = 0 then "undefined" else toString n

/-- The attribute `app.payment.amount`. -/
def paymentAmountText (amount : Money) : String :=
  toFixed 2 (parseFloat (jsField amount.units.toInt ++ "." ++ jsField amount.nanos.toInt))

/-- What checkout parses for `app.order.amount` and `app.shipping.amount`. -/
def orderAmountText (m : Money) : String :=
  toString m.units.toInt ++ "." ++ .ofList (padInt 2 (m.nanos / 1000000000).toInt)

/-- The attributes `app.order.amount` and `app.shipping.amount`. -/
def orderAmount (m : Money) : Option Double := parseNumber (orderAmountText m)

/-- A number or text of the parsed order in the template of the email; a missing one is empty. -/
def erbField (j : Json) (name : String) : String :=
  match j with
  | .obj members =>
    match members.lookup name with
    | some (.int n) => toString n
    | some (.str s) => s
    | _ => ""
  | _ => ""

/-- The amount in the confirmation email. -/
def emailAmountText (m : Money) : String :=
  erbField m.toJson "units" ++ "." ++ erbField m.toJson "nanos"

/-- `Display` of a quote. -/
def Shipping.Quote.display (q : Shipping.Quote) : String :=
  toString q.dollars.toNat ++ "." ++ toString q.cents.toNat

/-- The dollars and cents of a quote. -/
def Shipping.Quote.amount (q : Shipping.Quote) : ℚ := q.dollars.toNat + q.cents.toNat / 100

/-! ## What the texts say -/

/-- The text is a number, and to two places it is the amount. -/
def Denotes (text : String) (amount : ℚ) : Prop := ∃ q, read text = some q ∧ SameCents q amount

/-- The same for a number. -/
def Reports (x : Option Double) (amount : ℚ) : Prop :=
  ∃ q, x = some (.finite q) ∧ SameCents q amount

theorem denotes_iff_of_read {text : String} {q amount : ℚ} (h : read text = some q) :
    Denotes text amount ↔ SameCents q amount := by
  simp only [Denotes, h, Option.some.injEq, exists_eq_left']

/-- Units and billionths of a valid amount that is not negative. -/
theorem exists_units_nanos {m : Money} (hvalid : m.isValid = true) (hnonneg : 0 ≤ m.value) :
    ∃ u n : Nat, m.units.toInt = u ∧ m.nanos.toInt = n ∧ n < 10 ^ 9 := by
  obtain ⟨hunits, hnanos⟩ := Money.nonneg_of_isValid hvalid hnonneg
  have hle := (Money.isValid_iff.mp hvalid).2.2
  exact ⟨m.units.toInt.toNat, m.nanos.toInt.toNat, by omega, by omega, by omega⟩

theorem Money.amount_eq {m : Money} {u n : Nat} (hu : m.units.toInt = u) (hn : m.nanos.toInt = n) :
    m.amount = u + n / 10 ^ 9 := by
  rw [Money.amount, hu, hn, Int.cast_natCast, Int.cast_natCast]

theorem toList_toString (n : Nat) : (toString (n : Int)).toList = Nat.toDigits 10 n :=
  Nat.toList_repr

/-- Units, a point, and some digits. -/
theorem read_units_point (u : Nat) {digits : String} (h : AllDigits digits.toList) :
    read (toString (u : Int) ++ "." ++ digits) = some (u + fraction digits.toList) := by
  have htext : (toString (u : Int) ++ "." ++ digits).toList =
      Nat.toDigits 10 u ++ '.' :: digits.toList := by
    rw [String.toList_append, String.toList_append, toList_toString, List.append_assoc]
    rfl
  rw [read_point htext (allDigits_toDigits u) h (.inl Nat.toDigits_ne_nil), whole_toDigits]

theorem fraction_toString (n : Nat) :
    fraction (toString (n : Int)).toList = digitFraction 10 n := by
  rw [toList_toString, fraction_toDigits]

theorem allDigits_toString (n : Nat) : AllDigits (toString (n : Int)).toList := by
  rw [toList_toString]
  exact allDigits_toDigits n

/-! ## The payment service -/

section

variable {m : Money} {u n : Nat}

/-- Without units the text starts with a letter. -/
theorem paymentAmountText_of_zero (hu : m.units.toInt = 0) : paymentAmountText m = "NaN" := by
  have htext : ∀ digits : String, ("undefined" ++ "." ++ digits).toList =
      'u' :: ("ndefined.".toList ++ digits.toList) := by
    intro digits
    rw [String.toList_append]
    rfl
  have hnan : ∀ digits : String, parseFloat ("undefined" ++ "." ++ digits) = .nan := by
    intro digits
    unfold parseFloat
    rw [htext]
    rfl
  unfold paymentAmountText
  rw [hu, jsField, if_pos rfl, hnan]
  rfl

theorem paymentAmountText_of_pos (hu : m.units.toInt = u) (hpos : u ≠ 0) (hn : m.nanos.toInt = n) :
    paymentAmountText m = toFixed 2 (Binary64.ofRat (u + digitFraction 10 n)) := by
  have hunits : jsField u = toString (u : Int) := if_neg (by exact_mod_cast hpos)
  have hdigits := allDigits_toDigits u
  obtain ⟨c, before, hcons⟩ := List.exists_cons_of_ne_nil (@Nat.toDigits_ne_nil u 10)
  rw [hcons] at hdigits
  have htext : ∀ rest : String, (toString (u : Int) ++ "." ++ rest).toList =
      c :: before ++ '.' :: rest.toList := by
    intro rest
    rw [String.toList_append, String.toList_append, toList_toString, List.append_assoc, hcons]
    rfl
  have hwhole : whole (c :: before) = u := by rw [← hcons, whole_toDigits]
  unfold paymentAmountText
  rw [hu, hn, hunits]
  by_cases hzero : n = 0
  · -- no billionths: what is behind the point is no digit
    have hnanos : jsField (n : Int) = "undefined" := if_pos (by exact_mod_cast hzero)
    have hletters : EndsDigits "undefined".toList := by
      rintro _ ⟨⟩
      rfl
    have hparse := @parseFloat_point _ c before [] "undefined".toList (htext "undefined") hdigits
      (by simp [AllDigits]) hletters rfl
    rw [hnanos, hparse, hwhole, hzero]
    simp [fraction, whole]
  · have hnanos : jsField (n : Int) = toString (n : Int) := if_neg (by exact_mod_cast hzero)
    have hparse := @parseFloat_point _ c before (toString (n : Int)).toList []
      (by rw [htext, List.append_nil]) hdigits (allDigits_toString n) (by simp [EndsDigits]) rfl
    rw [hnanos, hparse, hwhole, fraction_toString]

theorem digitFraction_bounds (n : Nat) : 0 ≤ digitFraction 10 n ∧ digitFraction 10 n < 1 := by
  have hlt := abs_lt.mp (@abs_digitFraction_lt_one 10 n (by decide))
  refine ⟨?_, hlt.2⟩
  rw [← fraction_toDigits, fraction]
  positivity

/-- The rounded number that the payment service reports. -/
theorem read_paymentAmountText (hu : m.units.toInt = u) (hpos : u ≠ 0) (hn : m.nanos.toInt = n) :
    read (paymentAmountText m) =
      some (⌊Binary64.nearest (u + digitFraction 10 n) * 100 + 1 / 2⌋ / 100 : ℚ) := by
  obtain ⟨h0, h1⟩ := digitFraction_bounds n
  have hmax : (u : ℚ) + 1 ≤ 2 ^ 63 := by
    have := m.units.toInt_lt
    exact_mod_cast (by omega : u + 1 ≤ 2 ^ 63)
  have hdouble : Binary64.ofRat (u + digitFraction 10 n) =
      .finite (Binary64.nearest (u + digitFraction 10 n)) := by
    apply Binary64.ofRat_of_lt
    · positivity
    · linarith
  have hnonneg : 0 ≤ Binary64.nearest (u + digitFraction 10 n) :=
    Binary64.nearest_nonneg (by positivity)
  rw [paymentAmountText_of_pos hu hpos hn, hdouble, read_toFixed hnonneg]
  norm_num

/-- Nanos of nine digits are told apart by doubles below `2 ^ 24`. -/
theorem keepsCents_of_lt (hlt : n < 10 ^ 9) (hu : u < 2 ^ 24) (hpos : u ≠ 0)
    (hfull : n = 0 ∨ 10 ^ 8 ≤ n) :
    KeepsCents (u + n / 10 ^ 9) (Binary64.nearest (u + digitFraction 10 n)) := by
  rw [digitFraction_of_full hlt hfull]
  have hpos' : (0 : ℚ) < u := by exact_mod_cast Nat.pos_of_ne_zero hpos
  have hn0 : (0 : ℚ) ≤ n := Nat.cast_nonneg n
  have hu' : (u : ℚ) + 1 ≤ 2 ^ 24 := by exact_mod_cast hu
  have hn' : (n : ℚ) < 10 ^ 9 := by exact_mod_cast hlt
  have hnear := @Binary64.abs_nearest_sub_le_of_lt (u + n / 10 ^ 9) 24 (by positivity)
    (by
      have hbelow : (n : ℚ) / 10 ^ 9 < 1 := (div_lt_one (by positivity)).mpr hn'
      exact_mod_cast (by linarith : (u : ℚ) + n / 10 ^ 9 < 2 ^ 24)) (by decide)
  have hbillionth : (2 : ℚ) ^ ((24 : Int) - 54) < 1 / 10 ^ 9 := by norm_num
  apply KeepsCents.of_near (hnear.trans_lt hbillionth) (by norm_num)
  intro c hc
  have hint : (u : Int) * 10 ^ 9 + n < 10 ^ 7 * c + 5 * 10 ^ 6 := by
    have : (u : ℚ) * 10 ^ 9 + n < 10 ^ 7 * c + 5 * 10 ^ 6 := by linarith
    exact_mod_cast this
  have hnext : (u : ℚ) * 10 ^ 9 + n + 1 ≤ 10 ^ 7 * c + 5 * 10 ^ 6 := by exact_mod_cast hint
  linarith

/-- The digits behind the point are a tenth at least. -/
theorem le_nearest_digits (hu : u < 2 ^ 50) (hne : n ≠ 0) :
    u + digitFraction 10 n - 1 / 16 ≤ Binary64.nearest (u + digitFraction 10 n) ∧
      1 / 10 ≤ digitFraction 10 n := by
  obtain ⟨h0, h1⟩ := digitFraction_bounds n
  have htenth := le_abs_digitFraction (b := 10) (n := n) (by decide) (by exact_mod_cast hne)
  rw [abs_of_nonneg h0] at htenth
  have hu' : (u : ℚ) + 1 ≤ 2 ^ 50 := by exact_mod_cast hu
  have hu0 : (0 : ℚ) ≤ u := Nat.cast_nonneg u
  have hnear := @Binary64.abs_nearest_sub_le_of_lt (u + digitFraction 10 n) 50
    (by push_cast at htenth; linarith) (by norm_num at hu' ⊢; linarith) (by decide)
  have hsixteenth : (2 : ℚ) ^ ((50 : Int) - 54) = 1 / 16 := by norm_num
  rw [hsixteenth, abs_le] at hnear
  exact ⟨by linarith [hnear.1], by exact_mod_cast htenth⟩

theorem payment_denotes_iff (hu : m.units.toInt = u) (hn : m.nanos.toInt = n) (hlt : n < 10 ^ 9) :
    Denotes (paymentAmountText m) (u + n / 10 ^ 9) ↔
      u ≠ 0 ∧ (n = 0 ∨ 10 ^ 8 ≤ n ∨ 2 ^ 50 ≤ u) ∧
        (2 ^ 24 ≤ u → KeepsCents (u + n / 10 ^ 9) (Binary64.nearest (u + digitFraction 10 n))) := by
  by_cases hpos : u = 0
  · have hnone : read "NaN" = none := by decide +kernel
    have hzero : m.units.toInt = 0 := by rw [hu, hpos, Nat.cast_zero]
    simp [Denotes, paymentAmountText_of_zero hzero, hnone, hpos]
  · rw [denotes_iff_of_read (read_paymentAmountText hu hpos hn), sameCents_round_iff,
      and_iff_right hpos]
    constructor
    · intro h
      refine ⟨?_, fun _ => h⟩
      by_contra hnot
      simp only [not_or, not_le] at hnot
      obtain ⟨hne, hsmall, hfine⟩ := hnot
      -- what is lost with the leading zeros is more than a cent
      have hnear := (le_nearest_digits hfine hne).1
      have hmore := le_digitFraction_sub hne hsmall
      have hclose := h.sub_le
      linarith
    · rintro ⟨hdigits, hcoarse⟩
      rcases lt_or_ge u (2 ^ 24) with hfine | hlarge
      · exact keepsCents_of_lt hlt hfine hpos (by omega)
      · exact hcoarse hlarge

/-! ## Checkout -/

/-- The double nearest to the units. -/
theorem orderAmount_eq (hu : m.units.toInt = u) (hn : m.nanos.toInt = n) (hlt : n < 10 ^ 9) :
    orderAmount m = some (.finite (Binary64.nearest u)) := by
  have hdivisor : (1000000000 : Int32).toInt = 1000000000 := by decide
  have hdiv : (m.nanos / 1000000000).toInt = 0 := by
    rw [Int32.toInt_div_of_one_lt (by rw [hdivisor]; decide), hdivisor, hn]
    exact Int.tdiv_eq_zero_of_lt (by omega) (by omega)
  have hzeros : padInt 2 0 = ['0', '0'] := by decide
  have hnone : whole ['0', '0'] = 0 := rfl
  have hmax : (u : ℚ) < 2 ^ 64 := by
    have := m.units.toInt_lt
    exact_mod_cast (by omega : u < 2 ^ 64)
  have hread : read (orderAmountText m) = some (u : ℚ) := by
    unfold orderAmountText
    rw [hu, hdiv, hzeros, read_units_point u (by simp [AllDigits]), String.toList_ofList, fraction,
      hnone, Nat.cast_zero, zero_div, add_zero]
  unfold orderAmount parseNumber
  rw [hread, Option.map_some, Binary64.ofRat_of_lt (Nat.cast_nonneg u) hmax]

/-- When whole units are an amount to two places; `c` is half a cent for rounding. -/
theorem whole_eq_floor_iff {v : Int} {c : Nat} :
    100 * v = ⌊((u : ℚ) + n / 10 ^ 9) * 100 + c / 10 ^ 7⌋ ↔
      10 ^ 9 * v ≤ 10 ^ 9 * u + n + c ∧ 10 ^ 9 * (u : Int) + n + c < 10 ^ 9 * v + 10 ^ 7 := by
  have hle : (10 ^ 9 * v : Int) ≤ 10 ^ 9 * u + n + c ↔
      (10 ^ 9 * v : ℚ) ≤ 10 ^ 9 * u + n + c := by exact_mod_cast Iff.rfl
  have hlt : (10 ^ 9 * (u : Int) + n + c < 10 ^ 9 * v + 10 ^ 7) ↔
      (10 ^ 9 * (u : ℚ) + n + c < 10 ^ 9 * v + 10 ^ 7) := by exact_mod_cast Iff.rfl
  rw [eq_comm, Int.floor_eq_iff, hle, hlt]
  push_cast
  constructor
  · rintro ⟨h₁, h₂⟩
    constructor <;> linarith
  · rintro ⟨h₁, h₂⟩
    constructor <;> linarith

theorem order_reports_iff (hu : m.units.toInt = u) (hn : m.nanos.toInt = n) (hlt : n < 10 ^ 9) :
    Reports (orderAmount m) (u + n / 10 ^ 9) ↔
      (Binary64.nearest u = u ∧ n < 10 ^ 7) ∨
        (Binary64.nearest u = u + 1 ∧ 995 * 10 ^ 6 ≤ n) := by
  obtain ⟨v, hv⟩ := Binary64.exists_nearest_natCast u
  have hcents : Reports (orderAmount m) (u + n / 10 ^ 9) ↔
      IsCents (u + n / 10 ^ 9) (100 * v) := by
    have hwhole : (v : ℚ) = (100 * v : Int) / 100 := by
      push_cast
      linarith
    simp only [Reports, orderAmount_eq hu hn hlt, hv, Option.some.injEq, Double.finite.injEq,
      exists_eq_left', SameCents]
    rw [hwhole]
    simp only [isCents_div_iff, exists_eq_left]
  have hcut := @whole_eq_floor_iff u n v 0
  rw [Nat.cast_zero, zero_div, add_zero] at hcut
  have hround := @whole_eq_floor_iff u n v (5 * 10 ^ 6)
  have hhalf : ((5 * 10 ^ 6 : Nat) : ℚ) / 10 ^ 7 = 1 / 2 := by norm_num
  rw [hhalf] at hround
  have hsame : (v : ℚ) = u ↔ v = u := by exact_mod_cast Iff.rfl
  have hnext : (v : ℚ) = u + 1 ↔ v = u + 1 := by exact_mod_cast Iff.rfl
  rw [hcents, IsCents, hcut, hround, hv, hsame, hnext]
  omega

/-- Checkout and the payment service report the same number. -/
def SameNumber (m : Money) : Prop :=
  ∃ q, read (paymentAmountText m) = some q ∧ orderAmount m = some (.finite q)

/-- Quarters are not rounded. -/
theorem round_quarters {q : ℚ} {j : Int} (h : q = j / 4) :
    (⌊q * 100 + 1 / 2⌋ / 100 : ℚ) = q := by
  have hfloor : ⌊q * 100 + 1 / 2⌋ = 25 * j := by
    rw [h, Int.floor_eq_iff]
    push_cast
    constructor <;> linarith
  rw [hfloor, h]
  push_cast
  linarith

/-- From `2 ^ 50` on the doubles are quarters. -/
theorem exists_nearest_quarters {q : ℚ} (h : 2 ^ 50 ≤ q) :
    ∃ j : Int, Binary64.nearest q = j / 4 := by
  obtain ⟨j, hj⟩ := Binary64.exists_nearest_eq (k := 50) (by exact_mod_cast h)
  refine ⟨j, ?_⟩
  have hquarter : (2 : ℚ) ^ ((50 : Int) - 52) = 1 / 4 := by norm_num
  rw [hj, hquarter, mul_one_div]

theorem sameNumber_iff (hu : m.units.toInt = u) (hn : m.nanos.toInt = n) (hlt : n < 10 ^ 9) :
    SameNumber m ↔ u ≠ 0 ∧ (n = 0 ∨ (2 ^ 50 ≤ u ∧
      Binary64.nearest (u + digitFraction 10 n) = Binary64.nearest u)) := by
  by_cases hpos : u = 0
  · have hnone : read "NaN" = none := by decide +kernel
    have hzero : m.units.toInt = 0 := by rw [hu, hpos, Nat.cast_zero]
    simp [SameNumber, paymentAmountText_of_zero hzero, hnone, hpos]
  · simp only [SameNumber, read_paymentAmountText hu hpos hn, orderAmount_eq hu hn hlt,
      Option.some.injEq, Double.finite.injEq, exists_eq_left', ne_eq, hpos, not_false_eq_true,
      true_and]
    by_cases hzero : n = 0
    · have hwhole : (u : ℚ) + digitFraction 10 n = u := by
        rw [hzero, Nat.cast_zero, digitFraction_zero, add_zero]
      obtain ⟨v, hv⟩ := Binary64.exists_nearest_natCast u
      have hquarters : Binary64.nearest u = (4 * v : Int) / 4 := by
        rw [hv]
        push_cast
        linarith
      rw [hwhole, round_quarters hquarters]
      exact iff_of_true rfl (.inl hzero)
    · rcases lt_or_ge u (2 ^ 50) with hfine | hcoarse
      · -- one tenth more, at least, but for a sixteenth
        obtain ⟨hnear, htenth⟩ := le_nearest_digits hfine hzero
        refine iff_of_false ?_ (by omega)
        intro hsame
        rw [Binary64.nearest_of_lt (by omega)] at hsame
        have hfloor := Int.lt_floor_add_one
          (Binary64.nearest (u + digitFraction 10 n) * 100 + 1 / 2)
        linarith
      · have hle : (2 : ℚ) ^ 50 ≤ u := by exact_mod_cast hcoarse
        obtain ⟨j, hj⟩ := @exists_nearest_quarters (u + digitFraction 10 n)
          (hle.trans (by linarith [(digitFraction_bounds n).1]))
        rw [round_quarters hj, eq_comm]
        simp only [hzero, hcoarse, false_or, true_and]

/-! ## The email -/

/-- A number that is dropped when it is zero, among other members. -/
theorem erbField_omitEmptyInt {name : String} (k : Int) {before after : List (String × Json)}
    (hb : before.lookup name = none) (ha : after.lookup name = none) :
    erbField (.obj (before ++ Go.omitEmptyInt name k ++ after)) name =
      if k = 0 then "" else toString k := by
  unfold erbField
  by_cases hzero : k = 0
  · simp [Go.omitEmptyInt, Go.omitEmpty, List.lookup_append, hzero, hb, ha]
  · simp [Go.omitEmptyInt, Go.omitEmpty, List.lookup_append, hzero, hb]

/-- What the template prints for a number. -/
def erbDigits (k : Nat) : List Char := if k = 0 then [] else Nat.toDigits 10 k

theorem allDigits_erbDigits (k : Nat) : AllDigits (erbDigits k) := by
  unfold erbDigits
  split
  · simp [AllDigits]
  · exact allDigits_toDigits k

theorem whole_erbDigits (k : Nat) : whole (erbDigits k) = k := by
  unfold erbDigits
  split
  · rename_i hzero
    rw [hzero]
    rfl
  · exact whole_toDigits k

theorem fraction_erbDigits (k : Nat) : fraction (erbDigits k) = digitFraction 10 k := by
  unfold erbDigits
  split
  · rename_i hzero
    simp [fraction, whole, hzero]
  · exact fraction_toDigits k

theorem erbDigits_eq_nil_iff {k : Nat} : erbDigits k = [] ↔ k = 0 := by
  unfold erbDigits
  split <;> simp_all

theorem toList_emailAmountText (hu : m.units.toInt = u) (hn : m.nanos.toInt = n) :
    (emailAmountText m).toList = erbDigits u ++ '.' :: erbDigits n := by
  have hdigits : ∀ k : Nat, (if (k : Int) = 0 then "" else toString (k : Int)).toList =
      erbDigits k := by
    intro k
    unfold erbDigits
    by_cases hzero : k = 0
    · simp [hzero]
    · rw [if_neg (by exact_mod_cast hzero), if_neg hzero, toList_toString]
  have hunits : erbField m.toJson "units" = if (u : Int) = 0 then "" else toString (u : Int) := by
    rw [← hu]
    apply erbField_omitEmptyInt m.units.toInt
    · exact Go.lookup_omitEmpty_of_ne (by decide) _ _
    · exact Go.lookup_omitEmpty_of_ne (by decide) _ _
  have hnanos : erbField m.toJson "nanos" = if (n : Int) = 0 then "" else toString (n : Int) := by
    have hfront : (Go.omitEmptyString "currency_code" m.currencyCode ++
        Go.omitEmptyInt "units" m.units.toInt).lookup "nanos" = none := by
      rw [List.lookup_append, Go.omitEmptyString, Go.omitEmptyInt,
        Go.lookup_omitEmpty_of_ne (by decide), Go.lookup_omitEmpty_of_ne (by decide)]
      rfl
    have hlast := @erbField_omitEmptyInt "nanos" m.nanos.toInt _ [] hfront rfl
    rw [List.append_nil] at hlast
    rw [← hn]
    exact hlast
  unfold emailAmountText
  rw [String.toList_append, String.toList_append, hunits, hnanos, hdigits, hdigits,
    List.append_assoc]
  rfl

theorem email_denotes_iff (hu : m.units.toInt = u) (hn : m.nanos.toInt = n) (hlt : n < 10 ^ 9) :
    Denotes (emailAmountText m) (u + n / 10 ^ 9) ↔ 10 ^ 8 ≤ n ∨ (n = 0 ∧ u ≠ 0) := by
  have htext := toList_emailAmountText hu hn
  by_cases hnil : u = 0 ∧ n = 0
  · obtain ⟨rfl, rfl⟩ := hnil
    have hnone : read (emailAmountText m) = none := by
      unfold DecimalText.read
      rw [htext]
      rfl
    simp [Denotes, hnone]
  · have hne : erbDigits u ≠ [] ∨ erbDigits n ≠ [] := by
      rw [ne_eq, ne_eq, erbDigits_eq_nil_iff, erbDigits_eq_nil_iff]
      exact not_and_or.mp hnil
    have hread := read_point htext (allDigits_erbDigits u) (allDigits_erbDigits n) hne
    rw [whole_erbDigits, fraction_erbDigits] at hread
    rw [denotes_iff_of_read hread]
    by_cases hfull : n = 0 ∨ 10 ^ 8 ≤ n
    · rw [digitFraction_of_full hlt hfull]
      refine iff_of_true (SameCents.refl _) ?_
      rcases hfull with hzero | hlarge
      · exact .inr ⟨hzero, fun hu0 => hnil ⟨hu0, hzero⟩⟩
      · exact .inl hlarge
    · obtain ⟨hn0, hsmall⟩ := not_or.mp hfull
      refine iff_of_false ?_ ?_
      · exact not_sameCents_digits hn0 (not_le.mp hsmall)
      · rintro (hlarge | ⟨hzero, -⟩)
        · exact hsmall hlarge
        · exact hn0 hzero

end

/-! ## Shipping -/

theorem display_denotes_iff {q : Shipping.Quote} (hcents : q.cents.toNat < 100) :
    Denotes q.display q.amount ↔ q.cents.toNat = 0 ∨ 10 ≤ q.cents.toNat := by
  have hread : DecimalText.read q.display =
      some (q.dollars.toNat + digitFraction 10 q.cents.toNat : ℚ) := by
    have hpoint := read_units_point q.dollars.toNat (allDigits_toString q.cents.toNat)
    rw [fraction_toString] at hpoint
    exact hpoint
  have hamount : q.amount = q.dollars.toNat + q.cents.toNat / 10 ^ (1 + 1) := by
    unfold Shipping.Quote.amount
    norm_num
  rw [denotes_iff_of_read hread, hamount]
  constructor
  · intro h
    by_contra hnot
    obtain ⟨hne, hsmall⟩ := not_or.mp hnot
    exact not_sameCents_digits hne (by omega) h
  · intro hfull
    rw [digitFraction_of_full (k := 1) (by omega) (by omega)]
    exact SameCents.refl _

/-! ## All of them -/

/-- **When the renderings denote the amount.** The payment service needs units, and no billionths or
nine digits of them; from `2 ^ 24` units on the double that it reads must keep the cents as well.
Checkout needs less than a cent, and units that are a double; the email nine digits, or none behind
some units; shipping two digits of cents, or none. Below `2 ^ 50` units checkout and the payment
service agree on whole amounts only. -/
theorem renderings_denote_iff (m : Money) (hvalid : m.isValid = true) (hnonneg : 0 ≤ m.value)
    (q : Shipping.Quote) (hcents : q.cents.toNat < 100) :
    (Denotes (paymentAmountText m) m.amount ↔ m.units.toInt ≠ 0 ∧
        (m.nanos.toInt = 0 ∨ 10 ^ 8 ≤ m.nanos.toInt ∨ 2 ^ 50 ≤ m.units.toInt) ∧
          (2 ^ 24 ≤ m.units.toInt →
            KeepsCents m.amount (Binary64.nearest (Currency.readAmount m)))) ∧
      (Reports (orderAmount m) m.amount ↔
        (Binary64.nearest m.units.toInt = m.units.toInt ∧ m.nanos.toInt < 10 ^ 7) ∨
          (Binary64.nearest m.units.toInt = m.units.toInt + 1 ∧ 995 * 10 ^ 6 ≤ m.nanos.toInt)) ∧
      (Denotes (emailAmountText m) m.amount ↔
        10 ^ 8 ≤ m.nanos.toInt ∨ (m.nanos.toInt = 0 ∧ m.units.toInt ≠ 0)) ∧
      (Denotes q.display q.amount ↔ q.cents.toNat = 0 ∨ 10 ≤ q.cents.toNat) ∧
      (SameNumber m ↔ m.units.toInt ≠ 0 ∧ (m.nanos.toInt = 0 ∨ (2 ^ 50 ≤ m.units.toInt ∧
        Binary64.nearest (Currency.readAmount m) = Binary64.nearest m.units.toInt))) := by
  obtain ⟨u, n, hu, hn, hlt⟩ := exists_units_nanos hvalid hnonneg
  have hread : Currency.readAmount m = u + digitFraction 10 n := by
    rw [Currency.readAmount, hu, hn, Int.cast_natCast]
  have hne : (u : Int) ≠ 0 ↔ u ≠ 0 := Nat.cast_ne_zero
  have hdigits : ((n : Int) = 0 ∨ (10 : Int) ^ 8 ≤ n ∨ (2 : Int) ^ 50 ≤ u) ↔
      (n = 0 ∨ 10 ^ 8 ≤ n ∨ 2 ^ 50 ≤ u) := by omega
  have hcoarse : (2 : Int) ^ 24 ≤ u ↔ 2 ^ 24 ≤ u := by omega
  have hcut : (n : Int) < 10 ^ 7 ↔ n < 10 ^ 7 := by omega
  have hup : (995 : Int) * 10 ^ 6 ≤ n ↔ 995 * 10 ^ 6 ≤ n := by omega
  have hquarters : (2 : Int) ^ 50 ≤ u ↔ 2 ^ 50 ≤ u := by omega
  have hzero : (n : Int) = 0 ↔ n = 0 := Nat.cast_eq_zero
  refine ⟨?_, ?_, ?_, display_denotes_iff hcents, ?_⟩
  · rw [Money.amount_eq hu hn, payment_denotes_iff hu hn hlt, hread, hu, hn, hne, hdigits, hcoarse]
  · rw [Money.amount_eq hu hn, order_reports_iff hu hn hlt, hu, hn, hcut, hup, Int.cast_natCast]
  · rw [Money.amount_eq hu hn, email_denotes_iff hu hn hlt, hu, hn]
    omega
  · rw [sameNumber_iff hu hn hlt, hread, hu, hn, hne, hzero, hquarters, Int.cast_natCast]

/-- Fifty-seven dollars are the same everywhere. -/
theorem whole_amount_same : SameNumber ⟨"USD", 57, 0⟩ :=
  (renderings_denote_iff ⟨"USD", 57, 0⟩ (by decide) (by decide) ⟨57, 0⟩ (by decide)).2.2.2.2.mpr
    ⟨by decide, .inl (by decide)⟩

/-- Five dollars and eight cents are 5.80 for the payment service. -/
theorem payment_amount_wrong : ¬ ∀ m : Money, m.isValid = true → 0 ≤ m.value →
    ∀ q : Shipping.Quote, q.cents.toNat < 100 →
      Denotes (paymentAmountText m) m.amount ∧ Reports (orderAmount m) m.amount ∧
        Denotes (emailAmountText m) m.amount ∧ Denotes q.display q.amount ∧ SameNumber m := by
  intro h
  obtain ⟨hpayment, -⟩ := h ⟨"USD", 5, 80000000⟩ (by decide) (by decide) ⟨5, 8⟩ (by decide)
  have hu : (⟨"USD", 5, 80000000⟩ : Money).units.toInt = (5 : Nat) := by decide
  have hn : (⟨"USD", 5, 80000000⟩ : Money).nanos.toInt = (80000000 : Nat) := by decide
  rw [Money.amount_eq hu hn, payment_denotes_iff hu hn (by decide)] at hpayment
  obtain ⟨-, hdigits, -⟩ := hpayment
  omega

end AstronomyShop
