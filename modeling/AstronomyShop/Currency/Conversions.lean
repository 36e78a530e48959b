import AstronomyShop.Checkout.LineOrder
import AstronomyShop.Currency.Refusals
import AstronomyShop.Currency.Splitting

/-!
# One conversion after another

Truncation works against the customer: along any conversions an amount loses worth, and less than a
billionth of each currency on the way (`no_money_made`). This needs every amount on the way to be
read as it is. Five cents are read as half a dollar, and a conversion from dollars to dollars makes
money of them (`five_cents_grow`).
-/

namespace AstronomyShop.Currency

open ExactDouble

/-- What an amount is worth in euros. -/
def euros (m : Money) : ℚ := m.amount / initialRate m.currencyCode

/-- The nanos are read as they are. -/
def ReadExactly (m : Money) : Prop := m.nanos.toInt = 0 ∨ 10 ^ 8 ≤ m.nanos.toInt.natAbs

/-- An amount is converted into one currency after another, and is read exactly each time. The
server may have answered any other requests in between. -/
inductive Conversions : Money → List String → Money → Prop
  | nil (m : Money) : Conversions m [] m
  | cons {m m₁ m' : Money} {code : String} {codes : List String} {table : Rates}
      (htable : Reached table) (hread : ReadExactly m)
      (hconvert : (convert table ⟨some m, code⟩).1 = some m₁) (hrest : Conversions m₁ codes m') :
      Conversions m (code :: codes) m'

/-- A billionth of a currency, in euros. -/
def nanoOf (code : String) : ℚ := 1 / 10 ^ 9 / initialRate code

theorem amount_eq (m : Money) : m.amount = m.value / 10 ^ 9 := by
  rw [Money.amount, Money.value]
  push_cast
  ring

theorem initialRate_pos {code : String} (h : code ∈ initialRates.map Prod.fst) :
    0 < initialRate code := by
  obtain ⟨rate, hrate⟩ := exists_rate_of_listed h
  have hbound := (initialRates_bounds _ hrate).1
  rw [initialRate_of_mem hrate]
  linarith

theorem initialRate_of_unlisted {code : String} (h : code ∉ initialRates.map Prod.fst) :
    initialRate code = 0 := by
  by_contra hne
  exact h (initialRate_ne_zero_iff.mp hne)

section

variable {m m₁ : Money} {code : String} {table : Rates}

theorem truncate_bounds {q : ℚ} (h : 0 ≤ q) : (truncate q : ℚ) ≤ q ∧ q < truncate q + 1 :=
  (truncate_eq_iff_of_nonneg h).mp rfl

/-- From a listed currency the amount that is split is a number, also into an unknown one. -/
theorem convert_of_listed (htable : Reached table) (hm : m.currencyCode ∈ initialRates.map Prod.fst) :
    (convert table ⟨some m, code⟩).1 =
      splitMoney code (readAmount m / initialRate m.currencyCode * initialRate code) := by
  have hrate := initialRate_ne_zero_iff.mpr hm
  rw [convert_fst, Option.getD_some, htable.read, htable.read, getDouble_eq,
    Double.finite_div _ hrate, Double.finite_mul, splitMoney]

/-- One conversion. -/
theorem convert_euros (htable : Reached table) (hread : ReadExactly m)
    (hvalid : m.isValid = true) (hnonneg : 0 ≤ m.value)
    (hm : m.currencyCode ∈ initialRates.map Prod.fst) (hcode : code ∈ initialRates.map Prod.fst)
    (hconvert : (convert table ⟨some m, code⟩).1 = some m₁) :
    m₁.isValid = true ∧ m₁.currencyCode = code ∧ 0 ≤ m₁.value ∧ euros m₁ ≤ euros m ∧
      euros m < euros m₁ + nanoOf code := by
  have hpos := initialRate_pos hm
  have hpos' := initialRate_pos hcode
  rw [convert_of_listed htable hm, readAmount_eq hvalid hread] at hconvert
  obtain ⟨hvalid₁, hcode₁, hvalue₁⟩ := splitMoney_eq_some hconvert
  have heuros : 0 ≤ euros m := by
    unfold euros
    rw [amount_eq]
    have : (0 : ℚ) ≤ m.value := by exact_mod_cast hnonneg
    positivity
  have hv : 0 ≤ euros m * initialRate code * 10 ^ 9 := by positivity
  obtain ⟨hle, hlt⟩ := truncate_bounds hv
  have hamount : euros m₁ = truncate (euros m * initialRate code * 10 ^ 9) / 10 ^ 9 /
      initialRate code := by
    rw [euros, amount_eq, hvalue₁, hcode₁]
    rfl
  refine ⟨hvalid₁, hcode₁, ?_, ?_, ?_⟩
  · rw [hvalue₁]
    exact truncate_nonneg hv
  · rw [hamount, div_div, div_le_iff₀ (by positivity)]
    linarith
  · rw [hamount, nanoOf, ← add_div, ← add_div, div_div, lt_div_iff₀ (by positivity)]
    linarith

/-- In one currency the worth decides. -/
theorem value_le_of_euros (hm : m.currencyCode ∈ initialRates.map Prod.fst)
    (hle : euros m₁ ≤ euros m) (hsame : m₁.currencyCode = m.currencyCode) :
    m₁.value ≤ m.value := by
  have hpos := initialRate_pos hm
  rw [euros, euros, hsame, div_le_div_iff_of_pos_right hpos, amount_eq, amount_eq,
    div_le_div_iff_of_pos_right (by norm_num)] at hle
  exact_mod_cast hle

/-- Conversions, one after another. -/
theorem Conversions.euros {m' : Money} {codes : List String} (h : Conversions m codes m')
    (hvalid : m.isValid = true) (hnonneg : 0 ≤ m.value)
    (hm : m.currencyCode ∈ initialRates.map Prod.fst)
    (hcodes : ∀ code ∈ codes, code ∈ initialRates.map Prod.fst) :
    m'.isValid = true ∧ 0 ≤ m'.value ∧ euros m' ≤ euros m ∧
      euros m ≤ euros m' + (codes.map nanoOf).sum := by
  induction h with
  | nil m => exact ⟨hvalid, hnonneg, le_rfl, by simp⟩
  | @cons m m₁ m' code codes table htable hread hconvert _ ih =>
    obtain ⟨hcode, hcodes⟩ := List.forall_mem_cons.mp hcodes
    obtain ⟨hvalid₁, hcode₁, hnonneg₁, hle, hlt⟩ :=
      convert_euros htable hread hvalid hnonneg hm hcode hconvert
    obtain ⟨hvalid', hnonneg', hle', hlt'⟩ := ih hvalid₁ hnonneg₁ (by rwa [hcode₁]) hcodes
    refine ⟨hvalid', hnonneg', hle'.trans hle, ?_⟩
    rw [List.map_cons, List.sum_cons]
    linarith

end

/-- **No money is made by converting.** Along any conversions between listed currencies, a valid
amount that is not negative is worth less and less, by less than a billionth of each currency that
it is converted to; back in its own currency it is at most what it was. -/
theorem no_money_made (m m' : Money) (codes : List String) (h : Conversions m codes m')
    (hvalid : m.isValid = true) (hnonneg : 0 ≤ m.value)
    (hm : m.currencyCode ∈ initialRates.map Prod.fst)
    (hcodes : ∀ code ∈ codes, code ∈ initialRates.map Prod.fst) :
    m'.isValid = true ∧ 0 ≤ m'.value ∧ euros m' ≤ euros m ∧
      euros m ≤ euros m' + (codes.map nanoOf).sum ∧
        (m'.currencyCode = m.currencyCode → m'.value ≤ m.value) := by
  obtain ⟨hvalid', hnonneg', hle, hlt⟩ := h.euros hvalid hnonneg hm hcodes
  exact ⟨hvalid', hnonneg', hle, hlt, fun hsame => value_le_of_euros hm hle hsame⟩

/-! ## Dollars and yen -/

/-- A conversion that is known by the value of its result. -/
theorem convert_eq_of_value {m m' : Money} {code : String} {rate toRate v : ℚ}
    (hrate : (m.currencyCode, rate) ∈ initialRates) (htoRate : (code, toRate) ∈ initialRates)
    (hv : readAmount m / rate * toRate = v) (hrange : 0 ≤ v ∧ v < 2 ^ 63)
    (hvalid : m'.isValid = true) (hcode : m'.currencyCode = code)
    (hvalue : m'.value ≤ v * 10 ^ 9 ∧ v * 10 ^ 9 < m'.value + 1) :
    (convert currencyConversion ⟨some m, code⟩).1 = some m' := by
  have habs : |v| < 2 ^ 63 := by
    rw [abs_of_nonneg hrange.1]
    exact hrange.2
  obtain ⟨split, hsplit, hsplitValid, hsplitValue⟩ := @splitMoney_value code v habs
  have hpos : 0 ≤ v * 10 ^ 9 := mul_nonneg hrange.1 (by norm_num)
  rw [convert_eq_splitMoney .start hrate htoRate, hv, hsplit, Option.some.injEq]
  apply Money.eq_of_value hsplitValid hvalid
  · rw [hsplitValue]
    exact (truncate_eq_iff_of_nonneg hpos).mpr hvalue
  · rw [(splitMoney_eq_some hsplit).2.1, hcode]

theorem usd_listed : ("USD", 1.1305) ∈ initialRates :=
  List.mem_cons_of_mem _ List.mem_cons_self

theorem jpy_listed : ("JPY", 126.40) ∈ initialRates :=
  List.mem_cons_of_mem _ (List.mem_cons_of_mem _ List.mem_cons_self)

theorem readAmount_of_value {m : Money} (hvalid : m.isValid = true) (hread : ReadExactly m)
    {n : Int} (hn : m.value = n) : readAmount m = n / 10 ^ 9 := by
  rw [readAmount_eq hvalid hread, amount_eq, hn]

theorem dollars_to_yen : (convert currencyConversion ⟨some ⟨"USD", 1, 500000000⟩, "JPY"⟩).1 =
    some ⟨"JPY", 167, 713401149⟩ := by
  have hread := @readAmount_of_value ⟨"USD", 1, 500000000⟩ (by decide) (.inr (by decide))
    1500000000 (by decide)
  have hvalue : (⟨"JPY", 167, 713401149⟩ : Money).value = 167713401149 := by decide
  apply convert_eq_of_value usd_listed jpy_listed rfl _ (by decide) rfl _
  · rw [hread]
    norm_num
  · rw [hread, hvalue]
    norm_num

theorem yen_to_dollars : (convert currencyConversion ⟨some ⟨"JPY", 167, 713401149⟩, "USD"⟩).1 =
    some ⟨"USD", 1, 499999999⟩ := by
  have hread := @readAmount_of_value ⟨"JPY", 167, 713401149⟩ (by decide) (.inr (by decide))
    167713401149 (by decide)
  have hvalue : (⟨"USD", 1, 499999999⟩ : Money).value = 1499999999 := by decide
  apply convert_eq_of_value jpy_listed usd_listed rfl _ (by decide) rfl _
  · rw [hread]
    norm_num
  · rw [hread, hvalue]
    norm_num

/-- A dollar and a half, to yen and back. -/
theorem no_money_made_yen : (⟨"USD", 1, 499999999⟩ : Money).value ≤
    (⟨"USD", 1, 500000000⟩ : Money).value := by
  obtain ⟨-, -, -, -, hle⟩ := no_money_made ⟨"USD", 1, 500000000⟩ ⟨"USD", 1, 499999999⟩
    ["JPY", "USD"]
    (.cons .start (.inr (by decide)) dollars_to_yen
      (.cons .start (.inr (by decide)) yen_to_dollars (.nil _)))
    (by decide) (by decide) (by decide) (by decide)
  exact hle rfl

/-- Five cents of a dollar are read as half a dollar, and become half a dollar. -/
theorem five_cents_grow :
    ¬ ∀ (table : Rates) (m m' : Money), Reached table → m.isValid = true → 0 ≤ m.value →
      (convert table ⟨some m, m.currencyCode⟩).1 = some m' → m'.value ≤ m.value := by
  intro h
  have hread : readAmount ⟨"USD", 0, 50000000⟩ = 1 / 2 := by
    have hcents : (⟨"USD", 0, 50000000⟩ : Money).nanos.toInt = 50000000 := by decide
    have hunits : (⟨"USD", 0, 50000000⟩ : Money).units.toInt = 0 := by decide
    rw [readAmount, hcents, hunits, digitFraction, digitCount]
    norm_num
  have hvalue : (⟨"USD", 0, 500000000⟩ : Money).value = 500000000 := by decide
  have hconvert : (convert currencyConversion ⟨some ⟨"USD", 0, 50000000⟩, "USD"⟩).1 =
      some ⟨"USD", 0, 500000000⟩ := by
    apply convert_eq_of_value usd_listed usd_listed rfl _ (by decide) rfl _
    · rw [hread]
      norm_num
    · rw [hread, hvalue]
      norm_num
  exact absurd (h _ ⟨"USD", 0, 50000000⟩ _ .start (by decide) (by decide) hconvert) (by decide)

end AstronomyShop.Currency
