import AstronomyShop.Messages
import AstronomyShop.Library.Digits
import AstronomyShop.Library.Double
import AstronomyShop.Library.MachineInt

/-!
# The currency service

`Convert` of the currency service. The amount is read into a double (`getDouble`), divided by
the rate of its currency, multiplied by the rate of the wanted one, and split into units and
nanos again (`getUnitsAndNanos`). Doubles have exact arithmetic here; the casts to `long`
stay, and a cast out of range is undefined (`none`).

The rates are a table that `operator[]` reads: a code that is not there is added with the
rate `0`. A table that the service can be in is `Reached`, and it keeps the initial rates.
-/

namespace AstronomyShop.Currency

open ExactDouble

/-! ## The rates -/

/-- The decimal constants of the initial table. -/
def initialRates : List (String × ℚ) :=
  [("EUR", 1.0), ("USD", 1.1305), ("JPY", 126.40), ("BGN", 1.9558), ("CZK", 25.592),
    ("DKK", 7.4609), ("GBP", 0.85970), ("HUF", 315.51), ("PLN", 4.2996), ("RON", 4.7463),
    ("SEK", 10.5375), ("CHF", 1.1360), ("ISK", 136.80), ("NOK", 9.8040), ("HRK", 7.4210),
    ("RUB", 74.4208), ("TRY", 6.1247), ("AUD", 1.6072), ("BRL", 4.2682), ("CAD", 1.5128),
    ("CNY", 7.5857), ("HKD", 8.8743), ("IDR", 15999.40), ("ILS", 4.0875), ("INR", 79.4320),
    ("KRW", 1275.05), ("MXN", 21.7999), ("MYR", 4.6289), ("NZD", 1.6679), ("PHP", 59.083),
    ("SGD", 1.5349), ("THB", 36.012), ("ZAR", 16.0583)]

abbrev Rates := List (String × Double)

def currencyConversion : Rates := initialRates.map fun p => (p.1, .finite p.2)

/-- `operator[]` of the table. -/
def Rates.index (table : Rates) (code : String) : Double × Rates :=
  match table.lookup code with
  | some rate => (rate, table)
  | none => (.finite 0, (code, .finite 0) :: table)

/-! ## `Convert` -/

/-- The loop of `getDouble` over the digits of the nanos. -/
def getDoubleLoop (nanos : Int32) (decimal : Double) : Double :=
  if h : nanos = 0 then decimal
  else
    let t := .ofInt (nanos % 10).toInt / .finite 10
    getDoubleLoop (nanos / 10) (decimal / .finite 10 + t)
termination_by nanos.toInt.natAbs
decreasing_by
  have hne : nanos.toInt ≠ 0 := fun h0 => h (Int32.toInt_eq_zero_iff.mp h0)
  rw [Int32.toInt_div_of_one_lt (by decide), Int.natAbs_tdiv]
  exact Nat.div_lt_self (Int.natAbs_pos.mpr hne) (by decide)

def getDouble (money : Money) : Double :=
  .ofInt money.units.toInt + getDoubleLoop money.nanos (.finite 0)

/-- The cast to `long`; undefined out of range. -/
def toLong (x : Double) : Option Int := x.toIntegral? (-2 ^ 63) (2 ^ 63)

/-- The units and nanos that `getUnitsAndNanos` sets. -/
def getUnitsAndNanos (value : Double) : Option (Int64 × Int32) := do
  let unit ← toLong value
  let rem := value - .ofInt unit
  let nano ← toLong (rem * .finite (10 ^ 9))
  return (.ofInt unit, .ofInt nano)

/-- `source` is the field `from`. -/
structure CurrencyConversionRequest where
  source : Option Money := none
  toCode : String := ""

/-- The response, or `none` where a cast is undefined, and the table afterwards. -/
def convert (currency_conversion : Rates) (request : CurrencyConversionRequest) :
    Option Money × Rates :=
  let source := request.source.getD {}
  let (rate, currency_conversion) := currency_conversion.index source.currencyCode
  let one_euro := getDouble source / rate
  let (to_rate, currency_conversion) := currency_conversion.index request.toCode
  let final := one_euro * to_rate
  let response := (getUnitsAndNanos final).map fun (units, nanos) =>
    { currencyCode := request.toCode, units := units, nanos := nanos }
  (response, currency_conversion)

/-- The tables of a service that has answered some requests. -/
inductive Reached : Rates → Prop
  | start : Reached currencyConversion
  | served {table : Rates} (h : Reached table) (request : CurrencyConversionRequest)
      (hdefined : (convert table request).1.isSome = true) : Reached (convert table request).2

/-! ## The table -/

theorem lookup_cons_ne {table : Rates} {code : String} {rate added : Double}
    {addedCode : String} (h : table.lookup code = some rate)
    (hnew : table.lookup addedCode = none) :
    ((addedCode, added) :: table).lookup code = some rate := by
  rw [List.lookup_cons]
  split
  · rename_i heq
    rw [beq_iff_eq] at heq
    rw [heq, hnew] at h
    cases h
  · exact h

/-- `operator[]` changes no rate that is in the table. -/
theorem lookup_index {table : Rates} {code : String} {rate : Double}
    (h : table.lookup code = some rate) (other : String) :
    (table.index other).2.lookup code = some rate := by
  unfold Rates.index
  split
  · exact h
  · rename_i hnew
    exact lookup_cons_ne h hnew

theorem index_of_lookup {table : Rates} {code : String} {rate : Double}
    (h : table.lookup code = some rate) : table.index code = (rate, table) := by
  unfold Rates.index
  rw [h]

theorem lookup_convert {table : Rates} {code : String} {rate : Double}
    (h : table.lookup code = some rate) (request : CurrencyConversionRequest) :
    (convert table request).2.lookup code = some rate :=
  lookup_index (lookup_index h _) _

theorem lookup_currencyConversion :
    ∀ p ∈ initialRates, currencyConversion.lookup p.1 = some (.finite p.2) := by
  decide +kernel

/-- The initial rates stay in the table. -/
theorem Reached.lookup {table : Rates} (h : Reached table) {code : String} {rate : ℚ}
    (hrate : (code, rate) ∈ initialRates) : table.lookup code = some (.finite rate) := by
  induction h with
  | start => exact lookup_currencyConversion _ hrate
  | served _ request _ ih => exact lookup_convert ih request

theorem initialRates_bounds : ∀ p ∈ initialRates, 8 / 10 ≤ p.2 ∧ p.2 ≤ 16000 := by
  decide +kernel

end AstronomyShop.Currency
