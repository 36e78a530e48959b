import AstronomyShop.Currency.Accuracy
import AstronomyShop.Currency.Server

/-!
# Unsupported currencies

`Convert` never looks whether a currency is supported, and nothing that it does throws: reading the
rate of an unknown code gives zero, and so does every later read of it (`read_serveAll`). From an
unknown currency it divides by that zero, and into one it answers with an amount of zero.
`refuses_unsupported_iff` gives the requests for which all is as it should be.
-/

namespace AstronomyShop.Currency

open ExactDouble

/-! ## The rates that are read -/

/-- The rate of a code in the initial table, or zero. -/
def initialRate (code : String) : ℚ := (initialRates.lookup code).getD 0

/-- The rate that `operator[]` returns. -/
def Rates.read (table : Rates) (code : String) : Double := (table.lookup code).getD (.finite 0)

theorem lookup_initialRates : ∀ p ∈ initialRates, initialRates.lookup p.1 = some p.2 := by
  decide +kernel

theorem initialRate_of_mem {code : String} {rate : ℚ} (h : (code, rate) ∈ initialRates) :
    initialRate code = rate := by
  unfold initialRate
  rw [lookup_initialRates _ h]
  rfl

theorem exists_rate_of_listed {code : String} (h : code ∈ initialRates.map Prod.fst) :
    ∃ rate, (code, rate) ∈ initialRates := by
  obtain ⟨⟨_, rate⟩, hrate, rfl⟩ := List.mem_map.mp h
  exact ⟨rate, hrate⟩

theorem initialRate_ne_zero_iff {code : String} :
    initialRate code ≠ 0 ↔ code ∈ initialRates.map Prod.fst := by
  constructor
  · intro h
    by_contra hmem
    apply h
    unfold initialRate
    rw [List.lookup_eq_none_iff.mpr]
    · rfl
    · intro p hp
      rw [bne_iff_ne]
      intro heq
      exact hmem (heq ▸ List.mem_map_of_mem hp)
  · intro hmem h
    obtain ⟨rate, hrate⟩ := exists_rate_of_listed hmem
    rw [initialRate_of_mem hrate] at h
    have hbound := (initialRates_bounds _ hrate).1
    rw [h] at hbound
    norm_num at hbound

theorem index_fst (table : Rates) (code : String) : (table.index code).1 = table.read code := by
  unfold Rates.index Rates.read
  cases table.lookup code with
  | some rate => rfl
  | none => rfl

/-- Reading a rate, known or not, changes no rate that is read later. -/
theorem read_index (table : Rates) (other code : String) :
    (table.index other).2.read code = table.read code := by
  unfold Rates.index Rates.read
  cases hother : table.lookup other with
  | some rate => rfl
  | none =>
    by_cases h : code = other
    · rw [h, List.lookup_cons_self, hother]
      rfl
    · rw [List.lookup_cons, beq_false_of_ne h]

theorem read_currencyConversion (code : String) :
    currencyConversion.read code = .finite (initialRate code) := by
  unfold Rates.read currencyConversion initialRate
  induction initialRates with
  | nil => rfl
  | cons p rates ih =>
    rw [List.map_cons, List.lookup_cons, List.lookup_cons]
    cases code == p.1 with
    | true => rfl
    | false => exact ih

/-- In every state of the server the rates that are read are the initial ones, and zero
otherwise. -/
theorem read_serveAll (requests : List Request) (code : String) :
    (serveAll currencyConversion requests).read code = .finite (initialRate code) := by
  induction requests using List.reverseRecOn with
  | nil => exact read_currencyConversion code
  | append_singleton requests request ih =>
    rw [serveAll_append, serveAll_singleton, ← ih]
    cases request with
    | getSupportedCurrencies => rfl
    | convert request => exact (read_index _ _ _).trans (read_index _ _ _)

/-- So are they in every table that is reached. -/
theorem Reached.read {table : Rates} (h : Reached table) (code : String) :
    table.read code = .finite (initialRate code) := by
  induction h with
  | start => exact read_currencyConversion code
  | @served table _ request _ ih =>
    have hkept : (convert table request).2.read code = table.read code :=
      (read_index _ _ _).trans (read_index _ _ _)
    rw [hkept, ih]

theorem CurrencyConversionRequest.forall_mem_codes {request : CurrencyConversionRequest}
    {P : String → Prop} : (∀ code ∈ request.codes, P code) ↔
      P (request.source.getD {}).currencyCode ∧ P request.toCode := by
  unfold CurrencyConversionRequest.codes
  rw [List.forall_mem_cons, List.forall_mem_singleton]

/-! ## What `Convert` answers -/

/-- The amount that `Convert` splits, for rates `rate` and `toRate`. -/
theorem convert_fst (table : Rates) (request : CurrencyConversionRequest) :
    (convert table request).1 =
      (getUnitsAndNanos (getDouble (request.source.getD {}) /
        table.read (request.source.getD {}).currencyCode * table.read request.toCode)).map
          fun p => { currencyCode := request.toCode, units := p.1, nanos := p.2 } := by
  rw [← read_index table (request.source.getD {}).currencyCode request.toCode, ← index_fst,
    ← index_fst]
  rfl

/-- Status OK exactly for two initial currencies, no division by zero, and valid amounts only. -/
structure RefusesUnsupported (table : Rates) (request : CurrencyConversionRequest) : Prop where
  ok_iff : (convert table request).1.isSome = true ↔
    ∀ code ∈ request.codes, code ∈ initialRates.map Prod.fst
  divides : (table.index (request.source.getD {}).currencyCode).1 ≠ .finite 0
  valid : ∀ m, (convert table request).1 = some m → m.isValid = true

section

variable {table : Rates} {request : CurrencyConversionRequest} {v : ℚ}

/-- It answers when the amount fits the casts. -/
theorem isSome_convert_iff (hv : (convert table request).1 =
    (getUnitsAndNanos (.finite v)).map fun p =>
      { currencyCode := request.toCode, units := p.1, nanos := p.2 }) :
    (convert table request).1.isSome = true ↔ -2 ^ 63 ≤ truncate v ∧ truncate v < 2 ^ 63 := by
  rw [hv, Option.isSome_map, isSome_getUnitsAndNanos]

theorem valid_of_convert (hv : (convert table request).1 =
    (getUnitsAndNanos (.finite v)).map fun p =>
      { currencyCode := request.toCode, units := p.1, nanos := p.2 })
    {m : Money} (hm : (convert table request).1 = some m) : m.isValid = true := by
  rw [hv] at hm
  obtain ⟨⟨units, nanos⟩, hsplit, rfl⟩ := Option.map_eq_some_iff.mp hm
  obtain ⟨hunits, hnanos⟩ := getUnitsAndNanos_eq_some hsplit
  exact isValid_of_split hunits hnanos

/-- With a rate to divide by, the amount is a number. -/
theorem convert_fst_serveAll (requests : List Request)
    (hrate : initialRate (request.source.getD {}).currencyCode ≠ 0) :
    (convert (serveAll currencyConversion requests) request).1 =
      (getUnitsAndNanos (.finite (readAmount (request.source.getD {}) /
        initialRate (request.source.getD {}).currencyCode * initialRate request.toCode))).map
          fun p => { currencyCode := request.toCode, units := p.1, nanos := p.2 } := by
  rw [convert_fst, read_serveAll, read_serveAll, getDouble_eq, Double.finite_div _ hrate,
    Double.finite_mul]

/-- Converting into an unknown currency answers with zero. -/
theorem isSome_convert_unknown (requests : List Request)
    (hrate : initialRate (request.source.getD {}).currencyCode ≠ 0)
    (hunknown : request.toCode ∉ initialRates.map Prod.fst) :
    (convert (serveAll currencyConversion requests) request).1.isSome = true := by
  have hzero : initialRate request.toCode = 0 := by
    by_contra hne
    exact hunknown (initialRate_ne_zero_iff.mp hne)
  apply (isSome_convert_iff (convert_fst_serveAll requests hrate)).mpr
  rw [hzero, mul_zero]
  simp [truncate]

theorem index_serveAll_ne_zero_iff (requests : List Request) (code : String) :
    ((serveAll currencyConversion requests).index code).1 ≠ .finite 0 ↔
      code ∈ initialRates.map Prod.fst := by
  rw [index_fst, read_serveAll, ne_eq, Double.finite.injEq, ← ne_eq, initialRate_ne_zero_iff]

end

/-- **Unsupported currencies are refused exactly when** there is nothing to refuse: both currencies
are initial ones and the amount fits the casts. -/
theorem refuses_unsupported_iff (requests : List Request) (request : CurrencyConversionRequest) :
    RefusesUnsupported (serveAll currencyConversion requests) request ↔
      ∃ rate toRate, ((request.source.getD {}).currencyCode, rate) ∈ initialRates ∧
        (request.toCode, toRate) ∈ initialRates ∧
          -2 ^ 63 ≤ truncate (readAmount (request.source.getD {}) / rate * toRate) ∧
            truncate (readAmount (request.source.getD {}) / rate * toRate) < 2 ^ 63 := by
  constructor
  · rintro ⟨hok, hdivides, -⟩
    have hcode := (index_serveAll_ne_zero_iff requests _).mp hdivides
    have hne := initialRate_ne_zero_iff.mpr hcode
    have hto : request.toCode ∈ initialRates.map Prod.fst := by
      by_contra hunknown
      have hanswered := isSome_convert_unknown requests hne hunknown
      exact hunknown (CurrencyConversionRequest.forall_mem_codes.mp (hok.mp hanswered)).2
    have hrange := (isSome_convert_iff (convert_fst_serveAll requests hne)).mp
      (hok.mpr (CurrencyConversionRequest.forall_mem_codes.mpr ⟨hcode, hto⟩))
    obtain ⟨rate, hrate⟩ := exists_rate_of_listed hcode
    obtain ⟨toRate, htoRate⟩ := exists_rate_of_listed hto
    rw [initialRate_of_mem hrate, initialRate_of_mem htoRate] at hrange
    exact ⟨rate, toRate, hrate, htoRate, hrange⟩
  · rintro ⟨rate, toRate, hrate, htoRate, hrange⟩
    have hcode : (request.source.getD {}).currencyCode ∈ initialRates.map Prod.fst :=
      List.mem_map_of_mem hrate
    have hto : request.toCode ∈ initialRates.map Prod.fst := List.mem_map_of_mem htoRate
    have hconvert := convert_fst_serveAll requests (initialRate_ne_zero_iff.mpr hcode)
    rw [← initialRate_of_mem hrate, ← initialRate_of_mem htoRate] at hrange
    refine ⟨iff_of_true ((isSome_convert_iff hconvert).mpr hrange) ?_, ?_, ?_⟩
    · exact CurrencyConversionRequest.forall_mem_codes.mpr ⟨hcode, hto⟩
    · exact (index_serveAll_ne_zero_iff requests _).mpr hcode
    · intro m hm
      exact valid_of_convert hconvert hm

/-- A dollar is converted into an unknown currency. -/
theorem unsupported_converted : ¬ ∀ requests request,
    RefusesUnsupported (serveAll currencyConversion requests) request := by
  intro h
  have hok : (convert currencyConversion ⟨some ⟨"USD", 1, 0⟩, "XYZ"⟩).1.isSome = true := by
    decide +kernel
  have hlisted := (h [] ⟨some ⟨"USD", 1, 0⟩, "XYZ"⟩).ok_iff.mp hok "XYZ" (by decide)
  exact absurd hlisted (by decide)

end AstronomyShop.Currency
