import AstronomyShop.Currency.Service

/-!
# The rate table over many requests

The server keeps one rate table for all requests. `Convert` reads it with `operator[]`, which
adds a code that is not there, so the table is no constant.

* `convert_snd_eq_iff`: one `Convert` keeps the table exactly when both of its codes are in
  it.
* `rates_unchanged_iff`: over any requests, the table and all answers stay what they are on a
  fresh server exactly when no `Convert` names a code outside the initial table.
-/

namespace AstronomyShop.Currency

open ExactDouble

/-! ## The server -/

/-- The codes in the answer. The order in which an `unordered_map` lists its keys is not
specified. -/
def getSupportedCurrencies (currency_conversion : Rates) : List String :=
  currency_conversion.map Prod.fst

inductive Request where
  | getSupportedCurrencies
  | convert (request : CurrencyConversionRequest)

inductive Response where
  | supported (currencyCodes : List String)
  | converted (result : Option Money)

/-- One request, and the table after it. -/
def serve (currency_conversion : Rates) : Request → Response × Rates
  | .getSupportedCurrencies =>
    (.supported (getSupportedCurrencies currency_conversion), currency_conversion)
  | .convert request =>
    (.converted (convert currency_conversion request).1, (convert currency_conversion request).2)

/-- The table after some requests. -/
def serveAll (currency_conversion : Rates) (requests : List Request) : Rates :=
  requests.foldl (fun table request => (serve table request).2) currency_conversion

@[simp] theorem serveAll_nil (table : Rates) : serveAll table [] = table := rfl

theorem serveAll_append (table : Rates) (before after : List Request) :
    serveAll table (before ++ after) = serveAll (serveAll table before) after :=
  List.foldl_append

theorem serveAll_singleton (table : Rates) (request : Request) :
    serveAll table [request] = (serve table request).2 := rfl

/-! ## Inserting reads -/

/-- A read puts something in front of the table, unless the code is in it. -/
theorem exists_index_snd_eq (table : Rates) (code : String) :
    ∃ added, (table.index code).2 = added ++ table ∧
      (added = [] ↔ code ∈ getSupportedCurrencies table) := by
  unfold Rates.index getSupportedCurrencies
  cases hrate : table.lookup code with
  | some rate =>
    obtain ⟨l₁, l₂, rfl, -⟩ := List.lookup_eq_some_iff.mp hrate
    exact ⟨[], rfl, by simp⟩
  | none =>
    refine ⟨[(code, .finite 0)], rfl, ?_⟩
    have hnew := List.lookup_eq_none_iff.mp hrate
    constructor
    · intro h
      cases h
    · intro h
      obtain ⟨p, hp, rfl⟩ := List.mem_map.mp h
      exact absurd (hnew p hp) (by simp)

/-- The codes that a request converts between. -/
def CurrencyConversionRequest.codes (request : CurrencyConversionRequest) : List String :=
  [(request.source.getD {}).currencyCode, request.toCode]

/-- One `Convert` puts something in front of the table, unless both codes are in it. -/
theorem exists_convert_snd_eq (table : Rates) (request : CurrencyConversionRequest) :
    ∃ added, (convert table request).2 = added ++ table ∧
      (added = [] ↔ ∀ code ∈ request.codes, code ∈ getSupportedCurrencies table) := by
  obtain ⟨first, hfirst, hfirst_nil⟩ :=
    exists_index_snd_eq table (request.source.getD {}).currencyCode
  obtain ⟨second, hsecond, hsecond_nil⟩ :=
    exists_index_snd_eq (table.index (request.source.getD {}).currencyCode).2 request.toCode
  refine ⟨second ++ first, ?_, ?_⟩
  · rw [List.append_assoc, ← hfirst]
    exact hsecond
  · rw [List.append_eq_nil_iff, CurrencyConversionRequest.codes, List.forall_mem_cons,
      List.forall_mem_singleton, ← hfirst_nil, and_comm]
    refine and_congr_right fun hnil => ?_
    rw [hsecond_nil, hfirst, hnil, List.nil_append]

theorem convert_snd_eq_iff (table : Rates) (request : CurrencyConversionRequest) :
    (convert table request).2 = table ↔
      ∀ code ∈ request.codes, code ∈ getSupportedCurrencies table := by
  obtain ⟨added, hconvert, hnil⟩ := exists_convert_snd_eq table request
  rw [hconvert, ← hnil]
  exact List.append_left_eq_self

/-- A request that keeps the table: any but a `Convert` with a code that is not in it. -/
def Request.Supported (table : Rates) : Request → Prop
  | .getSupportedCurrencies => True
  | .convert request => ∀ code ∈ request.codes, code ∈ Currency.getSupportedCurrencies table

theorem serve_snd_eq_iff (table : Rates) (request : Request) :
    (serve table request).2 = table ↔ request.Supported table := by
  cases request with
  | getSupportedCurrencies => exact iff_of_true rfl trivial
  | convert request => exact convert_snd_eq_iff table request

/-- Requests that each keep a table keep it together. -/
theorem serveAll_eq_self {table : Rates} {requests : List Request}
    (h : ∀ request ∈ requests, request.Supported table) : serveAll table requests = table := by
  induction requests with
  | nil => rfl
  | cons request requests ih =>
    rw [← List.singleton_append, serveAll_append, serveAll_singleton,
      (serve_snd_eq_iff table request).mpr (h request List.mem_cons_self)]
    exact ih fun request' h' => h request' (List.mem_cons_of_mem _ h')

/-! ## A table that never changes -/

/-- After each of the requests the table is the initial one, the supported currencies are the
initial codes, and any request is answered as on a fresh server. -/
def RatesUnchanged (requests : List Request) : Prop :=
  ∀ before after, requests = before ++ after →
    serveAll currencyConversion before = currencyConversion ∧
      getSupportedCurrencies (serveAll currencyConversion before) = initialRates.map Prod.fst ∧
        ∀ request, (serve (serveAll currencyConversion before) request).1 =
          (serve currencyConversion request).1

theorem getSupportedCurrencies_currencyConversion :
    getSupportedCurrencies currencyConversion = initialRates.map Prod.fst := by
  unfold getSupportedCurrencies currencyConversion
  rw [List.map_map]
  rfl

/-- **The rate table never changes exactly when** every `Convert` converts between two codes of
the initial table. -/
theorem rates_unchanged_iff (requests : List Request) :
    RatesUnchanged requests ↔ ∀ request, .convert request ∈ requests →
      ∀ code ∈ request.codes, code ∈ initialRates.map Prod.fst := by
  rw [← getSupportedCurrencies_currencyConversion]
  constructor
  · intro h request hrequest
    obtain ⟨before, after, hsplit⟩ := List.append_of_mem hrequest
    have hbefore := (h before _ hsplit).1
    have hafter := (h (before ++ [.convert request]) after (by simp [hsplit])).1
    rw [serveAll_append, hbefore, serveAll_singleton] at hafter
    exact (convert_snd_eq_iff currencyConversion request).mp hafter
  · intro h before after hsplit
    have hkept : serveAll currencyConversion before = currencyConversion := by
      apply serveAll_eq_self
      intro request hrequest
      cases request with
      | getSupportedCurrencies => trivial
      | convert request => exact h request (by simp [hsplit, hrequest])
    rw [hkept]
    exact ⟨rfl, getSupportedCurrencies_currencyConversion, fun request => rfl⟩

/-- One `Convert` of a dollar into an unknown currency, and the unknown currency is listed as a
supported one. -/
theorem unknown_currency_listed : ¬ ∀ requests, RatesUnchanged requests := by
  intro h
  have hsupported := (h [.convert ⟨some ⟨"USD", 1, 0⟩, "XYZ"⟩] _ [] (List.append_nil _).symm).2.1
  have hlisted : "XYZ" ∈ getSupportedCurrencies
      (serveAll currencyConversion [.convert ⟨some ⟨"USD", 1, 0⟩, "XYZ"⟩]) := by decide +kernel
  rw [hsupported] at hlisted
  exact absurd hlisted (by decide)

end AstronomyShop.Currency
