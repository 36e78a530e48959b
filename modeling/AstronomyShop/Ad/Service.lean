import AstronomyShop.Frontend.Protos
import AstronomyShop.Frontend.Recommendations
import AstronomyShop.Library.Session

/-!
# The ad service

`GetAds` as a program over its flags, its random numbers and the steps on the objects that all
requests share, those of `CPULoad`. A product page asks for ads with the categories of its product.

* `getAds_runs`: what a request is answered with.
* `ads_of_page`: the ads of a page are those of its categories, and two random ones where these have
  none.
-/

namespace AstronomyShop.AdService

open Interaction Protos

/-! ## The ads -/

def binoculars : Ad where
  redirectUrl := "/product/2ZYFJ3GM2N"
  text := "Roof Binoculars for sale. 50% off."

def explorerTelescope : Ad where
  redirectUrl := "/product/66VCHSJNUP"
  text := "Starsense Explorer Refractor Telescope for sale. 20% off."

def colorImager : Ad where
  redirectUrl := "/product/0PUK6V6EV0"
  text := "Solar System Color Imager for sale. 30% off."

def opticalTube : Ad where
  redirectUrl := "/product/9SIQT8TOJO"
  text := "Optical Tube Assembly for sale. 10% off."

def travelTelescope : Ad where
  redirectUrl := "/product/1YMWWN1N4O"
  text := "Eclipsmart Travel Refractor Telescope for sale. Buy one, get second kit for free"

def solarFilter : Ad where
  redirectUrl := "/product/6E92ZMYYFZ"
  text := "Solar Filter for sale. Buy two, get third one for free"

def cleaningKit : Ad where
  redirectUrl := "/product/L9ECAV7KIM"
  text := "Lens Cleaning Kit for sale. Buy one, get second one for free"

/-- The entries of the multimap, in order. -/
def adsMap : List (String × Ad) :=
  [("binoculars", binoculars), ("telescopes", explorerTelescope), ("accessories", colorImager),
    ("accessories", solarFilter), ("accessories", cleaningKit), ("assembly", opticalTube),
    ("travel", travelTelescope)]

def getAdsByCategory (category : String) : List Ad :=
  (adsMap.filter fun entry => entry.1 == category).map Prod.snd

def allAds : List Ad := adsMap.map Prod.snd

/-! ## Calls -/

/-- The calls of a request. A `CPULoad` is known by a number; `spawnLoadWorkers` and `stopWorkers`
are synchronized on its workers, while its field `running` and the static field `instance` are read
and written without that. -/
inductive AdCall where
  | getBooleanValue (flag : String)
  | nextInt (bound : Nat)
  | readInstance
  | newCPULoad
  | writeInstance (cpuLoad : Nat)
  | readRunning (cpuLoad : Nat)
  | writeRunning (cpuLoad : Nat) (running : Bool)
  | spawnLoadWorkers (cpuLoad threadCount : Nat)
  | stopWorkers (cpuLoad : Nat)
  | collectGarbage

abbrev AdReply : AdCall → Type
  | .getBooleanValue _ => Bool
  | .nextInt _ => Nat
  | .readInstance => Option Nat
  | .newCPULoad => Nat
  | .writeInstance _ => Unit
  | .readRunning _ => Bool
  | .writeRunning _ _ => Unit
  | .spawnLoadWorkers _ _ => Unit
  | .stopWorkers _ => Unit
  | .collectGarbage => Unit

instance : (o : AdCall) → Nonempty (AdReply o)
  | .getBooleanValue _ => ⟨false⟩
  | .nextInt _ => ⟨0⟩
  | .readInstance => ⟨none⟩
  | .newCPULoad => ⟨0⟩
  | .writeInstance _ => ⟨()⟩
  | .readRunning _ => ⟨false⟩
  | .writeRunning _ _ => ⟨()⟩
  | .spawnLoadWorkers _ _ => ⟨()⟩
  | .stopWorkers _ => ⟨()⟩
  | .collectGarbage => ⟨()⟩

abbrev Request := Program AdCall AdReply

abbrev AdEvent := Event AdReply

abbrev call (o : AdCall) : Request (AdReply o) := Program.perform o

/-! ## `CPULoad` -/

def threadCount : Nat := 4

def getInstance : Request (Option Nat) := do
  if (← call .readInstance) = none then
    let cpuLoad ← call .newCPULoad
    call (.writeInstance cpuLoad)
  call .readInstance

def execute (cpuLoad : Nat) (enabled : Bool) : Request Unit := do
  if enabled then
    if !(← call (.readRunning cpuLoad)) then
      call (.spawnLoadWorkers cpuLoad threadCount)
      call (.writeRunning cpuLoad true)
  else
    call (.writeRunning cpuLoad false)
    call (.stopWorkers cpuLoad)

/-! ## `GetAds` -/

def maxAdsToServe : Nat := 2

/-- The loop of `getRandomAds`, with the number of turns that are left. -/
def randomAds : Nat → Request (List Ad)
  | 0 => return []
  | n + 1 => do
    let index ← call (.nextInt allAds.length)
    let ads ← randomAds n
    return (allAds[index]?).toList ++ ads

def getRandomAds : Request (List Ad) := randomAds maxAdsToServe

/-- How a request fails: with `UNAVAILABLE`, or where `getInstance` returns null. -/
inductive AdError where
  | unavailable
  | nullPointer
  deriving DecidableEq

/-- The ads for the context keys, random ones where there are no keys. -/
def requestedAds (contextKeys : List String) : Request (List Ad) :=
  if 0 < contextKeys.length then return contextKeys.flatMap getAdsByCategory else getRandomAds

def selectAds (contextKeys : List String) : Request (List Ad) := do
  let ads ← requestedAds contextKeys
  if ads = [] then getRandomAds else return ads

/-- `adFailure` and its draw. -/
def simulatedFailure : Request Bool := do
  if ← call (.getBooleanValue "adFailure") then
    return (← call (.nextInt 10)) = 0
  else
    return false

/-- `adManualGc`. -/
def manualGc : Request Unit := do
  if ← call (.getBooleanValue "adManualGc") then call .collectGarbage else return ()

def getAds (req : AdRequest) : Request (Except AdError (List Ad)) := do
  let instance? ← getInstance
  let enabled ← call (.getBooleanValue "adHighCpu")
  match instance? with
  | none => return .error .nullPointer
  | some cpuLoad =>
    execute cpuLoad enabled
    let ads ← selectAds req.contextKeys
    if ← simulatedFailure then return .error .unavailable
    else
      manualGc
      return .ok ads

/-! ## What is answered -/

/-- `nextInt` returns a number below its bound. -/
def InBounds : AdEvent → Prop
  | ⟨.nextInt bound, r⟩ => r < bound
  | _ => True

/-- The ads that the categories have; where they have none, two of all. -/
def AdsFor (contextKeys : List String) (ads : List Ad) : Prop :=
  if contextKeys.flatMap getAdsByCategory = [] then
    ads.length = maxAdsToServe ∧ ∀ ad ∈ ads, ad ∈ allAds
  else ads = contextKeys.flatMap getAdsByCategory

section

variable {t : List AdEvent}

theorem randomAds_runs {n : Nat} {ads : List Ad} (h : Runs (randomAds n) t ads)
    (hbounds : ∀ e ∈ t, InBounds e) : ads.length = n ∧ ∀ ad ∈ ads, ad ∈ allAds := by
  induction n generalizing t ads with
  | zero =>
    obtain ⟨-, rfl⟩ := runs_pure.mp h
    exact ⟨rfl, by simp⟩
  | succ n ih =>
    obtain ⟨index, t₁, rfl, hrest⟩ := runs_perform_bind.mp h
    obtain ⟨later, hlater, rfl⟩ := runs_bind_pure.mp hrest
    rw [List.forall_mem_cons] at hbounds
    obtain ⟨hlength, hall⟩ := ih hlater hbounds.2
    have hindex : index < allAds.length := hbounds.1
    rw [List.getElem?_eq_getElem hindex, Option.toList_some, List.singleton_append]
    exact ⟨by rw [List.length_cons, hlength],
      List.forall_mem_cons.mpr ⟨List.getElem_mem hindex, hall⟩⟩

theorem selectAds_runs {contextKeys : List String} {ads : List Ad}
    (h : Runs (selectAds contextKeys) t ads) (hbounds : ∀ e ∈ t, InBounds e) :
    AdsFor contextKeys ads := by
  obtain ⟨t₁, t₂, first, rfl, hfirst, hsecond⟩ := runs_bind.mp h
  rw [List.forall_mem_append] at hbounds
  have hrandom : ∀ {t ads}, Runs getRandomAds t ads → (∀ e ∈ t, InBounds e) →
      ads.length = maxAdsToServe ∧ ∀ ad ∈ ads, ad ∈ allAds := randomAds_runs
  unfold AdsFor
  unfold requestedAds at hfirst
  by_cases hkeys : 0 < contextKeys.length
  · rw [if_pos hkeys] at hfirst
    obtain ⟨-, rfl⟩ := runs_pure.mp hfirst
    split
    · rename_i hnone
      rw [if_pos hnone] at hsecond
      exact hrandom hsecond hbounds.2
    · rename_i hsome
      rw [if_neg hsome] at hsecond
      obtain ⟨-, rfl⟩ := runs_pure.mp hsecond
      rfl
  · rw [if_neg hkeys] at hfirst
    obtain rfl : contextKeys = [] := List.eq_nil_of_length_eq_zero (by omega)
    obtain ⟨hlength, hall⟩ := hrandom hfirst hbounds.1
    have hne : first ≠ [] := by
      rintro rfl
      cases hlength
    rw [if_neg hne] at hsecond
    obtain ⟨-, rfl⟩ := runs_pure.mp hsecond
    exact ⟨hlength, hall⟩

/-- A request fails with `UNAVAILABLE` only where `adFailure` is on. -/
theorem simulatedFailure_runs {failed : Bool} (h : Runs simulatedFailure t failed) :
    failed = true → ⟨.getBooleanValue "adFailure", true⟩ ∈ t := by
  rintro rfl
  obtain ⟨flag, t₁, rfl, hrest⟩ := runs_perform_bind.mp h
  cases flag with
  | true => exact List.mem_cons_self
  | false =>
    obtain ⟨-, hfalse⟩ := runs_pure.mp hrest
    cases hfalse

/-- **What a request is answered with**: ads for its context keys, at least one, or `UNAVAILABLE`
while `adFailure` is on. -/
theorem getAds_runs {req : AdRequest} {r : Except AdError (List Ad)} (h : Runs (getAds req) t r)
    (hbounds : ∀ e ∈ t, InBounds e) :
    (∀ ads, r = .ok ads → AdsFor req.contextKeys ads) ∧
      (r = .error .unavailable → ⟨.getBooleanValue "adFailure", true⟩ ∈ t) := by
  obtain ⟨t₁, t₂, cpuLoad, rfl, -, h₁⟩ := runs_bind.mp h
  obtain ⟨enabled, t₃, rfl, h₂⟩ := runs_perform_bind.mp h₁
  cases cpuLoad with
  | none =>
    obtain ⟨-, rfl⟩ := runs_pure.mp h₂
    refine ⟨?_, ?_⟩
    · rintro ads ⟨⟩
    · rintro ⟨⟩
  | some cpuLoad =>
    obtain ⟨t₄, t₅, _, rfl, -, h₃⟩ := runs_bind.mp h₂
    obtain ⟨t₆, t₇, ads, rfl, hselect, h₄⟩ := runs_bind.mp h₃
    obtain ⟨t₈, t₉, failed, rfl, hfailed, h₅⟩ := runs_bind.mp h₄
    have hads : AdsFor req.contextKeys ads :=
      selectAds_runs hselect fun e he => hbounds e (by simp [he])
    cases failed with
    | true =>
      obtain ⟨-, rfl⟩ := runs_pure.mp h₅
      refine ⟨by rintro ads ⟨⟩, fun _ => ?_⟩
      have hflag := simulatedFailure_runs hfailed rfl
      simp [hflag]
    | false =>
      obtain ⟨t₁₀, t₁₁, _, rfl, -, h₆⟩ := runs_bind.mp h₅
      obtain ⟨-, rfl⟩ := runs_pure.mp h₆
      refine ⟨?_, by rintro ⟨⟩⟩
      rintro ads' ⟨⟩
      exact hads

end

/-! ## The page -/

/-- The query of `listAds`. -/
def listAdsParams (contextKeys : List String) : List (String × String) :=
  Frontend.urlSearchParams [("contextKeys", .array contextKeys)]

/-- The request that the API route makes of the query. -/
def adRequestOf (query : List (String × String)) : AdRequest where
  contextKeys :=
    match Frontend.queryValue query "contextKeys" with
    | none => []
    | some (.single s) => Recommendation.split s
    | some (.multiple ss) => ss

/-- `ApiGateway.listAds`, up to the answer of the ad service. The query goes through the URL. -/
def listAds (encode : List (String × String) → String)
    (parse : String → List (String × String)) (contextKeys : List String) :
    Request (Except AdError (List Ad)) :=
  getAds (adRequestOf (parse (encode (listAdsParams contextKeys))))

/-- The query function of `AdProvider`. Without context keys it asks nobody. -/
def queryFn (encode : List (String × String) → String)
    (parse : String → List (String × String)) (contextKeys : List String) :
    Request (Except AdError (List Ad)) :=
  if contextKeys.length = 0 then return .ok [] else listAds encode parse contextKeys

/-- The context keys of a page: the categories, each once. -/
def pageKeys (categories : List String) : List String := categories.eraseDups

@[simp] theorem pageKeys_eq_nil_iff {categories : List String} :
    pageKeys categories = [] ↔ categories = [] := by
  simp only [List.eq_nil_iff_forall_not_mem, pageKeys, List.mem_eraseDups]

theorem nodup_eraseDups (ss : List String) : ss.eraseDups.Nodup := by
  induction hn : ss.length using Nat.strong_induction_on generalizing ss with
  | _ n ih =>
    cases ss with
    | nil => exact List.nodup_nil
    | cons s ss =>
      have hlt : (ss.filter fun b => !b == s).length < n := by
        have hle := List.length_filter_le (fun b => !b == s) ss
        rw [List.length_cons] at hn
        omega
      rw [List.eraseDups_cons, List.nodup_cons]
      refine ⟨?_, ih _ hlt _ rfl⟩
      rw [List.mem_eraseDups]
      simp

/-- No ad is in two categories, or twice in one. -/
theorem nodup_targeted {keys : List String} (h : keys.Nodup) :
    (keys.flatMap getAdsByCategory).Nodup := by
  have hentries : (adsMap.map Prod.snd).Nodup := by decide
  rw [List.nodup_flatMap]
  constructor
  · intro key _
    exact hentries.sublist (List.filter_sublist.map _)
  · apply h.imp
    intro key key' hne ad had had'
    obtain ⟨entry, hentry, rfl⟩ := List.mem_map.mp had
    obtain ⟨entry', hentry', heq⟩ := List.mem_map.mp had'
    obtain ⟨hmem, hkey⟩ := List.mem_filter.mp hentry
    obtain ⟨hmem', hkey'⟩ := List.mem_filter.mp hentry'
    obtain rfl := List.inj_on_of_nodup_map hentries hmem' hmem heq
    exact hne ((beq_iff_eq.mp hkey).symm.trans (beq_iff_eq.mp hkey'))

/-- The ads for some keys are never none. -/
theorem AdsFor.ne_nil {contextKeys : List String} {ads : List Ad} (h : AdsFor contextKeys ads) :
    ads ≠ [] := by
  unfold AdsFor at h
  split at h
  · rintro rfl
    cases h.1
  · rename_i htargeted
    rwa [h]

/-- The keys of a page reach the ad service as they are. -/
theorem contextKeys_adRequestOf {contextKeys : List String} (hne : contextKeys ≠ [])
    (hcomma : ∀ key ∈ contextKeys, ',' ∉ key.toList) :
    (adRequestOf (listAdsParams contextKeys)).contextKeys = contextKeys := by
  have hvalue : Frontend.queryValue (listAdsParams contextKeys) "contextKeys" =
      some (.single (",".intercalate contextKeys)) := by
    simp [Frontend.queryValue, listAdsParams, Frontend.urlSearchParams,
      Frontend.ParamValue.toText]
  unfold adRequestOf
  rw [hvalue]
  exact Frontend.split_intercalate hne hcomma

/-- **The ads of a page** are those of its categories in their order, each once; where the
categories have none, they are two random ones. Only a page without categories has no ad. -/
theorem ads_of_page (encode : List (String × String) → String)
    (parse : String → List (String × String)) (categories : List String)
    (hcomma : ∀ category ∈ categories, ',' ∉ category.toList)
    (hround : parse (encode (listAdsParams (pageKeys categories))) =
      listAdsParams (pageKeys categories))
    (t : List AdEvent) (r : Except AdError (List Ad))
    (h : Runs (queryFn encode parse (pageKeys categories)) t r)
    (hbounds : ∀ e ∈ t, InBounds e) :
    (∀ ads, r = .ok ads → (ads = [] ↔ categories = []) ∧
        (categories ≠ [] → AdsFor (pageKeys categories) ads) ∧
        ((pageKeys categories).flatMap getAdsByCategory ≠ [] → ads.Nodup)) ∧
      (r = .error .unavailable → ⟨.getBooleanValue "adFailure", true⟩ ∈ t) ∧
      (categories = [] → t = []) := by
  unfold queryFn at h
  by_cases hnone : categories = []
  · rw [if_pos (List.length_eq_zero_iff.mpr (pageKeys_eq_nil_iff.mpr hnone))] at h
    obtain ⟨rfl, rfl⟩ := runs_pure.mp h
    refine ⟨?_, by rintro ⟨⟩, fun _ => rfl⟩
    rintro ads ⟨⟩
    exact ⟨iff_of_true rfl hnone, absurd hnone, fun _ => List.nodup_nil⟩
  · have hkeysNe : pageKeys categories ≠ [] := by rwa [ne_eq, pageKeys_eq_nil_iff]
    have hkeys := contextKeys_adRequestOf hkeysNe fun key hkey =>
      hcomma key (List.mem_eraseDups.mp hkey)
    rw [if_neg (mt List.length_eq_zero_iff.mp hkeysNe), listAds, hround] at h
    obtain ⟨hok, hfail⟩ := getAds_runs h hbounds
    rw [hkeys] at hok
    refine ⟨fun ads hr => ?_, hfail, fun hnil => absurd hnil hnone⟩
    have hads := hok ads hr
    refine ⟨iff_of_false hads.ne_nil hnone, fun _ => hads, fun htargeted => ?_⟩
    rw [AdsFor, if_neg htargeted] at hads
    rw [hads]
    exact nodup_targeted (nodup_eraseDups categories)

/-- The URL of the sample page, as it is written and read. -/
def sampleQuery (_ : String) : List (String × String) := [("contextKeys", "telescopes,travel")]

/-- The page of a telescope, with all flags off. -/
def telescopePage : List AdEvent × Except AdError (List Ad) :=
  (queryFn (fun _ => "contextKeys=telescopes%2Ctravel") sampleQuery
      (pageKeys ["telescopes", "travel", "telescopes"])).answered fun
    | .getBooleanValue _ => false
    | .nextInt _ => 0
    | .readInstance => some 0
    | .newCPULoad => 0
    | .writeInstance _ => ()
    | .readRunning _ => false
    | .writeRunning _ _ => ()
    | .spawnLoadWorkers _ _ => ()
    | .stopWorkers _ => ()
    | .collectGarbage => ()

theorem telescopePage_answer :
    telescopePage.2 = .ok [explorerTelescope, travelTelescope] := by decide +kernel

theorem ads_of_page_telescope :
    telescopePage.2 = .ok [explorerTelescope, travelTelescope] ∧
      AdsFor ["telescopes", "travel"] [explorerTelescope, travelTelescope] := by
  have hround : sampleQuery "contextKeys=telescopes%2Ctravel" =
      listAdsParams (pageKeys ["telescopes", "travel", "telescopes"]) := by decide +kernel
  have hdraws : (telescopePage.1.all fun e => match e.op with
      | .nextInt _ => false
      | _ => true) = true := by decide +kernel
  have hbounds : ∀ e ∈ telescopePage.1, InBounds e := by
    intro e he
    have hdraw := List.all_eq_true.mp hdraws e he
    obtain ⟨op, reply⟩ := e
    cases op with
    | nextInt bound => cases hdraw
    | _ => trivial
  have hads := (ads_of_page (fun _ => "contextKeys=telescopes%2Ctravel") sampleQuery
    ["telescopes", "travel", "telescopes"] (by decide +kernel) hround telescopePage.1
    telescopePage.2 (runs_answered _ _) hbounds).1
  exact ⟨telescopePage_answer, (hads _ telescopePage_answer).2.1 (by decide)⟩

end AstronomyShop.AdService
