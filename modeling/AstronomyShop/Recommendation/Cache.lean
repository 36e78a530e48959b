import AstronomyShop.Recommendation.Service
import Mathlib.Data.List.Induction

/-!
# The cache of the recommendations

With the flag on, a call fills the cache from the catalogue (a miss) or uses it as it is (a hit).
The first such call is a miss, but it gives up `first_run` before it has asked for the catalogue:
when that fails, the next hit finds an empty cache. `cache_agrees_iff` says that this is all that
can go wrong.
-/

namespace AstronomyShop.Recommendation

/-! ## Runs -/

/-- The globals after some calls. -/
def runCalls (g : Globals) (calls : List Call) : Globals :=
  calls.foldl (fun g call => (candidates g call).2) g

theorem runCalls_snoc (g : Globals) (calls : List Call) (call : Call) :
    runCalls g (calls ++ [call]) = (candidates (runCalls g calls) call).2 := by
  unfold runCalls
  rw [List.foldl_append]
  rfl

/-- Every `ListProducts` of the run that succeeds returns this catalogue. -/
def Returns (products : List Product) (calls : List Call) : Prop :=
  ∀ call ∈ calls, ∀ found, call.listProducts = .ok found → found = products

/-- Every call of the run that completes has the ids of the catalogue as candidates. -/
def CacheAgrees (products : List Product) (calls : List Call) : Prop :=
  ∀ before call, before ++ [call] <+: calls → ∀ productIds,
    (candidates (runCalls {} before) call).1 = .ok productIds →
      productIds.toFinset = (products.map Product.id).toFinset

/-! ## Hits and misses -/

/-- Some call had the flag on. -/
def Started (calls : List Call) : Prop := ∃ call ∈ calls, call.cacheFailure = true

/-- The call uses the cache: it has the flag on, is not the first one, and the draw says so. -/
def Hits (before : List Call) (call : Call) : Prop :=
  call.cacheFailure = true ∧ call.draw = false ∧ Started before

/-- The call fills the cache: it has the flag on, is no hit, and gets the catalogue. -/
def Fills (before : List Call) (call : Call) : Prop :=
  call.cacheFailure = true ∧ ¬ Hits before call ∧ ∃ products, call.listProducts = .ok products

/-- Some call has filled the cache. -/
def Filled (calls : List Call) : Prop :=
  ∃ before call, before ++ [call] <+: calls ∧ Fills before call

theorem started_snoc {calls : List Call} {call : Call} :
    Started (calls ++ [call]) ↔ Started calls ∨ call.cacheFailure = true := by
  unfold Started
  simp only [List.mem_append, List.mem_singleton, or_and_right, exists_or, exists_eq_left]

theorem filled_snoc {calls : List Call} {call : Call} :
    Filled (calls ++ [call]) ↔ Filled calls ∨ Fills calls call := by
  constructor
  · rintro ⟨before, last, hlonger, hfills⟩
    rcases List.prefix_concat_iff.mp hlonger with heq | hbefore
    · obtain ⟨rfl, hlast⟩ := List.append_inj' heq rfl
      exact .inr (List.singleton_inj.mp hlast ▸ hfills)
    · exact .inl ⟨before, last, hbefore, hfills⟩
  · rintro (⟨before, last, hbefore, hfills⟩ | hfills)
    · exact ⟨before, last, hbefore.trans (List.prefix_append ..), hfills⟩
    · exact ⟨calls, call, List.prefix_refl _, hfills⟩

theorem not_filled_nil : ¬ Filled [] := by
  rintro ⟨before, call, hbefore, -⟩
  exact List.append_ne_nil_of_right_ne_nil _ (List.cons_ne_nil _ _) (List.prefix_nil.mp hbefore)

/-! ## One call -/

section

variable {g : Globals} {call : Call} {products : List Product}

theorem candidates_plain (h : call.cacheFailure = false) :
    candidates g call = (call.listProducts.map (·.map Product.id), g) := by
  unfold candidates
  rw [if_neg (by simp [h])]
  cases call.listProducts <;> rfl

theorem candidates_hit (h : call.cacheFailure = true) (hdraw : call.draw = false)
    (hrun : g.firstRun = false) : candidates g call = (.ok g.cachedIds, g) := by
  unfold candidates
  rw [if_pos h, if_neg (by simp [hdraw, hrun])]

theorem candidates_miss_error (h : call.cacheFailure = true)
    (hmiss : call.draw = true ∨ g.firstRun = true) {err : String}
    (hlist : call.listProducts = .error err) :
    candidates g call = (.error err, { g with firstRun := false }) := by
  unfold candidates
  rw [if_pos h, if_pos (by simpa using hmiss), hlist]

/-- The cache after a miss: the catalogue is appended, and then a part of the whole again. -/
def Globals.fill (g : Globals) (products : List Product) : Globals where
  cachedIds := g.cachedIds ++ products.map Product.id ++
    (g.cachedIds ++ products.map Product.id).take
      ((g.cachedIds ++ products.map Product.id).length / 4)
  firstRun := false

theorem candidates_miss_ok (h : call.cacheFailure = true)
    (hmiss : call.draw = true ∨ g.firstRun = true) (hlist : call.listProducts = .ok products) :
    candidates g call = (.ok (g.fill products).cachedIds, g.fill products) := by
  unfold candidates
  rw [if_pos h, if_pos (by simpa using hmiss), hlist]
  rfl

/-- Growing a cache that holds ids of the catalogue makes it the catalogue. -/
theorem toFinset_fill (h : g.cachedIds ⊆ products.map Product.id) :
    (g.fill products).cachedIds.toFinset = (products.map Product.id).toFinset := by
  have hboth : g.cachedIds ++ products.map Product.id ⊆ products.map Product.id :=
    List.append_subset.mpr ⟨h, List.Subset.refl _⟩
  apply List.toFinset.ext
  intro id
  constructor
  · intro hid
    rcases List.mem_append.mp hid with hid | hid
    · exact hboth hid
    · exact hboth (List.mem_of_mem_take hid)
  · intro hid
    exact List.mem_append_left _ (List.mem_append_right _ hid)

end

/-! ## All calls -/

/-- What the globals are after some calls. -/
structure CacheState (products : List Product) (calls : List Call) (g : Globals) : Prop where
  firstRun : g.firstRun = false ↔ Started calls
  empty : ¬ Filled calls → g.cachedIds = []
  full : Filled calls → g.cachedIds.toFinset = (products.map Product.id).toFinset

section

variable {products : List Product} {calls : List Call} {call : Call} {g : Globals}

theorem cacheState_nil : CacheState products [] {} where
  firstRun := by simp [Started]
  empty _ := rfl
  full h := absurd h not_filled_nil

theorem CacheState.subset (hg : CacheState products calls g) :
    g.cachedIds ⊆ products.map Product.id := by
  by_cases hfilled : Filled calls
  · intro id hid
    rw [← List.mem_toFinset, ← hg.full hfilled]
    exact List.mem_toFinset.mpr hid
  · rw [hg.empty hfilled]
    exact List.nil_subset _

theorem CacheState.miss (hg : CacheState products calls g) (h : ¬ Hits calls call)
    (hflag : call.cacheFailure = true) : call.draw = true ∨ g.firstRun = true := by
  by_contra hneither
  obtain ⟨hdraw, hrun⟩ := not_or.mp hneither
  exact h ⟨hflag, Bool.not_eq_true _ ▸ hdraw, hg.firstRun.mp (Bool.not_eq_true _ ▸ hrun)⟩

/-- A call that fills nothing keeps the cache. -/
theorem CacheState.keep (hg : CacheState products calls g) {g' : Globals}
    (hrun : g'.firstRun = false ↔ Started (calls ++ [call])) (hcached : g'.cachedIds = g.cachedIds)
    (hfills : ¬ Fills calls call) : CacheState products (calls ++ [call]) g' where
  firstRun := hrun
  empty h := hcached.trans (hg.empty fun hfilled => h (filled_snoc.mpr (.inl hfilled)))
  full h := by
    rw [hcached]
    exact hg.full ((filled_snoc.mp h).resolve_right hfills)

theorem CacheState.step (hg : CacheState products calls g)
    (hlist : ∀ found, call.listProducts = .ok found → found = products) :
    CacheState products (calls ++ [call]) (candidates g call).2 := by
  by_cases hflag : call.cacheFailure = true
  · by_cases hhit : Hits calls call
    · rw [candidates_hit hflag hhit.2.1 (hg.firstRun.mpr hhit.2.2)]
      refine hg.keep ?_ rfl fun hfills => hfills.2.1 hhit
      exact iff_of_true (hg.firstRun.mpr hhit.2.2) (started_snoc.mpr (.inr hflag))
    · have hmiss := hg.miss hhit hflag
      have hstarted : Started (calls ++ [call]) := started_snoc.mpr (.inr hflag)
      cases hfound : call.listProducts with
      | error err =>
        rw [candidates_miss_error hflag hmiss hfound]
        refine hg.keep (iff_of_true rfl hstarted) rfl ?_
        rintro ⟨-, -, found, hok⟩
        cases hfound.symm.trans hok
      | ok found =>
        obtain rfl := hlist found hfound
        rw [candidates_miss_ok hflag hmiss hfound]
        have hfilled : Filled (calls ++ [call]) := filled_snoc.mpr (.inr ⟨hflag, hhit, _, hfound⟩)
        exact ⟨iff_of_true rfl hstarted, fun h => absurd hfilled h,
          fun _ => toFinset_fill hg.subset⟩
  · rw [candidates_plain (Bool.not_eq_true _ ▸ hflag)]
    refine hg.keep ?_ rfl fun hfills => hflag hfills.1
    rw [started_snoc, or_iff_left hflag]
    exact hg.firstRun

theorem cacheState_runCalls (h : Returns products calls) :
    CacheState products calls (runCalls {} calls) := by
  induction calls using List.reverseRecOn with
  | nil => exact cacheState_nil
  | append_singleton calls call ih =>
    rw [runCalls_snoc]
    apply (ih fun c hc => h c (List.mem_append_left _ hc)).step
    exact h call (List.mem_append_right _ (List.mem_singleton_self call))

/-- A call that completes has the ids of the catalogue, unless it hits a cache without them. -/
theorem CacheState.candidates_eq (hg : CacheState products calls g)
    (hlist : ∀ found, call.listProducts = .ok found → found = products)
    (hcached : Hits calls call →
      g.cachedIds.toFinset = (products.map Product.id).toFinset) {productIds : List String}
    (h : (candidates g call).1 = .ok productIds) :
    productIds.toFinset = (products.map Product.id).toFinset := by
  by_cases hflag : call.cacheFailure = true
  · by_cases hhit : Hits calls call
    · rw [candidates_hit hflag hhit.2.1 (hg.firstRun.mpr hhit.2.2)] at h
      cases h
      exact hcached hhit
    · have hmiss := hg.miss hhit hflag
      cases hfound : call.listProducts with
      | error err =>
        rw [candidates_miss_error hflag hmiss hfound] at h
        cases h
      | ok found =>
        obtain rfl := hlist found hfound
        rw [candidates_miss_ok hflag hmiss hfound] at h
        cases h
        exact toFinset_fill hg.subset
  · rw [candidates_plain (Bool.not_eq_true _ ▸ hflag)] at h
    cases hfound : call.listProducts with
    | error err =>
      rw [hfound] at h
      cases h
    | ok found =>
      obtain rfl := hlist found hfound
      rw [hfound] at h
      cases h
      rfl

end

/-- **The cache agrees with the catalogue exactly when** it is filled before it is used, or there is
nothing to cache. -/
theorem cache_agrees_iff (products : List Product) (calls : List Call)
    (hreturns : Returns products calls) :
    CacheAgrees products calls ↔
      products = [] ∨ ∀ before call, before ++ [call] <+: calls → Hits before call →
        Filled before := by
  have hstate : ∀ before call, before ++ [call] <+: calls →
      CacheState products before (runCalls {} before) := by
    intro before call hbefore
    apply cacheState_runCalls
    exact fun c hc => hreturns c (hbefore.subset (List.mem_append_left _ hc))
  constructor
  · intro hagrees
    by_cases hempty : products = []
    · exact .inl hempty
    · right
      intro before call hbefore hhit
      by_contra hnot
      have hg := hstate before call hbefore
      have hanswer : (candidates (runCalls {} before) call).1 = .ok [] := by
        rw [candidates_hit hhit.1 hhit.2.1 (hg.firstRun.mpr hhit.2.2), hg.empty hnot]
      have hids := hagrees before call hbefore [] hanswer
      rw [List.toFinset_nil, eq_comm, List.toFinset_eq_empty_iff, List.map_eq_nil_iff] at hids
      exact hempty hids
  · rintro hcondition before call hbefore productIds hok
    have hg := hstate before call hbefore
    have hlist := hreturns call (hbefore.subset (List.mem_append_right _ List.mem_cons_self))
    apply hg.candidates_eq hlist _ hok
    intro hhit
    rcases hcondition with rfl | hfilled
    · rw [List.subset_nil.mp hg.subset]
      rfl
    · exact hg.full (hfilled before call hbefore hhit)

/-- A miss that succeeds, and a hit. -/
theorem cache_agrees_after_miss : CacheAgrees [{ id := "OLJCESPC7Z" }]
    [⟨[], true, false, .ok [{ id := "OLJCESPC7Z" }]⟩, ⟨[], true, false, .error "unavailable"⟩] := by
  refine (cache_agrees_iff [{ id := "OLJCESPC7Z" }] [_, _] ?_).mpr (.inr ?_)
  · simp [Returns]
  · intro before call hbefore hhit
    obtain ⟨c, hc, -⟩ := hhit.2.2
    -- a hit is not the first call, so the first call came before it
    obtain ⟨rest, rfl⟩ : ∃ rest, before =
        ⟨[], true, false, .ok [{ id := "OLJCESPC7Z" }]⟩ :: rest := by
      cases before with
      | nil => cases hc
      | cons first rest => exact ⟨rest, by rw [(List.cons_prefix_cons.mp hbefore).1]⟩
    refine ⟨[], _, ⟨rest, rfl⟩, rfl, ?_, _, rfl⟩
    rintro ⟨-, -, _, hnone, -⟩
    cases hnone

/-- The first miss fails, and a hit follows. -/
theorem empty_cache_hit : ¬ ∀ products calls, Returns products calls →
    CacheAgrees products calls := by
  intro h
  have hagrees := h [{ id := "OLJCESPC7Z" }]
    [⟨[], true, false, .error "unavailable"⟩, ⟨[], true, false, .error "unavailable"⟩] ?_
  · have hids := hagrees [⟨[], true, false, .error "unavailable"⟩] _ (List.prefix_refl _) [] rfl
    exact absurd hids (by decide)
  · simp [Returns]

end AstronomyShop.Recommendation
