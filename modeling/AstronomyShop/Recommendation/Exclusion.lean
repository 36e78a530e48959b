import AstronomyShop.Recommendation.Service
import Mathlib.Data.List.FinRange

/-!
# Excluding the products of the request

The ids of a request are joined without a separator and split at commas again. Ids without a comma
come out as one string, and that string is the only id that is excluded. `excludes_requested_iff`
says for which catalogues and requests this does no harm.
-/

namespace AstronomyShop.Recommendation

/-! ## What is excluded -/

theorem split_join {ids : List String} (h : ∀ id ∈ ids, ',' ∉ id.toList) :
    split (join ids) = [join ids] := by
  have hcomma : ∀ c ∈ ids.flatMap String.toList, (c == ',') = false := by
    intro c hc
    obtain ⟨id, hid, hc⟩ := List.mem_flatMap.mp hc
    apply beq_false_of_ne
    rintro rfl
    exact h id hid hc
  unfold split join
  rw [String.toList_ofList, List.splitOn, List.splitOnP_eq_singleton hcomma]
  rfl

/-! ## The sample -/

theorem Choices.toFinset_list (choices : Choices) (s : Finset String) :
    (choices.list s).toFinset = s := by
  ext id
  rw [List.mem_toFinset, choices.mem_list]

theorem Choices.length_list (choices : Choices) (s : Finset String) :
    (choices.list s).length = s.card := by
  rw [← List.toFinset_card_of_nodup (choices.nodup_list s), choices.toFinset_list]

section

variable {choices : Choices} {productIds requestProductIds : List String} {id : String}

theorem nodup_filterAndSample :
    (filterAndSample choices productIds requestProductIds).Nodup := by
  apply List.Nodup.map _ (choices.nodup_sample _ _)
  exact List.nodup_iff_injective_get.mp (choices.nodup_list _)

theorem mem_of_mem_filterAndSample
    (h : id ∈ filterAndSample choices productIds requestProductIds) :
    id ∈ productIds ∧ id ∉ requestProductIds := by
  obtain ⟨i, -, rfl⟩ := List.mem_map.mp h
  have hmem := (choices.mem_list _ _).mp (List.get_mem _ i)
  rwa [Finset.mem_sdiff, List.mem_toFinset, List.mem_toFinset] at hmem

theorem length_filterAndSample :
    (filterAndSample choices productIds requestProductIds).length =
      min maxResponses (productIds.toFinset \ requestProductIds.toFinset).card := by
  unfold filterAndSample
  rw [List.length_map, choices.length_sample _ _ (Nat.min_le_right _ _), choices.length_list]

end

/-- A set that is listed with a given id first, and sampled from its start. -/
noncomputable def Choices.startingWith (id : String) : Choices where
  list s := if id ∈ s then id :: (s.erase id).toList else s.toList
  nodup_list s := by
    split
    · exact List.nodup_cons.mpr ⟨by simp, Finset.nodup_toList _⟩
    · exact Finset.nodup_toList s
  mem_list s other := by
    split
    · rename_i hid
      by_cases hother : other = id <;> simp [hother, hid]
    · rw [Finset.mem_toList]
  sample n k := (List.finRange n).take k
  nodup_sample n k := (List.nodup_finRange n).sublist (List.take_sublist k _)
  length_sample n k hk := by rw [List.length_take, List.length_finRange, Nat.min_eq_left hk]

theorem Choices.list_startingWith {id : String} {s : Finset String} (h : id ∈ s) :
    (Choices.startingWith id).list s = id :: (s.erase id).toList := if_pos h

theorem Choices.zero_mem_sample_startingWith {id : String} {n k : Nat} (hn : 0 < n) (hk : 0 < k) :
    ⟨0, hn⟩ ∈ (Choices.startingWith id).sample n k := by
  obtain ⟨n, rfl⟩ := Nat.exists_eq_succ_of_ne_zero hn.ne'
  obtain ⟨k, rfl⟩ := Nat.exists_eq_succ_of_ne_zero hk.ne'
  change _ ∈ (List.finRange (n + 1)).take (k + 1)
  rw [List.finRange_succ, List.take_succ_cons]
  exact List.mem_cons_self

/-- Whatever is not excluded can be sampled. -/
theorem exists_mem_filterAndSample {productIds requestProductIds : List String} {id : String}
    (hid : id ∈ productIds) (hnot : id ∉ requestProductIds) :
    ∃ choices, id ∈ filterAndSample choices productIds requestProductIds := by
  have hmem : id ∈ productIds.toFinset \ requestProductIds.toFinset := by
    rw [Finset.mem_sdiff, List.mem_toFinset, List.mem_toFinset]
    exact ⟨hid, hnot⟩
  have hget : ∀ {l rest : List String} (_ : l = id :: rest) (hl : 0 < l.length),
      l.get ⟨0, hl⟩ = id := by
    rintro _ _ rfl _
    rfl
  have hpos : 0 < ((Choices.startingWith id).list
      (productIds.toFinset \ requestProductIds.toFinset)).length := by
    rw [Choices.length_list]
    exact Finset.card_pos.mpr ⟨id, hmem⟩
  refine ⟨.startingWith id, List.mem_map.mpr ⟨⟨0, hpos⟩, ?_, ?_⟩⟩
  · exact Choices.zero_mem_sample_startingWith hpos (Nat.lt_min.mpr ⟨by decide, hpos⟩)
  · exact hget (Choices.list_startingWith hmem) hpos

/-! ## The answer of a request -/

/-- Distinct ids of the catalogue that are not in the request, as many as there are up to five. -/
structure ExcludesRequested (catalogue requested answer : List String) : Prop where
  nodup : answer.Nodup
  mem : ∀ id ∈ answer, id ∈ catalogue
  excluded : ∀ id ∈ answer, id ∉ requested
  length : answer.length = min 5 (catalogue.toFinset \ requested.toFinset).card

section

variable {catalogue requested : List String} {joined : String}

/-- The ids that are removed from the candidates are excluded. -/
theorem excludesRequested_filterAndSample (choices : Choices) :
    ExcludesRequested catalogue requested (filterAndSample choices catalogue requested) where
  nodup := nodup_filterAndSample
  mem _ hid := (mem_of_mem_filterAndSample hid).1
  excluded _ hid := (mem_of_mem_filterAndSample hid).2
  length := length_filterAndSample

/-- When only the joined id can be in both, what is left is the catalogue without it. -/
theorem sdiff_requested (h : ∀ id ∈ catalogue, id ∈ requested → id = joined) :
    catalogue.toFinset \ requested.toFinset =
      if joined ∈ requested then catalogue.toFinset.erase joined else catalogue.toFinset := by
  ext id
  rw [Finset.mem_sdiff, List.mem_toFinset, List.mem_toFinset]
  split
  · rename_i hjoined
    rw [Finset.mem_erase, List.mem_toFinset]
    constructor
    · rintro ⟨hid, hnot⟩
      exact ⟨fun heq => hnot (heq ▸ hjoined), hid⟩
    · rintro ⟨hne, hid⟩
      exact ⟨hid, fun hrequested => hne (h id hid hrequested)⟩
  · rename_i hjoined
    rw [List.mem_toFinset, and_iff_left_iff_imp]
    intro hid hrequested
    exact hjoined (h id hid hrequested ▸ hrequested)

theorem excludesRequested_iff :
    (∀ choices, ExcludesRequested catalogue requested
        (filterAndSample choices catalogue [joined])) ↔
      (∀ id ∈ catalogue, id ∈ requested → id = joined) ∧
        (joined ∈ catalogue → joined ∈ requested ∨ 5 ≤ (catalogue.toFinset.erase joined).card) := by
  have hlength : ∀ choices, (filterAndSample choices catalogue [joined]).length =
      min 5 (catalogue.toFinset.erase joined).card := by
    intro choices
    rw [length_filterAndSample, List.toFinset_cons, List.toFinset_nil, insert_empty_eq,
      Finset.sdiff_singleton_eq_erase]
    rfl
  have hcard : joined ∈ catalogue →
      (catalogue.toFinset.erase joined).card + 1 = catalogue.toFinset.card := by
    intro hjoined
    exact Finset.card_erase_add_one (List.mem_toFinset.mpr hjoined)
  constructor
  · intro h
    have honly : ∀ id ∈ catalogue, id ∈ requested → id = joined := by
      intro id hid hrequested
      by_contra hne
      obtain ⟨choices, hmem⟩ := exists_mem_filterAndSample hid (List.mem_singleton.not.mpr hne)
      exact (h choices).excluded id hmem hrequested
    refine ⟨honly, ?_⟩
    intro hjoined
    by_cases hrequested : joined ∈ requested
    · exact .inl hrequested
    · right
      have hcount := (h (.startingWith joined)).length
      rw [hlength, sdiff_requested honly, if_neg hrequested, ← hcard hjoined] at hcount
      omega
  · rintro ⟨honly, henough⟩ choices
    refine ⟨nodup_filterAndSample, ?_, ?_, ?_⟩
    · intro id hid
      exact (mem_of_mem_filterAndSample hid).1
    · intro id hid hrequested
      obtain ⟨hmem, hne⟩ := mem_of_mem_filterAndSample hid
      exact hne (List.mem_singleton.mpr (honly id hmem hrequested))
    · rw [hlength, sdiff_requested honly]
      by_cases hjoined : joined ∈ catalogue
      · rcases henough hjoined with hrequested | hfive
        · rw [if_pos hrequested]
        · have := hcard hjoined
          split <;> omega
      · rw [Finset.erase_eq_of_notMem (by simpa using hjoined), ite_self]

end

/-- A request without the flag is answered from the catalogue, without the joined id. -/
theorem getProductList_plain (choices : Choices) (g : Globals) (draw : Bool)
    (products : List Product) {requested : List String} (h : ∀ id ∈ requested, ',' ∉ id.toList) :
    (getProductList choices g ⟨requested, false, draw, .ok products⟩).1 =
      .ok (filterAndSample choices (products.map Product.id) [join requested]) := by
  rw [← split_join h]
  rfl

/-- **The products of the request are excluded exactly when** the catalogue has none of them except
the one with the joined name, and joining excludes no other product that would be missed. -/
theorem excludes_requested_iff (g : Globals) (draw : Bool) (products : List Product)
    (requested : List String) (hcomma : ∀ id ∈ requested, ',' ∉ id.toList) :
    (∀ choices, ∃ answer,
      (getProductList choices g ⟨requested, false, draw, .ok products⟩).1 = .ok answer ∧
        ExcludesRequested (products.map Product.id) requested answer) ↔
      (∀ id ∈ products.map Product.id, id ∈ requested → id = join requested) ∧
        (join requested ∈ products.map Product.id → join requested ∈ requested ∨
          5 ≤ ((products.map Product.id).toFinset.erase (join requested)).card) := by
  simp only [getProductList_plain _ g draw products hcomma, Except.ok.injEq, exists_eq_left',
    excludesRequested_iff]

/-- A request with one product. -/
theorem excludes_requested_single : ∃ answer,
    (getProductList (.startingWith "66VCHSJNUP") {} ⟨["OLJCESPC7Z"], false, false,
      .ok [{ id := "OLJCESPC7Z" }, { id := "66VCHSJNUP" }]⟩).1 = .ok answer ∧
        ExcludesRequested ["OLJCESPC7Z", "66VCHSJNUP"] ["OLJCESPC7Z"] answer :=
  (excludes_requested_iff {} false [{ id := "OLJCESPC7Z" }, { id := "66VCHSJNUP" }]
    ["OLJCESPC7Z"] (by decide +kernel)).mpr (by decide +kernel) (.startingWith "66VCHSJNUP")

/-- A request with two products is answered with one of them. -/
theorem requested_recommended : ¬ ∀ (g : Globals) (draw : Bool) (products : List Product)
    (requested : List String), (∀ id ∈ requested, ',' ∉ id.toList) → ∀ choices, ∃ answer,
      (getProductList choices g ⟨requested, false, draw, .ok products⟩).1 = .ok answer ∧
        ExcludesRequested (products.map Product.id) requested answer := by
  intro h
  have hcomma : ∀ id ∈ ["OLJCESPC7Z", "66VCHSJNUP"], ',' ∉ id.toList := by decide +kernel
  have hall := h {} false [{ id := "OLJCESPC7Z" }, { id := "66VCHSJNUP" }] _ hcomma
  simp only [getProductList_plain _ _ _ _ hcomma, Except.ok.injEq, exists_eq_left',
    excludesRequested_iff] at hall
  have hjoined := hall.1 "OLJCESPC7Z" (by decide) (by decide)
  exact absurd hjoined (by decide +kernel)

end AstronomyShop.Recommendation
