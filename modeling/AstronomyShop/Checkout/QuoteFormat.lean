import AstronomyShop.Checkout.Payloads
import AstronomyShop.Shipping.Service
import AstronomyShop.Library.Result

/-!
# The quote request on both sides

What the request types of the shipping service make of the JSON that checkout posts to
`/get-quote`. Nothing in checkout looks at the quantities of a cart. They are checked by the
way the two formats meet: a zero quantity is dropped by `omitempty` and then missing for
serde, a negative one does not fit a `u32`, and an empty cart is a nil slice, which is
`null` and no array.
-/

namespace AstronomyShop

open Wire

theorem structMembers_cartItem (item : CartItem) :
    ∃ members, Serde.structMembers ["quantity"] item.toJson = .ok members ∧
      members.lookup "quantity" =
        if item.quantity.toInt = 0 then none else some (.int item.quantity.toInt) := by
  by_cases hid : item.productId = "" <;> by_cases hq : item.quantity.toInt = 0 <;>
    simp [CartItem.toJson, Serde.structMembers, Go.omitEmptyString, Go.omitEmptyInt,
      Go.omitEmpty, List.lookup_cons, hid, hq]

/-- A line is read exactly when its quantity is at least one, and then as that quantity. -/
theorem readCartItem_toJson {item : CartItem} {c : Shipping.CartItem} :
    Shipping.readCartItem item.toJson = .ok c ↔
      1 ≤ item.quantity.toInt ∧ c.quantity.toNat = item.quantity.toInt := by
  obtain ⟨members, hmembers, hlookup⟩ := structMembers_cartItem item
  have hlt := item.quantity.toInt_lt
  unfold Shipping.readCartItem
  rw [hmembers]
  constructor
  · intro h
    obtain ⟨members', hm, h⟩ := Except.bind_eq_ok_iff.mp h
    cases hm
    obtain ⟨quantity, hq, h⟩ := Except.bind_eq_ok_iff.mp h
    cases h
    obtain ⟨j, hj, hread⟩ := Serde.required_eq_ok_iff.mp hq
    rw [hlookup] at hj
    split at hj
    · cases hj
    · rename_i hne
      cases hj
      obtain ⟨hrange, rfl⟩ := Serde.readUInt_int_eq_ok_iff.mp hread
      refine ⟨by omega, ?_⟩
      simp only [UInt32.toNat_ofNat']
      omega
  · rintro ⟨hpos, hc⟩
    have hread : Serde.required "quantity" (Serde.readUInt (2 ^ 32)) members =
        .ok c.quantity.toNat := by
      refine Serde.required_eq_ok_iff.mpr ⟨.int item.quantity.toInt, ?_, ?_⟩
      · rw [hlookup, if_neg (by omega)]
      · exact Serde.readUInt_int_eq_ok_iff.mpr ⟨by omega, by omega⟩
    refine Except.bind_eq_ok_iff.mpr ⟨members, rfl, ?_⟩
    refine Except.bind_eq_ok_iff.mpr ⟨c.quantity.toNat, hread, ?_⟩
    rw [UInt32.ofNat_toNat]
    rfl

theorem slice_repeated (items : List CartItem) :
    Go.slice CartItem.toJson (repeated items) =
      if items = [] then .null else .arr (items.map CartItem.toJson) := by
  cases items with
  | nil => rfl
  | cons item items => rfl

/-- The lines are read exactly when there is one and every quantity is at least one. -/
theorem readVec_slice {items : List CartItem} {cs : List Shipping.CartItem} :
    Serde.readVec Shipping.readCartItem (Go.slice CartItem.toJson (repeated items)) = .ok cs ↔
      items ≠ [] ∧ List.Forall₂
        (fun item c => 1 ≤ item.quantity.toInt ∧ (c.quantity.toNat : Int) = item.quantity.toInt)
        items cs := by
  rw [slice_repeated]
  split
  · rename_i hnil
    constructor
    · intro h
      cases h
    · rintro ⟨hne, -⟩
      exact absurd hnil hne
  · rename_i hne
    rw [Serde.readVec, Except.mapM_eq_ok_iff, List.forall₂_map_left_iff]
    simp only [readCartItem_toJson]
    exact ⟨fun h => ⟨hne, h⟩, fun h => h.2⟩

theorem structMembers_shippingPayload (address : Option Address) (items : List CartItem) :
    Serde.structMembers ["items", "address"] (shippingPayload address items) =
      .ok [("address", Go.pointer Address.toJson address),
        ("items", Go.slice CartItem.toJson (repeated items))] := by
  simp [Serde.structMembers, shippingPayload]

/-! ## The whole request -/

theorem structMembers_address (a : Address) :
    ∃ members, Serde.structMembers ["zip_code"] a.toJson = .ok members ∧
      members.lookup "zip_code" = if a.zipCode = "" then none else some (.str a.zipCode) := by
  -- only the last field has the name; an empty one is dropped, so it is there at most once
  have hown : ((Go.omitEmptyString "zip_code" a.zipCode).filter
      fun m => m.1 == "zip_code").length ≤ 1 := by
    apply (List.length_filter_le _ _).trans
    unfold Go.omitEmptyString Go.omitEmpty
    split <;> simp
  have hlookup : (Go.omitEmptyString "zip_code" a.zipCode).lookup "zip_code" =
      if a.zipCode = "" then none else some (.str a.zipCode) := by
    by_cases hzip : a.zipCode = "" <;> simp [Go.omitEmptyString, Go.omitEmpty, hzip]
  refine ⟨_, Serde.structMembers_obj ?_, ?_⟩
  · simpa [Go.omitEmptyString, Go.filter_omitEmpty_of_ne] using hown
  · simpa [Go.omitEmptyString, Go.lookup_omitEmpty_of_ne, List.lookup_append] using hlookup

/-- An address is read exactly when it has a zip code, and then with that zip code. -/
theorem readAddress_toJson {a : Address} {b : Shipping.Address} :
    Shipping.readAddress a.toJson = .ok b ↔ a.zipCode ≠ "" ∧ b.zipCode = a.zipCode := by
  obtain ⟨members, hmembers, hlookup⟩ := structMembers_address a
  unfold Shipping.readAddress
  rw [hmembers]
  constructor
  · intro h
    obtain ⟨members', hm, h⟩ := Except.bind_eq_ok_iff.mp h
    cases hm
    obtain ⟨zipCode, hzip, h⟩ := Except.bind_eq_ok_iff.mp h
    cases h
    obtain ⟨j, hj, hread⟩ := Serde.required_eq_ok_iff.mp hzip
    rw [hlookup] at hj
    split at hj
    · cases hj
    · rename_i hne
      cases hj
      cases hread
      exact ⟨hne, rfl⟩
  · rintro ⟨hne, hb⟩
    have hread : Serde.required "zip_code" Serde.readString members = .ok a.zipCode := by
      refine Serde.required_eq_ok_iff.mpr ⟨.str a.zipCode, ?_, rfl⟩
      rw [hlookup, if_neg hne]
    refine Except.bind_eq_ok_iff.mpr ⟨members, rfl, ?_⟩
    refine Except.bind_eq_ok_iff.mpr ⟨a.zipCode, hread, ?_⟩
    rw [← hb]
    rfl

/-- The member `address` reads back exactly when a present address does. -/
theorem optional_pointer {address : Option Address} {items : Json}
    {found : Option Shipping.Address} :
    Serde.optional "address" Shipping.readAddress
        [("address", Go.pointer Address.toJson address), ("items", items)] = .ok found ↔
      List.Forall₂ (fun a b => a.zipCode ≠ "" ∧ b.zipCode = a.zipCode)
        address.toList found.toList := by
  cases address with
  | none =>
    have hread : Serde.optional "address" Shipping.readAddress
        [("address", Go.pointer Address.toJson none), ("items", items)] = .ok none := rfl
    rw [hread]
    cases found <;> simp
  | some a =>
    have hread : Serde.optional "address" Shipping.readAddress
        [("address", Go.pointer Address.toJson (some a)), ("items", items)] =
          (Shipping.readAddress a.toJson).map some := rfl
    rw [hread]
    cases found with
    | none => cases Shipping.readAddress a.toJson <;> simp [Except.map]
    | some b =>
      simp only [Option.toList_some, List.forall₂_cons, List.forall₂_nil_left_iff, and_true]
      rw [← readAddress_toJson]
      cases Shipping.readAddress a.toJson <;> simp [Except.map]

/-- The request reads back line by line, and its address on its own. -/
theorem readGetQuoteRequest_eq_ok_iff {address : Option Address} {items : List CartItem}
    {req : Shipping.GetQuoteRequest} :
    Shipping.readGetQuoteRequest (shippingPayload address items) = .ok req ↔
      Serde.readVec Shipping.readCartItem (Go.slice CartItem.toJson (repeated items)) =
        .ok req.items ∧
      List.Forall₂ (fun a b => a.zipCode ≠ "" ∧ b.zipCode = a.zipCode)
        address.toList req.address.toList := by
  unfold Shipping.readGetQuoteRequest
  rw [structMembers_shippingPayload, ← optional_pointer]
  constructor
  · intro h
    obtain ⟨members, hmembers, h⟩ := Except.bind_eq_ok_iff.mp h
    cases hmembers
    obtain ⟨cs, hcs, h⟩ := Except.bind_eq_ok_iff.mp h
    obtain ⟨found, hfound, h⟩ := Except.bind_eq_ok_iff.mp h
    cases h
    obtain ⟨j, hj, hread⟩ := Serde.required_eq_ok_iff.mp hcs
    cases hj
    exact ⟨hread, hfound⟩
  · rintro ⟨hread, hfound⟩
    refine Except.bind_eq_ok_iff.mpr ⟨_, rfl, ?_⟩
    refine Except.bind_eq_ok_iff.mpr ⟨req.items, ?_, ?_⟩
    · exact Serde.required_eq_ok_iff.mpr ⟨_, rfl, hread⟩
    · exact Except.bind_eq_ok_iff.mpr ⟨req.address, hfound, rfl⟩

/-- **A request that shipping takes has a line, and no quantity below one.** -/
theorem positive_of_read_quoteRequest {address : Option Address} {items : List CartItem}
    {req : Shipping.GetQuoteRequest}
    (h : Shipping.readGetQuoteRequest (shippingPayload address items) = .ok req) :
    items ≠ [] ∧ ∀ item ∈ items, 1 ≤ item.quantity.toInt := by
  obtain ⟨hread, -⟩ := readGetQuoteRequest_eq_ok_iff.mp h
  obtain ⟨hne, hlines⟩ := readVec_slice.mp hread
  exact ⟨hne, ((List.forall₂_and_left _ _).mp hlines).1⟩

/-- The request that checkout sends is taken, with the same quantities and zip code. -/
def QuoteRequestAgrees (address : Option Address) (items : List CartItem) : Prop :=
  ∃ req, Shipping.readGetQuoteRequest (shippingPayload address items) = .ok req ∧
    req.items.map (fun c => (c.quantity.toNat : Int)) =
      items.map (fun item => item.quantity.toInt) ∧
    req.address.map Shipping.Address.zipCode = address.map Address.zipCode

/-- **The two formats agree exactly when** the cart is not empty and an address has a zip code. -/
theorem quote_request_agrees_iff (address : Option Address) (items : List CartItem)
    (hitems : ∀ item ∈ items, 1 ≤ item.quantity.toInt) :
    QuoteRequestAgrees address items ↔
      items ≠ [] ∧ ∀ a, address = some a → a.zipCode ≠ "" := by
  unfold QuoteRequestAgrees
  simp only [readGetQuoteRequest_eq_ok_iff, readVec_slice]
  constructor
  · rintro ⟨req, ⟨⟨hne, -⟩, haddress⟩, -, -⟩
    refine ⟨hne, ?_⟩
    rintro a rfl
    exact ((List.forall₂_and_left _ _).mp haddress).1 a (by simp)
  · rintro ⟨hne, hzip⟩
    have hquantity : ∀ item ∈ items,
        ((UInt32.ofNat item.quantity.toInt.toNat).toNat : Int) = item.quantity.toInt := by
      intro item hitem
      have hpos := hitems item hitem
      have hlt := item.quantity.toInt_lt
      simp only [UInt32.toNat_ofNat']
      omega
    refine ⟨{ items := items.map fun item => ⟨.ofNat item.quantity.toInt.toNat⟩
              address := address.map fun a => ⟨a.zipCode⟩ }, ⟨⟨hne, ?_⟩, ?_⟩, ?_, ?_⟩
    · rw [List.forall₂_map_right_iff, List.forall₂_same]
      intro item hitem
      exact ⟨hitems item hitem, hquantity item hitem⟩
    · cases address with
      | none => exact .nil
      | some a => exact .cons ⟨hzip a rfl, rfl⟩ .nil
    · rw [List.map_map, List.map_inj_left]
      exact hquantity
    · rw [Option.map_map]
      rfl

/-- One telescope, and no address. -/
theorem quote_request_agrees_single :
    QuoteRequestAgrees none [{ productId := "OLJCESPC7Z", quantity := 1 }] :=
  (quote_request_agrees_iff none [{ productId := "OLJCESPC7Z", quantity := 1 }]
    (by decide)).mpr ⟨by decide, by simp⟩

/-- The cart without a line is refused: its items are `null`, and no list. -/
theorem quote_request_refused : ¬ ∀ (address : Option Address) (items : List CartItem),
    (∀ item ∈ items, 1 ≤ item.quantity.toInt) → QuoteRequestAgrees address items := by
  intro h
  obtain ⟨req, hreq, -⟩ := h none [] (by simp)
  exact absurd rfl (positive_of_read_quoteRequest hreq).1

end AstronomyShop
