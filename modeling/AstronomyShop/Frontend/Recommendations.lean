import AstronomyShop.Recommendation.Exclusion

/-!
# Product ids on their way to the recommendations

The page asks for recommendations with a list of product ids. `URLSearchParams` makes one text of
the list, with commas. The API route passes that text on where a list of texts is expected, and the
encoder of the message, which iterates it, writes one element for every character. The
recommendation service joins the elements and splits at commas: what arrives is the list that was
sent (`product_ids_reach_recommender`), and so the products of the page are excluded.
-/

namespace AstronomyShop.Frontend

open Recommendation

/-! ## The page -/

/-- A value of `queryParams`. -/
inductive ParamValue where
  | text (s : String)
  | array (ss : List String)

/-- The conversion to a string; that of an array puts commas. -/
def ParamValue.toText : ParamValue → String
  | .text s => s
  | .array ss => ",".intercalate ss

/-- The pairs of `new URLSearchParams(queryParams)`. -/
def urlSearchParams (queryParams : List (String × ParamValue)) : List (String × String) :=
  queryParams.map fun p => (p.1, p.2.toText)

/-- The query of `listRecommendations`. -/
def listRecommendationsParams (productIds : List String) (sessionId currencyCode : String) :
    List (String × String) :=
  urlSearchParams [("productIds", .array productIds), ("sessionId", .text sessionId),
    ("currencyCode", .text currencyCode)]

/-! ## The API route -/

/-- A value of `query`: a parameter that is there more than once is an array. -/
inductive QueryValue where
  | single (s : String)
  | multiple (ss : List String)

def queryValue (query : List (String × String)) (name : String) : Option QueryValue :=
  match (query.filter fun p => p.1 == name).map Prod.snd with
  | [] => none
  | [value] => some (.single value)
  | values => some (.multiple values)

/-- `ListRecommendationsRequest` after the casts, which convert nothing. -/
structure ListRecommendationsRequest where
  userId : QueryValue
  productIds : QueryValue

/-- The request that the handler makes of the query. -/
def handlerRequest (query : List (String × String)) : ListRecommendationsRequest where
  userId := (queryValue query "sessionId").getD (.single "")
  productIds := (queryValue query "productIds").getD (.multiple [])

/-- What `for (const v of value)` runs through: a text by its characters. -/
def QueryValue.elements : QueryValue → List String
  | .single s => s.toList.map fun c => .ofList [c]
  | .multiple ss => ss

/-- The conversion to a string. -/
def QueryValue.toText : QueryValue → String
  | .single s => s
  | .multiple ss => ",".intercalate ss

/-- The tags and texts that `encode` writes. -/
def ListRecommendationsRequest.encode (message : ListRecommendationsRequest) :
    List (Nat × String) :=
  (if message.userId.toText = "" then [] else [(10, message.userId.toText)]) ++
    message.productIds.elements.map fun v => (18, v)

/-! ## The recommendation service -/

/-- The repeated field as the service reads it. -/
def productIdsOf (fields : List (Nat × String)) : List String :=
  (fields.filter fun f => f.1 == 18).map Prod.snd

/-- The elements that reach the service from the page. -/
def sentElements (encode : List (String × String) → String)
    (parse : String → List (String × String)) (productIds : List String)
    (sessionId currencyCode : String) : List String :=
  let url := encode (listRecommendationsParams productIds sessionId currencyCode)
  productIdsOf (handlerRequest (parse url)).encode

theorem productIdsOf_encode (message : ListRecommendationsRequest) :
    productIdsOf message.encode = message.productIds.elements := by
  have hproducts : (message.productIds.elements.map fun v => (18, v)).filter
      (fun f : Nat × String => f.1 == 18) = message.productIds.elements.map fun v => (18, v) := by
    rw [List.filter_eq_self]
    intro f hf
    obtain ⟨v, -, rfl⟩ := List.mem_map.mp hf
    rfl
  unfold productIdsOf ListRecommendationsRequest.encode
  rw [List.filter_append, hproducts]
  split
  · simp
  · simp

theorem join_characters (s : String) : join (QueryValue.single s).elements = s := by
  unfold join QueryValue.elements
  rw [List.flatMap_map]
  simp only [String.toList_ofList, List.flatMap_singleton', String.ofList_toList]

theorem queryValue_productIds (productIds : List String) (sessionId currencyCode : String) :
    queryValue (listRecommendationsParams productIds sessionId currencyCode) "productIds" =
      some (.single (",".intercalate productIds)) := by
  simp [queryValue, listRecommendationsParams, urlSearchParams, ParamValue.toText]

/-- Splitting at commas undoes the text of an array. -/
theorem split_intercalate {ids : List String} (hne : ids ≠ [])
    (hcomma : ∀ id ∈ ids, ',' ∉ id.toList) : split (",".intercalate ids) = ids := by
  have hpieces : ∀ l ∈ ids.map String.toList, ',' ∉ l := by
    intro l hl
    obtain ⟨id, hid, rfl⟩ := List.mem_map.mp hl
    exact hcomma id hid
  have hnonempty : ids.map String.toList ≠ [] := mt List.map_eq_nil_iff.mp hne
  unfold split
  rw [String.toList_intercalate]
  change (List.splitOn ',' (List.intercalate [','] (ids.map String.toList))).map String.ofList = ids
  rw [List.splitOn_intercalate ',' hpieces hnonempty, List.map_map]
  simp

section

variable {encode : List (String × String) → String} {parse : String → List (String × String)}
  {productIds : List String} {sessionId currencyCode : String}

/-- The elements are the characters of the text with commas. -/
theorem join_sentElements
    (hround : parse (encode (listRecommendationsParams productIds sessionId currencyCode)) =
      listRecommendationsParams productIds sessionId currencyCode) :
    join (sentElements encode parse productIds sessionId currencyCode) =
      ",".intercalate productIds := by
  unfold sentElements
  dsimp only
  rw [hround, productIdsOf_encode, handlerRequest, queryValue_productIds, Option.getD_some,
    join_characters]

end

/-- **The product ids of the page reach the recommendations** as they are. -/
theorem product_ids_reach_recommender (encode : List (String × String) → String)
    (parse : String → List (String × String)) (productIds : List String)
    (sessionId currencyCode : String) (hne : productIds ≠ [])
    (hcomma : ∀ id ∈ productIds, ',' ∉ id.toList)
    (hround : parse (encode (listRecommendationsParams productIds sessionId currencyCode)) =
      listRecommendationsParams productIds sessionId currencyCode) :
    split (join (sentElements encode parse productIds sessionId currencyCode)) = productIds := by
  rw [join_sentElements hround, split_intercalate hne hcomma]

/-- Two telescopes. -/
theorem product_ids_reach_recommender_two :
    split (join (sentElements
      (fun _ => "productIds=OLJCESPC7Z%2C66VCHSJNUP&sessionId=s1&currencyCode=USD")
      (fun _ => [("productIds", "OLJCESPC7Z,66VCHSJNUP"), ("sessionId", "s1"),
        ("currencyCode", "USD")])
      ["OLJCESPC7Z", "66VCHSJNUP"] "s1" "USD")) = ["OLJCESPC7Z", "66VCHSJNUP"] :=
  product_ids_reach_recommender _ _ ["OLJCESPC7Z", "66VCHSJNUP"] "s1" "USD" (by decide)
    (by decide +kernel) (by decide +kernel)

/-- **What the page has is not recommended to it**, while the cache flag is off. -/
theorem page_products_excluded (encode : List (String × String) → String)
    (parse : String → List (String × String)) (choices : Choices) (g : Globals) (draw : Bool)
    (products : List Product) (productIds : List String) (sessionId currencyCode : String)
    (hne : productIds ≠ []) (hcomma : ∀ id ∈ productIds, ',' ∉ id.toList)
    (hround : parse (encode (listRecommendationsParams productIds sessionId currencyCode)) =
      listRecommendationsParams productIds sessionId currencyCode) :
    ∃ answer,
      (getProductList choices g ⟨sentElements encode parse productIds sessionId currencyCode, false,
        draw, .ok products⟩).1 = .ok answer ∧
          ExcludesRequested (products.map Product.id) productIds answer := by
  refine ⟨_, rfl, ?_⟩
  rw [join_sentElements hround, split_intercalate hne hcomma]
  exact excludesRequested_filterAndSample choices

end AstronomyShop.Frontend
