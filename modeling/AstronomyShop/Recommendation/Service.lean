import AstronomyShop.Messages
import Mathlib.Data.Finset.Card
import Mathlib.Data.List.Nodup

/-!
# The recommendation service

`get_product_list` takes candidate ids from the catalogue, or from a cache with the flag
`recommendationCacheFailure`, removes those of the request, and samples at most five of the rest.
The cache and whether it has been filled are globals of the process.

The order in which a set is listed, and the random sample, are `Choices`: any order, and any
sample without repetition.
-/

namespace AstronomyShop.Recommendation

/-! ## Sets and samples -/

/-- `list` of a set, and `random.sample` of the indices below `n`. -/
structure Choices where
  list : Finset String → List String
  nodup_list : ∀ s, (list s).Nodup
  mem_list : ∀ s id, id ∈ list s ↔ id ∈ s
  sample : (n : Nat) → Nat → List (Fin n)
  nodup_sample : ∀ n k, (sample n k).Nodup
  length_sample : ∀ n k, k ≤ n → (sample n k).length = k

/-- `''.join`. -/
def join (ids : List String) : String := .ofList (ids.flatMap String.toList)

/-- `split(',')`. -/
def split (s : String) : List String := (s.toList.splitOn ',').map String.ofList

def maxResponses : Nat := 5

/-- The end of `get_product_list`, from the candidates on. -/
def filterAndSample (choices : Choices) (productIds requestProductIds : List String) :
    List String :=
  let filteredProducts := choices.list (productIds.toFinset \ requestProductIds.toFinset)
  let numProducts := filteredProducts.length
  let numReturn := min maxResponses numProducts
  (choices.sample numProducts numReturn).map fun i => filteredProducts.get i

/-! ## The candidates -/

structure Globals where
  cachedIds : List String := []
  firstRun : Bool := true
  deriving DecidableEq

/-- A request, and what the call meets: the flag, whether `random.random()` is below one half, and
the answer of `ListProducts` if it is asked. -/
structure Call where
  requestProductIds : List String
  cacheFailure : Bool
  draw : Bool
  listProducts : Except String (List Product)

/-- The candidates. An error of `ListProducts` is raised with the globals as they are then. -/
def candidates (g : Globals) (call : Call) : Except String (List String) × Globals :=
  if call.cacheFailure then
    if call.draw || g.firstRun then
      let g := { g with firstRun := false }
      match call.listProducts with
      | .error err => (.error err, g)
      | .ok products =>
        let responseIds := products.map Product.id
        let cachedIds := g.cachedIds ++ responseIds
        let cachedIds := cachedIds ++ cachedIds.take (cachedIds.length / 4)
        (.ok cachedIds, { g with cachedIds := cachedIds })
    else
      (.ok g.cachedIds, g)
  else
    match call.listProducts with
    | .error err => (.error err, g)
    | .ok products => (.ok (products.map Product.id), g)

def getProductList (choices : Choices) (g : Globals) (call : Call) :
    Except String (List String) × Globals :=
  let requestProductIds := split (join call.requestProductIds)
  match candidates g call with
  | (.error err, g) => (.error err, g)
  | (.ok productIds, g) => (.ok (filterAndSample choices productIds requestProductIds), g)

end AstronomyShop.Recommendation
