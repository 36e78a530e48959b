import AstronomyShop.Messages
import AstronomyShop.Library.Result

/-!
# The product catalogue

The service reads the JSON files of its `products` directory, once at the start and again with every
tick of a timer, and answers its three requests from the list of products that it has read.

The calls on the file system answer as `Disk` says, one disk for each time the directory is read.
`protojson.Unmarshal` and the table of lower-case letters are parameters.
-/

namespace AstronomyShop.ProductCatalog

/-! ## Reading the files -/

/-- `os.DirEntry`: a name, and the answer of `Info`, of which the name is used. -/
structure DirEntry where
  name : String
  info : Except String String

structure Disk where
  readDir : String → Except String (List DirEntry)
  readFile : String → Except String String

structure ListProductsResponse where
  products : List Product := []

def hasSuffix (s suffix : String) : Bool := suffix.toList.isSuffixOf s.toList

/-- The loop over the entries of the directory. -/
def jsonFiles : List DirEntry → Except String (List String)
  | [] => .ok []
  | entry :: entries =>
    if hasSuffix entry.name ".json" then do
      let info ← entry.info
      let infos ← jsonFiles entries
      return info :: infos
    else
      jsonFiles entries

section

variable (unmarshal : String → Except String ListProductsResponse)

/-- The loop over the files; `products` are those of the files before. -/
def appendProducts (disk : Disk) : List String → List Product → Except String (List Product)
  | [], products => .ok products
  | name :: names, products => do
    let jsonData ← disk.readFile ("./products/" ++ name)
    let res ← unmarshal jsonData
    appendProducts disk names (products ++ res.products)

/-- The two results of the function; the list is nil where there is an error. -/
def readProductFiles (disk : Disk) : List Product × Option String :=
  match disk.readDir "./products" with
  | .error err => ([], some err)
  | .ok entries =>
    match jsonFiles entries with
    | .error err => ([], some err)
    | .ok names =>
      match appendProducts unmarshal disk names [] with
      | .error err => ([], some err)
      | .ok products => (products, none)

/-- The catalogue after the start, unless the service exits. -/
def loadProductCatalog (disk : Disk) : Option (List Product) :=
  match readProductFiles unmarshal disk with
  | (_, some _) => none
  | (catalog, none) => some catalog

/-- One tick: the two results are assigned, and an error is logged. -/
def reload (_catalog : List Product) (disk : Disk) : List Product :=
  (readProductFiles unmarshal disk).1

/-- A tick fails when an operation on the file system or a parse does. -/
def Fails (disk : Disk) : Prop := (readProductFiles unmarshal disk).2 ≠ none

end

/-! ## The requests -/

inductive Code where
  | notFound
  | internal
  deriving DecidableEq

/-- `status.Errorf` with the given format and no arguments. -/
structure Status where
  code : Code
  format : String
  deriving DecidableEq

def checkProductFailure (failureEnabled : Bool) (id : String) : Bool :=
  if id ≠ "OLJCESPC7Z" then false else failureEnabled

def listProducts (catalog : List Product) : ListProductsResponse := { products := catalog }

def getProduct (catalog : List Product) (failureEnabled : Bool) (id : String) :
    Except Status Product :=
  if checkProductFailure failureEnabled id then
    .error ⟨.internal, "Error: Product Catalog Fail Feature Flag Enabled"⟩
  else
    match catalog.find? fun product => id == product.id with
    | none => .error ⟨.notFound, "Product Not Found: " ++ id⟩
    | some found => .ok found

def contains (s substr : String) : Bool :=
  s.toList.tails.any fun tail => substr.toList.isPrefixOf tail

def searchProducts (lower : Char → Char) (catalog : List Product) (query : String) :
    List Product :=
  catalog.filter fun product =>
    contains (product.name.map lower) (query.map lower) ||
      contains (product.description.map lower) (query.map lower)

/-- A request, with the value that the flag has when it is read. -/
inductive Request where
  | listProducts
  | getProduct (failureEnabled : Bool) (id : String)
  | searchProducts (query : String)

inductive Response where
  | listProducts (res : ListProductsResponse)
  | getProduct (res : Except Status Product)
  | searchProducts (results : List Product)

def serve (lower : Char → Char) (catalog : List Product) : Request → Response
  | .listProducts => .listProducts (listProducts catalog)
  | .getProduct failureEnabled id => .getProduct (getProduct catalog failureEnabled id)
  | .searchProducts query => .searchProducts (searchProducts lower catalog query)

end AstronomyShop.ProductCatalog
