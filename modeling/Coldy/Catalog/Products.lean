import Coldy.Encoding.Sql

/-!
# The catalogue's products

`repository.Product`, the `products` table with the statements of `ProductRepository` the
catalogue service runs (`GetByID`, `Update`, `UpdateStock`, `CheckAvailability`), and the product
cache of `CatalogService`: entries `product:<id>` that `GetProduct` sets for `ProductCacheTTL` and
that `UpdateProduct` and `UpdateStock` delete.  `WHERE id = $1` compares `UUID`s, so two spellings
of one id find the same row (`sameId`), and an id comes back in PostgreSQL's output form.

`Update` writes only name, description, price and category, and `UpdateStock` only the stock:
neither touches what the other writes, and neither an id, a SKU, the images or a creation time
(`update_stockQuantity`, `updateStock_fields`).
-/

namespace Coldy.Catalog

open Coldy.Uuid

/-- `repository.Product`; times in nanoseconds. -/
structure Product where
  id : String
  name : String
  description : String
  sku : String
  priceCurrency : String
  priceAmount : Int
  stockQuantity : Int
  category : String
  imageUrls : List String
  createdAt : Int
  updatedAt : Int
  deriving DecidableEq, Repr

/-- `id = $1` on a `UUID` column: the same sixteen bytes. -/
def sameId (a b : String) : Bool := readUuid a = readUuid b

/-! ### `ProductRepository` -/

/-- `ProductRepository.GetByID`: the row, its id as PostgreSQL writes it; `nil` when no row has
that id. -/
def getByID (products : List Product) (id : String) : Option Product :=
  (products.find? fun p => sameId p.id id).map fun p => { p with id := readUuid p.id }

/-- The columns `ProductRepository.Update` sets from `product`, at time `now`. -/
def Product.withFields (p product : Product) (now : Int) : Product :=
  { p with
    name := product.name
    description := product.description
    priceCurrency := product.priceCurrency
    priceAmount := product.priceAmount
    category := product.category
    updatedAt := now }

/-- `ProductRepository.Update` at time `now`: the row of `product.ID` gets its name, description,
price and category; the new `updated_at` is returned. -/
def update (products : List Product) (product : Product) (now : Int) :
    Except String (List Product × Int) :=
  if products.any fun p => sameId p.id product.id then
    .ok (products.map fun p => if sameId p.id product.id then p.withFields product now else p, now)
  else .error "failed to update product: sql: no rows in result set"

/-- `ProductRepository.UpdateStock` at time `now`: `stock_quantity + delta`, which PostgreSQL
refuses outside `INTEGER`; the new stock is returned. -/
def updateStock (products : List Product) (id : String) (delta : Int) (now : Int) :
    Except String (List Product × Int) :=
  match products.find? fun p => sameId p.id id with
  | none => .error "failed to update stock: sql: no rows in result set"
  | some p =>
    if p.stockQuantity + delta < -2147483648 ∨ 2147483647 < p.stockQuantity + delta then
      .error "failed to update stock: pq: integer out of range"
    else
      .ok (products.map fun r => if sameId r.id id then
          { r with stockQuantity := r.stockQuantity + delta, updatedAt := now } else r,
        p.stockQuantity + delta)

/-- `ProductRepository.CheckAvailability`: `SELECT id, stock_quantity … WHERE id = ANY($1)`, by id
as PostgreSQL writes it.  The array `$1` is bound as one text, then each element read as a UUID. -/
def checkAvailability (products : List Product) (ids : List String) :
    Except String (List (String × Int)) :=
  match Sql.textParams ids >>= fun _ => ids.forM Sql.uuidParam with
  | .error e => .error ("failed to check availability: " ++ e)
  | .ok () => .ok ((products.filter fun p => ids.any fun id => sameId id p.id).map fun p =>
      (readUuid p.id, p.stockQuantity))

/-- What no statement here writes: id, SKU, images and creation time. -/
def Product.identity (p : Product) : String × String × List String × Int :=
  (p.id, p.sku, p.imageUrls, p.createdAt)

/-- `Update` leaves every row's identity and stock as they were. -/
theorem update_stockQuantity {products products' : List Product} {product : Product} {now t : Int}
    (h : update products product now = .ok (products', t)) :
    products'.map (fun p => (p.identity, p.stockQuantity)) =
      products.map fun p => (p.identity, p.stockQuantity) := by
  unfold update at h
  split at h
  · cases h
    rw [List.map_map]
    refine List.map_congr_left fun p _ => ?_
    simp only [Function.comp_apply]
    split <;> rfl
  · cases h

/-- `UpdateStock` changes only the stock and `updated_at` of the row of its id, the stock by
`delta`. -/
theorem updateStock_fields {products products' : List Product} {id : String} {delta now q : Int}
    (h : updateStock products id delta now = .ok (products', q)) :
    products' = products.map fun r => if sameId r.id id then
      { r with stockQuantity := r.stockQuantity + delta, updatedAt := now } else r := by
  unfold updateStock at h
  split at h
  · cases h
  · split at h
    · cases h
    · cases h; rfl

theorem updateStock_identity {products products' : List Product} {id : String} {delta now q : Int}
    (h : updateStock products id delta now = .ok (products', q)) :
    products'.map Product.identity = products.map Product.identity := by
  rw [updateStock_fields h, List.map_map]
  refine List.map_congr_left fun p _ => ?_
  simp only [Function.comp_apply]
  split <;> rfl

/-! ### The product cache -/

/-- An entry of the cache: a key, the product `SetJSON` wrote, and when it expires. -/
structure CacheEntry where
  key : String
  product : Product
  expiresAt : Int
  deriving DecidableEq, Repr

/-- `ProductCachePrefix`. -/
def productCachePrefix : String := "product:"

/-- `ProductCacheTTL`, five minutes. -/
def productCacheTTL : Int := 300000000000

/-- `GetJSON(key)` at time `now`: the product of the live entry of `key`. -/
def cacheGet (cache : List CacheEntry) (key : String) (now : Int) : Option Product :=
  (cache.find? fun e => e.key = key ∧ now < e.expiresAt).map (·.product)

/-- `SetJSON(key, p, ProductCacheTTL)` at time `now`. -/
def cacheSet (cache : List CacheEntry) (key : String) (p : Product) (now : Int) : List CacheEntry :=
  cache.filter (·.key ≠ key) ++ [⟨key, p, now + productCacheTTL⟩]

/-- `Delete(key)`. -/
def cacheDelete (cache : List CacheEntry) (key : String) : List CacheEntry :=
  cache.filter (·.key ≠ key)

@[simp] theorem cacheGet_cacheDelete (cache : List CacheEntry) (key : String) (now : Int) :
    cacheGet (cacheDelete cache key) key now = none := by
  simp only [cacheGet, cacheDelete, Option.map_eq_none', List.find?_eq_none, List.mem_filter]
  exact fun e ⟨_, h⟩ h' => absurd (of_decide_eq_true h').1 (by simpa using h)

end Coldy.Catalog
