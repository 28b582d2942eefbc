import Coldy.Catalog.Listing
import Coldy.Idempotency.Store

/-!
# The catalogue's Redis

`CatalogService` keeps both its caches in one Redis, through `RedisCache`: `SetJSON` stores
`json.Marshal` of a value for a time, and `GetJSON` decodes what it finds into the caller's
variable.  `GetProduct` reads and writes `product:<id>` with a `repository.Product`, `ListProducts`
reads and writes `products:list:<json>` with a `cachedList`.  `Coldy.Catalog.Products` and
`Coldy.Catalog.Listing` model the two caches as two stores of typed entries; here they share the
key space, as they do in Redis.

* Each cache reads back what it stored: a product and a page decode back from their JSON
  (`unmarshal_product`, `unmarshal_cachedList`).
* A product key is never a list key: `product:` and `products:list:` differ at their eighth
  character (`productKey_ne_listKey`).
* So, after any sequence of the service's cache writes (`SetJSON` of a product or of a page,
  `Delete` of a product) whose products fit their Go fields, every `GetJSON` of either cache at any
  time answers what the typed store answers (`redis_refines_caches`).
-/

namespace Coldy.Catalog

open Coldy.Json Coldy.Idempotency

/-! ### The values stored -/

/-- `repository.Product` as a decoding target: it has no `json` tags, so its keys are the field
names. -/
def productFields : List (String × GoType) :=
  [("ID", .string "string"), ("Name", .string "string"), ("Description", .string "string"),
    ("SKU", .string "string"), ("PriceCurrency", .string "string"),
    ("PriceAmount", .int 64 "int64"), ("StockQuantity", .int 32 "int32"),
    ("Category", .string "string"),
    ("ImageURLs", .slice (.string "string")), ("CreatedAt", .time), ("UpdatedAt", .time)]

/-- `repository.Product`. -/
def productType : GoType := .struct "repository.Product" productFields

/-- A `Product` as `encoding/json` sees it. -/
def Product.toGo (p : Product) : GoValue :=
  .struct [("ID", .str p.id), ("Name", .str p.name), ("Description", .str p.description),
    ("SKU", .str p.sku), ("PriceCurrency", .str p.priceCurrency),
    ("PriceAmount", .int p.priceAmount), ("StockQuantity", .int p.stockQuantity),
    ("Category", .str p.category),
    ("ImageURLs", .slice (p.imageUrls.map .str)), ("CreatedAt", .time (rfc3339 p.createdAt)),
    ("UpdatedAt", .time (rfc3339 p.updatedAt))]

/-- `ListProducts`'s `cachedList`, with its `json` tags. -/
def cachedListType : GoType :=
  .struct "service.cachedList" [("products", .slice productType), ("next_cursor", .string "string")]

/-- The `cachedList{products, nextCursor}` `ListProducts` stores. -/
def cachedList (ps : List Product) (next : String) : GoValue :=
  .struct [("products", .slice (ps.map Product.toGo)), ("next_cursor", .str next)]

/-- The price fits an `int64` and the stock an `int32`, as the Go fields hold them. -/
def Product.Fits (p : Product) : Prop :=
  fitsInt 64 p.priceAmount = true ∧ fitsInt 32 p.stockQuantity = true

/-! ### `RedisCache` -/

/-- `RedisCache.GetJSON(key, &dest)` for a `dest` of type `t` at time `now`, the Redis call
succeeding iff `ok`: whether the key was found, with the decoded value, or the error. -/
def getJSON (r : Redis) (ok : Bool) (now : Int) (key : String) (t : GoType) :
    Except String (Option GoValue) :=
  if ok then
    match r key with
    | some (data, expiresAt) =>
      if now < expiresAt then
        match unmarshal t data with
        | .ok v => .ok (some v)
        | .error e => .error ("failed to unmarshal JSON: " ++ e.message)
      else .ok none
    | none => .ok none
  else .error ("failed to get key " ++ key ++ ": " ++ redisErr)

/-- Redis after `SET key data` expiring at `exp`. -/
def putEntry (r : Redis) (key : String) (data : JsonValue) (exp : Int) : Redis :=
  fun k => if k = key then some (data, exp) else r k

/-- Redis after `DEL key`. -/
def delEntry (r : Redis) (key : String) : Redis := fun k => if k = key then none else r k

/-- `RedisCache.SetJSON(key, v, ttl)` at time `now`, the Redis call succeeding iff `ok`. -/
def setJSON (r : Redis) (ok : Bool) (now : Int) (key : String) (v : GoValue) (ttl : Int) :
    Except String Redis :=
  if ok then .ok (putEntry r key v.marshal (now + ttl))
  else .error ("failed to set key " ++ key ++ ": " ++ redisErr)

/-- `RedisCache.Delete(key)`, the Redis call succeeding iff `ok`. -/
def deleteKey (r : Redis) (ok : Bool) (key : String) : Except String Redis :=
  if ok then .ok (delEntry r key) else .error ("failed to delete keys: " ++ redisErr)

theorem getJSON_put_ne {r : Redis} {key key' : String} {data : JsonValue} {exp now : Int}
    {t : GoType} (hk : key' ≠ key) :
    getJSON (putEntry r key data exp) true now key' t = getJSON r true now key' t := by
  simp [getJSON, putEntry, hk]

theorem getJSON_del_ne {r : Redis} {key key' : String} {now : Int} {t : GoType} (hk : key' ≠ key) :
    getJSON (delEntry r key) true now key' t = getJSON r true now key' t := by
  simp [getJSON, delEntry, hk]

theorem getJSON_del {r : Redis} {key : String} {now : Int} {t : GoType} :
    getJSON (delEntry r key) true now key t = .ok none := by
  simp [getJSON, delEntry]

theorem getJSON_put {r : Redis} {key : String} {data : JsonValue} {exp now : Int} {t : GoType}
    {v : GoValue} (hv : unmarshal t data = .ok v) :
    getJSON (putEntry r key data exp) true now key t =
      .ok (if now < exp then some v else none) := by
  by_cases hl : now < exp <;> simp [getJSON, putEntry, hl, hv]

/-! ### Round trips -/

theorem unmarshal_product {p : Product} (hp : p.Fits) :
    unmarshal productType p.toGo.marshal = .ok p.toGo := by
  have hstrs : ∀ v ∈ p.imageUrls.map GoValue.str, unmarshal (.string "string") v.marshal = .ok v :=
    fun v hv => by obtain ⟨s, -, rfl⟩ := List.mem_map.mp hv; rfl
  refine unmarshal_struct_marshal (by decide) ?_
  refine .cons ⟨rfl, rfl⟩ (.cons ⟨rfl, rfl⟩ (.cons ⟨rfl, rfl⟩ (.cons ⟨rfl, rfl⟩ (.cons ⟨rfl, rfl⟩
    (.cons ⟨rfl, unmarshal_int_marshal hp.1⟩ (.cons ⟨rfl, unmarshal_int_marshal hp.2⟩ (.cons ⟨rfl, rfl⟩
    (.cons ⟨rfl, unmarshal_slice_marshal hstrs⟩ (.cons ⟨rfl, rfl⟩ (.cons ⟨rfl, rfl⟩ .nil))))))))))

theorem unmarshal_cachedList {ps : List Product} {next : String} (hps : ∀ p ∈ ps, p.Fits) :
    unmarshal cachedListType (cachedList ps next).marshal = .ok (cachedList ps next) := by
  have hprod : ∀ v ∈ ps.map Product.toGo, unmarshal productType v.marshal = .ok v := fun v hv => by
    obtain ⟨p, hp, rfl⟩ := List.mem_map.mp hv
    exact unmarshal_product (hps p hp)
  exact unmarshal_struct_marshal (by decide)
    (.cons ⟨rfl, unmarshal_slice_marshal hprod⟩ (.cons ⟨rfl, rfl⟩ .nil))

/-! ### One key space -/

/-- A product key is never a list key: the eighth character is `:` in one and `s` in the
other. -/
theorem productKey_ne_listKey (id : String) (q : ListQuery) :
    productCachePrefix ++ id ≠ generateListCacheKey q := fun h => by
  have h7 := congrArg (fun s : String => s.data[7]?) h
  simp only [productCachePrefix, generateListCacheKey, listCachePrefix, String.data_append] at h7
  rw [List.getElem?_append_left (by decide), List.getElem?_append_left (by decide)] at h7
  exact absurd h7 (by decide)

/-! ### The typed stores -/

/-- Dropping the entries of key `k` does not change the first live entry of another key. -/
theorem find?_filter_key_ne {α : Type} (key : α → String) (live : α → Prop) [DecidablePred live]
    {k k' : String} (hk : k' ≠ k) (l : List α) :
    (l.filter fun e => key e ≠ k).find? (fun e => key e = k' ∧ live e) =
      l.find? fun e => key e = k' ∧ live e := by
  induction l with
  | nil => rfl
  | cons e l ih =>
    by_cases he : key e = k
    · have : ¬(key e = k' ∧ live e) := fun h => hk (h.1.symm.trans he)
      rw [List.filter_cons_of_neg (by simpa using he),
        List.find?_cons_of_neg _ (by simpa using this), ih]
    · rw [List.filter_cons_of_pos (by simpa using he), List.find?_cons, List.find?_cons, ih]

/-- No entry of key `k` is left to find. -/
theorem find?_filter_key_eq {α : Type} (key : α → String) (live : α → Prop) [DecidablePred live]
    (k : String) (l : List α) :
    (l.filter fun e => key e ≠ k).find? (fun e => key e = k ∧ live e) = none :=
  List.find?_eq_none.mpr fun e he h => by
    simp only [List.mem_filter, decide_eq_true_eq] at he h
    exact he.2 h.1

theorem cacheGet_cacheSet (cache : List CacheEntry) (key key' : String) (p : Product)
    (t now : Int) :
    cacheGet (cacheSet cache key p t) key' now =
      if key' = key then (if now < t + productCacheTTL then some p else none)
      else cacheGet cache key' now := by
  unfold cacheGet cacheSet
  by_cases hk : key' = key
  · subst hk
    rw [List.find?_append, find?_filter_key_eq CacheEntry.key (fun e => now < e.expiresAt)]
    by_cases hl : now < t + productCacheTTL <;> simp [hl]
  · rw [List.find?_append, find?_filter_key_ne CacheEntry.key (fun e => now < e.expiresAt) hk]
    simp [hk, Ne.symm hk]

theorem cacheGet_cacheDelete_ne (cache : List CacheEntry) {key key' : String} (hk : key' ≠ key)
    (now : Int) : cacheGet (cacheDelete cache key) key' now = cacheGet cache key' now := by
  unfold cacheGet cacheDelete
  rw [find?_filter_key_ne CacheEntry.key (fun e => now < e.expiresAt) hk]

theorem listCacheGet_listCacheSet (cache : List ListEntry) (key key' : String) (ps : List Product)
    (next : String) (t now : Int) :
    listCacheGet (listCacheSet cache key ps next t) key' now =
      if key' = key then (if now < t + listCacheTTL then some (ps, next) else none)
      else listCacheGet cache key' now := by
  unfold listCacheGet listCacheSet
  by_cases hk : key' = key
  · subst hk
    rw [List.find?_append, find?_filter_key_eq ListEntry.key (fun e => now < e.expiresAt)]
    by_cases hl : now < t + listCacheTTL <;> simp [hl]
  · rw [List.find?_append, find?_filter_key_ne ListEntry.key (fun e => now < e.expiresAt) hk]
    simp [hk, Ne.symm hk]

/-! ### Redis holds the typed stores -/

/-- Redis holds the product store `products` and the list store `lists`: every `GetJSON` of a
product key or of a list key, at any time, answers what the store answers. -/
structure Represents (r : Redis) (products : List CacheEntry) (lists : List ListEntry) : Prop where
  product : ∀ id now, getJSON r true now (productCachePrefix ++ id) productType =
    .ok ((cacheGet products (productCachePrefix ++ id) now).map Product.toGo)
  list : ∀ q now, getJSON r true now (generateListCacheKey q) cachedListType =
    .ok ((listCacheGet lists (generateListCacheKey q) now).map fun e => cachedList e.1 e.2)

theorem Represents.empty : Represents Redis.empty [] [] :=
  ⟨fun _ _ => rfl, fun _ _ => rfl⟩

/-- A write of the catalogue service to its caches. -/
inductive CacheWrite
  /-- `GetProduct`'s `SetJSON` of the product it read, at `now`. -/
  | setProduct (id : String) (p : Product) (now : Int)
  /-- The `Delete` of `UpdateProduct` and `UpdateStock`. -/
  | deleteProduct (id : String)
  /-- `ListProducts`'s `SetJSON` of the page it read, at `now`. -/
  | setList (q : ListQuery) (ps : List Product) (next : String) (now : Int)

/-- The products a write stores fit their Go fields. -/
def CacheWrite.Fits : CacheWrite → Prop
  | .setProduct _ p _ => p.Fits
  | .deleteProduct _ => True
  | .setList _ ps _ _ => ∀ p ∈ ps, p.Fits

/-- The write as Redis calls. -/
def CacheWrite.redis (r : Redis) : CacheWrite → Except String Redis
  | .setProduct id p now => setJSON r true now (productCachePrefix ++ id) p.toGo productCacheTTL
  | .deleteProduct id => deleteKey r true (productCachePrefix ++ id)
  | .setList q ps next now =>
    setJSON r true now (generateListCacheKey q) (cachedList ps next) listCacheTTL

/-- The write on the typed stores, as `Coldy.Catalog.Updates` and `Coldy.Catalog.Listing` do it. -/
def CacheWrite.typed (s : List CacheEntry × List ListEntry) : CacheWrite →
    List CacheEntry × List ListEntry
  | .setProduct id p now => (cacheSet s.1 (productCachePrefix ++ id) p now, s.2)
  | .deleteProduct id => (cacheDelete s.1 (productCachePrefix ++ id), s.2)
  | .setList q ps next now => (s.1, listCacheSet s.2 (generateListCacheKey q) ps next now)

/-- A sequence of writes as Redis calls. -/
def runRedis (r : Redis) : List CacheWrite → Except String Redis
  | [] => .ok r
  | w :: ws => (w.redis r).bind fun r' => runRedis r' ws

/-- A sequence of writes on the typed stores. -/
def runTyped (s : List CacheEntry × List ListEntry) : List CacheWrite →
    List CacheEntry × List ListEntry
  | [] => s
  | w :: ws => runTyped (w.typed s) ws

/-- Every write keeps `Represents`. -/
theorem Represents.write {r r' : Redis} {s : List CacheEntry × List ListEntry} {w : CacheWrite}
    (hr : Represents r s.1 s.2) (hw : w.Fits) (h : w.redis r = .ok r') :
    Represents r' (w.typed s).1 (w.typed s).2 := by
  cases w with
  | setProduct id p now =>
    cases h
    refine ⟨fun id' t => ?_, fun q t => ?_⟩
    · by_cases hk : productCachePrefix ++ id' = productCachePrefix ++ id
      · rw [hk, getJSON_put (unmarshal_product hw), CacheWrite.typed, cacheGet_cacheSet, if_pos rfl]
        split <;> rfl
      · rw [getJSON_put_ne hk, hr.product, CacheWrite.typed, cacheGet_cacheSet, if_neg hk]
    · rw [getJSON_put_ne (productKey_ne_listKey id q).symm, hr.list]
      rfl
  | deleteProduct id =>
    cases h
    refine ⟨fun id' t => ?_, fun q t => ?_⟩
    · by_cases hk : productCachePrefix ++ id' = productCachePrefix ++ id
      · rw [hk, getJSON_del, CacheWrite.typed, cacheGet_cacheDelete]
        rfl
      · rw [getJSON_del_ne hk, hr.product, CacheWrite.typed, cacheGet_cacheDelete_ne _ hk]
    · rw [getJSON_del_ne (productKey_ne_listKey id q).symm, hr.list]
      rfl
  | setList q ps next now =>
    cases h
    refine ⟨fun id t => ?_, fun q' t => ?_⟩
    · rw [getJSON_put_ne (productKey_ne_listKey id q), hr.product]
      rfl
    · by_cases hk : generateListCacheKey q' = generateListCacheKey q
      · rw [hk, getJSON_put (unmarshal_cachedList hw), CacheWrite.typed, listCacheGet_listCacheSet,
          if_pos rfl]
        split <;> rfl
      · rw [getJSON_put_ne hk, hr.list, CacheWrite.typed, listCacheGet_listCacheSet, if_neg hk]

theorem Represents.run {r r' : Redis} {s : List CacheEntry × List ListEntry} {ws : List CacheWrite}
    (hr : Represents r s.1 s.2) (hw : ∀ w ∈ ws, w.Fits) (h : runRedis r ws = .ok r') :
    Represents r' (runTyped s ws).1 (runTyped s ws).2 := by
  induction ws generalizing r s with
  | nil => cases h; exact hr
  | cons w ws ih =>
    simp only [runRedis] at h
    cases hw' : w.redis r with
    | error e => rw [hw'] at h; cases h
    | ok r₁ =>
      rw [hw'] at h
      exact ih (hr.write (hw w (List.mem_cons_self _ _)) hw')
        (fun w' hm => hw w' (List.mem_cons_of_mem _ hm)) h

/-- After any sequence of the catalogue service's cache writes whose products fit their Go fields,
one Redis holds both typed stores: every `GetJSON` of a product key or a list key, at any time,
answers what the product store or the list store answers. -/
theorem redis_refines_caches {ws : List CacheWrite} {r : Redis} (hw : ∀ w ∈ ws, w.Fits)
    (h : runRedis Redis.empty ws = .ok r) :
    Represents r (runTyped ([], []) ws).1 (runTyped ([], []) ws).2 :=
  Represents.empty.run hw h

/-- `widgetRow` cached, a page of it cached, then its cache entry deleted. -/
def widgetWrites : List CacheWrite :=
  [.setProduct widgetRow.id widgetRow 0, .setList ⟨20, "", "", ""⟩ [widgetRow] "" 0,
    .deleteProduct widgetRow.id]

/-- Redis after `widgetWrites`. -/
def widgetRedis : Redis :=
  delEntry (putEntry (putEntry Redis.empty (productCachePrefix ++ widgetRow.id)
      widgetRow.toGo.marshal productCacheTTL) (generateListCacheKey ⟨20, "", "", ""⟩)
      (cachedList [widgetRow] "").marshal listCacheTTL) (productCachePrefix ++ widgetRow.id)

theorem redis_refines_caches_widget :
    (∀ w ∈ widgetWrites, w.Fits) ∧ runRedis Redis.empty widgetWrites = .ok widgetRedis ∧
      Represents widgetRedis (runTyped ([], []) widgetWrites).1
        (runTyped ([], []) widgetWrites).2 :=
  have hw : ∀ w ∈ widgetWrites, w.Fits := by
    simp only [widgetWrites, List.mem_cons, List.mem_singleton, List.not_mem_nil, or_false]
    rintro w (rfl | rfl | rfl)
    · exact ⟨by decide, by decide⟩
    · intro p hp
      rw [List.mem_singleton.mp hp]
      exact ⟨by decide, by decide⟩
    · trivial
  ⟨hw, rfl, redis_refines_caches hw rfl⟩

end Coldy.Catalog
