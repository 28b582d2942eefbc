import Mathlib.Data.List.Sort
import Coldy.Catalog.Products
import Coldy.Encoding.Sql

/-!
# Listing the catalogue

`ProductRepository.List` selects the products of a category when one is given, matching a search
when one is given, and after a cursor those below the cursor's row in the `(created_at, id)` order;
it sorts them by that key, descending, and reads one row more than the page.  The search is
PostgreSQL's English text search, `to_tsvector(...) @@ plainto_tsquery(...)`, a parameter here
(`textSearch`).

`CatalogService.ListProducts` keeps pages in Redis under `generateListCacheKey`, the prefix and the
JSON of the four parameters, for `ListCacheTTL`.  `CreateProduct` and `UpdateProduct` call
`invalidateListCache`, which deletes nothing, so a stored page is served until it expires.

* The key tells the four parameters apart (`generateListCacheKey_injective`): the JSON text of a
  string or an integer ends where its value ends.
* In any interleaving of `ListProducts` calls, which read, store and serve pages, with the writes of
  `CreateProduct`, `UpdateProduct` and `UpdateStock`, whatever Redis and the database answer, the page
  a call answers is what `List` answered for the same request on a version of the products table
  from before the answer (`listProducts_answers_snapshot`).  The version can be older than the last
  write by up to the life of a cache entry, and more when the call that stored it was slow.
-/

namespace Coldy.Catalog

open Coldy.Uuid Coldy.Json

/-! ### `ProductRepository.List` -/

/-- The key of `ORDER BY created_at DESC, id DESC` and of the cursor's row comparison: the id in
PostgreSQL's output form, whose text order is `uuid_cmp`'s. -/
def Product.key (p : Product) : Int × String := (p.createdAt, readUuid p.id)

/-- `ORDER BY created_at DESC, id DESC`. -/
def productsByKeyDesc (ps : List Product) : List Product :=
  @List.insertionSort _ (fun a b => Sql.keyLt a.key b.key = false)
    (fun a b => instDecidableEqBool (Sql.keyLt a.key b.key) false) ps

section List

variable (textSearch : String → Product → Bool)

/-- Whether `List` selects `p`: of the category and matching the search when they are not empty,
and below the cursor's row when there is a cursor.  When no row has the cursor's id the subquery is
`NULL` and no row is below it. -/
def listSelects (products : List Product) (cursor category searchQuery : String) (p : Product) :
    Bool :=
  (decide (category = "") || decide (p.category = category)) &&
    (decide (searchQuery = "") || textSearch searchQuery p) &&
    (decide (cursor = "") ||
      (products.find? fun c => sameId c.id cursor).any fun c => Sql.keyLt p.key c.key)

/-- `ProductRepository.List(limit, cursor, category, searchQuery)`: the page and the next cursor,
the id of the page's last row when a row beyond it was read.  `LIMIT` refuses a negative count, and
`products[limit-1]` panics when rows were read beyond a page of no rows. -/
def list (products : List Product) (limit : Int) (cursor category searchQuery : String) :
    Except String (List Product × String) :=
  if limit + 1 < 0 then .error "failed to list products: pq: LIMIT must not be negative"
  else
    let rows := ((productsByKeyDesc (products.filter
        (listSelects textSearch products cursor category searchQuery))).take (limit + 1).toNat).map
      fun p => { p with id := readUuid p.id }
    if (rows.length : Int) ≤ limit then .ok (rows, "")
    else if limit < 1 then
      .error ("runtime error: index out of range [" ++ toString (limit - 1) ++ "]")
    else .ok (rows.take limit.toNat, (rows[limit.toNat - 1]?.map (·.id)).getD "")

end List

/-! ### The list cache -/

/-- The parameters of `ListProducts`. -/
structure ListQuery where
  limit : Int
  cursor : String
  category : String
  searchQuery : String
  deriving DecidableEq, Repr

/-- `ListCachePrefix`. -/
def listCachePrefix : String := "products:list:"

/-- `ListCacheTTL`, two minutes. -/
def listCacheTTL : Int := 120000000000

/-- `generateListCacheKey`: the prefix and `json.Marshal` of the map of the four parameters. -/
def generateListCacheKey (q : ListQuery) : String :=
  listCachePrefix ++ (GoValue.map [("limit", .int q.limit), ("cursor", .str q.cursor),
    ("cat", .str q.category), ("search", .str q.searchQuery)]).marshal.encode

/-- `json.Marshal` writes the map with its keys sorted. -/
theorem marshal_listKeyMap (q : ListQuery) :
    (GoValue.map [("limit", .int q.limit), ("cursor", .str q.cursor), ("cat", .str q.category),
      ("search", .str q.searchQuery)]).marshal =
      .object [("cat", .string q.category), ("cursor", .string q.cursor),
        ("limit", .number q.limit), ("search", .string q.searchQuery)] := rfl

/-- Distinct requests have distinct cache keys. -/
theorem generateListCacheKey_injective : Function.Injective generateListCacheKey := by
  intro q q' h
  have hc : ",".data = [','] := rfl
  have h' := congrArg String.data h
  simp only [generateListCacheKey, marshal_listKeyMap, JsonValue.encode, encodeMembers,
    String.data_append, List.append_assoc, List.append_cancel_left_eq] at h'
  obtain ⟨hcat, h'⟩ := quote_append_inj h'
  simp only [List.append_cancel_left_eq] at h'
  obtain ⟨hcur, h'⟩ := quote_append_inj h'
  simp only [hc, List.singleton_append, List.cons.injEq, List.append_cancel_left_eq, true_and] at h'
  obtain ⟨hlim, h'⟩ := toString_append_inj h'
  simp only [List.cons.injEq, List.append_cancel_left_eq, true_and] at h'
  obtain ⟨hq, -⟩ := quote_append_inj h'
  cases q; cases q'
  simp_all

/-- An entry of the list cache: its key, the page `SetJSON` stored, and when it expires. -/
structure ListEntry where
  key : String
  products : List Product
  nextCursor : String
  expiresAt : Int

/-- `GetJSON(key, &cached)` at time `now`: the page and next cursor of the live entry of `key`. -/
def listCacheGet (cache : List ListEntry) (key : String) (now : Int) :
    Option (List Product × String) :=
  (cache.find? fun e => e.key = key ∧ now < e.expiresAt).map fun e => (e.products, e.nextCursor)

/-- `SetJSON(key, cachedList{products, nextCursor}, ListCacheTTL)` at time `now`. -/
def listCacheSet (cache : List ListEntry) (key : String) (ps : List Product) (next : String)
    (now : Int) : List ListEntry :=
  cache.filter (·.key ≠ key) ++ [⟨key, ps, next, now + listCacheTTL⟩]

/-- `invalidateListCache`: it only logs. -/
def invalidateListCache (cache : List ListEntry) : List ListEntry := cache

/-! ### `ListProducts` calls -/

/-- Where a `ListProducts` call is. -/
inductive ListStep
  /-- `GetJSON` of the request's key. -/
  | cacheRead
  /-- `ProductRepository.List`, after a miss or a failed `GetJSON`. -/
  | dbRead
  /-- `SetJSON` of the page `List` returned. -/
  | cacheSet (products : List Product) (nextCursor : String)
  /-- The answer of `Server.ListProducts`: the page, the next cursor and `hasMore`. -/
  | done (r : Except String (List Product × String × Bool))

/-- A `ListProducts` call in flight. -/
structure ListCall where
  query : ListQuery
  step : ListStep

/-- One statement of a `ListProducts` call at time `now`, the Redis command or the query succeeding
iff `ok`: the list cache and the call's next step.  A failed `GetJSON` is logged and counts as a
miss; a failed `SetJSON` is logged; a failed `List` is the gRPC error. -/
def ListCall.advance (textSearch : String → Product → Bool) (products : List Product)
    (cache : List ListEntry) (now : Int) (ok : Bool) (c : ListCall) : List ListEntry × ListStep :=
  let key := generateListCacheKey c.query
  match c.step with
  | .cacheRead =>
    match if ok then listCacheGet cache key now else none with
    | some (ps, next) => (cache, .done (.ok (ps, next, decide (next ≠ ""))))
    | none => (cache, .dbRead)
  | .dbRead =>
    if ok then
      match list textSearch products c.query.limit c.query.cursor c.query.category
          c.query.searchQuery with
      | .ok (ps, next) => (cache, .cacheSet ps next)
      | .error _ => (cache, .done (.error "failed to list products"))
    else (cache, .done (.error "failed to list products"))
  | .cacheSet ps next =>
    (if ok then listCacheSet cache key ps next now else cache,
      .done (.ok (ps, next, decide (next ≠ ""))))
  | .done r => (cache, .done r)

/-! ### `CreateProduct` -/

/-- The fields of `catalogv1.CreateProductRequest` that `Server.CreateProduct` reads; `price` is
`nil` when absent. -/
structure CreateProductRequest where
  name : String
  description : String
  sku : String
  price : Option (String × Int)
  stockQuantity : Int
  category : String
  imageUrls : List String

/-- `Server.CreateProduct` with `CatalogService.CreateProduct` and `ProductRepository.Create` at time
`now`: the product gets the id `id` of `uuid.New()` and `created_at = updated_at = now`, and the
`INSERT` succeeds iff `ok`.  The new table and the answer. -/
def createProduct (products : List Product) (req : CreateProductRequest) (id : String) (now : Int)
    (ok : Bool) : List Product × Except String Product :=
  if req.name = "" ∨ req.sku = "" then (products, .error "name and sku are required")
  else
    match req.price with
    | none => (products, .error "runtime error: invalid memory address or nil pointer dereference")
    | some (currency, amount) =>
      let p : Product := ⟨id, req.name, req.description, req.sku, currency, amount,
        req.stockQuantity, req.category, req.imageUrls, now, now⟩
      if ok then (products ++ [p], .ok p) else (products, .error "failed to create product")

/-! ### The catalogue with its list cache -/

/-- The products table, the list cache, the clock, the counter behind `uuid.New()`, the
`ListProducts` calls in flight, and every version of the table so far, oldest first. -/
structure ListWorld where
  products : List Product
  listCache : List ListEntry
  now : Int
  nextId : Nat
  calls : List ListCall
  versions : List (List Product)

/-- An empty catalogue. -/
def ListWorld.init : ListWorld := ⟨[], [], 0, 0, [], [[]]⟩

/-- The events: a `ListProducts` call starts or runs its next statement; `CreateProduct`,
`UpdateProduct` or `UpdateStock` writes the table; the clock moves on. -/
inductive ListEvent
  | listProducts (pageSize : Int) (cursor category searchQuery : String)
  | next (call : Nat) (ok : Bool)
  | createProduct (req : CreateProductRequest) (ok : Bool)
  | updateProduct (product : Product)
  | updateStock (productId : String) (delta : Int)
  | tick (now : Int)

namespace ListWorld

/-- A new version of the products table. -/
def write (w : ListWorld) (products : List Product) : ListWorld :=
  { w with products := products, versions := w.versions ++ [products] }

section Steps

variable (textSearch : String → Product → Bool)

/-- One step. -/
def step (w : ListWorld) : ListEvent → Option ListWorld
  | .listProducts size cursor category q =>
    some { w with calls := w.calls ++ [⟨⟨Sql.pageSize size, cursor, category, q⟩, .cacheRead⟩] }
  | .next c ok =>
    match w.calls[c]? with
    | some call =>
      let (cache, s) := call.advance textSearch w.products w.listCache w.now ok
      some { w with listCache := cache, calls := w.calls.set c { call with step := s } }
    | none => none
  | .createProduct req ok =>
    some { w.write (createProduct w.products req (Sql.freshId w.nextId) w.now ok).1 with
      nextId := w.nextId + 1
      listCache := invalidateListCache w.listCache }
  | .updateProduct p =>
    match update w.products p w.now with
    | .ok (products, _) => some { w.write products with listCache := invalidateListCache w.listCache }
    | .error _ => some w
  | .updateStock id delta =>
    match updateStock w.products id delta w.now with
    | .ok (products, _) => some (w.write products)
    | .error _ => some w
  | .tick now => if w.now ≤ now then some { w with now := now } else none

/-- Run a list of events. -/
def run (w : ListWorld) : List ListEvent → Option ListWorld
  | [] => some w
  | e :: es => (w.step textSearch e).bind fun w' => w'.run es

end Steps

end ListWorld

/-! ### Every answer is a page of some version -/

section Snapshots

variable (textSearch : String → Product → Bool)

/-- `List` answered the page `ps` with the cursor `next` to `q` on one of `versions`. -/
def Served (versions : List (List Product)) (q : ListQuery) (ps : List Product) (next : String) :
    Prop :=
  ∃ v ∈ versions, list textSearch v q.limit q.cursor q.category q.searchQuery = .ok (ps, next)

/-- What a call holds: the page it is about to store, or the page it answered, is one `List` gave
it on one of `versions`. -/
def CallServed (versions : List (List Product)) (c : ListCall) : Prop :=
  match c.step with
  | .cacheSet ps next => Served textSearch versions c.query ps next
  | .done (.ok (ps, next, more)) =>
    Served textSearch versions c.query ps next ∧ more = decide (next ≠ "")
  | _ => True

/-- The invariant: the table is one of its versions, and every entry of the list cache and every
call holds a page `List` gave on one of them for the request of its key, or of the call. -/
structure ListInv (w : ListWorld) : Prop where
  current : w.products ∈ w.versions
  entries : ∀ e ∈ w.listCache,
    ∃ q, e.key = generateListCacheKey q ∧ Served textSearch w.versions q e.products e.nextCursor
  calls : ∀ c ∈ w.calls, CallServed textSearch w.versions c

variable {textSearch}

theorem Served.mono {vs vs' : List (List Product)} {q : ListQuery} {ps : List Product}
    {next : String} (h : Served textSearch vs q ps next) (hv : vs ⊆ vs') :
    Served textSearch vs' q ps next :=
  let ⟨v, hv', hl⟩ := h
  ⟨v, hv hv', hl⟩

theorem CallServed.mono {vs vs' : List (List Product)} {c : ListCall}
    (h : CallServed textSearch vs c) (hv : vs ⊆ vs') : CallServed textSearch vs' c := by
  unfold CallServed at *
  split at h
  · exact h.mono hv
  · exact ⟨h.1.mono hv, h.2⟩
  · trivial

theorem ListInv.write {w : ListWorld} (hw : ListInv textSearch w) (products : List Product) :
    ListInv textSearch (w.write products) :=
  have hv : w.versions ⊆ w.versions ++ [products] := List.subset_append_left _ _
  ⟨by simp [ListWorld.write], fun e he => (hw.entries e he).imp fun _ h => ⟨h.1, h.2.mono hv⟩,
    fun c hc => (hw.calls c hc).mono hv⟩

/-- A hit serves a page stored for the same request: keys tell requests apart. -/
theorem served_of_listCacheGet {w : ListWorld} (hw : ListInv textSearch w) {q : ListQuery}
    {ps : List Product} {next : String}
    (h : listCacheGet w.listCache (generateListCacheKey q) w.now = some (ps, next)) :
    Served textSearch w.versions q ps next := by
  obtain ⟨e, he, hpair⟩ := Option.map_eq_some'.mp h
  obtain ⟨rfl, rfl⟩ := Prod.mk.inj hpair
  have hmem := List.mem_of_find?_eq_some he
  have hkey := List.find?_some he
  simp only [decide_eq_true_eq] at hkey
  obtain ⟨q', hq', hs⟩ := hw.entries e hmem
  rwa [← generateListCacheKey_injective (hq'.symm.trans hkey.1)]

/-- One statement of a call keeps what the call holds and what the list cache holds. -/
theorem advance_served {w : ListWorld} (hw : ListInv textSearch w) {c : ListCall}
    (hc : c ∈ w.calls) (ok : Bool) :
    CallServed textSearch w.versions
        { c with step := (c.advance textSearch w.products w.listCache w.now ok).2 } ∧
      ∀ e ∈ (c.advance textSearch w.products w.listCache w.now ok).1,
        ∃ q, e.key = generateListCacheKey q ∧ Served textSearch w.versions q e.products e.nextCursor := by
  have hcall := hw.calls c hc
  unfold CallServed at hcall
  rcases hs : c.step with _ | _ | ⟨ps, next⟩ | r
  · simp only [ListCall.advance, hs]
    split
    · rename_i ps next hget
      have hget' : listCacheGet w.listCache (generateListCacheKey c.query) w.now = some (ps, next) := by
        split at hget
        · exact hget
        · cases hget
      exact ⟨⟨served_of_listCacheGet hw hget', rfl⟩, hw.entries⟩
    · exact ⟨trivial, hw.entries⟩
  · simp only [ListCall.advance, hs]
    split
    · split
      · rename_i ps next hl
        exact ⟨⟨w.products, hw.current, hl⟩, hw.entries⟩
      · exact ⟨trivial, hw.entries⟩
    · exact ⟨trivial, hw.entries⟩
  · rw [hs] at hcall
    simp only [ListCall.advance, hs]
    refine ⟨⟨hcall, rfl⟩, fun e he => ?_⟩
    split at he
    · rcases List.mem_append.mp he with he | he
      · exact hw.entries e (List.mem_of_mem_filter he)
      · rw [List.mem_singleton.mp he]
        exact ⟨c.query, rfl, hcall⟩
    · exact hw.entries e he
  · rw [hs] at hcall
    simp only [ListCall.advance, hs]
    exact ⟨hcall, hw.entries⟩

theorem listInv_init : ListInv textSearch ListWorld.init :=
  ⟨by simp [ListWorld.init], by simp [ListWorld.init], by simp [ListWorld.init]⟩

/-- Every step keeps the invariant. -/
theorem listInv_step {w w' : ListWorld} {e : ListEvent} (hw : ListInv textSearch w)
    (h : w.step textSearch e = some w') : ListInv textSearch w' := by
  cases e with
  | listProducts size cursor category q =>
    cases h
    refine ⟨hw.current, hw.entries, fun c hc => ?_⟩
    rcases List.mem_append.mp hc with hc | hc
    · exact hw.calls c hc
    · rw [List.mem_singleton.mp hc]; trivial
  | next i ok =>
    simp only [ListWorld.step] at h
    split at h
    · rename_i call hcall
      cases h
      have hmem := List.getElem?_mem hcall
      obtain ⟨hc, he⟩ := advance_served hw hmem ok
      refine ⟨hw.current, he, fun c' hc' => ?_⟩
      rcases List.mem_or_eq_of_mem_set hc' with hc' | rfl
      · exact hw.calls c' hc'
      · exact hc
    · cases h
  | createProduct req ok =>
    cases h
    have hw' := hw.write (createProduct w.products req (Sql.freshId w.nextId) w.now ok).1
    exact ⟨hw'.current, hw'.entries, hw'.calls⟩
  | updateProduct p =>
    simp only [ListWorld.step] at h
    split at h <;> cases h
    · exact hw.write _
    · exact hw
  | updateStock id delta =>
    simp only [ListWorld.step] at h
    split at h <;> cases h
    · exact hw.write _
    · exact hw
  | tick now =>
    simp only [ListWorld.step] at h
    split_ifs at h
    cases h
    exact ⟨hw.current, hw.entries, hw.calls⟩

theorem listInv_run (es : List ListEvent) :
    ∀ {w w' : ListWorld}, ListInv textSearch w → w.run textSearch es = some w' →
      ListInv textSearch w' := by
  induction es with
  | nil => intro w w' hw h; cases h; exact hw
  | cons e es ih =>
    intro w w' hw h
    obtain ⟨w₁, h₁, h₂⟩ := Option.bind_eq_some.mp h
    exact ih (listInv_step hw h₁) h₂

/-- In every run, a `ListProducts` call that answers a page answers what `List` answered for its
request on a version of the products table from before the answer, whether the page comes from the
cache or from the database, and `hasMore` says whether there is a next cursor. -/
theorem listProducts_answers_snapshot {es : List ListEvent} {w : ListWorld}
    (h : ListWorld.init.run textSearch es = some w) {c : ListCall} (hc : c ∈ w.calls) (ok : Bool)
    {ps : List Product} {next : String} {more : Bool}
    (hd : (c.advance textSearch w.products w.listCache w.now ok).2 = .done (.ok (ps, next, more))) :
    (∃ v ∈ w.versions,
      list textSearch v c.query.limit c.query.cursor c.query.category c.query.searchQuery =
        .ok (ps, next)) ∧ more = decide (next ≠ "") := by
  have := (advance_served (listInv_run es listInv_init h) hc ok).1
  simpa [CallServed, hd] using this

/-- Search by exact name. -/
def nameSearch (q : String) (p : Product) : Bool := decide (p.name = q)

/-- A widget to create. -/
def widgetRequest : CreateProductRequest :=
  ⟨"Widget", "A widget", "W-1", some ("USD", 500), 5, "tools", []⟩

/-- A gadget to create. -/
def gadgetRequest : CreateProductRequest :=
  ⟨"Gadget", "A gadget", "G-1", some ("USD", 700), 3, "tools", []⟩

/-- The widget as `List` reads it. -/
def widgetRow : Product := ⟨"0", "Widget", "A widget", "W-1", "USD", 500, 5, "tools", [], 0, 0⟩

/-- A `ListProducts` call reads the first page while it holds the widget only; the gadget is
created before the call stores and answers it. -/
def raceEvents : List ListEvent :=
  [.createProduct widgetRequest true, .listProducts 20 "" "" "", .next 0 true, .next 0 true,
    .createProduct gadgetRequest true]

/-- Where they end. -/
def raceWorld : ListWorld := (ListWorld.init.run nameSearch raceEvents).getD ListWorld.init

/-- The call, about to store its page. -/
def raceCall : ListCall := ⟨⟨20, "", "", ""⟩, .cacheSet [widgetRow] ""⟩

theorem listProducts_answers_snapshot_race :
    ListWorld.init.run nameSearch raceEvents = some raceWorld ∧ raceCall ∈ raceWorld.calls ∧
      (raceCall.advance nameSearch raceWorld.products raceWorld.listCache raceWorld.now true).2 =
        .done (.ok ([widgetRow], "", false)) ∧
      ((∃ v ∈ raceWorld.versions, list nameSearch v 20 "" "" "" = .ok ([widgetRow], "")) ∧
        false = decide ("" ≠ "")) :=
  have hc : raceCall ∈ raceWorld.calls := @List.getElem?_mem _ raceWorld.calls 0 raceCall rfl
  ⟨rfl, hc, rfl,
    @listProducts_answers_snapshot nameSearch raceEvents raceWorld rfl raceCall hc true [widgetRow] ""
      false rfl⟩

end Snapshots

end Coldy.Catalog
