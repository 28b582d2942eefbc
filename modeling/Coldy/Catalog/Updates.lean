import Coldy.Catalog.Products

/-!
# Concurrent calls on one product

The gRPC `UpdateProduct` reads the product through `CatalogService.GetProduct` (the cache, or on a
miss the database and then the cache), sets on it the fields its request gives, and writes it
back with `ProductRepository.Update`, which sets name, description, price and category from what
it was handed; then it deletes the cache entry.  `GetProduct` and `UpdateStock` calls run beside
it.  Each call moves one statement at a time (`Call.advance`), in any interleaving of the calls
in flight (`World.step`).

What an `UpdateProduct` writes for a field its request leaves alone is the value of the snapshot
it read, which can be older than the row: another `UpdateProduct` may have written since, or a
`GetProduct` that read before that write may have put its snapshot back into the cache after the
write's delete.  A change an `UpdateProduct` committed is then undone by a later one that did not
ask for it (`updateProduct_reverts_field`).  The columns `Update` does not write are safe: only
`UpdateStock` changes a stock, by its delta (`World.step_stock`), and no call changes an id, SKU,
images or creation time (`World.run_keeps_identity`).
-/

namespace Coldy.Catalog

/-- `catalogv1.UpdateProductRequest`: an empty text or an absent price leaves the field alone. -/
structure UpdateProductRequest where
  productId : String
  name : String
  description : String
  price : Option (String × Int)
  category : String
  deriving DecidableEq, Repr

/-- What `Server.UpdateProduct` sets on the product it read. -/
def UpdateProductRequest.merge (req : UpdateProductRequest) (p : Product) : Product :=
  let p := if req.name ≠ "" then { p with name := req.name } else p
  let p := if req.description ≠ "" then { p with description := req.description } else p
  let p := match req.price with
    | some (currency, amount) => { p with priceCurrency := currency, priceAmount := amount }
    | none => p
  if req.category ≠ "" then { p with category := req.category } else p

/-- The gRPC calls on a product. -/
inductive CallKind
  | getProduct
  | updateProduct (req : UpdateProductRequest)
  | updateStock (delta : Int)
  deriving DecidableEq, Repr

/-- What a call answers: a product, or a stock. -/
inductive Answer
  | product (p : Product)
  | stock (q : Int)
  deriving DecidableEq, Repr

/-- The next statement of a call. -/
inductive CallStep
  /-- `GetProduct`'s `GetJSON`. -/
  | cacheRead
  /-- `GetProduct`'s `GetByID`, after a miss. -/
  | dbRead
  /-- `GetProduct`'s `SetJSON` of the product it read. -/
  | cacheSet (p : Product)
  /-- `UpdateProduct`'s `Update` of the product it built. -/
  | write (p : Product)
  /-- `UpdateStock`'s `UpdateStock`. -/
  | stockWrite
  /-- The `Delete` after a write, then the answer. -/
  | cacheDelete (a : Answer)
  /-- The call has answered, or failed with the text of its gRPC status. -/
  | done (r : Except String Answer)
  deriving Repr

/-- A call in flight. -/
structure Call where
  productId : String
  kind : CallKind
  step : CallStep
  deriving Repr

/-- Where a call goes once `GetProduct` has the product `p`. -/
def CallKind.afterRead (p : Product) : CallKind → CallStep
  | .getProduct => .done (.ok (.product p))
  | .updateProduct req => .write (req.merge p)
  | .updateStock _ => .done (.error "failed to update stock")

/-- The first statement of a call. -/
def CallKind.first (productId : String) : CallKind → CallStep
  | .updateStock _ =>
    if productId = "" then .done (.error "product_id is required") else .stockWrite
  | _ => if productId = "" then .done (.error "product_id is required") else .cacheRead

/-- One statement of call `c` at time `now`: the products, the cache, and the call's next step. -/
def Call.advance (products : List Product) (cache : List CacheEntry) (now : Int) (c : Call) :
    List Product × List CacheEntry × CallStep :=
  let key := productCachePrefix ++ c.productId
  match c.step with
  | .cacheRead =>
    match cacheGet cache key now with
    | some p => (products, cache, c.kind.afterRead p)
    | none => (products, cache, .dbRead)
  | .dbRead =>
    match getByID products c.productId with
    | some p => (products, cache, .cacheSet p)
    | none => (products, cache, .done (.error "product not found"))
  | .cacheSet p => (products, cacheSet cache key p now, c.kind.afterRead p)
  | .write p =>
    match update products p now with
    | .ok (products', t) => (products', cache, .cacheDelete (.product { p with updatedAt := t }))
    | .error _ => (products, cache, .done (.error "failed to update product"))
  | .stockWrite =>
    match c.kind with
    | .updateStock delta =>
      match updateStock products c.productId delta now with
      | .ok (products', q) => (products', cache, .cacheDelete (.stock q))
      | .error _ => (products, cache, .done (.error "failed to update stock"))
    | _ => (products, cache, c.step)
  | .cacheDelete a => (products, cacheDelete cache key, .done (.ok a))
  | .done r => (products, cache, .done r)

/-- The products table, the product cache, the clock and the calls in flight. -/
structure World where
  products : List Product
  cache : List CacheEntry
  now : Int
  calls : List Call

/-- The events: a call starts, a call runs its next statement, or the clock moves on. -/
inductive Event
  | getProduct (productId : String)
  | updateProduct (req : UpdateProductRequest)
  | updateStock (productId : String) (delta : Int)
  | next (call : Nat)
  | tick (now : Int)

namespace World

/-- Start a call. -/
def start (w : World) (productId : String) (kind : CallKind) : World :=
  { w with calls := w.calls ++ [⟨productId, kind, kind.first productId⟩] }

/-- One step. -/
def step (w : World) : Event → Option World
  | .getProduct id => some (w.start id .getProduct)
  | .updateProduct req => some (w.start req.productId (.updateProduct req))
  | .updateStock id delta => some (w.start id (.updateStock delta))
  | .next c =>
    match w.calls[c]? with
    | some call =>
      let (products, cache, s) := call.advance w.products w.cache w.now
      some ⟨products, cache, w.now, w.calls.set c { call with step := s }⟩
    | none => none
  | .tick now => if w.now ≤ now then some { w with now := now } else none

/-- Run a list of events. -/
def run (w : World) : List Event → Option World
  | [] => some w
  | e :: es => (w.step e).bind fun w' => w'.run es

end World

/-! ### What a statement writes -/

/-- A statement leaves the products alone, or it is an `UpdateProduct`'s `Update` or an
`UpdateStock`'s `UpdateStock`, which committed. -/
theorem Call.advance_products (products : List Product) (cache : List CacheEntry) (now : Int)
    (c : Call) :
    (c.advance products cache now).1 = products ∨
      (∃ p t, c.step = .write p ∧ update products p now = .ok ((c.advance products cache now).1, t)) ∨
      ∃ delta q, c.step = .stockWrite ∧ c.kind = .updateStock delta ∧
        updateStock products c.productId delta now = .ok ((c.advance products cache now).1, q) := by
  unfold Call.advance
  dsimp only
  split <;> (try split) <;> (try split) <;>
    first
    | exact .inl rfl
    | exact .inr (.inl ⟨_, _, ‹_›, ‹_›⟩)
    | exact .inr (.inr ⟨_, _, ‹_›, ‹_›, ‹_›⟩)

/-- A step leaves the products alone, or it is a call's committed `Update` or `UpdateStock`. -/
theorem World.step_products {w w' : World} {e : Event} (h : w.step e = some w') :
    w'.products = w.products ∨ ∃ c call, w.calls[c]? = some call ∧ e = .next c ∧
      ((∃ p t, call.step = .write p ∧ update w.products p w.now = .ok (w'.products, t)) ∨
        ∃ delta q, call.step = .stockWrite ∧ call.kind = .updateStock delta ∧
          updateStock w.products call.productId delta w.now = .ok (w'.products, q)) := by
  cases e with
  | next c =>
    simp only [World.step] at h
    split at h
    · rename_i call hc
      cases h
      exact (Call.advance_products w.products w.cache w.now call).imp_right
        fun h => ⟨c, call, hc, rfl, h⟩
    · cases h
  | tick now =>
    simp only [World.step] at h
    split at h <;> cases h
    exact .inl rfl
  | _ => cases h; exact .inl rfl

/-- No step changes an id, a SKU, the images or a creation time. -/
theorem World.step_keeps_identity {w w' : World} {e : Event} (h : w.step e = some w') :
    w'.products.map Product.identity = w.products.map Product.identity := by
  rcases World.step_products h with h | ⟨c, call, -, -, ⟨p, t, -, hu⟩ | ⟨delta, q, -, -, hu⟩⟩
  · rw [h]
  · have := congrArg (List.map Prod.fst) (update_stockQuantity hu)
    simpa [List.map_map, Function.comp_def] using this
  · exact updateStock_identity hu

theorem World.run_keeps_identity {w w' : World} {es : List Event} (h : w.run es = some w') :
    w'.products.map Product.identity = w.products.map Product.identity := by
  induction es generalizing w with
  | nil => cases h; rfl
  | cons e es ih =>
    obtain ⟨w₁, h₁, h⟩ := Option.bind_eq_some.mp h
    rw [ih h, World.step_keeps_identity h₁]

/-- Only an `UpdateStock` changes a stock: the stock of the row of its product, by its delta. -/
theorem World.step_stock {w w' : World} {e : Event} (h : w.step e = some w') :
    w'.products.map (·.stockQuantity) = w.products.map (·.stockQuantity) ∨
      ∃ c call delta, w.calls[c]? = some call ∧ e = .next c ∧ call.kind = .updateStock delta ∧
        w'.products = w.products.map fun r => if sameId r.id call.productId then
          { r with stockQuantity := r.stockQuantity + delta, updatedAt := w.now } else r := by
  rcases World.step_products h with h | ⟨c, call, hc, he, ⟨p, t, -, hu⟩ | ⟨delta, q, -, hk, hu⟩⟩
  · exact .inl (by rw [h])
  · have := congrArg (List.map Prod.snd) (update_stockQuantity hu)
    exact .inl (by simpa [List.map_map, Function.comp_def] using this)
  · exact .inr ⟨c, call, delta, hc, he, hk, updateStock_fields hu⟩

/-! ### A lost update -/

/-- A product with five in stock. -/
def widget : Product :=
  ⟨"6f1c2e9a-0b7d-4c55-9a3e-2d8f4b1c7e01", "Widget", "A widget", "W-1", "USD", 500, 5, "tools", [],
    0, 0⟩

/-- Renaming `widget`. -/
def renameWidget : UpdateProductRequest := ⟨widget.id, "Gizmo", "", none, ""⟩

/-- Moving `widget` to another category. -/
def recategorizeWidget : UpdateProductRequest := ⟨widget.id, "", "", none, "toys"⟩

/-- The names and categories of the products. -/
def namesAndCategories (w : World) : List (String × String) :=
  w.products.map fun p => (p.name, p.category)

/-- Two `UpdateProduct` calls on `widget`: the second reads the product from the cache before
the first writes, and writes after it.  Then, calls one after the other: a `GetProduct` reads
`widget` from the database; the rename runs whole; the `GetProduct` puts its snapshot in the
cache; the change of category runs whole, reading that snapshot.  Each time the rename, committed
first, is undone by the change of category, which did not ask for it. -/
theorem updateProduct_reverts_field :
    (World.run ⟨[widget], [], 0, []⟩ [.updateProduct renameWidget, .updateProduct recategorizeWidget,
        .next 0, .next 0, .next 0, .next 1, .next 0, .next 0, .next 1, .next 1]).map
      namesAndCategories = some [("Widget", "toys")] ∧
    (World.run ⟨[widget], [], 0, []⟩ [.getProduct widget.id, .next 0, .next 0,
        .updateProduct renameWidget, .next 1, .next 1, .next 1, .next 1, .next 1]).map
      namesAndCategories = some [("Gizmo", "tools")] ∧
    (World.run ⟨[widget], [], 0, []⟩ [.getProduct widget.id, .next 0, .next 0,
        .updateProduct renameWidget, .next 1, .next 1, .next 1, .next 1, .next 1, .next 0,
        .updateProduct recategorizeWidget, .next 2, .next 2, .next 2]).map
      namesAndCategories = some [("Widget", "toys")] := by
  decide

/-- The events of the first run of `updateProduct_reverts_field`. -/
def lostUpdateEvents : List Event :=
  [.updateProduct renameWidget, .updateProduct recategorizeWidget, .next 0, .next 0, .next 0, .next 1,
    .next 0, .next 0, .next 1, .next 1]

/-- Where they end. -/
def lostUpdateWorld : World := (World.run ⟨[widget], [], 0, []⟩ lostUpdateEvents).getD ⟨[], [], 0, []⟩

theorem run_keeps_identity_lostUpdate :
    World.run ⟨[widget], [], 0, []⟩ lostUpdateEvents = some lostUpdateWorld ∧
      lostUpdateWorld.products.map Product.identity = [widget].map Product.identity :=
  ⟨rfl, @World.run_keeps_identity ⟨[widget], [], 0, []⟩ lostUpdateWorld lostUpdateEvents rfl⟩

/-- An `UpdateStock(widget, -2)` about to run its `UpdateStock`. -/
def stockCall : World := ⟨[widget], [], 0, [⟨widget.id, .updateStock (-2), .stockWrite⟩]⟩

/-- Once it has. -/
def stockWritten : World := (stockCall.step (.next 0)).getD stockCall

theorem step_stock_stockCall :
    stockCall.step (.next 0) = some stockWritten ∧
      (stockWritten.products.map (·.stockQuantity) = stockCall.products.map (·.stockQuantity) ∨
        ∃ c call delta, stockCall.calls[c]? = some call ∧ Event.next 0 = .next c ∧
          call.kind = .updateStock delta ∧
          stockWritten.products = stockCall.products.map fun r => if sameId r.id call.productId then
            { r with stockQuantity := r.stockQuantity + delta, updatedAt := stockCall.now } else r) :=
  ⟨rfl, World.step_stock rfl⟩

end Coldy.Catalog
