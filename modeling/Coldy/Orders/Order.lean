import Coldy.Idempotency.Intake
import Coldy.Encoding.Sql
import Coldy.Encoding.Uuid

/-!
# Orders and their tables

`repository.Order` and `OrderItem` with their JSON, the requests of `OrderService.CreateOrder`,
and the three tables of the orders migration.  `OrderService.CreateOrder` builds the order and
the payload of its `order.created` event from the request (`newOrder`, `createdPayload`) before
`OrderRepository.CreateWithOutbox` writes them in one transaction; `OrderRepository.UpdateStatus`
writes a status and an outbox row in one transaction.  A transaction commits all its writes or
none: whether its statements succeed is the environment's `ok`, besides what PostgreSQL itself
refuses.  It binds each parameter first, in order: a text with a NUL is refused, a `uuid`
parameter must read as a UUID and a status as a label of `order_status`; it then assigns each
`varchar(n)` column, in table order, refusing a text of more than `n` characters unless only
spaces are cut off (`insertOrder`, `insertItem`).  What it commits is of that form
(`createWithOutbox_ok`): the user and product ids it stores read as UUIDs.

Ids from `uuid.New()` are `freshId` of a counter, distinct for distinct counters
(`freshId_injective`).  Go's `StatusCancelled` is `"canceled"`, which is
not a label of `order_status` (`'cancelled'`).
-/

namespace Coldy.Orders

open Coldy.Json Coldy.Idempotency Coldy.Sql

/-! ### Statuses -/

/-- `StatusPending`. -/
def statusPending : String := "pending"
/-- `StatusConfirmed`. -/
def statusConfirmed : String := "confirmed"
/-- `StatusPaid`. -/
def statusPaid : String := "paid"
/-- `StatusProcessing`. -/
def statusProcessing : String := "processing"
/-- `StatusShipped`. -/
def statusShipped : String := "shipped"
/-- `StatusDelivered`. -/
def statusDelivered : String := "delivered"
/-- `StatusCancelled`. -/
def statusCancelled : String := "canceled"
/-- `StatusRefunded`. -/
def statusRefunded : String := "refunded"

/-- `order_status`. -/
inductive OrderStatusEnum
  | pending
  | confirmed
  | paid
  | processing
  | shipped
  | delivered
  | cancelled
  | refunded
  deriving DecidableEq, Repr

namespace OrderStatusEnum

/-- The labels, in the order of `CREATE TYPE`. -/
def all : List OrderStatusEnum :=
  [pending, confirmed, paid, processing, shipped, delivered, cancelled, refunded]

/-- The label. -/
def label : OrderStatusEnum → String
  | pending => "pending"
  | confirmed => "confirmed"
  | paid => "paid"
  | processing => "processing"
  | shipped => "shipped"
  | delivered => "delivered"
  | cancelled => "cancelled"
  | refunded => "refunded"

/-- PostgreSQL's input of an `order_status` value. -/
def parse (s : String) : Except String OrderStatusEnum :=
  match all.find? (·.label = s) with
  | some e => .ok e
  | none => .error ("pq: invalid input value for enum order_status: \"" ++ s ++ "\"")

@[simp] theorem parse_label (e : OrderStatusEnum) : parse e.label = .ok e := by
  cases e <;> rfl

end OrderStatusEnum

/-! ### Orders as Go values -/

/-- `repository.OrderItem`; `createdAt` in nanoseconds. -/
structure OrderItem where
  id : String
  orderId : String
  productId : String
  productName : String
  quantity : Int
  unitPriceCurrency : String
  unitPriceAmount : Int
  totalPriceCurrency : String
  totalPriceAmount : Int
  createdAt : Int
  deriving DecidableEq, Repr

/-- `repository.Order`; `paymentId` is `""` when the column is `NULL`. -/
structure Order where
  id : String
  userId : String
  totalCurrency : String
  totalAmount : Int
  status : String
  paymentId : String
  shippingStreet : String
  shippingCity : String
  shippingState : String
  shippingPostalCode : String
  shippingCountry : String
  items : List OrderItem
  createdAt : Int
  updatedAt : Int
  deriving DecidableEq, Repr

/-- The zero `time.Time`, 0001-01-01 UTC. -/
def zeroTime : Int := -62135596800000000000

/-- An `OrderItem` as `encoding/json` sees it. -/
def OrderItem.toGo (i : OrderItem) : GoValue :=
  .struct [("ID", .str i.id), ("OrderID", .str i.orderId), ("ProductID", .str i.productId),
    ("ProductName", .str i.productName), ("Quantity", .int i.quantity),
    ("UnitPriceCurrency", .str i.unitPriceCurrency), ("UnitPriceAmount", .int i.unitPriceAmount),
    ("TotalPriceCurrency", .str i.totalPriceCurrency), ("TotalPriceAmount", .int i.totalPriceAmount),
    ("CreatedAt", .time (rfc3339 i.createdAt))]

/-- An `Order` as `encoding/json` sees it: `Items` is a nil slice when there are none. -/
def Order.toGo (o : Order) : GoValue :=
  .struct [("ID", .str o.id), ("UserID", .str o.userId), ("TotalCurrency", .str o.totalCurrency),
    ("TotalAmount", .int o.totalAmount), ("Status", .str o.status), ("PaymentID", .str o.paymentId),
    ("ShippingStreet", .str o.shippingStreet), ("ShippingCity", .str o.shippingCity),
    ("ShippingState", .str o.shippingState), ("ShippingPostalCode", .str o.shippingPostalCode),
    ("ShippingCountry", .str o.shippingCountry),
    ("Items", if o.items = [] then .null else .slice (o.items.map OrderItem.toGo)),
    ("CreatedAt", .time (rfc3339 o.createdAt)), ("UpdatedAt", .time (rfc3339 o.updatedAt))]

/-- `repository.OrderItem` as a decoding target. -/
def orderItemType : GoType :=
  .struct "repository.OrderItem" [("ID", .string "string"), ("OrderID", .string "string"),
    ("ProductID", .string "string"), ("ProductName", .string "string"), ("Quantity", .int 32 "int32"),
    ("UnitPriceCurrency", .string "string"), ("UnitPriceAmount", .int 64 "int64"),
    ("TotalPriceCurrency", .string "string"), ("TotalPriceAmount", .int 64 "int64"),
    ("CreatedAt", .time)]

/-- `repository.Order` as a decoding target. -/
def orderType : GoType :=
  .struct "repository.Order" [("ID", .string "string"), ("UserID", .string "string"),
    ("TotalCurrency", .string "string"), ("TotalAmount", .int 64 "int64"),
    ("Status", .string "repository.OrderStatus"), ("PaymentID", .string "string"),
    ("ShippingStreet", .string "string"), ("ShippingCity", .string "string"),
    ("ShippingState", .string "string"), ("ShippingPostalCode", .string "string"),
    ("ShippingCountry", .string "string"), ("Items", .slice orderItemType), ("CreatedAt", .time),
    ("UpdatedAt", .time)]

/-! ### Building an order -/

/-- `service.Money`; `Amount` is an `int64`. -/
structure Money where
  currency : String
  amount : Int
  amount_fits : fitsInt 64 amount = true
  deriving DecidableEq, Repr

/-- `service.OrderItemRequest`; `Quantity` is an `int32`. -/
structure OrderItemRequest where
  productId : String
  productName : String
  quantity : Int
  unitPrice : Money
  quantity_fits : fitsInt 32 quantity = true
  deriving DecidableEq, Repr

/-- `service.CreateOrderRequest`. -/
structure CreateOrderRequest where
  userId : String
  items : List OrderItemRequest
  shippingStreet : String
  shippingCity : String
  shippingState : String
  shippingPostalCode : String
  shippingCountry : String
  deriving DecidableEq, Repr

/-- An `OrderItemRequest` as `encoding/json` sees it. -/
def OrderItemRequest.toGo (i : OrderItemRequest) : GoValue :=
  .struct [("ProductID", .str i.productId), ("ProductName", .str i.productName),
    ("Quantity", .int i.quantity),
    ("UnitPrice",
      .struct [("Currency", .str i.unitPrice.currency), ("Amount", .int i.unitPrice.amount)])]

/-- Go's `int64` arithmetic: wrap into `[-2^63, 2^63)`. -/
def wrapInt64 (x : Int) : Int :=
  (x + 9223372036854775808) % 18446744073709551616 - 9223372036854775808

/-- `item.UnitPrice.Amount * int64(item.Quantity)`. -/
def lineTotal (i : OrderItemRequest) : Int := wrapInt64 (i.unitPrice.amount * i.quantity)

/-- The loop `totalAmount += ...`. -/
def orderTotal (items : List OrderItemRequest) : Int :=
  items.foldl (fun acc i => wrapInt64 (acc + lineTotal i)) 0

/-- The loop's `currency`: `"USD"`, then the last non-empty unit-price currency. -/
def orderCurrency (items : List OrderItemRequest) : String :=
  items.foldl (fun c i => if i.unitPrice.currency ≠ "" then i.unitPrice.currency else c) "USD"

/-- The `OrderItem` `CreateOrder` appends for a request item. -/
def newItem (i : OrderItemRequest) : OrderItem :=
  ⟨"", "", i.productId, i.productName, i.quantity, i.unitPrice.currency, i.unitPrice.amount,
    i.unitPrice.currency, lineTotal i, zeroTime⟩

/-- The `Order` `CreateOrder` builds, before `CreateWithOutbox` gives it an id and timestamps. -/
def newOrder (req : CreateOrderRequest) : Order :=
  ⟨"", req.userId, orderCurrency req.items, orderTotal req.items, statusPending, "",
    req.shippingStreet, req.shippingCity, req.shippingState, req.shippingPostalCode,
    req.shippingCountry, req.items.map newItem, zeroTime, zeroTime⟩

/-- The payload of the `order.created` event, built from the order before it has an id; a
request without items has a nil `Items` slice. -/
def createdPayload (req : CreateOrderRequest) (order : Order) : GoValue :=
  .map [("order_id", .str order.id), ("user_id", .str order.userId),
    ("total", .int order.totalAmount), ("currency", .str order.totalCurrency),
    ("status", .str order.status),
    ("items", if req.items = [] then .null else .slice (req.items.map OrderItemRequest.toGo))]

/-! ### Tables -/

/-- A row of `orders`. -/
structure OrderRow where
  id : String
  userId : String
  totalCurrency : String
  totalAmount : Int
  status : OrderStatusEnum
  paymentId : Option String
  shippingStreet : String
  shippingCity : String
  shippingState : String
  shippingPostalCode : String
  shippingCountry : String
  createdAt : Int
  updatedAt : Int
  deriving DecidableEq, Repr

/-- A row of `outbox`. -/
structure OutboxRow where
  id : String
  aggregateType : String
  aggregateId : String
  eventType : String
  payload : JsonValue
  published : Bool
  publishedAt : Option Int
  createdAt : Int
  deriving Repr

/-- `orders`, `order_items` and `outbox`. -/
structure Tables where
  orders : List OrderRow
  orderItems : List OrderItem
  outbox : List OutboxRow
  deriving Repr

/-- The error of a failed statement (its text is the driver's). -/
def errDatabase : String := "database error"

/-- `INSERT INTO orders` of `order` under `id` at `now`: its parameters `$2` (`user_id`), `$3`,
`$5` (`status`) and `$6`…`$10` bound, then its `varchar` columns assigned. -/
def insertOrder (order : Order) (id : String) (now : Int) : Except String OrderRow := do
  uuidParam order.userId
  textParam order.totalCurrency
  textParam order.status
  let status ← OrderStatusEnum.parse order.status
  textParams [order.shippingStreet, order.shippingCity, order.shippingState,
    order.shippingPostalCode, order.shippingCountry]
  let currency ← varchar 3 order.totalCurrency
  let street ← varchar 255 order.shippingStreet
  let city ← varchar 100 order.shippingCity
  let state ← varchar 100 order.shippingState
  let postal ← varchar 20 order.shippingPostalCode
  let country ← varchar 100 order.shippingCountry
  pure ⟨id, order.userId, currency, order.totalAmount, status, none, street, city, state, postal,
    country, now, now⟩

/-- `INSERT INTO order_items` of `i` under `id` in order `orderId` at `now`: its parameters `$3`
(`product_id`), `$4`, `$6` and `$8` bound, then its `varchar` columns assigned. -/
def insertItem (i : OrderItem) (id orderId : String) (now : Int) : Except String OrderItem := do
  uuidParam i.productId
  textParams [i.productName, i.unitPriceCurrency, i.totalPriceCurrency]
  let name ← varchar 255 i.productName
  let unitCurrency ← varchar 3 i.unitPriceCurrency
  let totalCurrency ← varchar 3 i.totalPriceCurrency
  pure ⟨id, orderId, i.productId, name, i.quantity, unitCurrency, i.unitPriceAmount, totalCurrency,
    i.totalPriceAmount, now⟩

/-- The loop over `order.Items`: item `k` inserted under the fresh id `seed + k`. -/
def insertItems (orderId : String) (now : Int) : Nat → List OrderItem → Except String (List OrderItem)
  | _, [] => .ok []
  | seed, i :: is =>
    match insertItem i (freshId seed) orderId now with
    | .error e => .error ("failed to insert order item: " ++ e)
    | .ok row => (insertItems orderId now (seed + 1) is).map (row :: ·)

/-- `CreateWithOutbox` at time `now` with fresh ids from `seed`, its statements succeeding iff
`ok` and PostgreSQL accepts their parameters: the order with its id, its items' ids and the
timestamps `RETURNING` gives, as Go holds them. -/
def createWithOutbox (db : Tables) (order : Order) (payload : GoValue) (seed : Nat) (now : Int)
    (ok : Bool) : Except String (Tables × Order) :=
  let id := freshId seed
  match insertOrder order id now, insertItems id now (seed + 1) order.items with
  | .error e, _ => .error ("failed to insert order: " ++ e)
  | .ok _, .error e => .error e
  | .ok row, .ok rows =>
    if ok then
      let items := order.items.enum.map fun (k, i) =>
        { i with id := freshId (seed + 1 + k), orderId := id, createdAt := now }
      let event : OutboxRow := ⟨freshId (seed + 1 + order.items.length), "order", id, "order.created",
        payload.marshal, false, none, now⟩
      .ok (⟨db.orders ++ [row], db.orderItems ++ rows, db.outbox ++ [event]⟩,
        { order with id := id, items := items, createdAt := now, updatedAt := now })
    else .error errDatabase

/-- What a committed `INSERT INTO orders` stores: the id, user id, amount and status it was given,
the user id reading as a UUID, its texts as their `varchar` columns keep them, and the timestamps
`now`. -/
theorem insertOrder_ok {order : Order} {id : String} {now : Int} {row : OrderRow}
    (h : insertOrder order id now = .ok row) :
    (Uuid.parseUuid order.userId).isSome ∧ OrderStatusEnum.parse order.status = .ok row.status ∧
      varchar 3 order.totalCurrency = .ok row.totalCurrency ∧
      varchar 255 order.shippingStreet = .ok row.shippingStreet ∧
      varchar 100 order.shippingCity = .ok row.shippingCity ∧
      varchar 100 order.shippingState = .ok row.shippingState ∧
      varchar 20 order.shippingPostalCode = .ok row.shippingPostalCode ∧
      varchar 100 order.shippingCountry = .ok row.shippingCountry ∧
      row.id = id ∧ row.userId = order.userId ∧ row.totalAmount = order.totalAmount ∧
      row.paymentId = none ∧ row.createdAt = now ∧ row.updatedAt = now := by
  simp only [insertOrder, bind_eq_ok] at h
  obtain ⟨_, hu, _, -, _, -, s, hs, _, -, _, h₁, _, h₂, _, h₃, _, h₄, _, h₅, _, h₆, h⟩ := h
  cases h
  exact ⟨uuidParam_eq_ok hu, hs, h₁, h₂, h₃, h₄, h₅, h₆, rfl, rfl, rfl, rfl, rfl, rfl⟩

theorem insertOrder_id {order : Order} {id : String} {now : Int} {row : OrderRow}
    (h : insertOrder order id now = .ok row) : row.id = id :=
  (insertOrder_ok h).2.2.2.2.2.2.2.2.1

/-- What a committed `INSERT INTO order_items` stores: the item under its id and order, its texts
as their `varchar` columns keep them, the product id reading as a UUID. -/
theorem insertItem_ok {i row : OrderItem} {id orderId : String} {now : Int}
    (h : insertItem i id orderId now = .ok row) :
    (Uuid.parseUuid i.productId).isSome ∧ varchar 255 i.productName = .ok row.productName ∧
      varchar 3 i.unitPriceCurrency = .ok row.unitPriceCurrency ∧
      varchar 3 i.totalPriceCurrency = .ok row.totalPriceCurrency ∧
      row = ⟨id, orderId, i.productId, row.productName, i.quantity, row.unitPriceCurrency,
        i.unitPriceAmount, row.totalPriceCurrency, i.totalPriceAmount, now⟩ := by
  simp only [insertItem, bind_eq_ok] at h
  obtain ⟨_, hu, _, -, _, hn, _, hc, _, hc', h⟩ := h
  cases h
  exact ⟨uuidParam_eq_ok hu, hn, hc, hc', rfl⟩

/-- Every item a committed loop stores is one of the order's items, inserted under a fresh id. -/
theorem insertItems_ok {orderId : String} {now : Int} :
    ∀ {seed : Nat} {items rows : List OrderItem}, insertItems orderId now seed items = .ok rows →
      ∀ row ∈ rows, ∃ i ∈ items, ∃ n, insertItem i (freshId n) orderId now = .ok row
  | _, [], _, h => by cases h; simp
  | seed, i :: is, rows, h => by
    simp only [insertItems] at h
    split at h
    · cases h
    · rename_i row hrow
      cases hrest : insertItems orderId now (seed + 1) is with
      | error e => simp [hrest, Except.map] at h
      | ok rows' =>
        simp only [hrest, Except.map, Except.ok.injEq] at h
        subst h
        rintro r (_ | ⟨_, hr⟩)
        · exact ⟨i, List.mem_cons_self _ _, seed, hrow⟩
        · obtain ⟨j, hj, n, hn⟩ := insertItems_ok hrest r hr
          exact ⟨j, List.mem_cons_of_mem _ hj, n, hn⟩

/-- A committed `CreateWithOutbox` writes the order row under the id it returns, the items it
returns as their columns keep them, and the `order.created` row whose `aggregate_id` is that id;
the order it returns is the one it was given with that id, those items and the timestamps `now`. -/
theorem createWithOutbox_ok {db db' : Tables} {order o : Order} {payload : GoValue} {seed : Nat}
    {now : Int} {ok : Bool} (h : createWithOutbox db order payload seed now ok = .ok (db', o)) :
    ∃ row rows, insertOrder order o.id now = .ok row ∧ insertItems o.id now (seed + 1) order.items = .ok rows ∧
      o.id = freshId seed ∧
      o = { order with id := o.id, items := o.items, createdAt := now, updatedAt := now } ∧
      o.items = (order.items.enum.map fun (k, i) =>
        { i with id := freshId (seed + 1 + k), orderId := o.id, createdAt := now }) ∧
      db'.orders = db.orders ++ [row] ∧ db'.orderItems = db.orderItems ++ rows ∧
      db'.outbox = db.outbox ++ [⟨freshId (seed + 1 + order.items.length), "order", o.id,
        "order.created", payload.marshal, false, none, now⟩] := by
  simp only [createWithOutbox] at h
  split at h
  · cases h
  · cases h
  · rename_i row rows hrow hrows
    split at h
    · cases h
      exact ⟨row, rows, hrow, hrows, rfl, rfl, rfl, rfl, rfl, rfl⟩
    · cases h

/-- `UPDATE orders SET status = s, updated_at = now WHERE id = orderId`. -/
def setOrderStatus (orders : List OrderRow) (orderId : String) (s : OrderStatusEnum) (now : Int) :
    List OrderRow :=
  orders.map fun r => if r.id = orderId then { r with status := s, updatedAt := now } else r

@[simp] theorem any_setOrderStatus (orders : List OrderRow) (orderId q : String)
    (s : OrderStatusEnum) (now : Int) :
    (setOrderStatus orders orderId s now).any (·.id = q) = orders.any (·.id = q) := by
  induction orders with
  | nil => rfl
  | cons r rs ih => by_cases h : r.id = orderId <;> simp_all [setOrderStatus]

@[simp] theorem find?_setOrderStatus (orders : List OrderRow) (orderId : String)
    (s : OrderStatusEnum) (now : Int) :
    (setOrderStatus orders orderId s now).find? (·.id = orderId) =
      (orders.find? (·.id = orderId)).map fun r => { r with status := s, updatedAt := now } := by
  induction orders with
  | nil => rfl
  | cons r rs ih => by_cases h : r.id = orderId <;> simp_all [setOrderStatus, List.find?_cons]

/-- `UpdateStatus` at time `now` with the fresh id `seed` for its outbox row, its statements
succeeding iff `ok`. -/
def updateStatus (db : Tables) (orderId status eventType : String) (payload : GoValue) (seed : Nat)
    (now : Int) (ok : Bool) : Except String Tables :=
  match OrderStatusEnum.parse status with
  | .error e => .error ("failed to update order status: " ++ e)
  | .ok s =>
    if !ok then .error errDatabase
    else if db.orders.any (·.id = orderId) then
      .ok ⟨setOrderStatus db.orders orderId s now, db.orderItems,
        db.outbox ++ [⟨freshId seed, "order", orderId, eventType, payload.marshal, false, none, now⟩]⟩
    else .error "order not found"

/-- A committed `UpdateStatus` appends one unpublished outbox row, under the fresh id `seed`, with
the payload's JSON. -/
theorem updateStatus_ok {db db' : Tables} {orderId status eventType : String} {payload : GoValue}
    {seed : Nat} {now : Int} {ok : Bool}
    (h : updateStatus db orderId status eventType payload seed now ok = .ok db') :
    ∃ r, db'.outbox = db.outbox ++ [r] ∧ r.published = false ∧ r.id = freshId seed ∧
      r.payload = payload.marshal := by
  simp only [updateStatus] at h
  split at h
  · cases h
  · split at h
    · cases h
    · split at h
      · cases h; exact ⟨_, rfl, rfl, rfl, rfl⟩
      · cases h

/-- A committed `UpdateStatus` rewrites the status of the order's rows and nothing else of
`orders`. -/
theorem updateStatus_orders {db db' : Tables} {orderId status eventType : String}
    {payload : GoValue} {seed : Nat} {now : Int} {ok : Bool}
    (h : updateStatus db orderId status eventType payload seed now ok = .ok db') :
    ∃ s, db'.orders = setOrderStatus db.orders orderId s now := by
  simp only [updateStatus] at h
  split at h
  · cases h
  · split at h
    · cases h
    · split at h
      · cases h; exact ⟨_, rfl⟩
      · cases h

end Coldy.Orders
