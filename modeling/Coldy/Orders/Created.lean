import Coldy.Orders.Read

/-!
# What `CreateOrder` persists

`OrderService.CreateOrder` hands `CreateWithOutbox` an order and an event built from the request
as it is: no quantity, currency or amount is checked, and only what PostgreSQL refuses of the texts
fails (`createOrder_breaks_total_invariants`).  Line totals and the order total are computed in `int64`,
so the total is the exact sum of the line products wrapped once into `[-2^63, 2^63)`
(`orderTotal_eq_wrapInt64`).  The `order.created` payload is built before the order has an id:
its `order_id` is empty while the row's `aggregate_id` is the order's id
(`createdPayload_order_id_empty`).
-/

namespace Coldy.Orders

open Coldy.Json Coldy.Idempotency Coldy.Sql

/-! ### Totals -/

/-- `int64` addition is addition modulo `2^64`: wrapping the operands first changes nothing. -/
theorem wrapInt64_add_wrapInt64 (a b : Int) :
    wrapInt64 (wrapInt64 a + wrapInt64 b) = wrapInt64 (a + b) := by
  unfold wrapInt64; omega

private theorem foldl_wrapInt64 (items : List OrderItemRequest) (acc : Int) :
    items.foldl (fun acc i => wrapInt64 (acc + lineTotal i)) (wrapInt64 acc) =
      wrapInt64 (items.foldl (fun s i => s + i.unitPrice.amount * i.quantity) acc) := by
  induction items generalizing acc with
  | nil => rfl
  | cons i is ih =>
    rw [List.foldl_cons, List.foldl_cons, ← ih]
    simp only [lineTotal, wrapInt64_add_wrapInt64]

/-- `TotalAmount` is the exact sum of the line products, wrapped into `int64`. -/
theorem orderTotal_eq_wrapInt64 (items : List OrderItemRequest) :
    orderTotal items = wrapInt64 (items.foldl (fun s i => s + i.unitPrice.amount * i.quantity) 0) :=
  foldl_wrapInt64 items 0

/-- Three requests `CreateOrder` commits against the data model's invariants: a line of quantity
`0`; a line in dollars and one in euros under one euro total of `500 + 700`; and a line of
`2 × 2^62` cents, whose line total and order total wrap to `-2^63`. -/
theorem createOrder_breaks_total_invariants :
    (∃ db v, createOrder.create ⟨[], [], []⟩ ⟨"a0eebc99-9c0b-4ef8-bb6d-6bb9bd380a11",
        [⟨"6f1c2e9a-0b7d-4c55-9a3e-2d8f4b1c7e01", "Widget", 0, ⟨"USD", 500, rfl⟩, rfl⟩],
        "1 Main St", "Springfield", "IL", "62701", "US"⟩ 0 0 true = .ok (db, v) ∧
      db.orderItems.map (·.quantity) = [0] ∧ db.orders.map (·.totalAmount) = [0]) ∧
    (∃ db v, createOrder.create ⟨[], [], []⟩ ⟨"a0eebc99-9c0b-4ef8-bb6d-6bb9bd380a11",
        [⟨"6f1c2e9a-0b7d-4c55-9a3e-2d8f4b1c7e01", "Widget", 1, ⟨"USD", 500, rfl⟩, rfl⟩,
          ⟨"6f1c2e9a-0b7d-4c55-9a3e-2d8f4b1c7e02", "Gadget", 1, ⟨"EUR", 700, rfl⟩, rfl⟩],
        "1 Main St", "Springfield", "IL", "62701", "US"⟩ 0 0 true = .ok (db, v) ∧
      db.orderItems.map (·.unitPriceCurrency) = ["USD", "EUR"] ∧
      db.orders.map (fun r => (r.totalCurrency, r.totalAmount)) = [("EUR", 1200)]) ∧
    (∃ db v, createOrder.create ⟨[], [], []⟩ ⟨"a0eebc99-9c0b-4ef8-bb6d-6bb9bd380a11",
        [⟨"6f1c2e9a-0b7d-4c55-9a3e-2d8f4b1c7e01", "Widget", 2, ⟨"USD", 4611686018427387904, rfl⟩, rfl⟩],
        "1 Main St", "Springfield", "IL", "62701", "US"⟩ 0 0 true = .ok (db, v) ∧
      db.orderItems.map (·.totalPriceAmount) = [-9223372036854775808] ∧
      db.orders.map (·.totalAmount) = [-9223372036854775808]) :=
  ⟨⟨_, _, rfl, rfl, rfl⟩, ⟨_, _, rfl, rfl, rfl⟩, ⟨_, _, rfl, rfl, rfl⟩⟩

/-! ### The `order.created` event -/

/-- The members of the marshalled `order.created` payload, in whatever order `encoding/json`
sorts them. -/
theorem mem_createdPayload_marshal (req : CreateOrderRequest) (order : Order) :
    ∃ kvs, (createdPayload req order).marshal = .object kvs ∧ ∀ m, m ∈ kvs ↔
      m ∈ [("order_id", .string order.id), ("user_id", .string order.userId),
        ("total", .number order.totalAmount), ("currency", .string order.totalCurrency),
        ("status", .string order.status),
        ("items", (if req.items = [] then GoValue.null
          else .slice (req.items.map OrderItemRequest.toGo)).marshal)] :=
  ⟨_, rfl, fun _ => (List.perm_insertionSort _ _).mem_iff⟩

theorem createdPayload_order_id_empty {db db' : Tables} {req : CreateOrderRequest} {seed : Nat}
    {now : Int} {ok : Bool} {v : GoValue} (h : createOrder.create db req seed now ok = .ok (db', v)) :
    ∃ row ev kvs, db'.orders = db.orders ++ [row] ∧ db'.outbox = db.outbox ++ [ev] ∧
      ev.eventType = "order.created" ∧ ev.aggregateId = row.id ∧ row.id ≠ "" ∧
      ev.payload = .object kvs ∧ ("order_id", .string "") ∈ kvs ∧
      ("user_id", .string row.userId) ∈ kvs ∧ ("total", .number row.totalAmount) ∈ kvs ∧
      (∃ c, ("currency", .string c) ∈ kvs ∧ varchar 3 c = .ok row.totalCurrency) ∧
      ("status", .string row.status.label) ∈ kvs := by
  obtain ⟨o, hc, -⟩ := createOrder_ok h
  obtain ⟨row, -, hrow, -, hid, -, -, horders, -, houtbox⟩ := createWithOutbox_ok hc
  obtain ⟨-, hs, hcur, -, -, -, -, -, hrid, huser, htotal, -⟩ := insertOrder_ok hrow
  obtain ⟨kvs, hp, hm⟩ := mem_createdPayload_marshal req (newOrder req)
  have hpending : row.status = .pending := by
    simpa using hs.symm.trans (OrderStatusEnum.parse_label .pending)
  refine ⟨row, _, kvs, horders, houtbox, rfl, hrid.symm, hrid ▸ hid ▸ freshId_ne_empty seed, hp, ?_,
    ?_, ?_, ⟨_, ?_, hcur⟩, ?_⟩ <;>
  simp [hm, huser, htotal, hpending, newOrder, statusPending, OrderStatusEnum.label]

/-- A one-item order from empty tables: its event's payload has an empty `order_id`. -/
theorem createdPayload_order_id_empty_widget :
    ∃ db' v, createOrder.create ⟨[], [], []⟩ ⟨"a0eebc99-9c0b-4ef8-bb6d-6bb9bd380a11",
        [⟨"6f1c2e9a-0b7d-4c55-9a3e-2d8f4b1c7e01", "Widget", 1, ⟨"USD", 500, rfl⟩, rfl⟩],
        "1 Main St", "Springfield", "IL", "62701", "US"⟩ 0 0 true = .ok (db', v) ∧
      ∃ row ev kvs, db'.orders = [row] ∧ db'.outbox = [ev] ∧ ev.aggregateId = row.id ∧
        row.id ≠ "" ∧ ev.payload = .object kvs ∧ ("order_id", .string "") ∈ kvs := by
  obtain ⟨db', v, h⟩ : ∃ db' v, createOrder.create ⟨[], [], []⟩
      ⟨"a0eebc99-9c0b-4ef8-bb6d-6bb9bd380a11",
        [⟨"6f1c2e9a-0b7d-4c55-9a3e-2d8f4b1c7e01", "Widget", 1, ⟨"USD", 500, rfl⟩, rfl⟩],
        "1 Main St", "Springfield", "IL", "62701", "US"⟩ 0 0 true = .ok (db', v) :=
    ⟨_, _, rfl⟩
  obtain ⟨row, ev, kvs, ho, hob, -, hagg, hid, hp, hk, -⟩ := createdPayload_order_id_empty h
  exact ⟨db', v, h, row, ev, kvs, ho, hob, hagg, hid, hp, hk⟩

/-! ### Reading the order back -/

/-- An order whose user id is a UUID in capitals, with two items: every answer `GetOrder` may
give has the user id in small letters, and one of them has the items the other way round. -/
theorem getOrder_differs_from_created :
    ∃ db o, createOrder.create ⟨[], [], []⟩ ⟨"A0EEBC99-9C0B-4EF8-BB6D-6BB9BD380A11",
        [⟨"6f1c2e9a-0b7d-4c55-9a3e-2d8f4b1c7e01", "Widget", 1, ⟨"USD", 500, rfl⟩, rfl⟩,
          ⟨"6f1c2e9a-0b7d-4c55-9a3e-2d8f4b1c7e02", "Gadget", 1, ⟨"USD", 700, rfl⟩, rfl⟩],
        "1 Main St", "Springfield", "IL", "62701", "US"⟩ 0 0 true = .ok (db, Order.toGo o) ∧
      o.userId = "A0EEBC99-9C0B-4EF8-BB6D-6BB9BD380A11" ∧
      o.items.map (·.productName) = ["Widget", "Gadget"] ∧
      (∀ o', GetByIDReturns db o.id (some o') →
        o'.userId = "a0eebc99-9c0b-4ef8-bb6d-6bb9bd380a11") ∧
      ∃ o', GetByIDReturns db o.id (some o') ∧ o'.items.map (·.productName) = ["Gadget", "Widget"] := by
  refine ⟨_, _, rfl, rfl, rfl, ?_, ⟨_, ⟨_, rfl, _, ⟨List.reverse_perm _, by decide⟩, rfl⟩, rfl⟩⟩
  rintro o' ⟨r, hr, items, -, rfl⟩
  cases hr
  show Uuid.readUuid "A0EEBC99-9C0B-4EF8-BB6D-6BB9BD380A11" = _
  decide

end Coldy.Orders
