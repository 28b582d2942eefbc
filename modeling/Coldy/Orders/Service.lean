import Coldy.Orders.Order

/-!
# The order service

`OrderService.CreateOrder` is the intake of `Coldy.Idempotency` over the order tables, with
`CreateWithOutbox` as its database work.  `UpdateOrderStatus` is one transaction, so one step.
`CancelOrder` reads the order (`GetByID`, outside any transaction), checks its status, and then
runs its transaction: two steps, between which other calls run.  The gRPC layer maps the RPC's
`OrderStatus` with `toRepoStatus`, which sends `ORDER_STATUS_UNSPECIFIED` to `StatusPending`.
-/

namespace Coldy.Orders

open Coldy.Json Coldy.Idempotency Coldy.Sql

/-- `OrderService.CreateOrder`: the intake with key operation `create_order`, whose database work
is `CreateWithOutbox` of the order and event the request gives. -/
def createOrder : Intake Tables CreateOrderRequest where
  operation := "create_order"
  target := orderType
  noun := "order"
  userId := (·.userId)
  create db req seed now ok :=
    match createWithOutbox db (newOrder req) (createdPayload req (newOrder req)) seed now ok with
    | .ok (db', order) => .ok (db', order.toGo)
    | .error e => .error ("failed to create order: " ++ e)
  ids req := req.items.length + 2

/-- A committed `CreateOrder` is a committed `CreateWithOutbox` of `newOrder` and its payload,
answered with the order `CreateWithOutbox` returns. -/
theorem createOrder_ok {db db' : Tables} {req : CreateOrderRequest} {seed : Nat} {now : Int}
    {ok : Bool} {v : GoValue} (h : createOrder.create db req seed now ok = .ok (db', v)) :
    ∃ o, createWithOutbox db (newOrder req) (createdPayload req (newOrder req)) seed now ok =
      .ok (db', o) ∧ v = o.toGo := by
  simp only [createOrder] at h
  split at h
  · cases h; exact ⟨_, ‹_›, rfl⟩
  · cases h

/-- `CreateOrder`'s work adds one order, its items and one unpublished `order.created` row, whose
id is the last of the `ids` it takes and whose payload is the JSON of `createdPayload`. -/
theorem createOrder_create {db db' : Tables} {req : CreateOrderRequest} {seed : Nat} {now : Int}
    {ok : Bool} {v : GoValue} (h : createOrder.create db req seed now ok = .ok (db', v)) :
    ∃ row items ev, db' = ⟨db.orders ++ [row], db.orderItems ++ items, db.outbox ++ [ev]⟩ ∧
      ev.eventType = "order.created" ∧ ev.published = false ∧
      ev.id = freshId (seed + 1 + req.items.length) ∧
      ev.payload = (createdPayload req (newOrder req)).marshal := by
  obtain ⟨o, hc, -⟩ := createOrder_ok h
  obtain ⟨row, rows, -, -, -, -, -, horders, hitems, houtbox⟩ := createWithOutbox_ok hc
  exact ⟨row, rows, _, by rw [← horders, ← hitems, ← houtbox], rfl, rfl, by simp [newOrder], rfl⟩

/-- `ordersv1.OrderStatus`. -/
inductive ProtoStatus
  | unspecified
  | pending
  | confirmed
  | paid
  | processing
  | shipped
  | delivered
  | canceled
  | refunded
  deriving DecidableEq, Repr

/-- `toRepoStatus`. -/
def toRepoStatus : ProtoStatus → String
  | .pending => statusPending
  | .confirmed => statusConfirmed
  | .paid => statusPaid
  | .processing => statusProcessing
  | .shipped => statusShipped
  | .delivered => statusDelivered
  | .canceled => statusCancelled
  | .refunded => statusRefunded
  | .unspecified => statusPending

/-- The next step of a `CancelOrder` call. -/
inductive CancelStep
  | getOrder
  | update
  | done (result : Except String Unit)

/-- A `CancelOrder(orderId, reason)` call. -/
structure CancelCall where
  orderId : String
  reason : String
  step : CancelStep

/-- The order tables, the store, the clock, the fresh-id counter, and the `CreateOrder` and
`CancelOrder` calls in flight. -/
structure World extends IntakeWorld Tables CreateOrderRequest where
  cancels : List CancelCall

/-- Empty tables and store, at time `0`. -/
def World.init : World := ⟨⟨⟨[], [], []⟩, Redis.empty, 0, 0, []⟩, []⟩

/-- The payload of `UpdateOrderStatus`'s event. -/
def statusPayload (orderId status : String) : GoValue :=
  .map [("order_id", .str orderId), ("status", .str status)]

/-- The payload of `CancelOrder`'s event. -/
def cancelPayload (orderId reason : String) : GoValue :=
  .map [("order_id", .str orderId), ("reason", .str reason)]

/-- `UpdateOrderStatus(orderId, status)` at time `now`, its statements succeeding iff `ok`: the new
tables, or the error. -/
def updateOrderStatus (db : Tables) (seed : Nat) (now : Int) (orderId status : String) (ok : Bool) :
    Except String Tables :=
  match updateStatus db orderId status ("order." ++ status) (statusPayload orderId status) seed now ok with
  | .ok db' => .ok db'
  | .error e => .error ("failed to update order status: " ++ e)

/-- One step of a `CancelOrder` call, its statements succeeding iff `ok`: the new tables, next
fresh id and step. -/
def cancelStep (db : Tables) (seed : Nat) (now : Int) (ok : Bool) (c : CancelCall) :
    Tables × Nat × CancelStep :=
  match c.step with
  | .getOrder =>
    if !ok then (db, seed, .done (.error ("failed to get order: " ++ errDatabase)))
    else match db.orders.find? (·.id = c.orderId) with
      | none => (db, seed, .done (.error "order not found"))
      | some row =>
        if row.status.label = statusDelivered ∨ row.status.label = statusCancelled then
          (db, seed, .done (.error ("order cannot be canceled in status: " ++ row.status.label)))
        else (db, seed, .update)
  | .update =>
    match updateStatus db c.orderId statusCancelled "order.canceled" (cancelPayload c.orderId c.reason)
        seed now ok with
    | .ok db' => (db', seed + 1, .done (.ok ()))
    | .error e => (db, seed, .done (.error ("failed to cancel order: " ++ e)))
  | .done r => (db, seed, .done r)

/-- A committed `UpdateOrderStatus` is a committed `UpdateStatus`. -/
theorem updateOrderStatus_ok {db db' : Tables} {seed : Nat} {now : Int} {orderId status : String}
    {ok : Bool} (h : updateOrderStatus db seed now orderId status ok = .ok db') :
    updateStatus db orderId status ("order." ++ status) (statusPayload orderId status) seed now ok =
      .ok db' := by
  unfold updateOrderStatus at h
  split at h <;> cases h
  assumption

/-- A `CancelOrder` step leaves the tables and the counter alone, or it is the call's transaction,
which committed with the fresh id `seed`. -/
theorem cancelStep_db (db : Tables) (seed : Nat) (now : Int) (ok : Bool) (c : CancelCall) :
    ((cancelStep db seed now ok c).1 = db ∧ (cancelStep db seed now ok c).2.1 = seed) ∨
      (updateStatus db c.orderId statusCancelled "order.canceled" (cancelPayload c.orderId c.reason)
          seed now ok = .ok (cancelStep db seed now ok c).1 ∧
        (cancelStep db seed now ok c).2.1 = seed + 1) := by
  unfold cancelStep
  split
  · split
    · exact .inl ⟨rfl, rfl⟩
    · split
      · exact .inl ⟨rfl, rfl⟩
      · split <;> exact .inl ⟨rfl, rfl⟩
  · split
    · exact .inr ⟨‹_›, rfl⟩
    · exact .inl ⟨rfl, rfl⟩
  · exact .inl ⟨rfl, rfl⟩

/-- The events of the order service. -/
inductive Event
  | intake (e : IntakeEvent CreateOrderRequest)
  | updateOrderStatus (orderId status : String) (ok : Bool)
  | cancelOrder (orderId reason : String)
  | cancelNext (call : Nat) (ok : Bool)

namespace World

/-- One step of the order service. -/
def step (w : World) : Event → Option World
  | .intake e => (IntakeWorld.step createOrder w.toIntakeWorld e).map fun iw => { w with toIntakeWorld := iw }
  | .updateOrderStatus orderId status ok =>
    match updateOrderStatus w.db w.nextId w.now orderId status ok with
    | .ok db => some { w with db := db, nextId := w.nextId + 1 }
    | .error _ => some w
  | .cancelOrder orderId reason => some { w with cancels := w.cancels ++ [⟨orderId, reason, .getOrder⟩] }
  | .cancelNext c ok =>
    match w.cancels[c]? with
    | some call =>
      let (db, seed, s) := cancelStep w.db w.nextId w.now ok call
      some { w with db := db, nextId := seed, cancels := w.cancels.set c { call with step := s } }
    | none => none

/-- Run a list of events. -/
def run (w : World) : List Event → Option World
  | [] => some w
  | e :: es => (step w e).bind fun w' => run w' es

/-- A run of `CreateOrder` events alone is a run of the intake. -/
theorem run_intake (w : World) (es : List (IntakeEvent CreateOrderRequest)) :
    run w (es.map .intake) =
      (IntakeWorld.run createOrder w.toIntakeWorld es).map fun iw => { w with toIntakeWorld := iw } := by
  induction es generalizing w with
  | nil => rfl
  | cons e es ih =>
    simp only [List.map_cons, run, step, IntakeWorld.run]
    cases IntakeWorld.step createOrder w.toIntakeWorld e <;> simp [ih]

end World

end Coldy.Orders
