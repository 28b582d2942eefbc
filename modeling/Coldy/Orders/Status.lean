import Coldy.Orders.Service

/-!
# Order statuses

`UpdateOrderStatus` writes the requested status whatever the order's status is: no transition is
checked.  From any status, any sequence of requested statuses other than `CANCELED` becomes the
order's sequence of statuses, each with its `order.<status>` outbox row
(`updateOrderStatus_follows_requests`).  `CancelOrder` checks the status it read, but writes
`StatusCancelled`, `"canceled"`, which `order_status` refuses.
-/

namespace Coldy.Orders

open Coldy.Json Coldy.Idempotency Coldy.Sql

/-- The label `toRepoStatus` gives, for every status but `CANCELED`. -/
def ProtoStatus.toEnum : ProtoStatus → OrderStatusEnum
  | .pending | .unspecified => .pending
  | .confirmed => .confirmed
  | .paid => .paid
  | .processing => .processing
  | .shipped => .shipped
  | .delivered => .delivered
  | .canceled => .cancelled
  | .refunded => .refunded

theorem parse_toRepoStatus {p : ProtoStatus} (hp : p ≠ .canceled) :
    OrderStatusEnum.parse (toRepoStatus p) = .ok p.toEnum := by
  cases p <;> first | exact absurd rfl hp | rfl

/-- The status of order `orderId`. -/
def statusOf (db : Tables) (orderId : String) : Option OrderStatusEnum :=
  (db.orders.find? (·.id = orderId)).map (·.status)

/-- The outbox row `UpdateOrderStatus` writes. -/
def statusRow (w : World) (orderId status : String) : OutboxRow :=
  ⟨freshId w.nextId, "order", orderId, "order." ++ status, (statusPayload orderId status).marshal,
    false, none, w.now⟩

section Update

variable {w : World} {orderId : String} {p : ProtoStatus}

/-- An `UpdateOrderStatus` whose statements fail, or whose order does not exist, changes nothing. -/
theorem step_updateOrderStatus_fails (hp : p ≠ .canceled) (ok : Bool)
    (h : ok = false ∨ w.db.orders.any (·.id = orderId) = false) :
    World.step w (.updateOrderStatus orderId (toRepoStatus p) ok) = some w := by
  rcases h with rfl | h
  · simp [World.step, updateOrderStatus, updateStatus, parse_toRepoStatus hp]
  · cases ok <;> simp [World.step, updateOrderStatus, updateStatus, parse_toRepoStatus hp, h]

/-- An `UpdateOrderStatus` of an existing order whose statements succeed writes the status and
its `order.<status>` row, whatever the status was. -/
theorem step_updateOrderStatus_commits (hp : p ≠ .canceled)
    (hex : w.db.orders.any (·.id = orderId)) :
    World.step w (.updateOrderStatus orderId (toRepoStatus p) true) =
      some { w with db := ⟨setOrderStatus w.db.orders orderId p.toEnum w.now, w.db.orderItems,
        w.db.outbox ++ [statusRow w orderId (toRepoStatus p)]⟩, nextId := w.nextId + 1 } := by
  simp [World.step, updateOrderStatus, updateStatus, parse_toRepoStatus hp, hex, statusRow]

theorem statusOf_setOrderStatus {orders : List OrderRow} (hex : orders.any (·.id = orderId))
    (s : OrderStatusEnum) (now : Int) (items : List OrderItem) (outbox : List OutboxRow) :
    statusOf ⟨setOrderStatus orders orderId s now, items, outbox⟩ orderId = some s := by
  obtain ⟨r, hr⟩ := Option.isSome_iff_exists.mp (List.find?_isSome.mpr (List.any_eq_true.mp hex))
  simp [statusOf, hr]

end Update

/-- From any status, any requests other than `CANCELED` of an existing order, each succeeding,
are written in order, each with its `order.<status>` row: the order ends in the last one. -/
theorem updateOrderStatus_follows_requests (orderId : String) :
    ∀ (ps : List ProtoStatus) (w : World), (∀ p ∈ ps, p ≠ .canceled) →
      w.db.orders.any (·.id = orderId) →
      ∃ w' rows, World.run w (ps.map fun p => .updateOrderStatus orderId (toRepoStatus p) true) =
          some w' ∧ w'.db.outbox = w.db.outbox ++ rows ∧
        rows.map (·.eventType) = ps.map (fun p => "order." ++ toRepoStatus p) ∧
        statusOf w'.db orderId = (ps.getLast?.map ProtoStatus.toEnum).or (statusOf w.db orderId)
  | [], w, _, _ => ⟨w, [], rfl, by simp, rfl, rfl⟩
  | p :: ps, w, hps, hex => by
    have hp := hps p (List.mem_cons_self _ _)
    obtain ⟨w', rows, hrun, hout, hev, hst⟩ := updateOrderStatus_follows_requests orderId ps
      { w with db := ⟨setOrderStatus w.db.orders orderId p.toEnum w.now, w.db.orderItems,
        w.db.outbox ++ [statusRow w orderId (toRepoStatus p)]⟩, nextId := w.nextId + 1 }
      (fun q hq => hps q (List.mem_cons_of_mem _ hq)) (by simpa using hex)
    refine ⟨w', statusRow w orderId (toRepoStatus p) :: rows, ?_, by simp [hout], by simp [hev, statusRow], ?_⟩
    · simp only [List.map_cons, World.run, step_updateOrderStatus_commits hp hex, Option.some_bind]
      exact hrun
    · rw [hst, statusOf_setOrderStatus hex, List.getLast?_cons]
      cases ps.getLast? <;> rfl

/-- `UpdateOrderStatus` with any status but `CANCELED` commits exactly when the order exists and
its statements succeed, and then whatever the order's status was: any such sequence of requests
becomes the order's sequence of statuses, each with its `order.<status>` row. -/
theorem updateOrderStatus_ignores_dag :
    (∀ (w : World) (orderId : String) (p : ProtoStatus) (ok : Bool), p ≠ .canceled →
      (ok = false ∨ w.db.orders.any (·.id = orderId) = false) →
      World.step w (.updateOrderStatus orderId (toRepoStatus p) ok) = some w) ∧
    (∀ (w : World) (orderId : String) (ps : List ProtoStatus), (∀ p ∈ ps, p ≠ .canceled) →
      w.db.orders.any (·.id = orderId) →
      ∃ w' rows, World.run w (ps.map fun p => .updateOrderStatus orderId (toRepoStatus p) true) =
          some w' ∧ w'.db.outbox = w.db.outbox ++ rows ∧
        rows.map (·.eventType) = ps.map (fun p => "order." ++ toRepoStatus p) ∧
        statusOf w'.db orderId = (ps.getLast?.map ProtoStatus.toEnum).or (statusOf w.db orderId)) :=
  ⟨fun _ _ _ ok hp h => step_updateOrderStatus_fails hp ok h,
    fun w orderId ps hps hex => updateOrderStatus_follows_requests orderId ps w hps hex⟩

/-- A `CreateOrder` of one user that has written its order, `"0"`. -/
def orderPlaced : List Event :=
  [.intake (.start "k" ⟨"a0eebc99-9c0b-4ef8-bb6d-6bb9bd380a11",
    [⟨"6f1c2e9a-0b7d-4c55-9a3e-2d8f4b1c7e01", "Widget", 2, ⟨"USD", 500, rfl⟩, rfl⟩], "Main St 1", "Springfield",
    "", "", "US"⟩), .intake (.next 0 true), .intake (.next 0 true)]

/-- The world it leaves. -/
def orderPlacedWorld : World := (World.run .init orderPlaced).getD .init

theorem orderPlaced_delivered_then_pending :
    (∀ p ∈ [ProtoStatus.delivered, .unspecified], p ≠ .canceled) ∧
    orderPlacedWorld.db.orders.any (·.id = "0") ∧
    (.delivered : ProtoStatus) ≠ .canceled ∧
    (false = false ∨ orderPlacedWorld.db.orders.any (·.id = "0") = false) ∧
    World.step orderPlacedWorld (.updateOrderStatus "0" (toRepoStatus .delivered) false) =
      some orderPlacedWorld ∧
    ∃ w' rows, World.run orderPlacedWorld
        ([ProtoStatus.delivered, .unspecified].map fun p => .updateOrderStatus "0" (toRepoStatus p) true) =
          some w' ∧ w'.db.outbox = orderPlacedWorld.db.outbox ++ rows ∧
      rows.map (·.eventType) = [ProtoStatus.delivered, .unspecified].map (fun p => "order." ++ toRepoStatus p) ∧
      statusOf w'.db "0" = ([ProtoStatus.delivered, .unspecified].getLast?.map ProtoStatus.toEnum).or
        (statusOf orderPlacedWorld.db "0") :=
  ⟨by decide, by decide, by decide, .inl rfl,
    updateOrderStatus_ignores_dag.1 orderPlacedWorld "0" .delivered false (by decide) (.inl rfl),
    updateOrderStatus_ignores_dag.2 orderPlacedWorld "0" _ (by decide) (by decide)⟩

/-- The order is delivered, then set back to `pending` by `UNSPECIFIED`; a `CancelOrder` then
fails. -/
def deliveredThenPending : List Event :=
  orderPlaced ++ [.updateOrderStatus "0" (toRepoStatus .delivered) true,
    .updateOrderStatus "0" (toRepoStatus .unspecified) true, .cancelOrder "0" "changed mind",
    .cancelNext 0 true, .cancelNext 0 true]

/-- How a `CancelOrder` call ended, in words. -/
def cancelText (c : CancelCall) : String :=
  match c.step with
  | .done (.error e) => e
  | .done (.ok ()) => "canceled"
  | _ => "in flight"

theorem orderStatus_leaves_dag :
    (World.run .init deliveredThenPending).map
        (fun w => (statusOf w.db "0", w.db.outbox.map (·.eventType), w.cancels.map cancelText)) =
      some (some .pending, ["order.created", "order.delivered", "order.pending"],
        ["failed to cancel order: failed to update order status: " ++
          "pq: invalid input value for enum order_status: \"canceled\""]) := by
  decide

end Coldy.Orders
