import Coldy.Orders.Read

/-!
# The orders gRPC server

`Server.CreateOrder` checks the idempotency key, the user id and the items, and builds the request
of `OrderService.CreateOrder` from the proto request: each item with its product id and quantity
only, and the shipping address read through a pointer that is `nil` when the client leaves the
address unset.  The server's interceptor chain starts with `RecoveryInterceptor`, which answers a
handler's panic with `codes.Internal`.  `UpdateOrderStatus` and `CancelOrder` check the order id
before calling the service, and `GetOrder` answers `NotFound` for any error of the service.

Clients reach the service only through these handlers: a run of the server is a run of the service
on the events the handlers pass on (`RpcEvent.toEvent`).

* Every request `CreateOrder` passes on has items with no name and the zero `Money`
  (`createOrderRequest_unpriced`).
* So, in every run of the server, however its calls interleave and whatever Redis and the database
  answer, every order is recorded with total `0` in `USD`, every item with price `0`, and
  `GetOrder` answers only such orders (`rpc_orders_unpriced`).
-/

namespace Coldy.Orders

open Coldy.Json Coldy.Idempotency Coldy.Sql

/-! ### Status errors and the recovery interceptor -/

/-- The `codes` the order server answers with. -/
inductive Code
  | invalidArgument
  | notFound
  | internal
  deriving DecidableEq, Repr

/-- `status.Error(code, message)`. -/
structure RpcError where
  code : Code
  message : String
  deriving DecidableEq, Repr

/-- What a handler does: it answers, fails with a status, or panics with the runtime's message. -/
inductive Handled (α : Type)
  | ok (a : α)
  | error (e : RpcError)
  | panic (message : String)
  deriving DecidableEq, Repr

/-- `RecoveryInterceptor`: the handler's answer, or `codes.Internal` for a panic.  The other
interceptors of the chain only log and trace. -/
def recoveryInterceptor {α : Type} : Handled α → Except RpcError α
  | .ok a => .ok a
  | .error e => .error e
  | .panic _ => .error ⟨.internal, "internal server error"⟩

/-- The runtime's message for a field read through a `nil` pointer. -/
def nilDereference : String := "runtime error: invalid memory address or nil pointer dereference"

/-! ### `CreateOrder` -/

/-- An item of `ordersv1.CreateOrderRequest`: the fields the handler reads; `quantity` is an
`int32`. -/
structure ProtoOrderItem where
  productId : String
  quantity : Int
  quantity_fits : fitsInt 32 quantity = true
  deriving DecidableEq, Repr

/-- `commonv1.Address`. -/
structure ProtoAddress where
  street : String
  city : String
  state : String
  postalCode : String
  country : String
  deriving DecidableEq, Repr

/-- `ordersv1.CreateOrderRequest`; `shippingAddress` is `none` when it is unset. -/
structure ProtoCreateOrderRequest where
  idempotencyKey : String
  userId : String
  items : List ProtoOrderItem
  shippingAddress : Option ProtoAddress
  deriving DecidableEq, Repr

/-- `service.OrderItemRequest{ProductID: item.ProductId, Quantity: item.Quantity}`. -/
def ProtoOrderItem.toRequest (i : ProtoOrderItem) : OrderItemRequest :=
  ⟨i.productId, "", i.quantity, ⟨"", 0, rfl⟩, i.quantity_fits⟩

/-- `Server.CreateOrder` up to its call of `OrderService.CreateOrder`: the checks, then the
service request, whose address fields are read through `req.ShippingAddress`. -/
def createOrderRequest (req : ProtoCreateOrderRequest) : Handled CreateOrderRequest :=
  if req.idempotencyKey = "" then .error ⟨.invalidArgument, "idempotency_key is required"⟩
  else if req.userId = "" then .error ⟨.invalidArgument, "user_id is required"⟩
  else if req.items.length = 0 then .error ⟨.invalidArgument, "items are required"⟩
  else match req.shippingAddress with
    | none => .panic nilDereference
    | some a => .ok ⟨req.userId, req.items.map ProtoOrderItem.toRequest, a.street, a.city,
        a.state, a.postalCode, a.country⟩

/-- The rest of `Server.CreateOrder`: the service's order and `fromCache`, or `codes.Internal`. -/
def createOrderResponse (r : Except String (GoValue × Bool)) : Handled (GoValue × Bool) :=
  match r with
  | .ok a => .ok a
  | .error _ => .error ⟨.internal, "failed to create order"⟩

/-! ### `GetOrder`, `UpdateOrderStatus`, `CancelOrder` -/

/-- `OrderService.GetOrder`, its queries succeeding iff `ok`. -/
def getOrder (db : Tables) (orderId : String) (ok : Bool) : Except String Order :=
  if !ok then .error ("failed to get order: failed to get order: " ++ errDatabase)
  else match getByID db orderId with
    | none => .error "order not found"
    | some o => .ok o

/-- `Server.GetOrder`. -/
def getOrderRpc (db : Tables) (orderId : String) (ok : Bool) : Handled Order :=
  if orderId = "" then .error ⟨.invalidArgument, "order_id is required"⟩
  else match getOrder db orderId ok with
    | .ok o => .ok o
    | .error _ => .error ⟨.notFound, "order not found"⟩

/-- `ordersv1.UpdateOrderStatusRequest`. -/
structure ProtoUpdateOrderStatusRequest where
  orderId : String
  status : ProtoStatus
  deriving DecidableEq, Repr

/-- `ordersv1.CancelOrderRequest`. -/
structure ProtoCancelOrderRequest where
  orderId : String
  reason : String
  deriving DecidableEq, Repr

/-! ### The server over the service -/

/-- What reaches the order server: an RPC, a turn of a `CreateOrder` or `CancelOrder` call in
flight, whose Redis or database call succeeds iff `ok`, or the clock. -/
inductive RpcEvent
  | createOrder (req : ProtoCreateOrderRequest)
  | updateOrderStatus (req : ProtoUpdateOrderStatusRequest) (ok : Bool)
  | cancelOrder (req : ProtoCancelOrderRequest)
  | next (call : Nat) (ok : Bool)
  | cancelNext (call : Nat) (ok : Bool)
  | tick (now : Int)

/-- The service event a server event is: none when the handler answers without calling the
service. -/
def RpcEvent.toEvent : RpcEvent → Option Event
  | .createOrder req =>
    match createOrderRequest req with
    | .ok r => some (.intake (.start req.idempotencyKey r))
    | _ => none
  | .updateOrderStatus req ok =>
    if req.orderId = "" then none
    else some (.updateOrderStatus req.orderId (toRepoStatus req.status) ok)
  | .cancelOrder req =>
    if req.orderId = "" then none else some (.cancelOrder req.orderId req.reason)
  | .next c ok => some (.intake (.next c ok))
  | .cancelNext c ok => some (.cancelNext c ok)
  | .tick now => some (.intake (.tick now))

/-! ### Orders without prices -/

/-- An item request as `CreateOrder` builds it: no name, and the zero `Money`. -/
def OrderItemRequest.Unpriced (i : OrderItemRequest) : Prop :=
  i.productName = "" ∧ i.unitPrice = ⟨"", 0, rfl⟩

/-- An item with no name and price `0`. -/
def OrderItem.Unpriced (i : OrderItem) : Prop :=
  i.productName = "" ∧ i.unitPriceCurrency = "" ∧ i.unitPriceAmount = 0 ∧
    i.totalPriceCurrency = "" ∧ i.totalPriceAmount = 0

/-- An order row with total `0` in `USD`. -/
def OrderRow.Unpriced (r : OrderRow) : Prop :=
  r.totalAmount = 0 ∧ r.totalCurrency = "USD"

/-- An order with total `0` in `USD` and items of price `0`. -/
def Order.Unpriced (o : Order) : Prop :=
  o.totalAmount = 0 ∧ o.totalCurrency = "USD" ∧ ∀ i ∈ o.items, i.Unpriced

/-- Tables whose orders and items have no prices. -/
structure TablesUnpriced (db : Tables) : Prop where
  orders : ∀ r ∈ db.orders, r.Unpriced
  items : ∀ i ∈ db.orderItems, i.Unpriced

theorem createOrderRequest_unpriced {req : ProtoCreateOrderRequest} {r : CreateOrderRequest}
    (h : createOrderRequest req = .ok r) : ∀ i ∈ r.items, i.Unpriced := by
  simp only [createOrderRequest] at h
  split_ifs at h
  split at h <;> cases h
  intro i hi
  obtain ⟨p, -, rfl⟩ := List.mem_map.mp hi
  exact ⟨rfl, rfl⟩

private theorem wrapInt64_zero : wrapInt64 0 = 0 := by decide

theorem orderTotal_unpriced {items : List OrderItemRequest} (h : ∀ i ∈ items, i.Unpriced) :
    orderTotal items = 0 := by
  unfold orderTotal
  induction items with
  | nil => rfl
  | cons i is ih =>
    have hi : lineTotal i = 0 := by
      simp only [lineTotal, (h i (List.mem_cons_self _ _)).2, Int.zero_mul, wrapInt64_zero]
    simp only [List.foldl_cons, hi, Int.add_zero, wrapInt64_zero]
    exact ih fun j hj => h j (List.mem_cons_of_mem _ hj)

theorem orderCurrency_unpriced {items : List OrderItemRequest} (h : ∀ i ∈ items, i.Unpriced) :
    orderCurrency items = "USD" := by
  unfold orderCurrency
  induction items with
  | nil => rfl
  | cons i is ih =>
    simp only [List.foldl_cons, (h i (List.mem_cons_self _ _)).2, ne_eq, not_true_eq_false,
      ite_false]
    exact ih fun j hj => h j (List.mem_cons_of_mem _ hj)

/-- A committed `CreateOrder` of a request without prices keeps the tables without prices. -/
theorem createOrder_unpriced {db db' : Tables} {req : CreateOrderRequest} {seed : Nat} {now : Int}
    {ok : Bool} {v : GoValue} (h : createOrder.create db req seed now ok = .ok (db', v))
    (hreq : ∀ i ∈ req.items, i.Unpriced) (hdb : TablesUnpriced db) : TablesUnpriced db' := by
  obtain ⟨o, ho, -⟩ := createOrder_ok h
  obtain ⟨row, rows, hrow, hrows, -, -, -, horders, hitems, -⟩ := createWithOutbox_ok ho
  obtain ⟨-, -, hcur, -, -, -, -, -, -, -, htotal, -⟩ := insertOrder_ok hrow
  constructor
  · intro r hr
    rw [horders] at hr
    rcases List.mem_append.mp hr with hr | hr
    · exact hdb.orders r hr
    · rw [List.mem_singleton.mp hr]
      have husd : varchar 3 "USD" = .ok "USD" := rfl
      rw [show (newOrder req).totalCurrency = "USD" from orderCurrency_unpriced hreq, husd] at hcur
      exact ⟨htotal.trans (orderTotal_unpriced hreq), (Except.ok.inj hcur).symm⟩
  · intro i hi
    rw [hitems] at hi
    rcases List.mem_append.mp hi with hi | hi
    · exact hdb.items i hi
    · obtain ⟨j, hj, n, hn⟩ := insertItems_ok hrows i hi
      obtain ⟨q, hq, rfl⟩ := List.mem_map.mp hj
      obtain ⟨hname, hprice⟩ := hreq q hq
      obtain ⟨-, hn₁, hn₂, hn₃, hieq⟩ := insertItem_ok hn
      simp only [newItem, hname, hprice, varchar_empty, Except.ok.injEq] at hn₁ hn₂ hn₃
      refine ⟨hn₁.symm, hn₂.symm, ?_, hn₃.symm, ?_⟩ <;> rw [hieq] <;>
        simp [newItem, lineTotal, hprice, wrapInt64_zero]

/-- A committed `UpdateStatus` keeps the tables without prices. -/
theorem updateStatus_unpriced {db db' : Tables} {orderId status eventType : String}
    {payload : GoValue} {seed : Nat} {now : Int} {ok : Bool}
    (h : updateStatus db orderId status eventType payload seed now ok = .ok db')
    (hdb : TablesUnpriced db) : TablesUnpriced db' := by
  simp only [updateStatus] at h
  split at h
  · cases h
  · split_ifs at h
    cases h
    refine ⟨fun r hr => ?_, hdb.items⟩
    obtain ⟨r₀, hr₀, rfl⟩ := List.mem_map.mp hr
    split_ifs
    exacts [hdb.orders r₀ hr₀, hdb.orders r₀ hr₀]

/-- A service event that starts a `CreateOrder` call only with a request without prices. -/
def StartsUnpriced : Event → Prop
  | .intake (.start _ req) => ∀ i ∈ req.items, i.Unpriced
  | _ => True

theorem RpcEvent.toEvent_startsUnpriced {e : RpcEvent} {e' : Event} (h : e.toEvent = some e') :
    StartsUnpriced e' := by
  cases e with
  | createOrder req =>
    simp only [RpcEvent.toEvent] at h
    split at h
    · cases h; exact createOrderRequest_unpriced ‹_›
    · cases h
  | updateOrderStatus req ok =>
    simp only [RpcEvent.toEvent] at h
    split_ifs at h; cases h; trivial
  | cancelOrder req =>
    simp only [RpcEvent.toEvent] at h
    split_ifs at h; cases h; trivial
  | next c ok => cases h; trivial
  | cancelNext c ok => cases h; trivial
  | tick now => cases h; trivial

/-- What holds of the service in every state a run of the server reaches: its `CreateOrder` calls
and its tables carry no prices. -/
structure Unpriced (w : World) : Prop where
  calls : ∀ c ∈ w.calls, ∀ i ∈ c.req.items, i.Unpriced
  tables : TablesUnpriced w.db

theorem Unpriced.init : Unpriced World.init :=
  ⟨(fun _ h => nomatch h), ⟨(fun _ h => nomatch h), (fun _ h => nomatch h)⟩⟩

/-- Every step of the service that starts calls only without prices keeps `Unpriced`. -/
theorem Unpriced.step {w w' : World} {e : Event} (hw : Unpriced w) (he : StartsUnpriced e)
    (h : w.step e = some w') : Unpriced w' := by
  cases e with
  | intake ie =>
    obtain ⟨iw, hiw, rfl⟩ := Option.map_eq_some'.mp h
    refine ⟨IntakeWorld.step_reqs createOrder (fun req => ∀ i ∈ req.items, i.Unpriced) hiw hw.calls
      fun key req hs => ?_, ?_⟩
    · subst hs; exact he
    · rcases IntakeWorld.step_db_call createOrder hiw with ⟨hdb, -⟩ | ⟨c, hc, ok, v, hcr, -⟩
      · exact (congrArg TablesUnpriced hdb).mpr hw.tables
      · exact createOrder_unpriced hcr (hw.calls c hc) hw.tables
  | updateOrderStatus orderId status ok =>
    simp only [World.step] at h
    split at h <;> cases h
    · exact ⟨hw.calls, updateStatus_unpriced (updateOrderStatus_ok ‹_›) hw.tables⟩
    · exact hw
  | cancelOrder orderId reason => cases h; exact ⟨hw.calls, hw.tables⟩
  | cancelNext c ok =>
    simp only [World.step] at h
    split at h
    · rename_i call _
      cases h
      refine ⟨hw.calls, ?_⟩
      rcases cancelStep_db w.db w.nextId w.now ok call with ⟨hdb, -⟩ | ⟨hu, -⟩
      · exact (congrArg TablesUnpriced hdb).mpr hw.tables
      · exact updateStatus_unpriced hu hw.tables
    · cases h

theorem Unpriced.run {w w' : World} {es : List Event} (hw : Unpriced w)
    (hs : ∀ e ∈ es, StartsUnpriced e) (h : w.run es = some w') : Unpriced w' := by
  induction es generalizing w with
  | nil => cases h; exact hw
  | cons e es ih =>
    simp only [World.run] at h
    obtain ⟨w₁, h₁, h⟩ := Option.bind_eq_some.mp h
    exact ih (hw.step (hs e (List.mem_cons_self _ _)) h₁)
      (fun e' he' => hs e' (List.mem_cons_of_mem _ he')) h

/-- `GetOrder` reads an order row without prices and its items. -/
theorem getOrderRpc_unpriced {db : Tables} (hdb : TablesUnpriced db) {orderId : String} {ok : Bool}
    {o : Order} (h : getOrderRpc db orderId ok = .ok o) : o.Unpriced := by
  simp only [getOrderRpc, getOrder] at h
  split_ifs at h
  rcases hg : getByID db orderId with _ | o' <;> simp only [hg] at h <;> cases h
  obtain ⟨r, hr, rfl⟩ := Option.map_eq_some'.mp hg
  have hrow := hdb.orders r (List.mem_of_find?_eq_some hr)
  refine ⟨hrow.1, hrow.2, fun i hi => ?_⟩
  obtain ⟨j, hj, rfl⟩ := List.mem_map.mp hi
  exact hdb.items j (List.mem_filter.mp ((List.perm_insertionSort _ _).mem_iff.mp hj)).1

/-- Through the order server, in every run, every order is recorded with total `0` in `USD`,
every order item with price `0` and no name, and `GetOrder` answers only such orders. -/
theorem rpc_orders_unpriced {es : List RpcEvent} {w : World}
    (h : World.init.run (es.filterMap RpcEvent.toEvent) = some w) :
    (∀ r ∈ w.db.orders, r.Unpriced) ∧ (∀ i ∈ w.db.orderItems, i.Unpriced) ∧
      ∀ orderId ok o, getOrderRpc w.db orderId ok = .ok o → o.Unpriced := by
  have hw := Unpriced.init.run (fun e' he' => by
    obtain ⟨e, -, he⟩ := List.mem_filterMap.mp he'
    exact RpcEvent.toEvent_startsUnpriced he) h
  exact ⟨hw.tables.orders, hw.tables.items, fun _ _ _ => getOrderRpc_unpriced hw.tables⟩

/-- Two widgets to 1 Main St. -/
def widgetsRequest : ProtoCreateOrderRequest :=
  ⟨"k1", "a0eebc99-9c0b-4ef8-bb6d-6bb9bd380a11", [⟨"6f1c2e9a-0b7d-4c55-9a3e-2d8f4b1c7e01", 2, rfl⟩],
    some ⟨"1 Main St", "Springfield", "IL", "62701", "US"⟩⟩

/-- The widgets ordered and served to the end, then the same order without an address, which
panics in the handler. -/
def widgetsEvents : List RpcEvent :=
  [.createOrder widgetsRequest, .next 0 true, .next 0 true, .next 0 true,
    .createOrder { widgetsRequest with idempotencyKey := "k2", shippingAddress := none }]

/-- The service after `widgetsEvents`. -/
def widgetsWorld : World := (World.init.run (widgetsEvents.filterMap RpcEvent.toEvent)).getD .init

theorem rpc_orders_unpriced_widgets :
    World.init.run (widgetsEvents.filterMap RpcEvent.toEvent) = some widgetsWorld ∧
      widgetsWorld.db.orders.length = 1 ∧
      ((∀ r ∈ widgetsWorld.db.orders, r.Unpriced) ∧ (∀ i ∈ widgetsWorld.db.orderItems, i.Unpriced) ∧
        ∀ orderId ok o, getOrderRpc widgetsWorld.db orderId ok = .ok o → o.Unpriced) :=
  ⟨rfl, rfl, @rpc_orders_unpriced widgetsEvents widgetsWorld rfl⟩

end Coldy.Orders
