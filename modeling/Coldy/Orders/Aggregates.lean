import Coldy.Orders.Paging
import Coldy.Orders.Outbox

/-!
# What `outbox` says about `orders`

`OrderRepository` writes an order and its `order.created` row in one transaction
(`CreateWithOutbox`), and a new status and its row in another (`UpdateStatus`, which commits only
for a status PostgreSQL accepts and an order `UPDATE` finds); a publisher only marks rows.  So in
every reachable state of the order service beside any number of publishers, whatever the
interleaving and whatever fails:

* the `order.created` rows announce the orders, one row each and in the order the orders were
  written, and every row of `outbox` is about an order (`outbox_announces_orders`).

`UpdateOrderStatus` cannot write a second `order.created` row: its event type is `order.` and the
status, and `created` is not a value of `order_status` (`statusEvent_ne_created`).
-/

namespace Coldy.Orders

open Coldy.Json Coldy.Idempotency Coldy.Sql

/-- A status PostgreSQL accepts is the label of the value it reads. -/
theorem OrderStatusEnum.label_of_parse {s : String} {e : OrderStatusEnum}
    (h : OrderStatusEnum.parse s = .ok e) : e.label = s := by
  unfold OrderStatusEnum.parse at h
  split at h
  · rename_i hf
    cases h
    have := List.find?_some hf
    exact of_decide_eq_true this
  · cases h

/-- The event type `UpdateOrderStatus` writes for a status PostgreSQL accepts is not
`order.created`. -/
theorem statusEvent_ne_created {status : String} {s : OrderStatusEnum}
    (h : OrderStatusEnum.parse status = .ok s) : "order." ++ status ≠ "order.created" := by
  rw [← OrderStatusEnum.label_of_parse h]
  cases s <;> decide

@[simp] theorem map_id_setOrderStatus (orders : List OrderRow) (orderId : String)
    (s : OrderStatusEnum) (now : Int) :
    (setOrderStatus orders orderId s now).map (·.id) = orders.map (·.id) := by
  unfold setOrderStatus
  rw [List.map_map]
  exact List.map_congr_left fun r _ => by dsimp only [Function.comp]; split <;> rfl

/-- A committed `UpdateStatus`: the status PostgreSQL read, an order the `UPDATE` found, its new
status, and the row appended to `outbox`. -/
theorem updateStatus_commits {db db' : Tables} {orderId status eventType : String}
    {payload : GoValue} {seed : Nat} {now : Int} {ok : Bool}
    (h : updateStatus db orderId status eventType payload seed now ok = .ok db') :
    ∃ s, OrderStatusEnum.parse status = .ok s ∧ db.orders.any (·.id = orderId) ∧
      db'.orders = setOrderStatus db.orders orderId s now ∧
      db'.outbox = db.outbox ++
        [⟨freshId seed, "order", orderId, eventType, payload.marshal, false, none, now⟩] := by
  simp only [updateStatus] at h
  split at h
  · cases h
  · split at h
    · cases h
    · split at h
      · cases h; exact ⟨_, ‹_›, ‹_›, rfl, rfl⟩
      · cases h

/-! ### What one step writes -/

/-- What one step of the system writes to `orders` and `outbox` together. -/
inductive OutboxWrite (db db' : Tables) : Prop
  /-- Nothing. -/
  | keep (h : db' = db)
  /-- `CreateWithOutbox`: an order, and the `order.created` row about it. -/
  | created (row : OrderRow) (event : OutboxRow) (orders : db'.orders = db.orders ++ [row])
      (outbox : db'.outbox = db.outbox ++ [event]) (eventType : event.eventType = "order.created")
      (aggregateId : event.aggregateId = row.id)
  /-- `UpdateStatus`: the status of an order, and a row of another event type about it. -/
  | updated (orderId : String) (s : OrderStatusEnum) (now : Int) (event : OutboxRow)
      (found : db.orders.any (·.id = orderId)) (orders : db'.orders = setOrderStatus db.orders orderId s now)
      (outbox : db'.outbox = db.outbox ++ [event]) (eventType : event.eventType ≠ "order.created")
      (aggregateId : event.aggregateId = orderId)
  /-- `MarkEventPublished`. -/
  | marked (eventId : String) (now : Int) (orders : db'.orders = db.orders)
      (outbox : db'.outbox = db.outbox.map (markRow eventId now))

theorem OutboxWrite.updateStatus {db db' : Tables} {orderId status eventType : String}
    {payload : GoValue} {seed : Nat} {now : Int} {ok : Bool}
    (h : updateStatus db orderId status eventType payload seed now ok = .ok db')
    (he : ∀ s, OrderStatusEnum.parse status = .ok s → eventType ≠ "order.created") :
    OutboxWrite db db' := by
  obtain ⟨s, hs, hfound, horders, hout⟩ := updateStatus_commits h
  exact .updated orderId s now _ hfound horders hout (he s hs) rfl

theorem World.step_outboxWrite {w w' : World} {e : Event} (h : w.step e = some w') :
    OutboxWrite w.db w'.db := by
  cases e with
  | intake e =>
    obtain ⟨iw, hiw, rfl⟩ := Option.map_eq_some'.mp h
    rcases IntakeWorld.step_db createOrder hiw with ⟨hdb, -⟩ | ⟨req, ok, v, hc, -⟩
    · exact .keep hdb
    · obtain ⟨o, ho, -⟩ := createOrder_ok hc
      obtain ⟨row, rows, hrow, -, -, -, -, horders, -, hout⟩ := createWithOutbox_ok ho
      exact .created _ _ horders hout rfl (insertOrder_id hrow).symm
  | updateOrderStatus orderId status ok =>
    simp only [World.step] at h
    split at h <;> cases h
    · exact .updateStatus (updateOrderStatus_ok ‹_›) fun _ => statusEvent_ne_created
    · exact .keep rfl
  | cancelOrder orderId reason => cases h; exact .keep rfl
  | cancelNext c ok =>
    simp only [World.step] at h
    split at h
    · rename_i call _
      cases h
      rcases cancelStep_db w.db w.nextId w.now ok call with ⟨hdb, -⟩ | ⟨hu, -⟩
      · exact .keep hdb
      · exact .updateStatus hu fun _ _ => by decide
    · cases h

section Process

variable (sha256Hex : String → String)

theorem processStep_outboxWrite (db : Tables) (now : Int) (ok : Bool) (p : Publisher) :
    OutboxWrite db (processStep sha256Hex db now ok p).1 := by
  rcases processStep_db sha256Hex db now ok p with hdb | ⟨event, -, -, -, hdb⟩ <;> rw [hdb]
  · exact .keep rfl
  · exact .marked event.id now rfl rfl

end Process

/-! ### The invariant -/

/-- The orders whose creation `outbox` announces: the aggregate ids of its `order.created` rows, in
the order the rows were written. -/
def announcedOrders (outbox : List OutboxRow) : List String :=
  (outbox.filter (·.eventType == "order.created")).map (·.aggregateId)

@[simp] theorem announcedOrders_append (rows rows' : List OutboxRow) :
    announcedOrders (rows ++ rows') = announcedOrders rows ++ announcedOrders rows' := by
  simp [announcedOrders]

@[simp] theorem eventType_markRow (eventId : String) (now : Int) (r : OutboxRow) :
    (markRow eventId now r).eventType = r.eventType := by
  unfold markRow; split <;> rfl

@[simp] theorem aggregateId_markRow (eventId : String) (now : Int) (r : OutboxRow) :
    (markRow eventId now r).aggregateId = r.aggregateId := by
  unfold markRow; split <;> rfl

@[simp] theorem announcedOrders_map_markRow (rows : List OutboxRow) (eventId : String) (now : Int) :
    announcedOrders (rows.map (markRow eventId now)) = announcedOrders rows := by
  simp [announcedOrders, List.filter_map, Function.comp_def]

/-- What `outbox` says of `orders`. -/
structure OutboxAnnounces (db : Tables) : Prop where
  /-- The `order.created` rows announce the orders, in the order they were written. -/
  created : announcedOrders db.outbox = db.orders.map (·.id)
  /-- Every row is about an order. -/
  about : ∀ r ∈ db.outbox, r.aggregateId ∈ db.orders.map (·.id)

theorem OutboxAnnounces.write {db db' : Tables} (hd : OutboxAnnounces db) (h : OutboxWrite db db') :
    OutboxAnnounces db' := by
  cases h with
  | keep h => exact h ▸ hd
  | created row event horders hout htype hagg =>
    refine ⟨?_, fun r hr => ?_⟩
    · rw [hout, horders, announcedOrders_append, hd.created, List.map_append]
      simp [announcedOrders, htype, hagg]
    · rw [horders, List.map_append]
      rw [hout] at hr
      rcases List.mem_append.mp hr with hr | hr
      · exact List.mem_append_left _ (hd.about r hr)
      · rw [List.mem_singleton.mp hr, hagg]
        exact List.mem_append_right _ (List.mem_singleton_self _)
  | updated orderId s now event hfound horders hout htype hagg =>
    have hids : db'.orders.map (·.id) = db.orders.map (·.id) := by
      rw [horders, map_id_setOrderStatus]
    refine ⟨?_, fun r hr => ?_⟩
    · rw [hids, hout, announcedOrders_append, hd.created]
      simp [announcedOrders, htype]
    · rw [hids]
      rw [hout] at hr
      rcases List.mem_append.mp hr with hr | hr
      · exact hd.about r hr
      · rw [List.mem_singleton.mp hr, hagg]
        simpa using hfound
  | marked eventId now horders hout =>
    refine ⟨by rw [hout, horders, announcedOrders_map_markRow]; exact hd.created, fun r hr => ?_⟩
    rw [hout] at hr
    obtain ⟨r₀, hr₀, rfl⟩ := List.mem_map.mp hr
    rw [horders, aggregateId_markRow]
    exact hd.about r₀ hr₀

section Process

variable (sha256Hex : String → String)

/-- What holds of the order tables in every reachable state of the system. -/
structure System.Announces (s : System) : Prop where
  fresh : OrdersFresh s.orders.nextId s.orders.db.orders
  announces : OutboxAnnounces s.orders.db

theorem System.Announces.init : System.init.Announces :=
  ⟨World.init_ordersFresh, ⟨rfl, fun _ h => nomatch h⟩⟩

theorem System.Announces.step {s s' : System} {e : SystemEvent} (hs : s.Announces)
    (h : System.step sha256Hex s e = some s') : s'.Announces := by
  cases e with
  | order e =>
    obtain ⟨w, hw, rfl⟩ := Option.map_eq_some'.mp h
    exact ⟨((World.step_ordersStep hw).fresh hs.fresh).1,
      hs.announces.write (World.step_outboxWrite hw)⟩
  | startPublisher => cases h; exact ⟨hs.fresh, hs.announces⟩
  | process i ok =>
    simp only [System.step] at h
    split at h
    · rename_i p _
      cases h
      have hw := processStep_outboxWrite sha256Hex s.orders.db s.orders.now ok p
      refine ⟨?_, hs.announces.write hw⟩
      rcases processStep_db sha256Hex s.orders.db s.orders.now ok p with hdb | ⟨_, -, -, -, hdb⟩ <;>
        simp only [hdb] <;> exact hs.fresh
    · cases h

theorem System.Announces.run {s s' : System} {es : List SystemEvent} (hs : s.Announces)
    (h : System.run sha256Hex s es = some s') : s'.Announces := by
  induction es generalizing s with
  | nil => cases h; exact hs
  | cons e es ih =>
    obtain ⟨s₁, h₁, h₂⟩ := Option.bind_eq_some.mp h
    exact ih (hs.step sha256Hex h₁) h₂

/-- In any run of the order service with any number of publishers, whatever fails, the
`order.created` rows of `outbox` announce the orders, in the order they were written, one row
each; and every row of `outbox` is about an order. -/
theorem outbox_announces_orders {es : List SystemEvent} {s : System}
    (h : System.run sha256Hex System.init es = some s) :
    announcedOrders s.orders.db.outbox = s.orders.db.orders.map (·.id) ∧
      (s.orders.db.orders.map (·.id)).Nodup ∧
      ∀ r ∈ s.orders.db.outbox, r.aggregateId ∈ s.orders.db.orders.map (·.id) :=
  have hs := System.Announces.init.run sha256Hex h
  ⟨hs.announces.created, hs.fresh.ids_nodup, hs.announces.about⟩

end Process

/-- The order of `bothFetch` paid, a status PostgreSQL does not know refused, and the row of the
payment published. -/
def paidThenPublished : List SystemEvent :=
  bothFetch ++ [.order (.updateOrderStatus "0" "paid" true),
    .order (.updateOrderStatus "0" "created" true)] ++ publishAt 0 5000000000

/-- The system `paidThenPublished` reaches. -/
def paidPublished : System := (System.run id .init paidThenPublished).getD .init

theorem outbox_announces_orders_paid :
    System.run id .init paidThenPublished = some paidPublished ∧
      paidPublished.orders.db.outbox.length = 2 ∧
      announcedOrders paidPublished.orders.db.outbox = paidPublished.orders.db.orders.map (·.id) ∧
      (paidPublished.orders.db.orders.map (·.id)).Nodup ∧
      ∀ r ∈ paidPublished.orders.db.outbox, r.aggregateId ∈ paidPublished.orders.db.orders.map (·.id) :=
  ⟨rfl, rfl, @outbox_announces_orders id paidThenPublished paidPublished rfl⟩

end Coldy.Orders
