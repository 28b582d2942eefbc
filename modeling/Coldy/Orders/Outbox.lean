import Coldy.Orders.Service
import Mathlib.Data.List.Sort

/-!
# The outbox publisher

`outbox.Publisher` polls `outbox`.  Each round of `processEvents` reads up to 100 unpublished rows
(`GetUnpublishedEvents`), decoding each payload into a `map[string]interface{}`; for each event it
publishes a message to the Pub/Sub topic named by the event type (`publishEvent`) and, if that
succeeded, marks the row published (`MarkEventPublished`).  Any number of publishers run beside the
order service (`System`): each takes one query, publish or update per step, which succeeds or fails
at the environment's choice.

* A row's columns other than `published` and `published_at` never change, and a published row
  stays published (`outbox_rows_keep_event`).
* Every payload the order service writes decodes (`createdPayload_plain`).
* A row is published only after some publisher has published its message: the decoded payload
  marshalled again as data, which is the payload's JSON with its keys sorted when its numbers are
  below `2^53` (a larger one comes back rounded to a `float64`), and its id, aggregate, event type
  and `generateMessageID` of its id as attributes (`published_rows_have_messages`).
* `MarkEventPublished` has no `published = false` guard: a publisher that fetched a row before
  another marked it publishes it again and rewrites its `published_at`.
-/

namespace Coldy.Orders

open Coldy.Json Coldy.Idempotency Coldy.Sql

/-! ### Messages -/

/-- A Pub/Sub message: its topic, data and attributes. -/
structure Message where
  topic : String
  data : List Nat
  attributes : List (String × String)

/-- `repository.OutboxEvent` as `GetUnpublishedEvents` scans it: the fields `processEvents` reads,
the payload decoded into a `map[string]interface{}`. -/
structure OutboxEvent where
  id : String
  aggregateType : String
  aggregateId : String
  eventType : String
  payload : GoValue

/-- Scanning a row: `json.Unmarshal` of its payload into the event's `Payload`. -/
def OutboxRow.decode (r : OutboxRow) : Except TypeError OutboxEvent :=
  (unmarshal (.map .interface) r.payload).map fun p =>
    ⟨r.id, r.aggregateType, r.aggregateId, r.eventType, p⟩

theorem OutboxRow.decode_ok {r : OutboxRow} {e : OutboxEvent} (h : r.decode = .ok e) :
    e.id = r.id ∧ e.eventType = r.eventType ∧
      unmarshal (.map .interface) r.payload = .ok e.payload := by
  unfold OutboxRow.decode at h
  cases hp : unmarshal (.map .interface) r.payload <;> rw [hp] at h <;> cases h
  exact ⟨rfl, rfl, rfl⟩

/-- A row whose payload is what `json.Marshal` writes of a plain map decodes. -/
theorem OutboxRow.decode_of_plain {r : OutboxRow} {fs : List (String × GoValue)}
    (hp : r.payload = (GoValue.map fs).marshal) (h : (GoValue.map fs).plain = true) :
    ∃ e, r.decode = .ok e := by
  obtain ⟨g, hg⟩ := unmarshal_map_plain h
  exact ⟨_, by simp only [OutboxRow.decode, hp, hg]; rfl⟩

section Publish

variable (sha256Hex : String → String)

/-- `Publisher.generateMessageID`: the hex SHA-256 of the row id, `sha256Hex` standing for
`hex.EncodeToString(sha256.Sum256(...))`. -/
def generateMessageID (outboxID : String) : String := sha256Hex outboxID

/-- The message `Publisher.publishEvent` publishes for an event: the `json.Marshal` of its
payload. -/
def publishEvent (event : OutboxEvent) : Message :=
  ⟨event.eventType, marshalBytes event.payload,
    [("event_id", event.id), ("aggregate_type", event.aggregateType),
      ("aggregate_id", event.aggregateId), ("event_type", event.eventType),
      ("message_id", generateMessageID sha256Hex event.id)]⟩

/-- The data of a row's message, for a safe payload, is the payload's JSON with its keys sorted. -/
theorem publishEvent_data_safe {r : OutboxRow} {e : OutboxEvent} (h : r.decode = .ok e)
    (hs : r.payload.safe = true) :
    (publishEvent sha256Hex e).data = utf8 r.payload.sorted.encode := by
  simp only [publishEvent, marshalBytes, unmarshal_map_safe hs (OutboxRow.decode_ok h).2.2]

end Publish

/-- The columns of a row that `MarkEventPublished` does not write. -/
def OutboxRow.event (r : OutboxRow) : String × String × String × String × JsonValue × Int :=
  (r.id, r.aggregateType, r.aggregateId, r.eventType, r.payload, r.createdAt)

theorem OutboxRow.decode_congr {r r' : OutboxRow} (h : r.event = r'.event) :
    r.decode = r'.decode := by
  simp only [OutboxRow.event, Prod.mk.injEq] at h
  simp only [OutboxRow.decode, h]

/-! ### The repository's outbox statements -/

/-- `ORDER BY created_at`, rows of one `created_at` in the order they were written (a stable
insertion sort). -/
def orderByCreatedAt (rows : List OutboxRow) : List OutboxRow :=
  @List.insertionSort _ (fun a b => a.createdAt ≤ b.createdAt)
    (fun a b => Int.decLe a.createdAt b.createdAt) rows

/-- The scan loop of `GetUnpublishedEvents`: each row decoded in turn, or the first error. -/
def scanEvents : List OutboxRow → Except String (List OutboxEvent)
  | [] => .ok []
  | r :: rows =>
    match r.decode with
    | .error e => .error ("failed to unmarshal payload: " ++ e.message)
    | .ok event => (scanEvents rows).map (event :: ·)

/-- Scanned rows give one event each, in order, under the row's id. -/
theorem scanEvents_ok : ∀ {rows : List OutboxRow} {events : List OutboxEvent},
    scanEvents rows = .ok events →
      events.map (·.id) = rows.map (·.id) ∧ ∀ e ∈ events, ∃ r ∈ rows, r.decode = .ok e
  | [], _, h => by cases h; exact ⟨rfl, fun _ h => nomatch h⟩
  | r :: rows, events, h => by
    simp only [scanEvents] at h
    split at h
    · cases h
    · rename_i event hr
      cases hs : scanEvents rows <;> rw [hs] at h <;> cases h
      obtain ⟨hids, hmem⟩ := scanEvents_ok hs
      refine ⟨by simp only [List.map_cons, hids, (OutboxRow.decode_ok hr).1], fun e he => ?_⟩
      rcases List.mem_cons.mp he with rfl | he
      · exact ⟨r, List.mem_cons_self _ _, hr⟩
      · obtain ⟨r', hr', hd⟩ := hmem e he
        exact ⟨r', List.mem_cons_of_mem _ hr', hd⟩

theorem scanEvents_of_decode : ∀ {rows : List OutboxRow},
    (∀ r ∈ rows, ∃ e, r.decode = .ok e) → ∃ events, scanEvents rows = .ok events
  | [], _ => ⟨[], rfl⟩
  | r :: rows, h => by
    obtain ⟨e, he⟩ := h r (List.mem_cons_self _ _)
    obtain ⟨events, hs⟩ := scanEvents_of_decode fun r' hr' => h r' (List.mem_cons_of_mem _ hr')
    exact ⟨e :: events, by simp only [scanEvents, he, hs]; rfl⟩

/-- `OrderRepository.GetUnpublishedEvents(limit)`, its query succeeding iff `ok`: the unpublished
rows by `created_at`, at most `limit`, scanned. -/
def getUnpublishedEvents (db : Tables) (limit : Nat) (ok : Bool) :
    Except String (List OutboxEvent) :=
  if ok then scanEvents ((orderByCreatedAt (db.outbox.filter (!·.published))).take limit)
  else .error ("failed to get unpublished events: " ++ errDatabase)

theorem mem_getUnpublishedEvents {db : Tables} {limit : Nat} {ok : Bool} {events : List OutboxEvent}
    (h : getUnpublishedEvents db limit ok = .ok events) :
    ∀ e ∈ events, ∃ r ∈ db.outbox, r.decode = .ok e := by
  unfold getUnpublishedEvents at h
  split at h
  · intro e he
    obtain ⟨r, hr, hd⟩ := (scanEvents_ok h).2 e he
    exact ⟨r, (List.mem_filter.mp (List.mem_insertionSort _ |>.mp (List.mem_of_mem_take hr))).1, hd⟩
  · cases h

/-- `MarkEventPublished`'s write to one row. -/
def markRow (eventId : String) (now : Int) (r : OutboxRow) : OutboxRow :=
  if r.id = eventId then { r with published := true, publishedAt := some now } else r

@[simp] theorem event_markRow (eventId : String) (now : Int) (r : OutboxRow) :
    (markRow eventId now r).event = r.event := by
  unfold markRow; split <;> rfl

@[simp] theorem id_markRow (eventId : String) (now : Int) (r : OutboxRow) :
    (markRow eventId now r).id = r.id := by
  unfold markRow; split <;> rfl

@[simp] theorem decode_markRow (eventId : String) (now : Int) (r : OutboxRow) :
    (markRow eventId now r).decode = r.decode :=
  OutboxRow.decode_congr (event_markRow eventId now r)

/-- `OrderRepository.MarkEventPublished(eventId)` at time `now`, its statement succeeding iff `ok`:
`UPDATE outbox SET published = true, published_at = now WHERE id = eventId`. -/
def markEventPublished (db : Tables) (eventId : String) (now : Int) (ok : Bool) :
    Except String Tables :=
  if !ok then .error ("failed to mark event published: " ++ errDatabase)
  else if db.outbox.any (·.id = eventId) then
    .ok { db with outbox := db.outbox.map (markRow eventId now) }
  else .error "event not found"

theorem markEventPublished_ok {db db' : Tables} {eventId : String} {now : Int} {ok : Bool}
    (h : markEventPublished db eventId now ok = .ok db') :
    db' = { db with outbox := db.outbox.map (markRow eventId now) } := by
  unfold markEventPublished at h
  split at h
  · cases h
  · split at h <;> cases h
    rfl

/-! ### How rows change -/

/-- How a row may change: its event stays, and once published it stays published. -/
structure RowStep (r r' : OutboxRow) : Prop where
  event : r'.event = r.event
  published : r.published → r'.published

/-- `outbox` before and after: every row is still at its place, changed only as `RowStep` allows. -/
def OutboxGrows (rows rows' : List OutboxRow) : Prop :=
  ∀ (i : Nat) (r : OutboxRow), rows[i]? = some r → ∃ r', rows'[i]? = some r' ∧ RowStep r r'

theorem OutboxGrows.refl (rows : List OutboxRow) : OutboxGrows rows rows :=
  fun _ r h => ⟨r, h, rfl, id⟩

theorem OutboxGrows.trans {rows₁ rows₂ rows₃ : List OutboxRow} (h₁ : OutboxGrows rows₁ rows₂)
    (h₂ : OutboxGrows rows₂ rows₃) : OutboxGrows rows₁ rows₃ := fun i r h => by
  obtain ⟨r₂, h₂', s₁⟩ := h₁ i r h
  obtain ⟨r₃, h₃, s₂⟩ := h₂ i r₂ h₂'
  exact ⟨r₃, h₃, s₂.event.trans s₁.event, s₂.published ∘ s₁.published⟩

theorem OutboxGrows.append (rows extra : List OutboxRow) : OutboxGrows rows (rows ++ extra) :=
  fun i r h => ⟨r, by rw [List.getElem?_append_left (List.getElem?_eq_some_iff.mp h).1, h], rfl, id⟩

theorem OutboxGrows.map_markRow (rows : List OutboxRow) (eventId : String) (now : Int) :
    OutboxGrows rows (rows.map (markRow eventId now)) := fun i r h => by
  refine ⟨markRow eventId now r, by simp [h], event_markRow _ _ _, fun hp => ?_⟩
  unfold markRow; split <;> simp [hp]

theorem OutboxGrows.keeps_event {rows rows' : List OutboxRow} (h : OutboxGrows rows rows')
    {r : OutboxRow} (hr : r ∈ rows) : ∃ r' ∈ rows', r'.event = r.event := by
  obtain ⟨i, hi⟩ := List.getElem?_of_mem hr
  obtain ⟨r', hr', s⟩ := h i r hi
  exact ⟨r', List.getElem?_mem hr', s.event⟩

theorem OutboxGrows.keeps_decode {rows rows' : List OutboxRow} (h : OutboxGrows rows rows')
    {r : OutboxRow} (hr : r ∈ rows) {e : OutboxEvent} (he : r.decode = .ok e) :
    ∃ r' ∈ rows', r'.decode = .ok e := by
  obtain ⟨r', hr', hev⟩ := h.keeps_event hr
  exact ⟨r', hr', (OutboxRow.decode_congr hev).trans he⟩

/-! ### What the order service writes to `outbox` -/

theorem wrapInt64_fits (x : Int) : fitsInt 64 (wrapInt64 x) = true := by
  simp [fitsInt, wrapInt64]
  omega

theorem fitsInt_64_of_32 {n : Int} (h : fitsInt 32 n = true) : fitsInt 64 n = true := by
  simp [fitsInt] at h ⊢
  omega

theorem orderTotal_fits (items : List OrderItemRequest) : fitsInt 64 (orderTotal items) = true := by
  suffices ∀ acc, fitsInt 64 acc = true →
      fitsInt 64 (items.foldl (fun acc i => wrapInt64 (acc + lineTotal i)) acc) = true from
    this 0 rfl
  induction items with
  | nil => exact fun _ h => h
  | cons i is ih => exact fun acc _ => ih _ (wrapInt64_fits _)

theorem toGo_plain (i : OrderItemRequest) : i.toGo.plain = true := by
  simp [OrderItemRequest.toGo, GoValue.plain, plainMembers, fitsInt_64_of_32 i.quantity_fits,
    i.unitPrice.amount_fits]

/-- The `order.created` payload holds strings and `int64`s only: the total wraps into an `int64`,
and a request's quantities are `int32`s and its amounts `int64`s. -/
theorem createdPayload_plain (req : CreateOrderRequest) :
    (createdPayload req (newOrder req)).plain = true := by
  have hitems : (if req.items = [] then GoValue.null
      else .slice (req.items.map OrderItemRequest.toGo)).plain = true := by
    split
    · rfl
    · show plainElems _ = true
      induction req.items with
      | nil => rfl
      | cons i is ih => simp only [List.map_cons, plainElems, toGo_plain, ih, Bool.and_self]
  simp only [createdPayload, GoValue.plain, plainMembers, hitems, newOrder, orderTotal_fits,
    Bool.and_self]

/-- What a step of the order service does to `outbox`: nothing, or it appends one unpublished row
whose id is fresh from the counter and whose payload decodes; the counter only grows. -/
structure AppendsFresh (w w' : World) : Prop where
  nextId_le : w.nextId ≤ w'.nextId
  outbox : w'.db.outbox = w.db.outbox ∨ ∃ r, w'.db.outbox = w.db.outbox ++ [r] ∧
    r.published = false ∧ (∃ k, w.nextId ≤ k ∧ k < w'.nextId ∧ r.id = freshId k) ∧
    ∃ e, r.decode = .ok e

theorem World.step_appendsFresh {w w' : World} {e : Event} (h : w.step e = some w') :
    AppendsFresh w w' := by
  cases e with
  | intake e =>
    obtain ⟨iw, hiw, rfl⟩ := Option.map_eq_some'.mp h
    rcases IntakeWorld.step_db createOrder hiw with ⟨hdb, hid⟩ | ⟨req, ok, v, hc, hid⟩
    · exact ⟨Nat.le_of_eq hid.symm, .inl (congrArg Tables.outbox hdb)⟩
    · obtain ⟨row, items, ev, hdb, -, hpub, hev, hpay⟩ := createOrder_create hc
      have hids : createOrder.ids req = req.items.length + 2 := rfl
      refine ⟨by simp only [hid]; omega, .inr ⟨ev, ?_, hpub, ⟨w.nextId + 1 + req.items.length,
        by omega, ?_, hev⟩, OutboxRow.decode_of_plain hpay (createdPayload_plain req)⟩⟩
      · exact congrArg Tables.outbox hdb
      · simp only [hid, hids]; omega
  | updateOrderStatus orderId status ok =>
    simp only [World.step] at h
    split at h <;> cases h
    · rename_i db hdb
      obtain ⟨r, hout, hpub, hid, hpay⟩ := updateStatus_ok (updateOrderStatus_ok hdb)
      exact ⟨Nat.le_succ _, .inr ⟨r, hout, hpub, ⟨w.nextId, Nat.le_refl _, Nat.lt_succ_self _, hid⟩,
        OutboxRow.decode_of_plain hpay rfl⟩⟩
    · exact ⟨Nat.le_refl _, .inl rfl⟩
  | cancelOrder orderId reason => cases h; exact ⟨Nat.le_refl _, .inl rfl⟩
  | cancelNext c ok =>
    simp only [World.step] at h
    split at h
    · rename_i call _
      cases h
      rcases cancelStep_db w.db w.nextId w.now ok call with ⟨hdb, hid⟩ | ⟨hu, hid⟩
      · exact ⟨Nat.le_of_eq hid.symm, .inl (congrArg Tables.outbox hdb)⟩
      · obtain ⟨r, hout, hpub, hrid, hpay⟩ := updateStatus_ok hu
        exact ⟨by simp only [hid]; omega, .inr ⟨r, hout, hpub, ⟨w.nextId, Nat.le_refl _,
          by simp only [hid]; omega, hrid⟩, OutboxRow.decode_of_plain hpay rfl⟩⟩
    · cases h

/-! ### Publishers -/

/-- Where a publisher is in `processEvents`. -/
inductive PublisherStep
  /-- Waiting for its ticker; `GetUnpublishedEvents` is next. -/
  | idle
  /-- The first fetched row is to be published. -/
  | publish
  /-- The first fetched row was published; `MarkEventPublished` is next. -/
  | mark
  deriving DecidableEq, Repr

/-- A publisher: the fetched events it has not handled yet, and its next step. -/
structure Publisher where
  events : List OutboxEvent
  step : PublisherStep

/-- On to the rest of the fetched events, or back to the ticker when there are none. -/
def Publisher.next (events : List OutboxEvent) : Publisher :=
  ⟨events, if events.isEmpty then .idle else .publish⟩

section Process

variable (sha256Hex : String → String)

/-- One step of `processEvents` at time `now`, its query, publish or update succeeding iff `ok`:
the new tables, the message published if any, and the publisher's new state.  A failure is logged
and the loop goes on with the next row. -/
def processStep (db : Tables) (now : Int) (ok : Bool) (p : Publisher) :
    Tables × Option Message × Publisher :=
  match p.step, p.events with
  | .idle, _ =>
    match getUnpublishedEvents db 100 ok with
    | .ok events => (db, none, .next events)
    | .error _ => (db, none, .next [])
  | .publish, event :: rest =>
    if ok then (db, some (publishEvent sha256Hex event), ⟨event :: rest, .mark⟩)
    else (db, none, .next rest)
  | .mark, event :: rest =>
    match markEventPublished db event.id now ok with
    | .ok db' => (db', none, .next rest)
    | .error _ => (db, none, .next rest)
  | _, [] => (db, none, .next [])

/-- The order service, its outbox publishers, and the messages Pub/Sub has accepted. -/
structure System where
  orders : World
  publishers : List Publisher
  messages : List Message

/-- Nothing running, and no message. -/
def System.init : System := ⟨.init, [], []⟩

/-- The events of the system. -/
inductive SystemEvent
  | order (e : Event)
  | startPublisher
  | process (publisher : Nat) (ok : Bool)

/-- One step. -/
def System.step (s : System) : SystemEvent → Option System
  | .order e => (s.orders.step e).map fun w => { s with orders := w }
  | .startPublisher => some { s with publishers := s.publishers ++ [⟨[], .idle⟩] }
  | .process i ok =>
    match s.publishers[i]? with
    | some p =>
      let (db, m, p') := processStep sha256Hex s.orders.db s.orders.now ok p
      some ⟨{ s.orders with db := db }, s.publishers.set i p', s.messages ++ m.toList⟩
    | none => none

/-- Run a list of events. -/
def System.run (s : System) : List SystemEvent → Option System
  | [] => some s
  | e :: es => (System.step sha256Hex s e).bind fun s' => System.run s' es

/-! ### A publisher's own invariant -/

/-- What a publisher holds: events decoded from rows of `outbox`, and, when it is about to mark the
first, the message of that event has been published. -/
structure Publisher.Ok (outbox : List OutboxRow) (messages : List Message) (p : Publisher) :
    Prop where
  fetched : ∀ e ∈ p.events, ∃ r ∈ outbox, r.decode = .ok e
  marking : p.step = .mark →
    ∃ e rest, p.events = e :: rest ∧ publishEvent sha256Hex e ∈ messages

theorem Publisher.Ok.mono {outbox outbox' : List OutboxRow} {messages messages' : List Message}
    {p : Publisher} (hp : p.Ok sha256Hex outbox messages) (ho : OutboxGrows outbox outbox')
    (hm : messages ⊆ messages') : p.Ok sha256Hex outbox' messages' := by
  refine ⟨fun e he => ?_, fun h => ?_⟩
  · obtain ⟨r, hr, hd⟩ := hp.fetched e he
    exact ho.keeps_decode hr hd
  · obtain ⟨e, rest, hev, hmem⟩ := hp.marking h
    exact ⟨e, rest, hev, hm hmem⟩

theorem Publisher.next_ok {outbox : List OutboxRow} {messages : List Message}
    {events : List OutboxEvent} (h : ∀ e ∈ events, ∃ r ∈ outbox, r.decode = .ok e) :
    (Publisher.next events).Ok sha256Hex outbox messages :=
  ⟨h, fun hm => by unfold Publisher.next at hm; split at hm <;> cases hm⟩

/-- What one step of `processEvents` does to the tables: nothing, or it marks the first fetched
row, when that was the step to take. -/
theorem processStep_db (db : Tables) (now : Int) (ok : Bool) (p : Publisher) :
    (processStep sha256Hex db now ok p).1 = db ∨
      ∃ event rest, p.step = .mark ∧ p.events = event :: rest ∧
        (processStep sha256Hex db now ok p).1 =
          { db with outbox := db.outbox.map (markRow event.id now) } := by
  rcases p with ⟨events, step⟩
  unfold processStep
  split
  · split <;> exact .inl rfl
  · split <;> exact .inl rfl
  · split
    · exact .inr ⟨_, _, ‹_›, ‹_›, markEventPublished_ok ‹_›⟩
    · exact .inl rfl
  · exact .inl rfl

/-- One step of `processEvents` keeps the publisher's invariant, over the tables it read and the
messages with the one it published. -/
theorem processStep_ok {db : Tables} {now : Int} {ok : Bool} {p : Publisher}
    {messages : List Message} (hp : p.Ok sha256Hex db.outbox messages) :
    (processStep sha256Hex db now ok p).2.2.Ok sha256Hex db.outbox
      (messages ++ (processStep sha256Hex db now ok p).2.1.toList) := by
  rcases p with ⟨events, step⟩
  have rest_ok : ∀ event rest, events = event :: rest →
      (Publisher.next rest).Ok sha256Hex db.outbox (messages ++ []) := fun _ _ he =>
    Publisher.next_ok sha256Hex fun r hr => hp.fetched r (he ▸ List.mem_cons_of_mem _ hr)
  unfold processStep
  split
  · split
    · exact Publisher.next_ok sha256Hex (mem_getUnpublishedEvents ‹_›)
    · exact Publisher.next_ok sha256Hex (by simp)
  · rename_i event rest _ he
    split
    · exact ⟨fun r hr => hp.fetched r (he ▸ hr), fun _ => ⟨event, rest, rfl, by simp⟩⟩
    · exact rest_ok event rest he
  · rename_i event rest _ he
    split <;> exact rest_ok event rest he
  · exact Publisher.next_ok sha256Hex (by simp)

/-! ### Runs -/

/-- What holds of `outbox`: its ids are fresh ids, one row each, every payload decodes, and a
published row's message has been published. -/
structure OutboxInv (nextId : Nat) (messages : List Message) (outbox : List OutboxRow) : Prop where
  fresh : ∀ r ∈ outbox, ∃ k < nextId, r.id = freshId k
  unique : ∀ r₁ ∈ outbox, ∀ r₂ ∈ outbox, r₁.id = r₂.id → r₁ = r₂
  decodes : ∀ r ∈ outbox, ∃ e, r.decode = .ok e
  published : ∀ r ∈ outbox, r.published →
    ∃ e, r.decode = .ok e ∧ publishEvent sha256Hex e ∈ messages

theorem OutboxInv.mono {nextId nextId' : Nat} {messages messages' : List Message}
    {outbox : List OutboxRow} (h : OutboxInv sha256Hex nextId messages outbox)
    (hn : nextId ≤ nextId') (hm : messages ⊆ messages') :
    OutboxInv sha256Hex nextId' messages' outbox := by
  refine ⟨fun r hr => ?_, h.unique, h.decodes, fun r hr hp => ?_⟩
  · obtain ⟨k, hk, hid⟩ := h.fresh r hr
    exact ⟨k, by omega, hid⟩
  · obtain ⟨e, he, hsent⟩ := h.published r hr hp
    exact ⟨e, he, hm hsent⟩

/-- Appending an unpublished row that decodes, under an id fresh from the counter, keeps the
invariant. -/
theorem OutboxInv.append {nextId nextId' k : Nat} {messages : List Message}
    {outbox : List OutboxRow} {r : OutboxRow} (h : OutboxInv sha256Hex nextId messages outbox)
    (hk : nextId ≤ k) (hk' : k < nextId') (hid : r.id = freshId k) (hpub : r.published = false)
    (hdec : ∃ e, r.decode = .ok e) :
    OutboxInv sha256Hex nextId' messages (outbox ++ [r]) := by
  have hnew : ∀ r' ∈ outbox, r'.id ≠ r.id := fun r' hr' he => by
    obtain ⟨k', hk'', hid'⟩ := h.fresh r' hr'
    have := freshId_injective (hid'.symm.trans (he.trans hid))
    omega
  refine ⟨fun r' hr' => ?_, fun r₁ h₁ r₂ h₂ he => ?_, fun r' hr' => ?_,
    fun r' hr' hp => ?_⟩
  · rcases List.mem_append.mp hr' with hr' | hr'
    · obtain ⟨k', hk'', hid'⟩ := h.fresh r' hr'
      exact ⟨k', by omega, hid'⟩
    · exact ⟨k, hk', List.mem_singleton.mp hr' ▸ hid⟩
  · rcases List.mem_append.mp h₁ with h₁ | h₁ <;> rcases List.mem_append.mp h₂ with h₂ | h₂
    · exact h.unique r₁ h₁ r₂ h₂ he
    · exact absurd (List.mem_singleton.mp h₂ ▸ he) (hnew r₁ h₁)
    · exact absurd (List.mem_singleton.mp h₁ ▸ he.symm) (hnew r₂ h₂)
    · rw [List.mem_singleton.mp h₁, List.mem_singleton.mp h₂]
  · rcases List.mem_append.mp hr' with hr' | hr'
    · exact h.decodes r' hr'
    · exact List.mem_singleton.mp hr' ▸ hdec
  · rcases List.mem_append.mp hr' with hr' | hr'
    · exact h.published r' hr' hp
    · rw [List.mem_singleton.mp hr', hpub] at hp; cases hp

/-- Marking the rows of a fetched event's id, once its message is published, keeps the invariant:
the one row of that id is the row the event was decoded from. -/
theorem OutboxInv.map_markRow {nextId : Nat} {messages : List Message} {outbox : List OutboxRow}
    {event : OutboxEvent} (now : Int) (h : OutboxInv sha256Hex nextId messages outbox)
    (hsent : publishEvent sha256Hex event ∈ messages)
    (hfetched : ∃ r ∈ outbox, r.decode = .ok event) :
    OutboxInv sha256Hex nextId messages (outbox.map (markRow event.id now)) := by
  refine ⟨?_, ?_, ?_, ?_⟩ <;> simp only [List.mem_map]
  · rintro _ ⟨r, hr, rfl⟩
    simpa using h.fresh r hr
  · rintro _ ⟨r₁, h₁, rfl⟩ _ ⟨r₂, h₂, rfl⟩ he
    rw [h.unique r₁ h₁ r₂ h₂ (by simpa using he)]
  · rintro _ ⟨r, hr, rfl⟩
    simpa using h.decodes r hr
  · rintro _ ⟨r, hr, rfl⟩ hp
    obtain ⟨r', hr', he⟩ := hfetched
    by_cases hid : r.id = event.id
    · have hsame : r = r' := h.unique r hr r' hr' (hid.trans (OutboxRow.decode_ok he).1)
      exact ⟨event, by rw [decode_markRow, hsame, he], hsent⟩
    · have hkeep : markRow event.id now r = r := if_neg hid
      rw [hkeep] at hp ⊢
      exact h.published r hr hp

/-- What holds of every reachable system: the invariant of `outbox`, and of every publisher. -/
structure System.Inv (s : System) : Prop where
  outbox : OutboxInv sha256Hex s.orders.nextId s.messages s.orders.db.outbox
  publishers : ∀ p ∈ s.publishers, p.Ok sha256Hex s.orders.db.outbox s.messages

theorem System.Inv.init : System.init.Inv sha256Hex :=
  ⟨⟨by simp [System.init, World.init], by simp [System.init, World.init],
    by simp [System.init, World.init], by simp [System.init, World.init]⟩,
    by simp [System.init]⟩

/-- Every step keeps the invariant. -/
theorem System.Inv.step {s s' : System} {e : SystemEvent} (hs : s.Inv sha256Hex)
    (h : System.step sha256Hex s e = some s') : s'.Inv sha256Hex := by
  cases e with
  | order e =>
    obtain ⟨w, hw, rfl⟩ := Option.map_eq_some'.mp h
    obtain ⟨hle, hout | ⟨r, hout, hpub, ⟨k, hk, hk', hid⟩, hdec⟩⟩ :=
      World.step_appendsFresh hw
    · refine ⟨?_, ?_⟩ <;> simp only [hout]
      exacts [hs.outbox.mono sha256Hex hle (List.Subset.refl _), hs.publishers]
    · refine ⟨?_, fun p hp => ?_⟩ <;> simp only [hout]
      · exact hs.outbox.append sha256Hex hk hk' hid hpub hdec
      · exact (hs.publishers p hp).mono sha256Hex (OutboxGrows.append _ _) (List.Subset.refl _)
  | startPublisher =>
    cases h
    refine ⟨hs.outbox, fun p hp => ?_⟩
    rcases List.mem_append.mp hp with hp | hp
    · exact hs.publishers p hp
    · rw [List.mem_singleton.mp hp]
      exact ⟨by simp, fun h => by cases h⟩
  | process i ok =>
    simp only [System.step] at h
    split at h
    · rename_i p hpi
      cases h
      have hp := hs.publishers p (List.getElem?_mem hpi)
      have hsub : s.messages ⊆ s.messages ++
          (processStep sha256Hex s.orders.db s.orders.now ok p).2.1.toList :=
        List.subset_append_left _ _
      have hdb : OutboxInv sha256Hex s.orders.nextId s.messages
            (processStep sha256Hex s.orders.db s.orders.now ok p).1.outbox ∧
          OutboxGrows s.orders.db.outbox (processStep sha256Hex s.orders.db s.orders.now ok p).1.outbox := by
        rcases processStep_db sha256Hex s.orders.db s.orders.now ok p with
          hdb | ⟨event, rest, hstep, hev, hdb⟩ <;> rw [hdb]
        · exact ⟨hs.outbox, .refl _⟩
        · obtain ⟨r, rest', hev', hsent⟩ := hp.marking hstep
          rw [hev] at hev'
          cases hev'
          exact ⟨hs.outbox.map_markRow sha256Hex s.orders.now hsent
            (hp.fetched event (hev ▸ List.mem_cons_self _ _)), .map_markRow _ _ _⟩
      refine ⟨hdb.1.mono sha256Hex (Nat.le_refl _) hsub, fun q hq => ?_⟩
      rcases List.mem_or_eq_of_mem_set hq with hq | rfl
      · exact (hs.publishers q hq).mono sha256Hex hdb.2 hsub
      · exact (processStep_ok sha256Hex hp).mono sha256Hex hdb.2 (List.Subset.refl _)
    · cases h

/-- Every run keeps the invariant. -/
theorem System.Inv.run {s s' : System} {es : List SystemEvent} (hs : s.Inv sha256Hex)
    (h : System.run sha256Hex s es = some s') : s'.Inv sha256Hex := by
  induction es generalizing s with
  | nil => cases h; exact hs
  | cons e es ih =>
    obtain ⟨s₁, h₁, h₂⟩ := Option.bind_eq_some.mp h
    exact ih (hs.step sha256Hex h₁) h₂

/-- In any run of the order service with any number of publishers, whatever fails, a published row
of `outbox` has had its message published: to the topic of its event type, with its payload decoded
into a `map[string]interface{}` and marshalled again as data, which is the payload's JSON with its
keys sorted when the payload is safe, and with its id, aggregate, event type and
`generateMessageID` of its id as attributes. -/
theorem published_rows_have_messages {es : List SystemEvent} {s : System}
    (h : System.run sha256Hex System.init es = some s) :
    ∀ r ∈ s.orders.db.outbox, r.published → ∃ e, r.decode = .ok e ∧
      publishEvent sha256Hex e ∈ s.messages ∧
      (r.payload.safe = true → (publishEvent sha256Hex e).data = utf8 r.payload.sorted.encode) := by
  intro r hr hp
  obtain ⟨e, he, hsent⟩ := ((System.Inv.init sha256Hex).run sha256Hex h).outbox.published r hr hp
  exact ⟨e, he, hsent, publishEvent_data_safe sha256Hex he⟩

/-- A step keeps every row of `outbox` at its place with its event, and a published row published. -/
theorem System.step_outboxGrows {s s' : System} {e : SystemEvent}
    (h : System.step sha256Hex s e = some s') :
    OutboxGrows s.orders.db.outbox s'.orders.db.outbox := by
  cases e with
  | order e =>
    obtain ⟨w, hw, rfl⟩ := Option.map_eq_some'.mp h
    rcases (World.step_appendsFresh hw).outbox with hout | ⟨r, hout, -⟩
    · exact hout ▸ OutboxGrows.refl _
    · exact hout ▸ OutboxGrows.append _ _
  | startPublisher => cases h; exact OutboxGrows.refl _
  | process i ok =>
    simp only [System.step] at h
    split at h
    · rename_i p _
      cases h
      rcases processStep_db sha256Hex s.orders.db s.orders.now ok p with hdb | ⟨event, -, -, -, hdb⟩
      · simp only [hdb]; exact OutboxGrows.refl _
      · simp only [hdb]; exact OutboxGrows.map_markRow _ _ _
    · cases h

/-- From any system, a run keeps every row of `outbox` at its place, with all its columns but
`published` and `published_at`, and a published row stays published. -/
theorem outbox_rows_keep_event {s s' : System} {es : List SystemEvent}
    (h : System.run sha256Hex s es = some s') :
    OutboxGrows s.orders.db.outbox s'.orders.db.outbox := by
  induction es generalizing s with
  | nil => cases h; exact OutboxGrows.refl _
  | cons e es ih =>
    obtain ⟨s₁, h₁, h₂⟩ := Option.bind_eq_some.mp h
    exact (System.step_outboxGrows sha256Hex h₁).trans (ih h₂)

end Process

/-! ### Two publishers, one row -/

/-- A `CreateOrder` writes its order, `"0"`, and its `order.created` row, `"2"`; two publishers
start and both fetch that row. -/
def bothFetch : List SystemEvent :=
  [.order (.intake (.start "k" ⟨"a0eebc99-9c0b-4ef8-bb6d-6bb9bd380a11",
    [⟨"6f1c2e9a-0b7d-4c55-9a3e-2d8f4b1c7e01", "Widget", 2, ⟨"USD", 500, rfl⟩, rfl⟩], "Main St 1",
    "Springfield", "", "", "US"⟩)), .order (.intake (.next 0 true)), .order (.intake (.next 0 true)),
    .startPublisher, .startPublisher, .process 0 true, .process 1 true]

/-- At time `t`, publisher `i` publishes its row and marks it. -/
def publishAt (i : Nat) (t : Int) : List SystemEvent :=
  [.order (.intake (.tick t)), .process i true, .process i true]

/-- The id, `published` and `published_at` of every row of `outbox`. -/
def publishedColumns (s : System) : List (String × Bool × Option Int) :=
  s.orders.db.outbox.map fun r => (r.id, r.published, r.publishedAt)

theorem markEventPublished_rewrites_published_at (sha256Hex : String → String) :
    (System.run sha256Hex .init (bothFetch ++ publishAt 0 5000000000)).map publishedColumns =
      some [("2", true, some 5000000000)] ∧
    (System.run sha256Hex .init (bothFetch ++ publishAt 0 5000000000 ++ publishAt 1 9000000000)).map
        (fun s => (publishedColumns s, s.messages.map (·.attributes))) =
      some ([("2", true, some 9000000000)],
        [[("event_id", "2"), ("aggregate_type", "order"), ("aggregate_id", "0"),
          ("event_type", "order.created"), ("message_id", sha256Hex "2")],
         [("event_id", "2"), ("aggregate_type", "order"), ("aggregate_id", "0"),
          ("event_type", "order.created"), ("message_id", sha256Hex "2")]]) :=
  ⟨rfl, rfl⟩

/-- The system once both publishers have fetched the row. -/
def bothFetched : System := (System.run id .init bothFetch).getD .init

/-- The system once the first publisher has published the row and marked it. -/
def publishedOnce : System := (System.run id .init (bothFetch ++ publishAt 0 5000000000)).getD .init

theorem published_rows_have_messages_publishedOnce :
    System.run id .init (bothFetch ++ publishAt 0 5000000000) = some publishedOnce ∧
      ∀ r ∈ publishedOnce.orders.db.outbox, r.published → ∃ e, r.decode = .ok e ∧
        publishEvent id e ∈ publishedOnce.messages ∧
        (r.payload.safe = true → (publishEvent id e).data = utf8 r.payload.sorted.encode) :=
  ⟨rfl, @published_rows_have_messages id (bothFetch ++ publishAt 0 5000000000) publishedOnce rfl⟩

theorem outbox_rows_keep_event_publishedOnce :
    System.run id bothFetched (publishAt 0 5000000000) = some publishedOnce ∧
      OutboxGrows bothFetched.orders.db.outbox publishedOnce.orders.db.outbox :=
  ⟨rfl, @outbox_rows_keep_event id bothFetched publishedOnce (publishAt 0 5000000000) rfl⟩

end Coldy.Orders
