import Coldy.Orders.Service
import Coldy.Payments.Create

/-!
# What the idempotency store gives the two services

`CreateOrder` and `CreatePayment` consult the store before their work and fill it after: two calls
that both look the key up before either has stored its result both do the work, and so does a call
whose `Get` fails (fail-open).  Calls served one after another, with the store working, do the work
once (`serial_creates_at_most_once`).

The cache is never replayed: `Set` marshals again the bytes that `json.Marshal` gave it, so every
entry's body is a JSON string (the base64 of those bytes), which no struct decodes from
(`noReplay_run`).
-/

namespace Coldy.Idempotency

open Coldy.Json Coldy.Orders Coldy.Payments

/-! ### The work each service does -/

/-- `CreatePayment`'s work inserts one payment under an id that had none. -/
theorem createPayment_create {w w' : Coldy.Payments.World} {req : CreatePaymentRequest} {seed : Nat}
    {now : Int} {ok : Bool} {v : GoValue}
    (h : Coldy.Payments.createPayment.create w req seed now ok = .ok (w', v)) :
    w.payments seed = none ∧ ∀ q, q ≠ seed → w'.payments q = w.payments q := by
  simp only [Coldy.Payments.createPayment] at h
  split at h
  · cases h
  split at h
  · rename_i w₁ hw
    cases h
    split at hw
    · simp only [World.insertPayment] at hw
      split at hw
      · cases hw
        exact ⟨‹_›, fun q hq => by simp [hq]⟩
      · cases hw
    · cases hw
  · cases h

/-! ### Duplicates -/

/-- A user. -/
def orderUser : String := "a0eebc99-9c0b-4ef8-bb6d-6bb9bd380a11"

/-- A request of `orderUser`: two widgets at 5 USD. -/
def orderRequest : CreateOrderRequest :=
  ⟨orderUser, [⟨"6f1c2e9a-0b7d-4c55-9a3e-2d8f4b1c7e01", "Widget", 2, ⟨"USD", 500, rfl⟩, rfl⟩], "Main St 1",
    "Springfield", "", "", "US"⟩

/-- Two `CreateOrder` calls with key `k` both look it up before either stores its result. -/
def concurrentFirst : List Coldy.Orders.Event :=
  [.intake (.start "k" orderRequest), .intake (.start "k" orderRequest), .intake (.next 0 true),
    .intake (.next 1 true), .intake (.next 0 true), .intake (.next 1 true), .intake (.next 0 true),
    .intake (.next 1 true)]

/-- A `CreateOrder` call with key `k` runs to its end; a second one's `Get` fails. -/
def storeDown : List Coldy.Orders.Event :=
  [.intake (.start "k" orderRequest), .intake (.next 0 true), .intake (.next 0 true),
    .intake (.next 0 true), .intake (.start "k" orderRequest), .intake (.next 1 false),
    .intake (.next 1 true), .intake (.next 1 true)]

/-- The orders and the `order.created` rows. -/
def orderRows (w : Coldy.Orders.World) : Nat × Nat :=
  (w.db.orders.length, (w.db.outbox.filter (·.eventType == "order.created")).length)

theorem createOrder_duplicates :
    (Coldy.Orders.World.run .init concurrentFirst).map orderRows = some (2, 2) ∧
    (Coldy.Orders.World.run .init storeDown).map orderRows = some (2, 2) := by
  decide

/-- `CreateOrder` calls, and `CreatePayment` calls, of one user and one key, each served whole
after the one before within `DefaultTTL` of the first, with the store's calls succeeding: at most
one order and one `order.created` row, and at most one payment, are created. -/
theorem sequential_intake_creates_at_most_once :
    (∀ (w w' : Coldy.Orders.World) (user key : String) (cs : List (Int × CreateOrderRequest × Bool)),
      (∀ c ∈ cs, c.2.1.userId = user) → (∀ c ∈ cs, c.1 < w.now + defaultTTL) →
      Coldy.Orders.World.run w ((IntakeWorld.serial w.calls.length key cs).map .intake) = some w' →
      w'.db.orders.length ≤ w.db.orders.length + 1 ∧
        (w'.db.outbox.filter (·.eventType == "order.created")).length ≤
          (w.db.outbox.filter (·.eventType == "order.created")).length + 1) ∧
    (∀ (w w' : IntakeWorld Coldy.Payments.World CreatePaymentRequest) (user key : String)
      (cs : List (Int × CreatePaymentRequest × Bool)),
      (∀ c ∈ cs, c.2.1.userId = user) → (∀ c ∈ cs, c.1 < w.now + defaultTTL) →
      IntakeWorld.run Coldy.Payments.createPayment w (IntakeWorld.serial w.calls.length key cs) =
        some w' →
      ∀ a b, w.db.payments a = none → w'.db.payments a ≠ none → w.db.payments b = none →
        w'.db.payments b ≠ none → a = b) := by
  refine ⟨fun w w' user key cs huser hlive h => ?_, fun w w' user key cs huser hlive h => ?_⟩
  · rw [Coldy.Orders.World.run_intake] at h
    obtain ⟨iw, hiw, rfl⟩ := Option.map_eq_some'.mp h
    rcases IntakeWorld.serial_creates_at_most_once _ huser hlive hiw with hdb | ⟨_, _, _, _, _, hc⟩
    · simp [hdb]
    · obtain ⟨row, items, ev, hdb, hev, -⟩ := createOrder_create hc
      simp [hdb, List.filter_append, hev]
  · intro a b ha ha' hb hb'
    rcases IntakeWorld.serial_creates_at_most_once _ huser hlive h with hdb | ⟨_, seed, _, _, _, hc⟩
    · exact absurd (hdb ▸ ha) ha'
    · obtain ⟨-, hq⟩ := createPayment_create hc
      have hsa : a = seed := by_contra fun hne => ha' (by rw [hq a hne, ha])
      have hsb : b = seed := by_contra fun hne => hb' (by rw [hq b hne, hb])
      rw [hsa, hsb]

/-- Two calls of `orderUser` with key `k`, at times `0` and `5` s. -/
def twoCalls : List (Int × CreateOrderRequest × Bool) :=
  [(0, orderRequest, true), (5000000000, orderRequest, true)]

/-- The world two such calls leave. -/
def twoCallsWorld : Coldy.Orders.World :=
  (Coldy.Orders.World.run .init ((IntakeWorld.serial 0 "k" twoCalls).map .intake)).getD .init

theorem sequential_two_calls :
    (∀ c ∈ twoCalls, c.2.1.userId = orderUser) ∧
    (∀ c ∈ twoCalls, c.1 < Coldy.Orders.World.init.now + defaultTTL) ∧
    Coldy.Orders.World.run .init
      ((IntakeWorld.serial Coldy.Orders.World.init.calls.length "k" twoCalls).map .intake) =
        some twoCallsWorld ∧
    twoCallsWorld.db.orders.length ≤ Coldy.Orders.World.init.db.orders.length + 1 ∧
    (twoCallsWorld.db.outbox.filter (·.eventType == "order.created")).length ≤
      (Coldy.Orders.World.init.db.outbox.filter (·.eventType == "order.created")).length + 1 :=
  ⟨by decide, by decide, rfl,
    sequential_intake_creates_at_most_once.1 .init twoCallsWorld orderUser "k" twoCalls (by decide)
      (by decide) rfl⟩

/-! ### Replays -/

/-- The other calls of the order service leave the store and the `CreateOrder` calls alone. -/
theorem orders_noReplay_run {es : List Coldy.Orders.Event} {w w' : Coldy.Orders.World}
    (hw : NoReplay w.toIntakeWorld) (h : Coldy.Orders.World.run w es = some w') :
    NoReplay w'.toIntakeWorld := by
  induction es generalizing w with
  | nil => cases h; exact hw
  | cons e es ih =>
    obtain ⟨w₁, h₁, h₂⟩ := Option.bind_eq_some.mp h
    refine ih ?_ h₂
    cases e with
    | intake e =>
      obtain ⟨iw, hiw, rfl⟩ := Option.map_eq_some'.mp h₁
      exact noReplay_step _ rfl hw hiw
    | updateOrderStatus orderId status ok =>
      simp only [Coldy.Orders.World.step] at h₁
      split at h₁ <;> cases h₁ <;> exact ⟨hw.store, hw.calls⟩
    | cancelOrder orderId reason => cases h₁; exact ⟨hw.store, hw.calls⟩
    | cancelNext c ok =>
      simp only [Coldy.Orders.World.step] at h₁
      split at h₁ <;> cases h₁
      exact ⟨hw.store, hw.calls⟩

/-- Whether a call returned a cached result (`from_cache = true`). -/
def IntakeStep.replayed : IntakeStep → Bool
  | .done (.ok (_, fromCache)) => fromCache
  | _ => false

theorem NoReplay.none_replayed {σ ρ : Type} {w : IntakeWorld σ ρ} (h : NoReplay w) :
    w.calls.all (!·.step.replayed) = true := by
  have step_ok : ∀ s : IntakeStep, (∀ x, s ≠ .done (.ok (x, true))) → s.replayed = false := by
    rintro (_ | _ | _ | (_ | ⟨x, _ | _⟩)) hs
    all_goals first | rfl | exact absurd rfl (hs x)
  simpa using fun c hc => step_ok c.step (h.calls c hc)

/-- How a call ended, in words. -/
def resultText : IntakeStep → String
  | .done (.error e) => e
  | .done (.ok (_, true)) => "replayed"
  | .done (.ok (_, false)) => "created"
  | _ => "in flight"

/-- No `CreateOrder` call, in any run of the order service, and no `CreatePayment` call, in any
run from an empty store, returns a cached result: the second of two calls with one key fails. -/
theorem cached_results_never_replay :
    (∀ es : List Coldy.Orders.Event,
      (Coldy.Orders.World.run .init es).all (fun w => w.calls.all (!·.step.replayed)) = true) ∧
    (∀ (db : Coldy.Payments.World) (es : List (IntakeEvent CreatePaymentRequest)),
      (IntakeWorld.run Coldy.Payments.createPayment ⟨db, Redis.empty, 0, 0, []⟩ es).all
        (fun w => w.calls.all (!·.step.replayed)) = true) ∧
    (Coldy.Orders.World.run .init ((IntakeWorld.serial 0 "k" twoCalls).map .intake)).map
        (fun w => w.calls.map (resultText ·.step)) =
      some ["created", "failed to unmarshal cached order: " ++
        "json: cannot unmarshal string into Go value of type repository.Order"] := by
  refine ⟨fun es => ?_, fun db es => ?_, by decide⟩
  · cases h : Coldy.Orders.World.run .init es with
    | none => rfl
    | some w => exact (orders_noReplay_run ⟨stringBodies_empty, by simp [Coldy.Orders.World.init]⟩
        h).none_replayed
  · cases h : IntakeWorld.run Coldy.Payments.createPayment ⟨db, Redis.empty, 0, 0, []⟩ es with
    | none => rfl
    | some w => exact (noReplay_run _ rfl ⟨stringBodies_empty, by simp⟩ h).none_replayed

end Coldy.Idempotency
