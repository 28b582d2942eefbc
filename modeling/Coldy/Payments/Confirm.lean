import Coldy.CircuitBreaker.Basic

/-!
# Confirming a payment

`PaymentService.ConfirmPayment`, statement by statement, with any number of calls in flight.  Each
database statement is autocommitted on its own, and whether it succeeds is chosen by the
environment (`Event.next`).  The provider's `ProcessPayment` runs in the goroutine `Execute` starts:
it returns whenever the environment says (`Event.providerReturns`), charging or declining, also
after `Execute` has given up on it at its timeout (`Event.timeout`).  The circuit breaker is the one
of `Coldy.Breaker`, shared by all calls.

`PaymentStatus`, `Payment` and the `payment_outbox` row follow the payments migration.
-/

namespace Coldy.Payments

open Coldy.Breaker

/-- `payment_status`. -/
inductive PaymentStatus
  | pending
  | processing
  | succeeded
  | failed
  | cancelled
  | refunded
  deriving DecidableEq, Repr

/-- A row of `payments` (the columns `ConfirmPayment` reads or writes). -/
structure Payment where
  id : Nat
  orderId : Nat
  amountValue : Int
  status : PaymentStatus
  providerTransactionId : Option Nat
  errorMessage : Option String
  deriving DecidableEq, Repr

/-- The payload map `ConfirmPayment` passes to `publishEvent`. -/
inductive EventPayload
  | failed (paymentId orderId : Nat) (error : String)
  | succeeded (paymentId orderId transactionId : Nat)
  deriving DecidableEq, Repr

/-- A row of `payment_outbox`. -/
structure OutboxRow where
  id : Nat
  aggregateType : String
  aggregateId : Nat
  eventType : String
  payload : EventPayload
  deriving DecidableEq, Repr

/-- What the provider's `ProcessPayment` returned: a charge with its transaction id, or the
error `payment declined by provider`. -/
inductive ProviderResult
  | charged (transactionId : Nat)
  | declined
  deriving DecidableEq, Repr

/-- One call of `ProcessPayment`, still running while `result` is `none`, with the
`ConfirmPayment` call whose `Execute` started it and the time it started. -/
structure Invocation where
  paymentId : Nat
  result : Option ProviderResult
  call : Nat
  startedAt : Int
  deriving DecidableEq, Repr

/-- What `ConfirmPayment` returned: a payment, or an error message. -/
inductive ConfirmResult
  | payment (p : Payment)
  | error (message : String)
  deriving DecidableEq, Repr

/-- The next step of a `ConfirmPayment` call; `payment` is the row its first `GetPayment` read. -/
inductive ConfirmStep
  | getPayment
  | markProcessing (payment : Payment)
  | execute (payment : Payment)
  | select (payment : Payment) (invocation : Nat) (admittedAt : Int)
  | markFailed (payment : Payment) (err : String)
  | publishFailed (payment : Payment) (err : String)
  | markSucceeded (payment : Payment) (transactionId : Nat)
  | publishSucceeded (payment : Payment) (transactionId : Nat)
  | getPaymentAgain
  | done (result : ConfirmResult)
  deriving DecidableEq, Repr

/-- A `ConfirmPayment(paymentId)` call. -/
structure ConfirmCall where
  paymentId : Nat
  step : ConfirmStep
  deriving DecidableEq, Repr

/-- The payments tables, the breaker, the provider's calls and the `ConfirmPayment` calls;
`nextId` numbers the `payment_outbox` rows (their `uuid.New()`).  `rejections` and `timeouts` only
record history: the calls whose `Execute` the breaker rejected, and those whose `Execute` gave up
at its timeout, with the time. -/
structure World where
  payments : Nat → Option Payment
  outbox : List OutboxRow
  breaker : CircuitBreaker
  invocations : List Invocation
  calls : List ConfirmCall
  now : Int
  nextId : Nat
  rejections : List Nat
  timeouts : List (Nat × Int)

/-- `ErrCircuitOpen`. -/
def errCircuitOpen : String := "circuit breaker is open"

/-- The mock provider's decline. -/
def errDeclined : String := "payment declined by provider"

/-- `context.DeadlineExceeded`, what `Execute` returns when its timeout fires first. -/
def errDeadline : String := "context deadline exceeded"

/-- The error of a failed statement (its text is the driver's). -/
def errDatabase : String := "database error"

namespace World

/-- No payments, a fresh breaker created at time `0`. -/
def init : World := ⟨fun _ => none, [], CircuitBreaker.new 0, [], [], 0, 0, [], []⟩

/-- `UPDATE payments SET ... WHERE id = $n`: no row, no change. -/
def setPayment (w : World) (id : Nat) (f : Payment → Payment) : World :=
  { w with payments := fun q => if q = id then (w.payments q).map f else w.payments q }

/-- `publishEvent`: insert a `payment_outbox` row when the statement succeeds. -/
def publishEvent (w : World) (ok : Bool) (paymentId : Nat) (eventType : String)
    (payload : EventPayload) : World :=
  if ok then
    { w with outbox := w.outbox ++ [⟨w.nextId, "payment", paymentId, eventType, payload⟩],
             nextId := w.nextId + 1 }
  else w

@[simp] theorem publishEvent_calls (w : World) (ok : Bool) (paymentId : Nat) (eventType : String)
    (payload : EventPayload) : (w.publishEvent ok paymentId eventType payload).calls = w.calls := by
  unfold publishEvent; split <;> rfl

/-- `CreatePayment`'s `INSERT INTO payments` of a `pending` payment; a used id is refused. -/
def insertPayment (w : World) (id orderId : Nat) (amountValue : Int) : Option World :=
  if w.payments id = none then
    some { w with payments := fun q =>
      if q = id then some ⟨id, orderId, amountValue, .pending, none, none⟩ else w.payments q }
  else none

/-- `GetPayment`. -/
def getPayment (w : World) (ok : Bool) (id : Nat) : Except String Payment :=
  if ok then
    match w.payments id with
    | some p => .ok p
    | none => .error "payment not found"
  else .error ("failed to get payment: " ++ errDatabase)

end World

/-- The next step of call `c`, for payment `id`, whose database statement (if it has one) succeeds
iff `ok`: the call's new step and the new world. -/
def confirmStep (cfg : Config) (w : World) (c id : Nat) (ok : Bool) :
    ConfirmStep → Option (ConfirmStep × World)
  | .getPayment =>
    match w.getPayment ok id with
    | .error e => some (.done (.error e), w)
    | .ok p =>
      if p.status ≠ .pending then some (.done (.payment p), w)
      else some (.markProcessing p, w)
  | .markProcessing p =>
    if ok then
      some (.execute p, w.setPayment id (fun q => { q with status := .processing, errorMessage := some "" }))
    else some (.done (.error errDatabase), w)
  | .execute p =>
    let r := w.breaker.canAttempt cfg w.now
    if r.1 then
      some (.select p w.invocations.length w.now,
        { w with breaker := r.2, invocations := w.invocations ++ [⟨id, none, c, w.now⟩] })
    else some (.markFailed p errCircuitOpen, { w with breaker := r.2, rejections := w.rejections ++ [c] })
  | .select p inv _ =>
    match (w.invocations[inv]?).bind (·.result) with
    | some (.charged txn) => some (.markSucceeded p txn, { w with breaker := w.breaker.recordSuccess w.now })
    | some .declined =>
      some (.markFailed p errDeclined, { w with breaker := w.breaker.recordFailure cfg w.now })
    | none => none
  | .markFailed p err =>
    some (.publishFailed p err,
      if ok then w.setPayment id (fun q => { q with status := .failed, errorMessage := some err })
      else w)
  | .publishFailed p err =>
    some (.done (.error ("payment processing failed: " ++ err)),
      w.publishEvent ok id "payment.failed" (.failed id p.orderId err))
  | .markSucceeded p txn =>
    if ok then
      some (.publishSucceeded p txn,
        w.setPayment id (fun q => { q with status := .succeeded, providerTransactionId := some txn }))
    else some (.done (.error errDatabase), w)
  | .publishSucceeded p txn =>
    some (.getPaymentAgain, w.publishEvent ok id "payment.succeeded" (.succeeded id p.orderId txn))
  | .getPaymentAgain =>
    match w.getPayment ok id with
    | .error e => some (.done (.error e), w)
    | .ok q => some (.done (.payment q), w)
  | .done _ => none

/-- The environment's and the callers' steps. -/
inductive Event
  | createPayment (paymentId orderId : Nat) (amountValue : Int)
  | confirmPayment (paymentId : Nat)
  | next (call : Nat) (ok : Bool)
  | timeout (call : Nat)
  | providerReturns (invocation : Nat) (result : ProviderResult)
  | tick (now : Int)
  deriving DecidableEq, Repr

/-- Replace call `c`. -/
def World.setCall (w : World) (c : Nat) (call : ConfirmCall) : World :=
  { w with calls := w.calls.set c call }

/-- What a call of `w.setCall c call` is: `call` itself, or a call of `w` at another index. -/
theorem World.setCall_calls {w : World} {c d : Nat} {call cd : ConfirmCall}
    (h : (w.setCall c call).calls[d]? = some cd) : (d = c ∧ cd = call) ∨ (d ≠ c ∧ w.calls[d]? = some cd) := by
  simp only [World.setCall, List.getElem?_set] at h
  split_ifs at h with e
  · exact .inl ⟨e.symm, (Option.some.inj h).symm⟩
  · exact .inr ⟨Ne.symm e, h⟩

/-- One step of the payments service. -/
def step (cfg : Config) (w : World) : Event → Option World
  | .createPayment id orderId amount => w.insertPayment id orderId amount
  | .confirmPayment id => some { w with calls := w.calls ++ [⟨id, .getPayment⟩] }
  | .next c ok =>
    match w.calls[c]? with
    | some call =>
      (confirmStep cfg w c call.paymentId ok call.step).map fun r => r.2.setCall c ⟨call.paymentId, r.1⟩
    | none => none
  | .timeout c =>
    match w.calls[c]? with
    | some ⟨id, .select p _ admittedAt⟩ =>
      if admittedAt + cfg.timeout ≤ w.now then
        some (({ w with breaker := w.breaker.recordFailure cfg w.now,
                        timeouts := w.timeouts ++ [(c, w.now)] } : World).setCall c
          ⟨id, .markFailed p errDeadline⟩)
      else none
    | _ => none
  | .providerReturns inv r =>
    match w.invocations[inv]? with
    | some ⟨id, none, c, t⟩ => some { w with invocations := w.invocations.set inv ⟨id, some r, c, t⟩ }
    | _ => none
  | .tick now => if w.now ≤ now then some { w with now := now } else none

/-- Run a list of events. -/
def run (cfg : Config) (w : World) : List Event → Option World
  | [] => some w
  | e :: es => (step cfg w e).bind (fun w' => run cfg w' es)

end Coldy.Payments
