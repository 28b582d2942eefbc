import Coldy.Payments.Confirm
import Coldy.Idempotency.Intake
import Coldy.Encoding.Sql

/-!
# Creating a payment

`PaymentService.CreatePayment` is the intake of `Coldy.Idempotency` over the payments world of
`Coldy.Payments.Confirm`: its database work is the `INSERT INTO payments` of a `pending` payment,
and what it returns and caches is the `service.Payment` it built.  PostgreSQL refuses the `INSERT`
when `user_id` is not a UUID, `method` is not a `payment_method` label, or `amount_currency` is
longer than `VARCHAR(3)`; the payment's own key and `order_id` are the model's numbers.
-/

namespace Coldy.Payments

open Coldy.Json Coldy.Idempotency Coldy.Sql

/-- `service.CreatePaymentRequest`, without the card fields `CreatePayment` does not read. -/
structure CreatePaymentRequest where
  orderId : Nat
  userId : String
  amount : Int
  currency : String
  paymentMethod : String
  deriving DecidableEq, Repr

/-- The `service.Payment` `CreatePayment` returns and caches, as `encoding/json` sees it. -/
def createdPayment (req : CreatePaymentRequest) (id : Nat) (now : Int) : GoValue :=
  .struct [("ID", .str (toString id)), ("OrderID", .str (toString req.orderId)),
    ("UserID", .str req.userId), ("AmountCurrency", .str req.currency),
    ("AmountValue", .int req.amount), ("Status", .str "pending"), ("Method", .str req.paymentMethod),
    ("ProviderTransactionID", .str ""), ("ErrorMessage", .str ""),
    ("CreatedAt", .time (rfc3339 now)), ("UpdatedAt", .time (rfc3339 now))]

/-- `service.Payment` as a decoding target. -/
def paymentType : GoType :=
  .struct "service.Payment" [("ID", .string "string"), ("OrderID", .string "string"),
    ("UserID", .string "string"), ("AmountCurrency", .string "string"),
    ("AmountValue", .int 64 "int64"), ("Status", .string "string"), ("Method", .string "string"),
    ("ProviderTransactionID", .string "string"), ("ErrorMessage", .string "string"),
    ("CreatedAt", .time), ("UpdatedAt", .time)]

/-- The labels of `payment_method`. -/
def paymentMethods : List String := ["card", "paypal", "bank_transfer"]

/-- The parameters of `CreatePayment`'s `INSERT` as PostgreSQL binds them, in order (`$3`
`user_id`, `$4` `amount_currency`, `$7` `method`; `$6` is the literal `pending`), then
`amount_currency` assigned to its `VARCHAR(3)` column. -/
def insertPaymentParams (req : CreatePaymentRequest) : Except String Unit := do
  uuidParam req.userId
  textParam req.currency
  textParam req.paymentMethod
  if req.paymentMethod ∉ paymentMethods then
    .error ("pq: invalid input value for enum payment_method: \"" ++ req.paymentMethod ++ "\"")
  let _ ← varchar 3 req.currency

/-- `PaymentService.CreatePayment`: the intake with key operation `create_payment`, whose database
work inserts the payment under the fresh id `seed`. -/
def createPayment : Intake World CreatePaymentRequest where
  operation := "create_payment"
  target := paymentType
  noun := "payment"
  userId := (·.userId)
  create w req seed now ok :=
    match insertPaymentParams req with
    | .error e => .error ("failed to create payment: " ++ e)
    | .ok () =>
      match (if ok then w.insertPayment seed req.orderId req.amount else none) with
      | some w' => .ok (w', createdPayment req seed now)
      | none => .error ("failed to create payment: " ++ errDatabase)
  ids _ := 1

end Coldy.Payments
