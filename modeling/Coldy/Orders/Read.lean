import Mathlib.Data.List.Sort
import Coldy.Encoding.Uuid
import Coldy.Orders.Service

/-!
# Reading orders back

`OrderRepository.GetByID` and `OrderRepository.List`, with `OrderService.ListOrders` and the
gRPC `ListOrders` over them.  `UUID` columns that hold a client's text (`user_id`, `product_id`)
come back in PostgreSQL's output form (`readUuid`): `CreateWithOutbox` stores only texts that read
as UUIDs.  The ids the service writes come from `uuid.New().String()`, already in that form, and
come back as they are.

`GetByID` orders the items by `created_at` alone, and the items one `CreateWithOutbox` writes
share it, so they come back in an order PostgreSQL chooses: `GetByIDReturns` is the relation of
what it may return, and `getByID`, which keeps the scan order among ties, is one of its answers
(`getByID_returns`).

`List` selects the user's rows (the user id a text PostgreSQL reads as a UUID), with the status
when one is given (a text it parses as an `order_status`) and, after a cursor, below the cursor's
row as that row is now in the `(created_at, id)` order; it sorts them by that key, descending, and
reads one row more than the page.  `ListOrders` then loads each order's items with `GetByID`,
leaving them empty when that call fails.
-/

namespace Coldy.Orders

open Coldy.Uuid Coldy.Sql

/-! ### `GetByID` -/

/-- An `order_items` row as `GetByID` scans it. -/
def OrderItem.read (i : OrderItem) : OrderItem := { i with productId := readUuid i.productId }

/-- An `orders` row as `GetByID` and `List` scan it, with the items `items`. -/
def OrderRow.read (r : OrderRow) (items : List OrderItem) : Order :=
  ⟨r.id, readUuid r.userId, r.totalCurrency, r.totalAmount, r.status.label,
    (r.paymentId.map readUuid).getD "", r.shippingStreet, r.shippingCity, r.shippingState,
    r.shippingPostalCode, r.shippingCountry, items, r.createdAt, r.updatedAt⟩

/-- The rows `SELECT … FROM order_items WHERE order_id = $1` finds. -/
def itemsOf (db : Tables) (id : String) : List OrderItem := db.orderItems.filter (·.orderId = id)

/-- `items` is an order `ORDER BY created_at` may give the rows `rows` in: each once, by
non-decreasing `created_at`, ties in any order. -/
def InCreatedOrder (rows items : List OrderItem) : Prop :=
  items.Perm rows ∧ items.Sorted fun a b => a.createdAt ≤ b.createdAt

/-- What `GetByID(id)` may return: `nil` when no order has that id, else the order's row with
its items in an order `ORDER BY created_at` allows. -/
def GetByIDReturns (db : Tables) (id : String) : Option Order → Prop
  | none => db.orders.find? (·.id = id) = none
  | some o => ∃ r, db.orders.find? (·.id = id) = some r ∧
      ∃ items, InCreatedOrder (itemsOf db id) items ∧ o = r.read (items.map OrderItem.read)

/-- The items by `created_at`, ties in scan order. -/
def itemsByCreatedAt (items : List OrderItem) : List OrderItem :=
  @List.insertionSort _ (fun a b => a.createdAt ≤ b.createdAt)
    (fun a b => Int.decLe a.createdAt b.createdAt) items

/-- `GetByID` as PostgreSQL answers when it keeps the scan order among ties. -/
def getByID (db : Tables) (id : String) : Option Order :=
  (db.orders.find? (·.id = id)).map fun r => r.read ((itemsByCreatedAt (itemsOf db id)).map OrderItem.read)

private instance : IsTotal OrderItem fun a b => a.createdAt ≤ b.createdAt :=
  ⟨fun a b => Int.le_total a.createdAt b.createdAt⟩

private instance : IsTrans OrderItem fun a b => a.createdAt ≤ b.createdAt :=
  ⟨fun _ _ _ => Int.le_trans⟩

/-- The items by `created_at` are an order `ORDER BY created_at` allows. -/
theorem itemsByCreatedAt_inCreatedOrder (items : List OrderItem) :
    InCreatedOrder items (itemsByCreatedAt items) :=
  ⟨List.perm_insertionSort _ _, List.sorted_insertionSort _ _⟩

/-- `getByID` is one of the answers `GetByID` may give. -/
theorem getByID_returns (db : Tables) (id : String) : GetByIDReturns db id (getByID db id) := by
  unfold getByID
  cases h : db.orders.find? (·.id = id) with
  | none => exact h
  | some r => exact ⟨r, h, _, itemsByCreatedAt_inCreatedOrder _, rfl⟩

/-! ### `List` -/

/-- The key of `ORDER BY created_at DESC, id DESC` and of the cursor comparison. -/
def OrderRow.key (r : OrderRow) : Int × String := (r.createdAt, r.id)

/-- `ORDER BY created_at DESC, id DESC`. -/
def orderByKeyDesc (rows : List OrderRow) : List OrderRow :=
  @List.insertionSort _ (fun a b => keyLt a.key b.key = false)
    (fun a b => instDecidableEqBool (keyLt a.key b.key) false) rows

/-- Whether `r` is one of user `userID`'s orders, with status `s` when one is given. -/
def OrderRow.isListed (r : OrderRow) (userID : String) (s : Option OrderStatusEnum) : Bool :=
  readUuid r.userId = readUuid userID && s.all (r.status = ·)

/-- Whether `r` lies after the cursor: below the cursor's row in `(created_at, id)`.  When no row
has the cursor's id the subquery is `NULL` and no row does. -/
def afterCursor (db : Tables) (cursor : String) (r : OrderRow) : Bool :=
  cursor = "" || (db.orders.find? (·.id = cursor)).any fun c => keyLt r.key c.key

/-- Whether `List` selects row `r`. -/
def listSelects (db : Tables) (userID : String) (s : Option OrderStatusEnum) (cursor : String)
    (r : OrderRow) : Bool :=
  r.isListed userID s && afterCursor db cursor r

/-- The status filter of `List`: none for `""`, else the text parsed as an `order_status`. -/
def statusFilter (status : String) : Except String (Option OrderStatusEnum) :=
  if status = "" then .ok none else (OrderStatusEnum.parse status).map some

/-- `OrderRepository.List(userID, status, limit, cursor)`: the page and the next cursor, the id
of the page's last row when a row beyond it was read.  The user id is bound to a `uuid`
parameter, then the status, when given, to an `order_status` one. -/
def list (db : Tables) (userID status : String) (limit : Nat) (cursor : String) :
    Except String (List OrderRow × String) :=
  match uuidParam userID >>= fun _ => statusFilter status with
  | .error e => .error ("failed to list orders: " ++ e)
  | .ok s =>
    let rows := (orderByKeyDesc (db.orders.filter (listSelects db userID s cursor))).take (limit + 1)
    if limit < rows.length then .ok (rows.take limit, (rows[limit - 1]?.map (·.id)).getD "")
    else .ok (rows, "")

/-- The order `ListOrders` answers for row `r`: its items those `GetByID` returns when that call
succeeds (`loads`), else none, the call's error only logged. -/
def loadItems (db : Tables) (loads : String → Bool) (r : OrderRow) : Order :=
  r.read (if loads r.id then ((getByID db r.id).map (·.items)).getD [] else [])

@[simp] theorem loadItems_id (db : Tables) (loads : String → Bool) (r : OrderRow) :
    (loadItems db loads r).id = r.id := rfl

@[simp] theorem loadItems_createdAt (db : Tables) (loads : String → Bool) (r : OrderRow) :
    (loadItems db loads r).createdAt = r.createdAt := rfl

/-- `OrderService.ListOrders`, each `GetByID` it makes for the items succeeding iff `loads` of the
order's id: the page, the next cursor and `hasMore`. -/
def listOrders (db : Tables) (userID status : String) (limit : Nat) (cursor : String)
    (loads : String → Bool) : Except String (List Order × String × Bool) :=
  match list db userID status limit cursor with
  | .ok (page, next) => .ok (page.map (loadItems db loads), next, decide (next ≠ ""))
  | .error e => .error ("failed to list orders: " ++ e)

/-- `Server.ListOrders`, its errors as the text of the gRPC status it returns. -/
def listOrdersRpc (db : Tables) (userId : String) (filter : ProtoStatus) (size : Int)
    (cursor : String) (loads : String → Bool) : Except String (List Order × String × Bool) :=
  if userId = "" then .error "user_id is required"
  else
    match listOrders db userId (if filter = .unspecified then "" else toRepoStatus filter)
        (pageSize size) cursor loads with
    | .ok r => .ok r
    | .error _ => .error "failed to list orders"

end Coldy.Orders
