import Mathlib.Tactic.Common

/-!
# The inventory schema

The `inventory` and `reservations` tables of the inventory migration, and the row arithmetic of
every statement that writes an `inventory` row.  All four `UPDATE inventory` statements of the
service (in `ReserveStock`, `ReleaseStock`, `CommitStock` and `cleanup_expired_reservations`) and the
conflict branch of `AdjustInventory` move a quantity between the columns and bump `version`: they
are `shift` with different amounts.  PostgreSQL refuses a written row that breaks a `CHECK`
constraint or leaves the range of an `INTEGER` column (`InventoryRow.Valid`).

`shift_conserved`: a shift whose amounts keep `available + reserved - total`, written under the
checks, keeps a conserved row conserved.
-/

namespace Coldy.Inventory

/-- The range of a PostgreSQL `INTEGER` (and of a Go `int32`). -/
def InInt32 (x : Int) : Prop := -2147483648 ≤ x ∧ x < 2147483648

instance (x : Int) : Decidable (InInt32 x) := inferInstanceAs (Decidable (_ ∧ _))

/-- A row of `inventory`, keyed by `product_id` (`updated_at` is left out: nothing reads it). -/
structure InventoryRow where
  availableQuantity : Int
  reservedQuantity : Int
  totalQuantity : Int
  version : Int
  deriving DecidableEq, Repr

namespace InventoryRow

/-- What PostgreSQL checks when it writes an `inventory` row: `available_quantity >= 0`,
`reserved_quantity >= 0` and the range of the four `INTEGER` columns. -/
def Valid (r : InventoryRow) : Prop :=
  0 ≤ r.availableQuantity ∧ 0 ≤ r.reservedQuantity ∧ InInt32 r.availableQuantity ∧
    InInt32 r.reservedQuantity ∧ InInt32 r.totalQuantity ∧ InInt32 r.version

instance (r : InventoryRow) : Decidable r.Valid := inferInstanceAs (Decidable (_ ∧ _))

/-- Conservation: `available + reserved = total`, and neither part is negative. -/
def Conserved (r : InventoryRow) : Prop :=
  r.availableQuantity + r.reservedQuantity = r.totalQuantity ∧ 0 ≤ r.availableQuantity ∧
    0 ≤ r.reservedQuantity

/-- The `SET` clause of an inventory `UPDATE`: add to the three quantities, `version = version + 1`. -/
def shift (dAvailable dReserved dTotal : Int) (r : InventoryRow) : InventoryRow :=
  ⟨r.availableQuantity + dAvailable, r.reservedQuantity + dReserved, r.totalQuantity + dTotal,
    r.version + 1⟩

@[simp] theorem shift_version (a b c : Int) (r : InventoryRow) : (r.shift a b c).version = r.version + 1 :=
  rfl

/-- A written shift keeps a row conserved when the amounts balance. -/
theorem shift_conserved {a b c : Int} (hb : a + b = c) {r : InventoryRow} (hr : r.Conserved)
    (hv : (r.shift a b c).Valid) : (r.shift a b c).Conserved := by
  obtain ⟨h1, -, -⟩ := hr
  obtain ⟨h2, h3, -⟩ := hv
  exact ⟨by simp only [shift]; omega, h2, h3⟩

end InventoryRow

/-- `ReserveStock`: `available -= q, reserved += q`. -/
def reserveSet (q : Int) : InventoryRow → InventoryRow := InventoryRow.shift (-q) q 0

/-- `ReleaseStock` and `cleanup_expired_reservations`: `available += q, reserved -= q`. -/
def releaseSet (q : Int) : InventoryRow → InventoryRow := InventoryRow.shift q (-q) 0

/-- `CommitStock`: `reserved -= q, total -= q`. -/
def commitSet (q : Int) : InventoryRow → InventoryRow := InventoryRow.shift 0 (-q) (-q)

/-- `AdjustInventory` on an existing row: `available += delta, total += delta`. -/
def adjustSet (delta : Int) : InventoryRow → InventoryRow := InventoryRow.shift delta 0 delta

/-- `AdjustInventory` on a missing row: `INSERT (available, total) = (delta, delta)`, the other
columns at their defaults. -/
def adjustInsert (delta : Int) : InventoryRow := ⟨delta, 0, delta, 1⟩

theorem adjustInsert_conserved {delta : Int} (hv : (adjustInsert delta).Valid) :
    (adjustInsert delta).Conserved :=
  ⟨by simp [adjustInsert], hv.1, hv.2.1⟩

/-- `reservations.status` (a `VARCHAR`; the service only writes these three values). -/
inductive ReservationStatus
  | active
  | committed
  | released
  deriving DecidableEq, Repr

/-- A row of `reservations` (`created_at` and `updated_at` are left out: nothing reads them). -/
structure Reservation where
  id : Nat
  reservationId : Nat
  productId : Nat
  quantity : Int
  status : ReservationStatus
  expiresAt : Int
  deriving DecidableEq, Repr

end Coldy.Inventory
