import Coldy.Inventory.Schema

/-!
# Inventory transactions at read committed

The inventory service's transactions as PostgreSQL runs them at read committed, one statement at a
time, in any interleaving.  A transaction keeps its uncommitted `inventory` row versions (`writes`),
the `inventory` rows it has locked by `SELECT ... FOR UPDATE` or `UPDATE` (`locks`), the reservation
rows it has inserted and the status it has written into reservation rows.  Other transactions read
the last committed state; a statement that would write a row another transaction has locked, or
insert a `reservation_id` another transaction has inserted, waits (`StmtResult.wait`) and is
evaluated on the latest committed row once the lock is gone.  A failing statement rolls the whole
transaction back, and so does an error outside the model (`Event.abort`: a cancelled context, a
lost connection).  `AdjustInventory` is one autocommitted `INSERT ... ON CONFLICT DO UPDATE`.

The programs are those of `ReserveStock`, `updateReservationStatus` (behind `ReleaseStock` and
`CommitStock`) and the PL/pgSQL function `cleanup_expired_reservations`, statement by statement.
Time is a clock in seconds; `CURRENT_TIMESTAMP` is the transaction's start time.
-/

namespace Coldy.Inventory

/-- `service.ReservationItem`. -/
structure ReservationItem where
  productId : Nat
  quantity : Int
  deriving DecidableEq, Repr

/-- The two callers of `updateReservationStatus`, each with its `newStatus` and its `updateFn`. -/
inductive StatusChange
  | releaseStock
  | commitStock
  deriving DecidableEq, Repr

namespace StatusChange

def newStatus : StatusChange → ReservationStatus
  | .releaseStock => .released
  | .commitStock => .committed

def updateFn : StatusChange → Int → InventoryRow → InventoryRow
  | .releaseStock => releaseSet
  | .commitStock => commitSet

end StatusChange

/-- The next statement of `ReserveStock` for its current item. -/
inductive ReservePhase
  | selectForUpdate
  | update (version : Int)
  | insert
  deriving DecidableEq, Repr

/-- The next statement of `updateReservationStatus`: the `SELECT`, or the `UPDATE inventory` of the
first item still to do, or (no item left) the `UPDATE reservations`. -/
inductive StatusPhase
  | select
  | update (items : List ReservationItem)
  deriving DecidableEq, Repr

/-- The next statement of `cleanup_expired_reservations`, in its loop over the expired rows. -/
inductive CleanupPhase
  | select
  | updateInventory (rows : List Reservation)
  | updateReservation (rows : List Reservation)
  deriving DecidableEq, Repr

/-- The code a transaction runs, at its next statement; `commit` once only `COMMIT` is left. -/
inductive Program
  | reserveStock (reservationId : Nat) (expiresAt : Int) (items : List ReservationItem)
      (phase : ReservePhase)
  | updateReservationStatus (reservationId : Nat) (change : StatusChange) (phase : StatusPhase)
  | cleanupExpiredReservations (startedAt : Int) (phase : CleanupPhase)
  | commit
  deriving DecidableEq, Repr

/-- An open transaction. -/
structure Tx where
  id : Nat
  program : Program
  locks : List Nat
  writes : Nat → Option InventoryRow
  inserted : List Reservation
  statusWrites : List (Nat × ReservationStatus)

/-- The committed tables, the open transactions, the clock and a source of fresh identifiers. -/
structure World where
  inventory : Nat → Option InventoryRow
  reservations : List Reservation
  txs : List Tx
  now : Int
  nextId : Nat

/-- The empty tables the migration creates. -/
def World.init : World := ⟨fun _ => none, [], [], 0, 0⟩

namespace Tx

/-- The `inventory` row of `p` as the transaction sees it: its own version, else the committed one. -/
def row (t : Tx) (w : World) (p : Nat) : Option InventoryRow :=
  match t.writes p with
  | some r => some r
  | none => w.inventory p

/-- A committed reservation row with the status the transaction has written into it. -/
def statusOf (t : Tx) (r : Reservation) : Reservation :=
  match t.statusWrites.lookup r.id with
  | some s => { r with status := s }
  | none => r

/-- The `reservations` table as the transaction sees it. -/
def reservations (t : Tx) (w : World) : List Reservation :=
  w.reservations.map t.statusOf ++ t.inserted

end Tx

namespace World

/-- The open transactions other than `t`. -/
def others (w : World) (t : Tx) : List Tx := w.txs.filter (fun x => x.id ≠ t.id)

/-- Another transaction holds the lock of the `inventory` row of `p`. -/
def rowLocked (w : World) (t : Tx) (p : Nat) : Bool := (w.others t).any (fun x => p ∈ x.locks)

/-- Another transaction has written the reservation row `rowId`. -/
def reservationLocked (w : World) (t : Tx) (rowId : Nat) : Bool :=
  (w.others t).any (fun x => rowId ∈ x.statusWrites.map Prod.fst)

/-- Another transaction has inserted a reservation row with this `reservation_id`. -/
def keyLocked (w : World) (t : Tx) (reservationId : Nat) : Bool :=
  (w.others t).any (fun x => x.inserted.any (fun r => r.reservationId = reservationId))

end World

/-- The result of a transaction's next statement. -/
inductive StmtResult
  | wait
  | error
  | ok (t : Tx)
  | commit

namespace Tx

/-- Write the `inventory` row of `p`, then continue with `next`: the statement fails unless the row
passes the checks. -/
def write (t : Tx) (p : Nat) (r : InventoryRow) (next : Program) : StmtResult :=
  if r.Valid then
    .ok { t with program := next, locks := t.locks.insert p,
                 writes := fun q => if q = p then some r else t.writes q }
  else .error

/-- Run the transaction's next statement against the world. -/
def exec (t : Tx) (w : World) : StmtResult :=
  match t.program with
  | .reserveStock _ _ [] _ => .commit
  | .reserveStock rid exp (i :: rest) .selectForUpdate =>
    if w.rowLocked t i.productId then .wait else
    match t.row w i.productId with
    | none => .error
    | some r =>
      if r.availableQuantity < i.quantity then .error
      else .ok { t with program := .reserveStock rid exp (i :: rest) (.update r.version),
                        locks := t.locks.insert i.productId }
  | .reserveStock rid exp (i :: rest) (.update v) =>
    if w.rowLocked t i.productId then .wait else
    match t.row w i.productId with
    | none => .error
    | some r =>
      if r.version = v then
        t.write i.productId (reserveSet i.quantity r) (.reserveStock rid exp (i :: rest) .insert)
      else .error
  | .reserveStock rid exp (i :: rest) .insert =>
    if w.keyLocked t rid then .wait
    else if (t.reservations w).any (fun r => r.reservationId = rid) ∨ ¬InInt32 i.quantity then .error
    else .ok { t with program := .reserveStock rid exp rest .selectForUpdate,
                      inserted := t.inserted ++ [⟨w.nextId, rid, i.productId, i.quantity, .active, exp⟩] }
  | .updateReservationStatus rid ch .select =>
    let items := ((t.reservations w).filter (fun r => r.reservationId = rid ∧ r.status = .active)).map
      (fun r => ⟨r.productId, r.quantity⟩)
    if items = [] then .error
    else .ok { t with program := .updateReservationStatus rid ch (.update items) }
  | .updateReservationStatus rid ch (.update (i :: rest)) =>
    if w.rowLocked t i.productId then .wait else
    match t.row w i.productId with
    | none => .ok { t with program := .updateReservationStatus rid ch (.update rest) }
    | some r =>
      t.write i.productId (ch.updateFn i.quantity r) (.updateReservationStatus rid ch (.update rest))
  | .updateReservationStatus rid ch (.update []) =>
    let rows := w.reservations.filter (fun r => r.reservationId = rid ∧ (t.statusOf r).status = .active)
    if rows.any (fun r => w.reservationLocked t r.id) then .wait
    else .ok { t with program := .commit,
                      statusWrites := rows.map (fun r => (r.id, ch.newStatus)) ++ t.statusWrites }
  | .cleanupExpiredReservations s .select =>
    .ok { t with program := .cleanupExpiredReservations s (.updateInventory
            ((t.reservations w).filter (fun r => r.status = .active ∧ r.expiresAt < s))) }
  | .cleanupExpiredReservations _ (.updateInventory []) => .commit
  | .cleanupExpiredReservations s (.updateInventory (r :: rest)) =>
    if w.rowLocked t r.productId then .wait else
    match t.row w r.productId with
    | none => .ok { t with program := .cleanupExpiredReservations s (.updateReservation (r :: rest)) }
    | some row =>
      t.write r.productId (releaseSet r.quantity row)
        (.cleanupExpiredReservations s (.updateReservation (r :: rest)))
  | .cleanupExpiredReservations _ (.updateReservation []) => .commit
  | .cleanupExpiredReservations s (.updateReservation (r :: rest)) =>
    let rows := w.reservations.filter (fun c => c.reservationId = r.reservationId)
    if rows.any (fun c => w.reservationLocked t c.id) then .wait
    else .ok { t with program := .cleanupExpiredReservations s (.updateInventory rest),
                      statusWrites := rows.map (fun c => (c.id, .released)) ++ t.statusWrites }
  | .commit => .commit

end Tx

/-- The calls and steps of the inventory service. -/
inductive Event
  | reserveStock (reservationId : Nat) (items : List ReservationItem) (ttlSeconds : Int)
  | releaseStock (reservationId : Nat)
  | commitStock (reservationId : Nat)
  | cleanupExpiredReservations
  | adjustInventory (productId : Nat) (delta : Int)
  | exec (tx : Nat)
  | abort (tx : Nat)
  | tick (now : Int)

namespace World

/-- `BeginTx` for a program. -/
def begin (w : World) (p : Program) : World :=
  { w with txs := w.txs ++ [⟨w.nextId, p, [], fun _ => none, [], []⟩], nextId := w.nextId + 1 }

/-- Replace an open transaction by its new state. -/
def update (w : World) (t : Tx) : World :=
  { w with txs := w.txs.map (fun x => if x.id = t.id then t else x), nextId := w.nextId + 1 }

/-- Roll a transaction back. -/
def abort (w : World) (t : Tx) : World := { w with txs := w.others t }

/-- Commit a transaction: its row versions and reservation changes become the committed state. -/
def commit (w : World) (t : Tx) : World :=
  { w with inventory := t.row w, reservations := w.reservations.map t.statusOf ++ t.inserted,
           txs := w.others t }

/-- `AdjustInventory`: the upsert, committed at once; a failing statement changes nothing. -/
def adjustInventory (w : World) (p : Nat) (delta : Int) : World :=
  let r := match w.inventory p with
    | none => adjustInsert delta
    | some r => adjustSet delta r
  if r.Valid then { w with inventory := fun q => if q = p then some r else w.inventory q } else w

end World

/-- One step of the service; `none` when the event cannot happen now. -/
def step (w : World) : Event → Option World
  | .reserveStock rid items ttl =>
    some (w.begin (.reserveStock rid (w.now + if ttl ≤ 0 then 900 else ttl) items .selectForUpdate))
  | .releaseStock rid => some (w.begin (.updateReservationStatus rid .releaseStock .select))
  | .commitStock rid => some (w.begin (.updateReservationStatus rid .commitStock .select))
  | .cleanupExpiredReservations => some (w.begin (.cleanupExpiredReservations w.now .select))
  | .adjustInventory p delta =>
    if w.txs.any (fun x => p ∈ x.locks) then none else some (w.adjustInventory p delta)
  | .exec id =>
    match w.txs.find? (fun x => x.id = id) with
    | none => none
    | some t =>
      match t.exec w with
      | .wait => none
      | .error => some (w.abort t)
      | .ok t' => some (w.update t')
      | .commit => some (w.commit t)
  | .abort id => (w.txs.find? (fun x => x.id = id)).map w.abort
  | .tick now => if w.now ≤ now then some { w with now := now } else none

/-- Run a list of events. -/
def run (w : World) : List Event → Option World
  | [] => some w
  | e :: es => (step w e).bind (fun w' => run w' es)

/-! ### What a statement can do to the `inventory` rows -/

/-- What a statement does to a transaction's `inventory` locks and row versions: nothing, or it
locks the row of `p`, or it writes a balanced `shift` of its own view of that row.  In the last two
cases no other transaction holds the lock. -/
inductive RowEffect (w : World) (t t' : Tx) : Prop
  | keep : t'.locks = t.locks → t'.writes = t.writes → RowEffect w t t'
  | lock (p : Nat) : w.rowLocked t p = false → t'.locks = t.locks.insert p →
      t'.writes = t.writes → RowEffect w t t'
  | write (p : Nat) (r : InventoryRow) (a b c : Int) : a + b = c → t.row w p = some r →
      (r.shift a b c).Valid → w.rowLocked t p = false → t'.locks = t.locks.insert p →
      t'.writes = (fun q => if q = p then some (r.shift a b c) else t.writes q) → RowEffect w t t'

namespace Tx

variable {w : World} {t t' : Tx}

private theorem write_effect {p : Nat} {r : InventoryRow} {a b c : Int} {next : Program}
    (h : t.write p (r.shift a b c) next = .ok t') (hbal : a + b = c) (hrow : t.row w p = some r)
    (hfree : w.rowLocked t p = false) : t'.id = t.id ∧ RowEffect w t t' := by
  unfold write at h
  split_ifs at h with hv
  cases h
  exact ⟨rfl, .write p r a b c hbal hrow hv hfree rfl rfl⟩

private theorem updateFn_effect {ch : StatusChange} {p : Nat} {q : Int} {r : InventoryRow}
    {next : Program} (h : t.write p (ch.updateFn q r) next = .ok t') (hrow : t.row w p = some r)
    (hfree : w.rowLocked t p = false) : t'.id = t.id ∧ RowEffect w t t' := by
  cases ch
  · exact write_effect h (by omega) hrow hfree
  · exact write_effect h (by omega) hrow hfree

/-- A statement that succeeds keeps the transaction's identity and has one of the three effects. -/
theorem exec_ok_effect (h : t.exec w = .ok t') : t'.id = t.id ∧ RowEffect w t t' := by
  unfold exec at h
  split at h <;> try dsimp only at h
  · cases h
  · split_ifs at h with hl
    split at h
    · cases h
    · split_ifs at h; cases h
      exact ⟨rfl, .lock _ (by simpa using hl) rfl rfl⟩
  · split_ifs at h with hl
    split at h
    · cases h
    · split_ifs at h
      exact write_effect h (by omega) ‹_› (by simpa using hl)
  · split_ifs at h; cases h; exact ⟨rfl, .keep rfl rfl⟩
  · split_ifs at h; cases h; exact ⟨rfl, .keep rfl rfl⟩
  · split_ifs at h with hl
    split at h
    · cases h; exact ⟨rfl, .keep rfl rfl⟩
    · exact updateFn_effect h ‹_› (by simpa using hl)
  · split_ifs at h; cases h; exact ⟨rfl, .keep rfl rfl⟩
  · cases h; exact ⟨rfl, .keep rfl rfl⟩
  · cases h
  · split_ifs at h with hl
    split at h
    · cases h; exact ⟨rfl, .keep rfl rfl⟩
    · exact write_effect h (by omega) ‹_› (by simpa using hl)
  · cases h
  · split_ifs at h; cases h; exact ⟨rfl, .keep rfl rfl⟩
  · cases h

end Tx

end Coldy.Inventory
