import Coldy.Inventory.Transactions

/-!
# `ReserveStock` on its own

`ReserveStock` run as the only open transaction: its statements one after another until it
commits or fails (`runAlone`), which is what the `exec` events of `step` do when no other
transaction is open (`runAlone_run`).  Each statement either fails or moves on by one
(`exec_reserveStock`), so the call ends within three statements per item and its `COMMIT`
(`reserveStockAlone_ends`), in a world the service reaches by the call's own events
(`reserveStockAlone_is_run`); a failed call leaves the tables as they were (`runAlone_false`).

What commits is not what the stock allows.  The call inserts one `reservations` row per item under
the same `reservation_id`, a `UNIQUE` column: the `INSERT` of a second item always fails, so no
reservation of two items or more commits (`reserveStockAlone_two_items`).  One item commits on the
checks `reserveOne` lists, with no check that its quantity is positive
(`reserveStockAlone_one_item`), and no items at all commit at once, whatever `reservations` holds.
-/

namespace Coldy.Inventory

/-- A transaction running alone from `w`, one statement after another, at most `fuel` of them:
whether it committed, and the world after it ended; `none` when it has not ended. -/
def runAlone : Nat → World → Tx → Option (Bool × World)
  | 0, _, _ => none
  | fuel + 1, w, t =>
    match t.exec w with
    | .wait => none
    | .error => some (false, w.abort t)
    | .ok t' => runAlone fuel (w.update t') t'
    | .commit => some (true, w.commit t)

/-- The transaction `ReserveStock(reservationId, items, ttlSeconds)` begins in `w`. -/
def reserveTx (w : World) (rid : Nat) (items : List ReservationItem) (ttl : Int) : Tx :=
  ⟨w.nextId, .reserveStock rid (w.now + if ttl ≤ 0 then 900 else ttl) items .selectForUpdate, [],
    fun _ => none, [], []⟩

/-- `ReserveStock` with no other transaction open, run to its end within `fuel` statements. -/
def reserveStockAlone (w : World) (rid : Nat) (items : List ReservationItem) (ttl : Int)
    (fuel : Nat) : Option (Bool × World) :=
  runAlone fuel { w with txs := [reserveTx w rid items ttl], nextId := w.nextId + 1 }
    (reserveTx w rid items ttl)

/-- With no transaction open, `ReserveStock` begins the transaction `reserveTx`. -/
theorem step_reserveStock {w : World} (hw : w.txs = []) (rid : Nat) (items : List ReservationItem)
    (ttl : Int) :
    step w (.reserveStock rid items ttl) =
      some { w with txs := [reserveTx w rid items ttl], nextId := w.nextId + 1 } := by
  simp [step, World.begin, hw, reserveTx]

/-! ### Running alone -/

private theorem others_alone {w : World} {t : Tx} (h : w.txs = [t]) : w.others t = [] := by
  simp [World.others, h]

private theorem update_alone {w : World} {t t' : Tx} (h : w.txs = [t]) (e : t'.id = t.id) :
    (w.update t').txs = [t'] := by
  simp [World.update, h, e]

/-- Running alone is running the transaction's `exec` events one after another. -/
theorem runAlone_run {fuel : Nat} {w w' : World} {t : Tx} {b : Bool} (ht : w.txs = [t])
    (h : runAlone fuel w t = some (b, w')) :
    ∃ n, run w (List.replicate n (.exec t.id)) = some w' := by
  induction fuel generalizing w t with
  | zero => cases h
  | succ fuel ih =>
    have hfind : w.txs.find? (fun x => x.id = t.id) = some t := by simp [ht]
    simp only [runAlone] at h
    split at h
    · cases h
    · rename_i hx; cases h; exact ⟨1, by simp [run, step, hfind, hx]⟩
    · rename_i t' hx
      have hid := (Tx.exec_ok_effect hx).1
      obtain ⟨n, hn⟩ := ih (update_alone ht hid) h
      exact ⟨n + 1, by simpa [List.replicate_succ, run, step, hfind, hx, hid] using hn⟩
    · rename_i hx; cases h; exact ⟨1, by simp [run, step, hfind, hx]⟩

/-! ### One statement of `ReserveStock` -/

/-- A statement of `ReserveStock` with an item to go, run alone, fails or moves on: after the
`SELECT … FOR UPDATE` to the `UPDATE`, after the `UPDATE` to the `INSERT`, and after the `INSERT`,
which adds one row of its `reservation_id` when none is there yet, to the next item. -/
theorem exec_reserveStock {w : World} {t : Tx} {rid : Nat} {exp : Int} {i : ReservationItem}
    {rest : List ReservationItem} {phase : ReservePhase}
    (hp : t.program = .reserveStock rid exp (i :: rest) phase) (halone : w.others t = []) :
    t.exec w = .error ∨ ∃ t', t.exec w = .ok t' ∧ t'.id = t.id ∧
      match phase with
      | .selectForUpdate => (∃ v, t'.program = .reserveStock rid exp (i :: rest) (.update v)) ∧
          t'.inserted = t.inserted
      | .update _ => t'.program = .reserveStock rid exp (i :: rest) .insert ∧
          t'.inserted = t.inserted
      | .insert => t'.program = .reserveStock rid exp rest .selectForUpdate ∧
          ¬(t.inserted.any fun r => r.reservationId = rid) ∧
          ∃ r, r.reservationId = rid ∧ t'.inserted = t.inserted ++ [r] := by
  have hfree : ∀ p, w.rowLocked t p = false := fun p => by simp [World.rowLocked, halone]
  have hkey : w.keyLocked t rid = false := by simp [World.keyLocked, halone]
  cases phase with
  | selectForUpdate =>
    simp only [Tx.exec, hp, hfree, Bool.false_eq_true, ↓reduceIte]
    split
    · exact .inl rfl
    · split_ifs
      · exact .inl rfl
      · exact .inr ⟨_, rfl, rfl, ⟨_, rfl⟩, rfl⟩
  | update v =>
    simp only [Tx.exec, hp, hfree, Bool.false_eq_true, ↓reduceIte]
    split
    · exact .inl rfl
    · split_ifs
      · unfold Tx.write
        split_ifs
        · exact .inr ⟨_, rfl, rfl, rfl, rfl⟩
        · exact .inl rfl
      · exact .inl rfl
  | insert =>
    simp only [Tx.exec, hp, hkey, Bool.false_eq_true, ↓reduceIte]
    split_ifs with hdup
    · exact .inl rfl
    · refine .inr ⟨_, rfl, rfl, rfl, fun hins => hdup (.inl ?_), _, rfl, rfl⟩
      simp only [Tx.reservations, List.any_append, hins, Bool.or_true]

/-! ### Two items or more never commit -/

/-- A `ReserveStock` transaction that can no longer commit: two items or more to go, or one to go
with a row of its own `reservation_id` already inserted. -/
def Doomed (t : Tx) : Prop :=
  ∃ rid exp i rest phase, t.program = .reserveStock rid exp (i :: rest) phase ∧
    (rest ≠ [] ∨ t.inserted.any fun r => r.reservationId = rid)

/-- Alone, a doomed transaction fails or stays doomed. -/
theorem Doomed.exec {w : World} {t : Tx} (hd : Doomed t) (halone : w.others t = []) :
    t.exec w = .error ∨ ∃ t', t.exec w = .ok t' ∧ t'.id = t.id ∧ Doomed t' := by
  obtain ⟨rid, exp, i, rest, phase, hp, hleft⟩ := hd
  rcases exec_reserveStock hp halone with he | ⟨t', he, hid, hnext⟩
  · exact .inl he
  refine .inr ⟨t', he, hid, ?_⟩
  cases phase with
  | selectForUpdate =>
    obtain ⟨⟨v, hp'⟩, hins⟩ := hnext
    exact ⟨rid, exp, i, rest, _, hp', hins ▸ hleft⟩
  | update v => exact ⟨rid, exp, i, rest, _, hnext.1, hnext.2 ▸ hleft⟩
  | insert =>
    obtain ⟨hp', hnot, r, hr, hins⟩ := hnext
    rcases rest with _ | ⟨i', rest'⟩
    · exact absurd (hleft.resolve_left (not_not.mpr rfl)) hnot
    · exact ⟨rid, exp, i', rest', _, hp', .inr (by simp [hins, hr])⟩

/-- A transaction that fails alone leaves the committed tables as they were. -/
theorem runAlone_false {fuel : Nat} {w w' : World} {t : Tx} (ht : w.txs = [t])
    (h : runAlone fuel w t = some (false, w')) :
    w'.inventory = w.inventory ∧ w'.reservations = w.reservations := by
  induction fuel generalizing w t with
  | zero => cases h
  | succ fuel ih =>
    simp only [runAlone] at h
    split at h
    · cases h
    · cases h; exact ⟨rfl, rfl⟩
    · exact (ih (update_alone ht (Tx.exec_ok_effect ‹_›).1) h :)
    · cases h

/-- A doomed transaction, alone, never commits. -/
theorem runAlone_doomed {fuel : Nat} {w w' : World} {t : Tx} {b : Bool} (hd : Doomed t)
    (ht : w.txs = [t]) (h : runAlone fuel w t = some (b, w')) : b = false := by
  induction fuel generalizing w t with
  | zero => cases h
  | succ fuel ih =>
    simp only [runAlone] at h
    rcases hd.exec (others_alone ht) with he | ⟨t', he, hid, hd'⟩
    · rw [he] at h; cases h; rfl
    · rw [he] at h; exact ih hd' (update_alone ht hid) h

/-- `ReserveStock` of two items or more, alone, never commits, and leaves the `inventory` and
`reservations` tables as they were. -/
theorem reserveStockAlone_two_items (w : World) (rid : Nat) (i₁ i₂ : ReservationItem)
    (rest : List ReservationItem) (ttl : Int) (fuel : Nat) {b : Bool} {w' : World}
    (h : reserveStockAlone w rid (i₁ :: i₂ :: rest) ttl fuel = some (b, w')) :
    b = false ∧ w'.inventory = w.inventory ∧ w'.reservations = w.reservations := by
  unfold reserveStockAlone at h
  have hd : Doomed (reserveTx w rid (i₁ :: i₂ :: rest) ttl) :=
    ⟨rid, _, i₁, i₂ :: rest, _, rfl, .inl (List.cons_ne_nil _ _)⟩
  obtain rfl := runAlone_doomed hd rfl h
  exact ⟨rfl, (runAlone_false rfl h :)⟩

/-! ### The call ends -/

/-- How many statements of the current item `ReserveStock` has already run. -/
def ReservePhase.done : ReservePhase → Nat
  | .selectForUpdate => 0
  | .update _ => 1
  | .insert => 2

/-- Alone, `ReserveStock` ends within three statements per item to go and its `COMMIT`. -/
theorem runAlone_reserveStock_ends {fuel : Nat} {w : World} {t : Tx} {rid : Nat} {exp : Int}
    {items : List ReservationItem} {phase : ReservePhase}
    (hp : t.program = .reserveStock rid exp items phase) (ht : w.txs = [t])
    (hfuel : 3 * items.length - phase.done < fuel) : ∃ r, runAlone fuel w t = some r := by
  induction fuel generalizing w t items phase with
  | zero => omega
  | succ fuel ih =>
    rcases items with _ | ⟨i, rest⟩
    · simp [runAlone, Tx.exec, hp]
    rcases exec_reserveStock hp (others_alone ht) with he | ⟨t', he, hid, hnext⟩
    · simp [runAlone, he]
    have hw := update_alone ht hid
    simp only [runAlone, he]
    simp only [List.length_cons] at hfuel
    cases phase with
    | selectForUpdate =>
      obtain ⟨⟨v, hp'⟩, -⟩ := hnext
      exact ih hp' hw (by simp only [ReservePhase.done, List.length_cons] at hfuel ⊢; omega)
    | update v =>
      exact ih hnext.1 hw (by simp only [ReservePhase.done, List.length_cons] at hfuel ⊢; omega)
    | insert => exact ih hnext.1 hw (by simp only [ReservePhase.done] at hfuel ⊢; omega)

/-- `ReserveStock`, alone, ends within `3 * items.length + 1` statements. -/
theorem reserveStockAlone_ends (w : World) (rid : Nat) (items : List ReservationItem) (ttl : Int) :
    ∃ r, reserveStockAlone w rid items ttl (3 * items.length + 1) = some r :=
  runAlone_reserveStock_ends rfl rfl (by simp only [ReservePhase.done]; omega)

/-- With no transaction open, `ReserveStock` running alone ends within three statements per item
and its `COMMIT`, in the world the service reaches by the call's own events: its request, then its
statements. -/
theorem reserveStockAlone_is_run (w : World) (hw : w.txs = []) (rid : Nat)
    (items : List ReservationItem) (ttl : Int) :
    ∃ b w', reserveStockAlone w rid items ttl (3 * items.length + 1) = some (b, w') ∧
      ∃ n, run w (.reserveStock rid items ttl :: List.replicate n (.exec w.nextId)) = some w' := by
  obtain ⟨⟨b, w'⟩, h⟩ := reserveStockAlone_ends w rid items ttl
  obtain ⟨n, hn⟩ := runAlone_run rfl h
  exact ⟨b, w', h, n, by simpa [run, step_reserveStock hw] using hn⟩

theorem reserveStockAlone_is_run_init : World.init.txs = [] ∧
    ∃ b w', reserveStockAlone World.init 1 [⟨7, 2⟩] 60 4 = some (b, w') ∧
      ∃ n, run World.init (.reserveStock 1 [⟨7, 2⟩] 60 :: List.replicate n (.exec World.init.nextId)) =
        some w' :=
  ⟨rfl, reserveStockAlone_is_run World.init rfl 1 [⟨7, 2⟩] 60⟩

/-! ### One item -/

/-- What a one-item `ReserveStock` does to the committed tables, check by check: it commits when
the product has a row with enough available stock, the row after `reserveSet` passes PostgreSQL's
checks, no reservation row of this `reservation_id` exists and the quantity fits an `INTEGER`; the
row then has `reserveSet` applied and one active reservation row `rowId` is added. -/
def reserveOne (w : World) (rid : Nat) (i : ReservationItem) (exp : Int) (rowId : Nat) :
    Bool × (Nat → Option InventoryRow) × List Reservation :=
  match w.inventory i.productId with
  | some r =>
    if i.quantity ≤ r.availableQuantity ∧ (reserveSet i.quantity r).Valid ∧
        ¬(w.reservations.any fun x => x.reservationId = rid) ∧ InInt32 i.quantity then
      (true, fun p => if p = i.productId then some (reserveSet i.quantity r) else w.inventory p,
        w.reservations ++ [⟨rowId, rid, i.productId, i.quantity, .active, exp⟩])
    else (false, w.inventory, w.reservations)
  | none => (false, w.inventory, w.reservations)

/-- `ReserveStock` of one item, alone, is `reserveOne`: four statements decide it, and no
quantity check of its own stands before them. -/
theorem reserveStockAlone_one_item (w : World) (rid : Nat) (i : ReservationItem) (ttl : Int)
    (fuel : Nat) :
    (reserveStockAlone w rid [i] ttl (fuel + 4)).map (fun bw => (bw.1, bw.2.inventory, bw.2.reservations)) =
      some (reserveOne w rid i (w.now + if ttl ≤ 0 then 900 else ttl) (w.nextId + 3)) := by
  unfold reserveOne
  simp only [reserveStockAlone, runAlone, reserveTx, Tx.exec, World.rowLocked, World.others,
    World.keyLocked, World.update, Tx.row, Tx.write, Tx.reservations, Tx.statusOf, World.abort,
    World.commit]
  rcases hr : w.inventory i.productId with _ | r
  case none => simp [hr]
  by_cases hq : r.availableQuantity < i.quantity
  case pos => simp [hr, hq, Int.not_le.mpr hq]
  by_cases hv : (reserveSet i.quantity r).Valid
  case neg => simp [hr, hq, hv]
  by_cases hd : ∃ x ∈ w.reservations, x.reservationId = rid
  case pos => simp [hr, hq, hv, hd, Tx.statusOf]
  by_cases hi : InInt32 i.quantity
  case neg => simp [hr, hq, hv, hd, hi, Tx.statusOf]
  simp [hr, hq, hv, hd, hi, Tx.statusOf, Int.not_lt.mp hq]
  refine ⟨funext fun p => ?_, List.map_id'' (fun x => by simp [Tx.statusOf]) _⟩
  by_cases hp : p = i.productId <;> simp [Tx.row, hp]

/-! ### What commits -/

/-- Ten units each of products `7` and `8`, stocked by `AdjustInventory`. -/
def stocked : World := (World.init.adjustInventory 7 10).adjustInventory 8 10

/-- Which `ReserveStock` calls commit is not "all items in stock, quantities of one or more, and a
new `reservation_id`": two items both in stock are refused, a quantity of zero commits with a
reservation row of zero, and no items at all commit under a `reservation_id` already taken. -/
theorem reserveStock_commit_not_stock :
    (reserveStockAlone stocked 1 [⟨7, 2⟩, ⟨8, 3⟩] 60 7).map Prod.fst = some false ∧
    (reserveStockAlone stocked 1 [⟨7, 0⟩] 60 4).map
      (fun (b, w) => (b, w.reservations.map (·.quantity))) = some (true, [0]) ∧
    ((reserveStockAlone stocked 1 [⟨7, 2⟩] 60 4).bind fun (_, w) =>
      (reserveStockAlone w 1 [] 60 1).map
        (fun (b, _) => (w.reservations.map (·.reservationId), b))) = some ([1], true) := by
  decide

/-- `ReserveStock` of two items, both in stock, alone in `stocked`. -/
def twoItemsRun : Bool × World := (reserveStockAlone stocked 1 [⟨7, 2⟩, ⟨8, 3⟩] 60 7).getD (true, stocked)

theorem reserveStockAlone_two_items_stocked :
    reserveStockAlone stocked 1 [⟨7, 2⟩, ⟨8, 3⟩] 60 7 = some twoItemsRun ∧
      twoItemsRun.1 = false ∧ twoItemsRun.2.inventory = stocked.inventory ∧
        twoItemsRun.2.reservations = stocked.reservations :=
  ⟨rfl, reserveStockAlone_two_items stocked 1 ⟨7, 2⟩ ⟨8, 3⟩ [] 60 7 rfl⟩

end Coldy.Inventory
