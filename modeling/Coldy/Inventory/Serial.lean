import Coldy.Inventory.Conservation
import Coldy.Inventory.Reserve

/-!
# Reserved stock when calls do not overlap

`inventory.reserved_quantity` is meant to be the sum of the quantities of the product's active
reservations.  Interleaved calls break this (`reservation_lifecycle_races`), but when no
transaction begins while another is open it holds in every reachable state
(`reserved_eq_active_serial`).

The proof follows the one open transaction statement by statement.  Its view, the tables as they
would be if it committed now (`World.commit`), matches the accounting up to what it `owed`: the
quantity its last `UPDATE inventory` moved before the matching `INSERT` or status `UPDATE` of the
reservation row.  Each statement keeps this (`exec_pending`), and with nothing owed a `COMMIT`
publishes a view that is accounted.  Three facts of the committed tables carry it: every
reservation names a product with an `inventory` row (so no status change skips its row), row ids
are distinct, and `reservation_id` is unique (so the reaper's unguarded status `UPDATE` touches
only the row it released).

Alone, no statement waits (`exec_ne_wait`), and every transaction ends within a bound its program
and the reservations give (`runAlone_ends_within`).
-/

namespace Coldy.Inventory

/-! ### Quantities -/

/-- `reserved_quantity` of product `p`, `0` when it has no row. -/
def reservedOf (inv : Nat → Option InventoryRow) (p : Nat) : Int :=
  match inv p with
  | some r => r.reservedQuantity
  | none => 0

/-- The quantity of the active reservations of `p` among `rs`. -/
def activeQty (p : Nat) (rs : List Reservation) : Int :=
  (rs.filter (fun r => r.productId = p ∧ r.status = .active)).foldr (fun r n => r.quantity + n) 0

/-- The quantity of the items of `p`. -/
def itemQty (p : Nat) (items : List ReservationItem) : Int :=
  (items.filter (·.productId = p)).foldr (fun i n => i.quantity + n) 0

theorem activeQuantity_eq (w : World) (p : Nat) : activeQuantity w p = activeQty p w.reservations :=
  rfl

@[simp] theorem activeQty_nil (p : Nat) : activeQty p [] = 0 := rfl

@[simp] theorem activeQty_cons (p : Nat) (r : Reservation) (rs : List Reservation) :
    activeQty p (r :: rs) =
      (if r.productId = p ∧ r.status = .active then r.quantity else 0) + activeQty p rs := by
  unfold activeQty
  by_cases h : r.productId = p ∧ r.status = .active <;> simp [List.filter_cons, h]

@[simp] theorem activeQty_append (p : Nat) (a b : List Reservation) :
    activeQty p (a ++ b) = activeQty p a + activeQty p b := by
  induction a with
  | nil => simp
  | cons r rs ih => simp only [List.cons_append, activeQty_cons, ih]; omega

@[simp] theorem itemQty_nil (p : Nat) : itemQty p [] = 0 := rfl

@[simp] theorem itemQty_cons (p : Nat) (i : ReservationItem) (items : List ReservationItem) :
    itemQty p (i :: items) = (if i.productId = p then i.quantity else 0) + itemQty p items := by
  unfold itemQty
  by_cases h : i.productId = p <;> simp [List.filter_cons, h]

@[simp] theorem itemQty_append (p : Nat) (a b : List ReservationItem) :
    itemQty p (a ++ b) = itemQty p a + itemQty p b := by
  induction a with
  | nil => simp
  | cons i is ih => simp only [List.cons_append, itemQty_cons, ih]; omega

/-- The active rows of a list with every status active count as their items. -/
theorem activeQty_eq_itemQty (p : Nat) {rows : List Reservation}
    (h : ∀ x ∈ rows, x.status = .active) :
    activeQty p rows = itemQty p (rows.map fun r => ⟨r.productId, r.quantity⟩) := by
  induction rows with
  | nil => rfl
  | cons x xs ih =>
    simp only [List.forall_mem_cons] at h
    simp [h.1, ih h.2]

theorem activeQty_filter_add (p : Nat) (Q : Reservation → Prop) [DecidablePred Q]
    (res : List Reservation) :
    activeQty p res = activeQty p (res.filter (Q ·)) + activeQty p (res.filter (¬Q ·)) := by
  induction res with
  | nil => rfl
  | cons x xs ih => by_cases hx : Q x <;> simp [List.filter_cons, hx, ih] <;> omega

/-! ### Relabelled rows -/

theorem lookup_cons_pair (k a : Nat) (s : ReservationStatus)
    (l : List (Nat × ReservationStatus)) :
    ((k, s) :: l).lookup a = if a = k then some s else l.lookup a := by
  by_cases h : a = k
  · subst h; simp [List.lookup_cons]
  · simp [List.lookup_cons, beq_false_of_ne h, h]

private theorem lookup_map_pair (L : List Reservation) (s : ReservationStatus) (a : Nat) :
    (L.map fun r => (r.id, s)).lookup a = if a ∈ L.map (·.id) then some s else none := by
  induction L with
  | nil => rfl
  | cons r L ih =>
    simp only [List.map_cons, lookup_cons_pair, ih, List.mem_cons]
    by_cases h : a = r.id <;> simp [h]

@[simp] theorem statusOf_id (t : Tx) (r : Reservation) : (t.statusOf r).id = r.id := by
  unfold Tx.statusOf; split <;> rfl

@[simp] theorem statusOf_reservationId (t : Tx) (r : Reservation) :
    (t.statusOf r).reservationId = r.reservationId := by
  unfold Tx.statusOf; split <;> rfl

@[simp] theorem statusOf_productId (t : Tx) (r : Reservation) :
    (t.statusOf r).productId = r.productId := by
  unfold Tx.statusOf; split <;> rfl

theorem statusOf_of_nil {t : Tx} (h : t.statusWrites = []) (r : Reservation) : t.statusOf r = r := by
  simp [Tx.statusOf, h]

/-- A status `UPDATE` of the rows with an id in `L`, to a status other than `active`, leaves the
active quantity of the other rows. -/
theorem activeQty_relabel {t : Tx} {L : List Reservation} {s : ReservationStatus}
    (hsw : t.statusWrites = L.map fun r => (r.id, s)) (hs : s ≠ .active) (p : Nat)
    (res : List Reservation) :
    activeQty p (res.map t.statusOf) = activeQty p (res.filter fun x => x.id ∉ L.map (·.id)) := by
  induction res with
  | nil => rfl
  | cons x xs ih =>
    by_cases hx : x.id ∈ L.map (·.id)
    · rw [List.filter_cons_of_neg (by simpa using hx), ← ih]
      simp [Tx.statusOf, hsw, lookup_map_pair, hx, hs]
    · rw [List.filter_cons_of_pos (by simpa using hx), List.map_cons, activeQty_cons,
        activeQty_cons, ih]
      simp [Tx.statusOf, hsw, lookup_map_pair, hx]

/-- In rows with distinct ids, the rows whose id is that of a row satisfying `P` are those rows. -/
theorem filter_id_mem {res : List Reservation} (hids : (res.map (·.id)).Nodup)
    (P : Reservation → Prop) [DecidablePred P] :
    (res.filter fun x => x.id ∈ (res.filter (P ·)).map (·.id)) = res.filter (P ·) := by
  refine List.filter_congr fun x hx => ?_
  simp only [decide_eq_decide, List.mem_map, List.mem_filter, decide_eq_true_eq]
  constructor
  · rintro ⟨y, ⟨hy, hPy⟩, he⟩
    rwa [List.inj_on_of_nodup_map hids hy hx he] at hPy
  · exact fun hPx => ⟨x, ⟨hx, hPx⟩, rfl⟩

theorem statusOf_cons_ne {t t' : Tx} {k : Nat} {s : ReservationStatus}
    (hsw : t'.statusWrites = (k, s) :: t.statusWrites) {x : Reservation} (hx : x.id ≠ k) :
    t'.statusOf x = t.statusOf x := by
  simp [Tx.statusOf, hsw, lookup_cons_pair, hx]

/-- The reaper's relabelling of the one row `r`: its quantity leaves the active quantity. -/
theorem activeQty_relabel_one {t t' : Tx} {r : Reservation} {s : ReservationStatus}
    (hsw : t'.statusWrites = (r.id, s) :: t.statusWrites) (hs : s ≠ .active) (p : Nat) :
    ∀ res : List Reservation, (res.map (·.id)).Nodup → r ∈ res → t.statusOf r = r →
      r.status = .active →
      activeQty p (res.map t'.statusOf) + (if r.productId = p then r.quantity else 0) =
        activeQty p (res.map t.statusOf) := by
  have hne : ∀ x : Reservation, x.id ≠ r.id → t'.statusOf x = t.statusOf x :=
    fun _ hx => statusOf_cons_ne hsw hx
  intro res
  induction res with
  | nil => intro _ h; cases h
  | cons x xs ih =>
    intro hids hr hf ha
    rw [List.map_cons, List.nodup_cons] at hids
    rcases List.mem_cons.mp hr with rfl | hr
    · have hxs : ∀ y ∈ xs, y.id ≠ r.id := fun y hy he => hids.1 (he ▸ List.mem_map_of_mem _ hy)
      have : activeQty p (xs.map t'.statusOf) = activeQty p (xs.map t.statusOf) :=
        congrArg (activeQty p) (List.map_congr_left fun y hy => hne y (hxs y hy))
      have hr' : t'.statusOf r = { r with status := s } := by
        simp [Tx.statusOf, hsw, lookup_cons_pair]
      simp only [List.map_cons, activeQty_cons, hr', hf, this, ha, hs, and_false, and_true,
        if_false]
      split <;> omega
    · have hx : x.id ≠ r.id := fun he => hids.1 (he ▸ List.mem_map_of_mem _ hr)
      simp only [List.map_cons, activeQty_cons, hne x hx, ← ih hids.2 hr hf ha]
      omega

/-! ### The open transaction's view -/

@[simp] theorem commit_inventory (w : World) (t : Tx) : (w.commit t).inventory = t.row w := rfl

@[simp] theorem commit_reservations (w : World) (t : Tx) :
    (w.commit t).reservations = w.reservations.map t.statusOf ++ t.inserted := rfl

@[simp] theorem commit_nextId (w : World) (t : Tx) : (w.commit t).nextId = w.nextId := rfl

@[simp] theorem update_inventory (w : World) (t : Tx) : (w.update t).inventory = w.inventory := rfl

@[simp] theorem update_reservations (w : World) (t : Tx) :
    (w.update t).reservations = w.reservations := rfl

@[simp] theorem update_nextId (w : World) (t : Tx) : (w.update t).nextId = w.nextId + 1 := rfl

@[simp] theorem row_update (w : World) (t t' : Tx) : t.row (w.update t') = t.row w := rfl

theorem reservedOf_write (f : Nat → Option InventoryRow) (p : Nat) (r : InventoryRow) (x : Nat) :
    reservedOf (fun q => if q = p then some r else f q) x =
      if x = p then r.reservedQuantity else reservedOf f x := by
  unfold reservedOf; by_cases hx : x = p <;> simp [hx]

theorem statusOf_congr {t t' : Tx} (h : t'.statusWrites = t.statusWrites) :
    t'.statusOf = t.statusOf := by
  funext r; simp [Tx.statusOf, h]

/-! ### The invariant -/

/-- The items `updateReservationStatus` of `rid` selects from the committed rows. -/
def ridItems (w : World) (rid : Nat) : List ReservationItem :=
  (w.reservations.filter (fun r => r.reservationId = rid ∧ r.status = .active)).map
    (fun r => ⟨r.productId, r.quantity⟩)

/-- What the open transaction owes the accounting of `p`: the quantity its `UPDATE inventory`
statements have moved into `reserved_quantity` (or out of it) with the reservation row's
`INSERT` or status `UPDATE` still to come. -/
def owed (w : World) (t : Tx) (p : Nat) : Int :=
  match t.program with
  | .reserveStock _ _ (i :: _) .insert => if i.productId = p then i.quantity else 0
  | .updateReservationStatus rid _ (.update items) => itemQty p items - itemQty p (ridItems w rid)
  | .cleanupExpiredReservations _ (.updateReservation (r :: _)) =>
    if r.productId = p then -r.quantity else 0
  | _ => 0

/-- Rows the reaper has still to release: committed, active, not relabelled yet, distinct. -/
def Untouched (w : World) (t : Tx) (rows : List Reservation) : Prop :=
  (rows.map (·.id)).Nodup ∧ ∀ x ∈ rows, x ∈ w.reservations ∧ t.statusOf x = x ∧ x.status = .active

/-- Where the open transaction is in its program, and what it has done so far. -/
def Stage (w : World) (t : Tx) : Prop :=
  match t.program with
  | .reserveStock _ _ items phase =>
    t.statusWrites = [] ∧ (phase = .insert → ∀ i ∈ items.head?, (t.row w i.productId).isSome)
  | .updateReservationStatus _ _ .select => t.inserted = [] ∧ t.statusWrites = []
  | .updateReservationStatus rid _ (.update items) =>
    t.inserted = [] ∧ t.statusWrites = [] ∧ items <:+ ridItems w rid
  | .cleanupExpiredReservations _ .select => t.inserted = [] ∧ t.statusWrites = []
  | .cleanupExpiredReservations _ (.updateInventory rows) => t.inserted = [] ∧ Untouched w t rows
  | .cleanupExpiredReservations _ (.updateReservation rows) => t.inserted = [] ∧ Untouched w t rows
  | .commit => True

/-- The facts of a set of tables the accounting rests on: every reservation names a product with
an `inventory` row, row ids are distinct and below the next fresh id, and `reservation_id` is
unique. -/
structure Sound (w : World) : Prop where
  backed : ∀ r ∈ w.reservations, (w.inventory r.productId).isSome
  ids : (w.reservations.map (·.id)).Nodup
  fresh : ∀ r ∈ w.reservations, r.id < w.nextId
  rids : (w.reservations.map (·.reservationId)).Nodup

/-- `reserved_quantity` of every product is the quantity of its active reservations. -/
def Accounted (w : World) : Prop := ∀ p, reservedOf w.inventory p = activeQuantity w p

/-- The open transaction `t`: its view is sound and accounted up to what it owes. -/
structure Pending (w : World) (t : Tx) : Prop where
  sound : Sound (w.commit t)
  owes : ∀ p, reservedOf (t.row w) p = activeQty p (w.commit t).reservations + owed w t p
  stage : Stage w t

/-- The invariant of runs in which no transaction begins while another is open. -/
structure SerialInv (w : World) : Prop where
  inv : Inv w
  sound : Sound w
  accounted : Accounted w
  open_ : w.txs = [] ∨ ∃ t, w.txs = [t] ∧ Pending w t

/-! ### What the statements touch -/

private theorem locked_single {w : World} {t : Tx} (hw : w.txs = [t]) (p : Nat) :
    w.rowLocked t p = false ∧ w.keyLocked t p = false ∧ w.reservationLocked t p = false := by
  simp [World.rowLocked, World.keyLocked, World.reservationLocked, World.others, hw]

theorem Sound.mono {v v' : World} (h : Sound v)
    (hi : ∀ p, (v.inventory p).isSome → (v'.inventory p).isSome)
    (hr : v'.reservations = v.reservations) (hn : v.nextId ≤ v'.nextId) : Sound v' :=
  ⟨fun r hr' => hi _ (h.backed r (hr ▸ hr')), hr ▸ h.ids,
    fun r hr' => by have := h.fresh r (hr ▸ hr'); omega, hr ▸ h.rids⟩

theorem Sound.of_maps {v v' : World} (h : Sound v)
    (hi : ∀ p, (v.inventory p).isSome → (v'.inventory p).isSome)
    (hid : v'.reservations.map (·.id) = v.reservations.map (·.id))
    (hrid : v'.reservations.map (·.reservationId) = v.reservations.map (·.reservationId))
    (hpid : v'.reservations.map (·.productId) = v.reservations.map (·.productId))
    (hn : v.nextId ≤ v'.nextId) : Sound v' := by
  refine ⟨fun r hr => ?_, hid ▸ h.ids, fun r hr => ?_, hrid ▸ h.rids⟩
  · obtain ⟨r0, hr0, he⟩ :=
      List.mem_map.mp (hpid ▸ List.mem_map_of_mem (fun x : Reservation => x.productId) hr)
    exact he ▸ hi _ (h.backed r0 hr0)
  · obtain ⟨r0, hr0, he⟩ :=
      List.mem_map.mp (hid ▸ List.mem_map_of_mem (fun x : Reservation => x.id) hr)
    have := h.fresh r0 hr0
    simp only at he
    omega

theorem statusOf_eq_id {t : Tx} (h : t.statusWrites = []) : t.statusOf = id :=
  funext (statusOf_of_nil h)

theorem row_of_writes {t t' : Tx} {p : Nat} {r : InventoryRow}
    (h : t'.writes = fun q => if q = p then some r else t.writes q) (w : World) :
    t'.row w = fun x => if x = p then some r else t.row w x := by
  funext x; unfold Tx.row; rw [h]; by_cases hx : x = p <;> simp [hx]

theorem row_isSome_of_writes {t t' : Tx} {p : Nat} {r : InventoryRow}
    (h : t'.writes = fun q => if q = p then some r else t.writes q) (w : World) {x : Nat}
    (hx : (t.row w x).isSome) : (t'.row w x).isSome := by
  rw [row_of_writes h w]; by_cases hxp : x = p <;> simp [hxp, hx]

/-- A write of the row of `p`, read as `r₀`, with a row that reserves `d` more: `reserved_quantity`
moves by `d` at `p` and nowhere else. -/
theorem reservedOf_of_writes {t t' : Tx} {p : Nat} {r r₀ : InventoryRow}
    (h : t'.writes = fun q => if q = p then some r else t.writes q) {w : World}
    (h₀ : t.row w p = some r₀) (d : Int) (hd : r.reservedQuantity = r₀.reservedQuantity + d)
    (x : Nat) :
    reservedOf (t'.row w) x = reservedOf (t.row w) x + if x = p then d else 0 := by
  rw [row_of_writes h w, reservedOf_write]
  by_cases hx : x = p
  · subst hx; simp [reservedOf, h₀, hd]
  · simp [hx]

@[simp] theorem ridItems_update (w : World) (t : Tx) (rid : Nat) :
    ridItems (w.update t) rid = ridItems w rid := rfl

theorem newStatus_ne_active (ch : StatusChange) : ch.newStatus ≠ .active := by
  cases ch <;> simp [StatusChange.newStatus]

theorem updateFn_reserved (ch : StatusChange) (q : Int) (r : InventoryRow) :
    (ch.updateFn q r).reservedQuantity = r.reservedQuantity - q := by
  cases ch <;> simp [StatusChange.updateFn, releaseSet, commitSet, InventoryRow.shift] <;> omega

theorem releaseSet_reserved (q : Int) (r : InventoryRow) :
    (releaseSet q r).reservedQuantity = r.reservedQuantity - q := by
  simp [releaseSet, InventoryRow.shift]; omega

/-- With `reservation_id` unique, the rows of a row's `reservation_id` are that row. -/
theorem filter_rid_eq {res : List Reservation} (h : (res.map (·.reservationId)).Nodup)
    {r : Reservation} (hr : r ∈ res) :
    res.filter (fun c => c.reservationId = r.reservationId) = [r] := by
  induction res with
  | nil => cases hr
  | cons x xs ih =>
    rw [List.map_cons, List.nodup_cons] at h
    rcases List.mem_cons.mp hr with rfl | hr
    · rw [List.filter_cons_of_pos (by simp), List.filter_eq_nil_iff.mpr fun y hy he => h.1 ?_]
      simp only [decide_eq_true_eq] at he
      exact he ▸ List.mem_map_of_mem (fun x : Reservation => x.reservationId) hy
    · have hx : x.reservationId ≠ r.reservationId := fun he =>
        h.1 (he ▸ List.mem_map_of_mem (fun x : Reservation => x.reservationId) hr)
      rw [List.filter_cons_of_neg (by simpa using hx), ih h.2 hr]

theorem write_ne_commit (t : Tx) (p : Nat) (r : InventoryRow) (next : Program) :
    t.write p r next ≠ .commit := by
  unfold Tx.write; split <;> simp

/-! ### One statement of the open transaction -/

private theorem exec_pending_reserve {w : World} {t t' : Tx} {rid : Nat} {exp : Int}
    {items : List ReservationItem} {phase : ReservePhase}
    (hp : t.program = .reserveStock rid exp items phase)
    (hw : w.txs = [t]) (hP : Pending w t) (h : t.exec w = .ok t') : Pending (w.update t') t' := by
  obtain ⟨hsnd, howes, hstage⟩ := hP
  simp only [Stage, hp] at hstage
  obtain ⟨hsw, hins⟩ := hstage
  rcases items with _ | ⟨i, rest⟩
  · simp [Tx.exec, hp] at h
  cases phase with
  | selectForUpdate =>
    simp only [Tx.exec, hp, (locked_single hw _).1, Bool.false_eq_true, ↓reduceIte] at h
    split at h
    · cases h
    split_ifs at h
    cases h
    refine ⟨hsnd.mono (fun _ h => h) rfl (by simp), fun x => ?_, ?_⟩
    · simpa [owed, hp] using howes x
    · simp [Stage, hsw]
  | update v =>
    simp only [Tx.exec, hp, (locked_single hw _).1, Bool.false_eq_true, ↓reduceIte] at h
    split at h
    · cases h
    rename_i r hr
    split_ifs at h
    unfold Tx.write at h
    split_ifs at h
    have ht' := (StmtResult.ok.inj h).symm
    have hwr : t'.writes =
        fun q => if q = i.productId then some (reserveSet i.quantity r) else t.writes q := by
      rw [ht']
    have hsw' : t'.statusWrites = [] := by rw [ht']; exact hsw
    have hins' : t'.inserted = t.inserted := by rw [ht']
    have hprog : t'.program = .reserveStock rid exp (i :: rest) .insert := by rw [ht']
    refine ⟨hsnd.mono (fun _ => row_isSome_of_writes hwr w)
      (by simp [statusOf_eq_id hsw, statusOf_eq_id hsw', hins']) (by simp), fun x => ?_, ?_⟩
    · have := howes x
      simp only [owed, hp, Int.add_zero] at this
      rw [row_update, reservedOf_of_writes hwr hr i.quantity (by simp [reserveSet, InventoryRow.shift]),
        this]
      simp [owed, hprog, hins', statusOf_eq_id hsw', statusOf_eq_id hsw, eq_comm]
    · simp only [Stage, hprog, hsw', true_and]
      intro _ j hj
      simp only [List.head?_cons, Option.mem_def, Option.some.injEq] at hj
      subst hj
      simp [row_of_writes hwr w]
  | insert =>
    simp only [Tx.exec, hp, (locked_single hw _).2.1, Bool.false_eq_true, ↓reduceIte] at h
    split_ifs at h with hdup
    have ht' := (StmtResult.ok.inj h).symm
    have hrow : t'.row = t.row := by rw [ht']; rfl
    have hsw' : t'.statusWrites = [] := by rw [ht']; exact hsw
    have hins' : t'.inserted =
        t.inserted ++ [⟨w.nextId, rid, i.productId, i.quantity, .active, exp⟩] := by rw [ht']
    have hprog : t'.program = .reserveStock rid exp rest .selectForUpdate := by rw [ht']
    have hsome : (t.row w i.productId).isSome := hins rfl i rfl
    obtain ⟨hb, hid, hfr, hrd⟩ := hsnd
    simp only [commit_reservations, statusOf_eq_id hsw, List.map_id, commit_inventory,
      commit_nextId] at hb hid hfr hrd howes
    simp only [Tx.reservations, statusOf_eq_id hsw, List.map_id, not_or, List.any_eq_true,
      decide_eq_true_eq, not_exists, not_and] at hdup
    have hv : ((w.update t').commit t').reservations =
        w.reservations ++ t.inserted ++ [⟨w.nextId, rid, i.productId, i.quantity, .active, exp⟩] := by
      simp [hins', statusOf_eq_id hsw']
    have hinv : ((w.update t').commit t').inventory = t.row w := by simp [hrow]
    refine ⟨⟨fun r hr => ?_, ?_, fun r hr => ?_, ?_⟩, fun x => ?_, ?_⟩
    all_goals try rw [hv] at hr
    all_goals try rw [hv]
    all_goals try rw [hinv]
    · rcases List.mem_append.mp hr with hr | hr
      · exact hb r hr
      · simp only [List.mem_singleton] at hr; subst hr; exact hsome
    · rw [List.map_append]
      refine List.nodup_append.mpr ⟨hid, List.nodup_singleton _, ?_⟩
      simp only [List.map_cons, List.map_nil, List.disjoint_singleton, List.mem_map, not_exists,
        not_and]
      exact fun r hr he => absurd (hfr r hr) (by simp [he])
    · simp only [commit_nextId, update_nextId]
      rcases List.mem_append.mp hr with hr | hr
      · have := hfr r hr; omega
      · simp only [List.mem_singleton] at hr; subst hr; simp
    · rw [List.map_append]
      refine List.nodup_append.mpr ⟨hrd, List.nodup_singleton _, ?_⟩
      simp only [List.map_cons, List.map_nil, List.disjoint_singleton, List.mem_map, not_exists,
        not_and]
      exact fun r hr he => hdup.1 r hr he
    · have := howes x
      simp only [owed, hp] at this
      rw [← commit_inventory, hinv, activeQty_append, this]
      simp [owed, hprog]
    · simp only [Stage, hprog, hsw', true_and]
      exact fun h => nomatch h

private theorem exec_pending_status {w : World} {t t' : Tx} {rid : Nat} {ch : StatusChange}
    {phase : StatusPhase} (hp : t.program = .updateReservationStatus rid ch phase)
    (hw : w.txs = [t]) (hP : Pending w t) (h : t.exec w = .ok t') : Pending (w.update t') t' := by
  obtain ⟨hsnd, howes, hstage⟩ := hP
  cases phase with
  | select =>
    obtain ⟨hins, hsw⟩ : t.inserted = [] ∧ t.statusWrites = [] := by simpa [Stage, hp] using hstage
    simp only [Tx.exec, hp, Tx.reservations, statusOf_eq_id hsw, List.map_id, hins,
      List.append_nil] at h
    split_ifs at h
    have ht' := (StmtResult.ok.inj h).symm
    have hrow : t'.row = t.row := by rw [ht']; rfl
    have hins' : t'.inserted = [] := by rw [ht']
    have hsw' : t'.statusWrites = [] := by rw [ht']; exact hsw
    have hprog : t'.program = .updateReservationStatus rid ch (.update (ridItems w rid)) := by
      rw [ht']; rfl
    refine ⟨hsnd.mono (by simp [hrow])
      (by simp [statusOf_eq_id hsw, hins, statusOf_eq_id hsw', hins']) (by simp), fun x => ?_, ?_⟩
    · have := howes x
      simp only [owed, hp, Int.add_zero] at this
      simp [owed, hprog, hrow, this, statusOf_eq_id hsw, hins, statusOf_eq_id hsw', hins']
    · simp [Stage, hprog, hins', hsw', List.suffix_refl]
  | update items =>
    obtain ⟨hins, hsw, hsuf⟩ : t.inserted = [] ∧ t.statusWrites = [] ∧ items <:+ ridItems w rid := by
      simpa [Stage, hp] using hstage
    have hv : (w.commit t).reservations = w.reservations := by simp [statusOf_eq_id hsw, hins]
    rcases items with _ | ⟨i, rest⟩
    · simp only [Tx.exec, hp, statusOf_eq_id hsw, id] at h
      split_ifs at h
      have ht' := (StmtResult.ok.inj h).symm
      set rows := w.reservations.filter fun r => r.reservationId = rid ∧ r.status = .active
      have hrow : t'.row = t.row := by rw [ht']; rfl
      have hins' : t'.inserted = [] := by rw [ht']; exact hins
      have hsw' : t'.statusWrites = rows.map fun r => (r.id, ch.newStatus) := by rw [ht']; simp [hsw]
      have hprog : t'.program = .commit := by rw [ht']
      have hids : (w.reservations.map (·.id)).Nodup := hv ▸ hsnd.ids
      refine ⟨hsnd.of_maps (by simp [hrow]) ?_ ?_ ?_ (by simp), fun x => ?_, by simp [Stage, hprog]⟩
      · rw [hv]; simp [hins', List.map_map, Function.comp_def]
      · rw [hv]; simp [hins', List.map_map, Function.comp_def]
      · rw [hv]; simp [hins', List.map_map, Function.comp_def]
      have := howes x
      rw [hv] at this
      simp only [owed, hp, itemQty_nil, Int.zero_sub] at this
      simp only [row_update, hrow, commit_reservations, update_reservations, hins',
        List.append_nil, owed, hprog, Int.add_zero]
      rw [activeQty_relabel hsw' (newStatus_ne_active ch), this,
        activeQty_filter_add x (fun r => r.id ∈ rows.map (·.id)) w.reservations,
        filter_id_mem hids, @activeQty_eq_itemQty x rows (fun r hr => by
          simp only [rows, List.mem_filter, decide_eq_true_eq] at hr; exact hr.2.2)]
      simp only [ridItems, rows]
      omega
    · simp only [Tx.exec, hp, (locked_single hw _).1, Bool.false_eq_true, ↓reduceIte] at h
      split at h
      · rename_i hr
        obtain ⟨x, hx, hpx⟩ : ∃ x ∈ w.reservations, x.productId = i.productId := by
          obtain ⟨x, hx, he⟩ := List.mem_map.mp (hsuf.subset (List.mem_cons_self i rest))
          exact ⟨x, (List.mem_filter.mp hx).1, by rw [← he]⟩
        have := hsnd.backed x (by rw [hv]; exact hx)
        simp [hpx, hr] at this
      · rename_i r hr
        unfold Tx.write at h
        split_ifs at h
        have ht' := (StmtResult.ok.inj h).symm
        have hwr : t'.writes =
            fun q => if q = i.productId then some (ch.updateFn i.quantity r) else t.writes q := by
          rw [ht']
        have hins' : t'.inserted = [] := by rw [ht']; exact hins
        have hsw' : t'.statusWrites = [] := by rw [ht']; exact hsw
        have hprog : t'.program = .updateReservationStatus rid ch (.update rest) := by rw [ht']
        have hv' : ((w.update t').commit t').reservations = w.reservations := by
          simp [statusOf_eq_id hsw', hins']
        refine ⟨hsnd.mono (fun _ => row_isSome_of_writes hwr w) (by rw [hv', hv]) (by simp),
          fun x => ?_, ?_⟩
        · have := howes x
          rw [hv] at this
          simp only [owed, hp, itemQty_cons] at this
          rw [hv', row_update, reservedOf_of_writes hwr hr (-i.quantity)
            (by rw [updateFn_reserved]; omega), this]
          simp only [owed, hprog, ridItems_update]
          split_ifs <;> omega
        · simp only [Stage, hprog, hins', hsw', true_and]
          exact (List.suffix_cons i rest).trans hsuf

private theorem exec_pending_cleanup {w : World} {t t' : Tx} {s : Int} {phase : CleanupPhase}
    (hp : t.program = .cleanupExpiredReservations s phase)
    (hw : w.txs = [t]) (hP : Pending w t) (h : t.exec w = .ok t') : Pending (w.update t') t' := by
  obtain ⟨hsnd, howes, hstage⟩ := hP
  have hins : t.inserted = [] := by cases phase <;> simp_all [Stage]
  have hmaps : ∀ (f : Reservation → Nat) (u : Tx), (∀ r, f (u.statusOf r) = f r) →
      (w.reservations.map u.statusOf).map f = w.reservations.map f := fun f u hf => by
    simp [List.map_map, Function.comp_def, hf]
  have hids : (w.reservations.map (·.id)).Nodup := by
    simpa [hins, hmaps] using hsnd.ids
  have hrids : (w.reservations.map (·.reservationId)).Nodup := by
    simpa [hins, hmaps] using hsnd.rids
  cases phase with
  | select =>
    have hsw : t.statusWrites = [] := by simp only [Stage, hp] at hstage; exact hstage.2
    simp only [Tx.exec, hp, Tx.reservations, statusOf_eq_id hsw, List.map_id, hins,
      List.append_nil] at h
    have ht' := (StmtResult.ok.inj h).symm
    have hrow : t'.row = t.row := by rw [ht']; rfl
    have hins' : t'.inserted = [] := by rw [ht']
    have hsw' : t'.statusWrites = [] := by rw [ht']; exact hsw
    have hprog : t'.program = .cleanupExpiredReservations s (.updateInventory
        (w.reservations.filter fun r => r.status = .active ∧ r.expiresAt < s)) := by rw [ht']
    refine ⟨hsnd.mono (by simp [hrow])
      (by simp [statusOf_eq_id hsw, hins, statusOf_eq_id hsw', hins']) (by simp), fun x => ?_, ?_⟩
    · have := howes x
      simp only [owed, hp, Int.add_zero] at this
      simp [owed, hprog, hrow, this, statusOf_eq_id hsw, hins, statusOf_eq_id hsw', hins']
    · simp only [Stage, hprog, hins', true_and]
      refine ⟨hids.sublist ((List.filter_sublist _).map _), fun x hx => ?_⟩
      simp only [List.mem_filter, decide_eq_true_eq] at hx
      exact ⟨hx.1, statusOf_of_nil hsw' x, hx.2.1⟩
  | updateInventory rows =>
    obtain ⟨-, hu⟩ : t.inserted = [] ∧ Untouched w t rows := by simpa [Stage, hp] using hstage
    rcases rows with _ | ⟨r, rest⟩
    · simp [Tx.exec, hp] at h
    obtain ⟨hrm, hrs, hra⟩ := hu.2 r (List.mem_cons_self r rest)
    simp only [Tx.exec, hp, (locked_single hw _).1, Bool.false_eq_true, ↓reduceIte] at h
    split at h
    · rename_i hr
      have := hsnd.backed (t.statusOf r) (by simp [hins]; exact ⟨r, hrm, rfl⟩)
      simp [hr] at this
    · rename_i row hr
      unfold Tx.write at h
      split_ifs at h
      have ht' := (StmtResult.ok.inj h).symm
      have hwr : t'.writes =
          fun q => if q = r.productId then some (releaseSet r.quantity row) else t.writes q := by
        rw [ht']
      have hins' : t'.inserted = [] := by rw [ht']; exact hins
      have hsw' : t'.statusWrites = t.statusWrites := by rw [ht']
      have hprog : t'.program = .cleanupExpiredReservations s (.updateReservation (r :: rest)) := by
        rw [ht']
      refine ⟨hsnd.mono (fun _ => row_isSome_of_writes hwr w)
        (by simp [statusOf_congr hsw', hins', hins]) (by simp), fun x => ?_, ?_⟩
      · have := howes x
        simp only [owed, hp, Int.add_zero] at this
        rw [row_update, reservedOf_of_writes hwr hr (-r.quantity)
          (by rw [releaseSet_reserved]; omega), this]
        simp only [owed, hprog, commit_reservations, update_reservations, hins', hins,
          statusOf_congr hsw']
        split_ifs <;> omega
      · simp only [Stage, hprog, hins', true_and]
        exact ⟨hu.1, fun x hx => by rw [statusOf_congr hsw']; exact hu.2 x hx⟩
  | updateReservation rows =>
    obtain ⟨-, hu⟩ : t.inserted = [] ∧ Untouched w t rows := by simpa [Stage, hp] using hstage
    rcases rows with _ | ⟨r, rest⟩
    · simp [Tx.exec, hp] at h
    obtain ⟨hrm, hrs, hra⟩ := hu.2 r (List.mem_cons_self r rest)
    simp only [Tx.exec, hp, filter_rid_eq hrids hrm] at h
    split_ifs at h
    have ht' := (StmtResult.ok.inj h).symm
    have hrow : t'.row = t.row := by rw [ht']; rfl
    have hins' : t'.inserted = [] := by rw [ht']; exact hins
    have hsw' : t'.statusWrites = (r.id, .released) :: t.statusWrites := by rw [ht']; rfl
    have hprog : t'.program = .cleanupExpiredReservations s (.updateInventory rest) := by rw [ht']
    have hne : ∀ x ∈ rest, x.id ≠ r.id := fun x hx he => by
      have := hu.1; rw [List.map_cons, List.nodup_cons] at this
      exact this.1 (he ▸ List.mem_map_of_mem (fun x : Reservation => x.id) hx)
    refine ⟨hsnd.of_maps (by simp [hrow]) ?_ ?_ ?_ (by simp), fun x => ?_, ?_⟩
    · simp [hins, hins', hmaps]
    · simp [hins, hins', hmaps]
    · simp [hins, hins', hmaps]
    · have := howes x
      have hrel := activeQty_relabel_one hsw' (by decide) x w.reservations hids hrm hrs hra
      simp only [owed, hp, commit_reservations, hins, List.append_nil] at this
      simp only [row_update, hrow, owed, hprog, commit_reservations, update_reservations, hins',
        List.append_nil, this]
      split <;> omega
    · simp only [Stage, hprog, hins', true_and]
      refine ⟨(List.nodup_cons.mp (by simpa using hu.1)).2, fun x hx => ?_⟩
      obtain ⟨h1, h2, h3⟩ := hu.2 x (List.mem_cons_of_mem r hx)
      exact ⟨h1, (statusOf_cons_ne hsw' (hne x hx)).trans h2, h3⟩

/-- Each statement of the one open transaction keeps the accounting of its view. -/
theorem exec_pending {w : World} {t t' : Tx} (hw : w.txs = [t]) (hP : Pending w t)
    (h : t.exec w = .ok t') : Pending (w.update t') t' := by
  cases hp : t.program with
  | reserveStock rid exp items phase => exact exec_pending_reserve hp hw hP h
  | updateReservationStatus rid ch phase => exact exec_pending_status hp hw hP h
  | cleanupExpiredReservations s phase => exact exec_pending_cleanup hp hw hP h
  | commit => simp [Tx.exec, hp] at h

/-- A transaction reaches its `COMMIT` owing nothing. -/
theorem owed_of_exec_commit {w : World} {t : Tx} (h : t.exec w = .commit) (p : Nat) :
    owed w t p = 0 := by
  unfold owed
  split
  · rename_i hp; simp only [Tx.exec, hp] at h; repeat' split at h
    all_goals cases h
  · rename_i items hp
    cases items <;> simp only [Tx.exec, hp] at h <;> repeat' split at h
    all_goals first | cases h | exact absurd h (write_ne_commit _ _ _ _)
  · rename_i hp; simp only [Tx.exec, hp] at h; repeat' split at h
    all_goals cases h
  · rfl

/-! ### Changes outside the open transaction -/

theorem ridItems_congr {w w' : World} (h : w'.reservations = w.reservations) (rid : Nat) :
    ridItems w' rid = ridItems w rid := by
  simp only [ridItems, h]

/-- A change of the committed tables that keeps the reservations, every `reserved_quantity` and
every row the transaction sees keeps its accounting. -/
theorem Pending.congr {w w' : World} {t : Tx} (hP : Pending w t)
    (hr : w'.reservations = w.reservations)
    (hq : ∀ p, reservedOf (t.row w') p = reservedOf (t.row w) p)
    (hi : ∀ p, (t.row w p).isSome → (t.row w' p).isSome) (hn : w.nextId ≤ w'.nextId) :
    Pending w' t := by
  obtain ⟨hsnd, howes, hstage⟩ := hP
  refine ⟨hsnd.mono hi (by simp [hr]) hn, fun p => ?_, ?_⟩
  · have : owed w' t p = owed w t p := by simp only [owed, ridItems_congr hr]
    rw [hq, howes, this]; simp [hr]
  · unfold Stage Untouched at *
    split at hstage
    · exact ⟨hstage.1, fun hph i hm => hi _ (hstage.2 hph i hm)⟩
    all_goals first | exact hstage | simpa only [ridItems_congr hr, hr] using hstage

@[simp] theorem adjust_reservations (w : World) (p : Nat) (delta : Int) :
    (w.adjustInventory p delta).reservations = w.reservations := by
  dsimp only [World.adjustInventory]; split_ifs <;> rfl

@[simp] theorem adjust_txs (w : World) (p : Nat) (delta : Int) :
    (w.adjustInventory p delta).txs = w.txs := by
  dsimp only [World.adjustInventory]; split_ifs <;> rfl

@[simp] theorem adjust_nextId (w : World) (p : Nat) (delta : Int) :
    (w.adjustInventory p delta).nextId = w.nextId := by
  dsimp only [World.adjustInventory]; split_ifs <;> rfl

theorem reservedOf_adjust (w : World) (p : Nat) (delta : Int) (q : Nat) :
    reservedOf (w.adjustInventory p delta).inventory q = reservedOf w.inventory q := by
  dsimp only [World.adjustInventory]
  split_ifs
  · by_cases hq : q = p
    · subst hq; simp only [if_true, reservedOf]
      split <;> simp_all [adjustInsert, adjustSet, InventoryRow.shift]
    · simp [reservedOf, hq]
  · rfl

theorem isSome_adjust (w : World) (p : Nat) (delta : Int) {q : Nat} (h : (w.inventory q).isSome) :
    ((w.adjustInventory p delta).inventory q).isSome := by
  dsimp only [World.adjustInventory]
  split_ifs
  · by_cases hq : q = p <;> simp [hq, h]
  · exact h

theorem reservedOf_row (t : Tx) (w : World) (q : Nat) :
    reservedOf (t.row w) q =
      match t.writes q with
      | some r => r.reservedQuantity
      | none => reservedOf w.inventory q := by
  unfold reservedOf Tx.row; cases t.writes q <;> rfl

theorem row_reserved_adjust (w : World) (t : Tx) (p : Nat) (delta : Int) (q : Nat) :
    reservedOf (t.row (w.adjustInventory p delta)) q = reservedOf (t.row w) q := by
  rw [reservedOf_row, reservedOf_row, reservedOf_adjust]

theorem row_isSome_adjust (w : World) (t : Tx) (p : Nat) (delta : Int) {q : Nat}
    (h : (t.row w q).isSome) : (t.row (w.adjustInventory p delta) q).isSome := by
  cases hq : t.writes q <;> simp only [Tx.row, hq, Option.isSome_some] at h ⊢
  exact isSome_adjust w p delta h

/-! ### Serial runs -/

/-- The requests that open a transaction. -/
def Event.begins : Event → Bool
  | .reserveStock .. | .releaseStock _ | .commitStock _ | .cleanupExpiredReservations => true
  | _ => false

/-- The service with calls that do not overlap: a request begins its transaction only when no
other transaction is open. -/
def serialStep (w : World) (e : Event) : Option World :=
  if e.begins && !w.txs.isEmpty then none else step w e

/-- Run a list of events without overlapping calls. -/
def serialRun (w : World) : List Event → Option World
  | [] => some w
  | e :: es => (serialStep w e).bind (fun w' => serialRun w' es)

theorem step_of_serialStep {w w' : World} {e : Event} (h : serialStep w e = some w') :
    step w e = some w' := by
  unfold serialStep at h; split_ifs at h; exact h

theorem sound_init : Sound World.init := ⟨by simp [World.init], by simp [World.init],
  by simp [World.init], by simp [World.init]⟩

theorem serialInv_init : SerialInv World.init :=
  ⟨inv_init, sound_init, fun _ => rfl, .inl rfl⟩

theorem serialInv_begin {w : World} (hs : SerialInv w) (hw : w.txs = []) {prog : Program}
    (hinv : Inv (w.begin prog))
    (ho : ∀ p, owed (w.begin prog) ⟨w.nextId, prog, [], fun _ => none, [], []⟩ p = 0)
    (hst : Stage (w.begin prog) ⟨w.nextId, prog, [], fun _ => none, [], []⟩) :
    SerialInv (w.begin prog) := by
  have hres : ((w.begin prog).commit ⟨w.nextId, prog, [], fun _ => none, [], []⟩).reservations =
      w.reservations := by
    have h0 : Tx.statusOf ⟨w.nextId, prog, [], fun _ => none, [], []⟩ = id := statusOf_eq_id rfl
    simp [World.begin, h0]
  have hn : w.nextId ≤ (w.begin prog).nextId := by simp [World.begin]
  refine ⟨hinv, hs.sound.mono (fun _ h => h) rfl hn, hs.accounted,
    .inr ⟨⟨w.nextId, prog, [], fun _ => none, [], []⟩, by simp [World.begin, hw], hs.sound.mono (fun _ h => h) hres (by simpa using hn),
      fun p => ?_, hst⟩⟩
  rw [hres, ho, Int.add_zero]
  exact hs.accounted p

theorem serialInv_abort {w : World} {t : Tx} (hs : SerialInv w) (hinv : Inv (w.abort t))
    (ht : t ∈ w.txs) : SerialInv (w.abort t) := by
  refine ⟨hinv, hs.sound.mono (fun _ h => h) rfl le_rfl, hs.accounted, .inl ?_⟩
  rcases hs.open_ with hw | ⟨t1, hw, -⟩
  · simp [hw] at ht
  · rw [hw, List.mem_singleton] at ht
    simp [World.abort, World.others, hw, ht]

/-- Every serial step keeps the serial invariant. -/
theorem serialInv_step {w w' : World} {e : Event} (hs : SerialInv w)
    (h : serialStep w e = some w') : SerialInv w' := by
  have hstep := step_of_serialStep h
  have hinv := inv_step hs.inv hstep
  have hw0 : e.begins → w.txs = [] := fun hb => by
    by_contra hne
    simp [serialStep, hb, List.isEmpty_iff, hne] at h
  cases e with
  | reserveStock rid items ttl =>
    cases hstep
    exact serialInv_begin hs (hw0 rfl) hinv (fun _ => by cases items <;> rfl) (by simp [Stage])
  | releaseStock rid =>
    cases hstep; exact serialInv_begin hs (hw0 rfl) hinv (fun _ => rfl) ⟨rfl, rfl⟩
  | commitStock rid =>
    cases hstep; exact serialInv_begin hs (hw0 rfl) hinv (fun _ => rfl) ⟨rfl, rfl⟩
  | cleanupExpiredReservations =>
    cases hstep; exact serialInv_begin hs (hw0 rfl) hinv (fun _ => rfl) ⟨rfl, rfl⟩
  | adjustInventory p delta =>
    simp only [step] at hstep
    split_ifs at hstep
    cases hstep
    refine ⟨hinv, hs.sound.mono (fun _ h => isSome_adjust w p delta h) (by simp) (by simp),
      fun q => by rw [reservedOf_adjust, activeQuantity_eq, adjust_reservations]; exact hs.accounted q,
      ?_⟩
    rcases hs.open_ with hw | ⟨t, hw, hP⟩
    · exact .inl (by simpa using hw)
    · exact .inr ⟨t, by simpa using hw, hP.congr (by simp) (row_reserved_adjust w t p delta)
        (fun _ => row_isSome_adjust w t p delta) (by simp)⟩
  | exec id =>
    simp only [step] at hstep
    split at hstep
    · cases hstep
    rename_i t ht
    have htm := List.mem_of_find?_eq_some ht
    split at hstep
    · cases hstep
    · cases hstep; exact serialInv_abort hs hinv htm
    · rename_i t' hex
      cases hstep
      rcases hs.open_ with hw | ⟨t1, hw, hP⟩
      · simp [hw] at htm
      rw [hw, List.mem_singleton] at htm
      subst htm
      have hid := (Tx.exec_ok_effect hex).1
      exact ⟨hinv, hs.sound.mono (fun _ h => h) rfl (by simp), hs.accounted,
        .inr ⟨t', by simp [World.update, hw, hid], exec_pending hw hP hex⟩⟩
    · rename_i hex
      cases hstep
      rcases hs.open_ with hw | ⟨t1, hw, hP⟩
      · simp [hw] at htm
      rw [hw, List.mem_singleton] at htm
      subst htm
      refine ⟨hinv, hP.sound, fun p => ?_, .inl (by simp [World.commit, World.others, hw])⟩
      rw [activeQuantity_eq, commit_inventory, hP.owes p, owed_of_exec_commit hex, Int.add_zero]
  | abort id =>
    simp only [step, Option.map_eq_some'] at hstep
    obtain ⟨t, ht, rfl⟩ := hstep
    exact serialInv_abort hs hinv (List.mem_of_find?_eq_some ht)
  | tick now =>
    simp only [step] at hstep
    split_ifs at hstep
    cases hstep
    refine ⟨hinv, hs.sound.mono (fun _ h => h) rfl le_rfl, hs.accounted, ?_⟩
    rcases hs.open_ with hw | ⟨t, hw, hP⟩
    · exact .inl hw
    · exact .inr ⟨t, hw, hP.congr rfl (fun _ => rfl) (fun _ h => h) le_rfl⟩

theorem serialInv_run (es : List Event) :
    ∀ {w w' : World}, SerialInv w → serialRun w es = some w' → SerialInv w' := by
  induction es with
  | nil => intro w w' hs h; cases h; exact hs
  | cons e es ih =>
    intro w w' hs h
    simp only [serialRun, Option.bind_eq_some] at h
    obtain ⟨w1, h1, h2⟩ := h
    exact ih (serialInv_step hs h1) h2

/-- Without overlapping calls, every product's `reserved_quantity` is the total quantity of its
active reservations, in every reachable state. -/
theorem reserved_eq_active_serial (es : List Event) (w : World)
    (h : serialRun World.init es = some w) (p : Nat) :
    reservedOf w.inventory p = activeQuantity w p :=
  (serialInv_run es serialInv_init h).accounted p

/-- Two reservations of product 7, a `ReleaseStock` of the second and the reaper's release of the
first, each call after the previous one has committed. -/
def serialDemo : List Event :=
  [.adjustInventory 7 3, .reserveStock 100 [⟨7, 2⟩] 1, .exec 0, .exec 0, .exec 0, .exec 0,
    .reserveStock 200 [⟨7, 1⟩] 1000, .exec 4, .exec 4, .exec 4, .exec 4,
    .releaseStock 200, .exec 8, .exec 8, .exec 8, .exec 8,
    .tick 5, .cleanupExpiredReservations, .exec 12, .exec 12, .exec 12, .exec 12]

def serialDemoWorld : World := (serialRun World.init serialDemo).getD World.init

theorem reserved_eq_active_serialDemo :
    serialRun World.init serialDemo = some serialDemoWorld ∧
      ∀ p, reservedOf serialDemoWorld.inventory p = activeQuantity serialDemoWorld p :=
  ⟨rfl, reserved_eq_active_serial serialDemo serialDemoWorld rfl⟩

/-! ### A call alone ends -/

theorem write_ne_wait (t : Tx) (p : Nat) (r : InventoryRow) (next : Program) :
    t.write p r next ≠ .wait := by
  unfold Tx.write; split <;> simp

/-- With no other transaction open no statement waits: every lock it could wait for is free. -/
theorem exec_ne_wait {w : World} {t : Tx} (hw : w.txs = [t]) : t.exec w ≠ .wait := by
  have hr : ∀ p, w.rowLocked t p = false := fun p => by simp [World.rowLocked, World.others, hw]
  have hk : ∀ p, w.keyLocked t p = false := fun p => by simp [World.keyLocked, World.others, hw]
  have hs : ∀ p, w.reservationLocked t p = false := fun p => by
    simp [World.reservationLocked, World.others, hw]
  intro h
  unfold Tx.exec at h
  dsimp only at h
  repeat' split at h
  all_goals first | exact write_ne_wait _ _ _ _ h | simp_all

/-- A bound on the statements a transaction has left: three per item of `ReserveStock`, one per
row the status change or the reaper may read (two for the reaper), and its last statements.  Every
statement that succeeds lowers it (`remaining_exec`). -/
def remaining (w : World) (t : Tx) : Nat :=
  match t.program with
  | .reserveStock _ _ items .selectForUpdate => 3 * items.length
  | .reserveStock _ _ items (.update _) => 3 * items.length - 1
  | .reserveStock _ _ items .insert => 3 * items.length - 2
  | .updateReservationStatus _ _ .select => (t.reservations w).length + 2
  | .updateReservationStatus _ _ (.update items) => items.length + 1
  | .cleanupExpiredReservations _ .select => 2 * (t.reservations w).length + 1
  | .cleanupExpiredReservations _ (.updateInventory rows) => 2 * rows.length
  | .cleanupExpiredReservations _ (.updateReservation rows) => 2 * rows.length - 1
  | .commit => 0

theorem remaining_exec {w : World} {t t' : Tx} (h : t.exec w = .ok t') :
    remaining (w.update t') t' < remaining w t := by
  unfold Tx.exec at h
  dsimp only at h
  split at h <;> rename_i hp
  all_goals (repeat' split at h)
  all_goals (try unfold Tx.write at h; try split_ifs at h)
  all_goals cases h
  all_goals simp only [remaining, hp, List.length_cons, List.length_map, Tx.reservations]
  all_goals first
    | omega
    | exact Nat.add_lt_add_right (Nat.lt_succ_of_le (List.length_filter_le _ _)) 1
    | exact Nat.lt_succ_of_le (Nat.mul_le_mul_left 2 (List.length_filter_le _ _))

/-- With no other transaction open, a transaction ends, committed or rolled back, within
`remaining w t + 1` statements, and leaves no transaction open. -/
theorem runAlone_ends_within {w : World} {t : Tx} (hw : w.txs = [t]) :
    ∃ b w', runAlone (remaining w t + 1) w t = some (b, w') ∧ w'.txs = [] := by
  suffices h : ∀ n (w : World) (t : Tx), w.txs = [t] → remaining w t < n →
      ∃ b w', runAlone n w t = some (b, w') ∧ w'.txs = [] from h _ w t hw (Nat.lt_succ_self _)
  intro n
  induction n with
  | zero => intro _ _ _ h; omega
  | succ n ih =>
    intro w t hw hn
    simp only [runAlone]
    cases hx : t.exec w with
    | wait => exact absurd hx (exec_ne_wait hw)
    | error => exact ⟨false, _, rfl, by simp [World.abort, World.others, hw]⟩
    | ok t' =>
      have hid := (Tx.exec_ok_effect hx).1
      exact ih _ _ (by simp [World.update, hw, hid]) (by have := remaining_exec hx; omega)
    | commit => exact ⟨true, _, rfl, by simp [World.commit, World.others, hw]⟩

/-- `ReleaseStock(200)` begun after the two reservations of `serialDemo`. -/
def releaseDemo : World :=
  ((serialRun World.init (serialDemo.take 11)).getD World.init).begin
    (.updateReservationStatus 200 .releaseStock .select)

/-- Its transaction. -/
def releaseDemoTx : Tx :=
  ⟨8, .updateReservationStatus 200 .releaseStock .select, [], fun _ => none, [], []⟩

theorem runAlone_ends_within_releaseDemo :
    releaseDemo.txs = [releaseDemoTx] ∧ ∃ b w',
      runAlone (remaining releaseDemo releaseDemoTx + 1) releaseDemo releaseDemoTx = some (b, w') ∧
        w'.txs = [] :=
  ⟨rfl, runAlone_ends_within rfl⟩

end Coldy.Inventory
