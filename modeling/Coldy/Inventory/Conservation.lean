import Mathlib.Data.List.Nodup
import Coldy.Inventory.Transactions

/-!
# Inventory conservation, and the reservation lifecycle

Every `inventory` row version in a reachable state, committed or still private to a transaction,
is conserved: `available + reserved = total`, `available ≥ 0`, `reserved ≥ 0` (`Inv`).  A private
version belongs to a transaction holding the row's lock, no two transactions hold the same lock,
and a private version is newer than the committed one, so a commit only raises versions.

`inventory_conservation`: from the empty tables, under any interleaving of the service's
transactions, aborts and autocommitted adjustments, every committed row is conserved; every step
keeps every committed row and never lowers its version, and a row that changes gets a strictly
larger version; and every statement that writes a row writes `version + 1` of the row it read.

Conservation does not make the reservation lifecycle exactly-once.  `updateReservationStatus`
reads the active rows with a plain `SELECT` (no `FOR UPDATE`) and updates the inventory from what
it read; only its final `UPDATE reservations ... AND status = 'active'` re-checks the status.  The
reaper's final `UPDATE reservations` has no status guard at all.  `reservation_lifecycle_races`
evaluates two interleavings from the empty tables: two `ReleaseStock(100)` calls that both read
reservation 100 as active apply its quantity twice, and a `CommitStock(100)` that commits between
the reaper's `SELECT` and its `UPDATE`s has its committed row relabelled `released` and its sold
unit returned to `available`.  In both runs `reserved_quantity` ends below the quantity of the
active reservations (`activeQuantity`).
-/

namespace Coldy.Inventory

/-- The invariant of the inventory tables. -/
structure Inv (w : World) : Prop where
  committed : ∀ p r, w.inventory p = some r → r.Conserved
  writes : ∀ t ∈ w.txs, ∀ p r, t.writes p = some r →
    r.Conserved ∧ p ∈ t.locks ∧ ∃ r0, w.inventory p = some r0 ∧ r0.version < r.version
  exclusive : ∀ t ∈ w.txs, ∀ t' ∈ w.txs, t.id ≠ t'.id → ∀ p ∈ t.locks, p ∉ t'.locks
  fresh : ∀ t ∈ w.txs, t.id < w.nextId
  nodup : (w.txs.map Tx.id).Nodup

variable {w w' : World}

theorem inv_init : Inv World.init :=
  ⟨by simp [World.init], by simp [World.init], by simp [World.init], by simp [World.init],
    by simp [World.init]⟩

/-- A transaction sees a conserved row. -/
private theorem row_conserved (hi : Inv w) {t : Tx} (ht : t ∈ w.txs) {p : Nat} {r : InventoryRow}
    (h : t.row w p = some r) : r.Conserved := by
  unfold Tx.row at h
  split at h
  · cases h; exact (hi.writes t ht p _ ‹_›).1
  · exact hi.committed p r h

/-- The version a transaction sees is at least the committed one. -/
private theorem row_version (hi : Inv w) {t : Tx} (ht : t ∈ w.txs) {p : Nat} {r : InventoryRow}
    (h : t.row w p = some r) : ∃ r0, w.inventory p = some r0 ∧ r0.version ≤ r.version := by
  unfold Tx.row at h
  split at h
  · cases h
    obtain ⟨-, -, r0, h0, hv⟩ := hi.writes t ht p _ ‹_›
    exact ⟨r0, h0, Int.le_of_lt hv⟩
  · exact ⟨r, h, Int.le_refl _⟩

private theorem not_locked {t : Tx} {p : Nat} (h : w.rowLocked t p = false) :
    ∀ x ∈ w.txs, x.id ≠ t.id → p ∉ x.locks := by
  intro x hx hne hp
  simp only [World.rowLocked, World.others, List.any_eq_false, List.mem_filter] at h
  exact absurd hp (by simpa using h x ⟨hx, by simpa using hne⟩)

private theorem mem_update {t t' x : Tx} (hid : t'.id = t.id)
    (hx : x ∈ (w.update t').txs) : x = t' ∨ (x ∈ w.txs ∧ x.id ≠ t.id) := by
  simp only [World.update, List.mem_map] at hx
  obtain ⟨y, hy, rfl⟩ := hx
  by_cases h : y.id = t'.id
  · exact .inl (if_pos h)
  · exact .inr ⟨by rwa [if_neg h], by rw [if_neg h, ← hid]; exact h⟩

/-- The locks a statement leaves were held before, or are held by no other transaction. -/
private theorem RowEffect.locks_free {t t' : Tx} (he : RowEffect w t t') :
    ∀ p ∈ t'.locks, p ∈ t.locks ∨ ∀ x ∈ w.txs, x.id ≠ t.id → p ∉ x.locks := by
  intro p hp
  cases he with
  | keep hl _ => exact .inl (hl ▸ hp)
  | lock q hq hl _ | write q _ _ _ _ _ _ _ hq hl _ =>
    rw [hl, List.mem_insert_iff] at hp
    rcases hp with rfl | hp
    · exact .inr (not_locked hq)
    · exact .inl hp

/-- The private versions a statement leaves are conserved, locked and newer than the committed
ones. -/
private theorem RowEffect.writes_inv (hi : Inv w) {t t' : Tx} (ht : t ∈ w.txs)
    (he : RowEffect w t t') : ∀ p r, t'.writes p = some r →
      r.Conserved ∧ p ∈ t'.locks ∧ ∃ r0, w.inventory p = some r0 ∧ r0.version < r.version := by
  intro p r hr
  cases he with
  | keep hl hw => rw [hl]; rw [hw] at hr; exact hi.writes t ht p r hr
  | lock q _ hl hw =>
    rw [hw] at hr
    obtain ⟨h1, h2, h3⟩ := hi.writes t ht p r hr
    exact ⟨h1, hl ▸ List.mem_insert_of_mem h2, h3⟩
  | write q r1 a b c hbal hrow hv _ hl hw =>
    rw [hw] at hr
    dsimp only at hr
    by_cases hpq : p = q
    · subst hpq
      simp only [if_true, Option.some.injEq] at hr
      subst hr
      obtain ⟨r0, h0, hle⟩ := row_version hi ht hrow
      exact ⟨InventoryRow.shift_conserved hbal (row_conserved hi ht hrow) hv,
        hl ▸ List.mem_insert_self _ _, r0, h0, by simp; omega⟩
    · rw [if_neg hpq] at hr
      obtain ⟨h1, h2, h3⟩ := hi.writes t ht p r hr
      exact ⟨h1, hl ▸ List.mem_insert_of_mem h2, h3⟩

private theorem inv_update (hi : Inv w) {t t' : Tx} (ht : t ∈ w.txs) (hid : t'.id = t.id)
    (he : RowEffect w t t') : Inv (w.update t') := by
  have hmap : (w.update t').txs.map Tx.id = w.txs.map Tx.id := by
    simp only [World.update, List.map_map]
    congr 1; funext x; simp only [Function.comp]; split <;> simp_all
  refine ⟨hi.committed, fun x hx => ?_, fun x hx y hy hxy p hp => ?_, fun x hx => ?_,
    by rw [hmap]; exact hi.nodup⟩
  · rcases mem_update hid hx with rfl | ⟨hx, -⟩
    · exact he.writes_inv hi ht
    · exact hi.writes x hx
  · rcases mem_update hid hx with hxe | ⟨hx, hxt⟩
    · subst hxe
      rcases mem_update hid hy with rfl | ⟨hy, hyt⟩
      · exact absurd rfl hxy
      · rcases he.locks_free p hp with hp | hp
        · exact hi.exclusive t ht y hy (by rw [← hid]; exact hxy) p hp
        · exact hp y hy hyt
    · rcases mem_update hid hy with hye | ⟨hy, -⟩
      · rw [hye]
        intro hp'
        rcases he.locks_free p hp' with hp' | hp'
        · exact hi.exclusive x hx t ht hxt p hp hp'
        · exact hp' x hx hxt hp
      · exact hi.exclusive x hx y hy hxy p hp
  · rcases mem_update hid hx with rfl | ⟨hx, -⟩
    · have := hi.fresh t ht; simp only [World.update]; omega
    · have := hi.fresh x hx; simp only [World.update]; omega

private theorem mem_others {t x : Tx} (hx : x ∈ w.others t) : x ∈ w.txs ∧ x.id ≠ t.id := by
  simpa [World.others] using hx

private theorem nodup_others (hi : Inv w) (t : Tx) : ((w.others t).map Tx.id).Nodup :=
  hi.nodup.sublist ((List.filter_sublist _).map _)

private theorem inv_abort (hi : Inv w) (t : Tx) : Inv (w.abort t) :=
  ⟨hi.committed, fun x hx => hi.writes x (mem_others hx).1,
    fun x hx y hy => hi.exclusive x (mem_others hx).1 y (mem_others hy).1,
    fun x hx => hi.fresh x (mem_others hx).1, nodup_others hi t⟩

/-- A commit publishes the transaction's versions; every other transaction's locked rows are
untouched, since their locks are disjoint from its own. -/
private theorem inv_commit (hi : Inv w) {t : Tx} (ht : t ∈ w.txs) : Inv (w.commit t) := by
  refine ⟨fun p r h => row_conserved hi ht h, fun x hx p r hr => ?_,
    fun x hx y hy => hi.exclusive x (mem_others hx).1 y (mem_others hy).1,
    fun x hx => hi.fresh x (mem_others hx).1, nodup_others hi t⟩
  obtain ⟨hx, hxt⟩ := mem_others hx
  obtain ⟨h1, h2, h3⟩ := hi.writes x hx p r hr
  have hnone : t.writes p = none := by
    cases htp : t.writes p with
    | none => rfl
    | some r' => exact absurd h2 (hi.exclusive t ht x hx (Ne.symm hxt) p (hi.writes t ht p r' htp).2.1)
  refine ⟨h1, h2, ?_⟩
  simpa [World.commit, Tx.row, hnone] using h3

private theorem inv_begin (hi : Inv w) (prog : Program) : Inv (w.begin prog) := by
  refine ⟨hi.committed, fun x hx => ?_, fun x hx y hy => ?_, fun x hx => ?_, ?_⟩
  · simp only [World.begin, List.mem_append, List.mem_singleton] at hx
    rcases hx with hx | rfl
    · exact hi.writes x hx
    · simp
  · simp only [World.begin, List.mem_append, List.mem_singleton] at hx hy
    rcases hx with hx | rfl
    · rcases hy with hy | rfl
      · exact hi.exclusive x hx y hy
      · simp
    · simp
  · simp only [World.begin, List.mem_append, List.mem_singleton] at hx
    rcases hx with hx | rfl
    · have := hi.fresh x hx; simp only [World.begin]; omega
    · simp [World.begin]
  · simp only [World.begin, List.map_append, List.map_singleton]
    refine List.nodup_append.2 ⟨hi.nodup, List.nodup_singleton _, ?_⟩
    simp only [List.disjoint_singleton, List.mem_map, not_exists, not_and]
    exact fun x hx he => absurd (hi.fresh x hx) (by omega)

/-- An adjustment writes a conserved row, and no open transaction has a private version of it. -/
private theorem inv_adjust (hi : Inv w) {p : Nat} {delta : Int}
    (hfree : (w.txs.any fun x => p ∈ x.locks) = false) : Inv (w.adjustInventory p delta) := by
  have hnl : ∀ x ∈ w.txs, p ∉ x.locks := by simpa using hfree
  unfold World.adjustInventory
  dsimp only
  split_ifs with hv
  · refine ⟨fun q r h => ?_, fun x hx q r hr => ?_, hi.exclusive, hi.fresh, hi.nodup⟩
    · dsimp only at h
      split_ifs at h with hq
      · cases h
        split at hv
        · exact adjustInsert_conserved hv
        · exact InventoryRow.shift_conserved (by omega) (hi.committed p _ ‹_›) hv
      · exact hi.committed q r h
    · obtain ⟨h1, h2, h3⟩ := hi.writes x hx q r hr
      have hq : q ≠ p := fun he => hnl x hx (he ▸ h2)
      exact ⟨h1, h2, by simpa [hq] using h3⟩
  · exact hi

/-- Every step of the service keeps the invariant. -/
theorem inv_step (hi : Inv w) {e : Event} (h : step w e = some w') : Inv w' := by
  cases e with
  | reserveStock | releaseStock | commitStock | cleanupExpiredReservations =>
    cases h; exact inv_begin hi _
  | adjustInventory p delta =>
    simp only [step] at h
    split_ifs at h with hl
    cases h; exact inv_adjust hi (by simpa using hl)
  | exec id =>
    simp only [step] at h
    split at h
    · cases h
    · rename_i t ht
      have htm := List.mem_of_find?_eq_some ht
      split at h
      · cases h
      · cases h; exact inv_abort hi t
      · cases h
        obtain ⟨hid, he⟩ := Tx.exec_ok_effect ‹_›
        exact inv_update hi htm hid he
      · cases h; exact inv_commit hi htm
  | abort id =>
    simp only [step, Option.map_eq_some'] at h
    obtain ⟨t, -, rfl⟩ := h
    exact inv_abort hi t
  | tick now =>
    simp only [step] at h
    split_ifs at h
    cases h; exact ⟨hi.1, hi.2, hi.3, hi.4, hi.5⟩

theorem inv_run (evs : List Event) : ∀ {w w' : World}, Inv w → run w evs = some w' → Inv w' := by
  induction evs with
  | nil => intro w w' hi h; cases h; exact hi
  | cons e es ih =>
    intro w w' hi h
    simp only [run, Option.bind_eq_some] at h
    obtain ⟨w1, h1, h2⟩ := h
    exact ih (inv_step hi h1) h2

/-! ### Versions -/

/-- Every committed row of `w` is still there in `w'`, unchanged or with a larger version. -/
def RowsAdvance (w w' : World) : Prop :=
  ∀ p r, w.inventory p = some r → ∃ r', w'.inventory p = some r' ∧ (r' = r ∨ r.version < r'.version)

private theorem rowsAdvance_of_eq (h : w'.inventory = w.inventory) : RowsAdvance w w' :=
  fun _ r hr => ⟨r, h ▸ hr, .inl rfl⟩

private theorem rowsAdvance_commit (hi : Inv w) {t : Tx} (ht : t ∈ w.txs) :
    RowsAdvance w (w.commit t) := by
  intro p r hr
  simp only [World.commit, Tx.row]
  split
  · rename_i r' hw
    obtain ⟨-, -, r0, h0, hv⟩ := hi.writes t ht p r' hw
    rw [hr, Option.some.injEq] at h0
    exact ⟨r', rfl, .inr (h0 ▸ hv)⟩
  · exact ⟨r, hr, .inl rfl⟩

private theorem rowsAdvance_adjust (p : Nat) (delta : Int) : RowsAdvance w (w.adjustInventory p delta) := by
  intro q r hr
  unfold World.adjustInventory
  dsimp only
  split_ifs with hv
  · by_cases hq : q = p
    · subst hq
      simp only [hr, if_true]
      exact ⟨_, rfl, .inr (by simp only [adjustSet, InventoryRow.shift_version]; omega)⟩
    · simp only [hq, if_false]
      exact ⟨r, hr, .inl rfl⟩
  · exact ⟨r, hr, .inl rfl⟩

/-- No step removes a committed row or lowers its version. -/
theorem rowsAdvance_step (hi : Inv w) {e : Event} (h : step w e = some w') : RowsAdvance w w' := by
  cases e with
  | reserveStock | releaseStock | commitStock | cleanupExpiredReservations =>
    cases h; exact rowsAdvance_of_eq rfl
  | adjustInventory p delta =>
    simp only [step] at h
    split_ifs at h
    cases h; exact rowsAdvance_adjust p delta
  | exec id =>
    simp only [step] at h
    split at h
    · cases h
    · rename_i t ht
      split at h
      · cases h
      · cases h; exact rowsAdvance_of_eq rfl
      · cases h; exact rowsAdvance_of_eq rfl
      · cases h; exact rowsAdvance_commit hi (List.mem_of_find?_eq_some ht)
  | abort id =>
    simp only [step, Option.map_eq_some'] at h
    obtain ⟨t, -, rfl⟩ := h
    exact rowsAdvance_of_eq rfl
  | tick now =>
    simp only [step] at h
    split_ifs at h
    cases h; exact rowsAdvance_of_eq rfl

/-- Every row version a statement writes is `version + 1` of the version the transaction read. -/
theorem exec_write_version {t t' : Tx} (h : t.exec w = .ok t') {p : Nat} {r' : InventoryRow}
    (hr : t'.writes p = some r') (hne : t.writes p ≠ some r') :
    ∃ r, t.row w p = some r ∧ r'.version = r.version + 1 := by
  obtain ⟨-, he⟩ := Tx.exec_ok_effect h
  cases he with
  | keep _ hw | lock _ _ _ hw => exact absurd (hw ▸ hr) hne
  | write q r a b c _ hrow _ _ _ hw =>
    rw [hw] at hr
    dsimp only at hr
    split_ifs at hr with hpq
    · subst hpq
      cases hr
      exact ⟨r, hrow, rfl⟩
    · exact absurd hr hne

/-- Inventory conservation: from the empty tables, in every reachable state, every committed row
and every uncommitted row version is conserved; no step loses a committed row or lowers its
version, a committed row that changes gets a larger version, and every statement writing a row
writes `version + 1` of the row it read. -/
theorem inventory_conservation (evs : List Event) (w : World) (h : run World.init evs = some w) :
    (∀ p r, w.inventory p = some r → r.Conserved) ∧
    (∀ t ∈ w.txs, ∀ p r, t.writes p = some r → r.Conserved) ∧
    (∀ e w', step w e = some w' → RowsAdvance w w') ∧
    (∀ t ∈ w.txs, ∀ t', t.exec w = .ok t' → ∀ p r', t'.writes p = some r' → t.writes p ≠ some r' →
      ∃ r, t.row w p = some r ∧ r'.version = r.version + 1) := by
  have hi := inv_run evs inv_init h
  exact ⟨hi.committed, fun t ht p r hr => (hi.writes t ht p r hr).1,
    fun _ _ he => rowsAdvance_step hi he, fun _ _ _ he _ _ hr hne => exec_write_version he hr hne⟩

/-- Scenario S4: five units of product 1 reserved for one second, then reaped after 90 s. -/
def s4Events : List Event :=
  [.adjustInventory 1 5, .reserveStock 100 [⟨1, 5⟩] 1, .exec 0, .exec 0, .exec 0, .exec 0, .tick 90,
    .cleanupExpiredReservations, .exec 4, .exec 4, .exec 4, .exec 4]

/-- The state at the end of S4. -/
def s4World : World := (run World.init s4Events).getD World.init

theorem inventory_conservation_s4 :
    run World.init s4Events = some s4World ∧
      (∀ p r, s4World.inventory p = some r → r.Conserved) ∧
      (∀ t ∈ s4World.txs, ∀ p r, t.writes p = some r → r.Conserved) ∧
      (∀ e w', step s4World e = some w' → RowsAdvance s4World w') ∧
      (∀ t ∈ s4World.txs, ∀ t', t.exec s4World = .ok t' → ∀ p r', t'.writes p = some r' →
        t.writes p ≠ some r' → ∃ r, t.row s4World p = some r ∧ r'.version = r.version + 1) :=
  ⟨rfl, inventory_conservation s4Events s4World rfl⟩

/-! ### The reservation lifecycle -/

/-- The total quantity of the active reservations of product `p`. -/
def activeQuantity (w : World) (p : Nat) : Int :=
  (w.reservations.filter (fun r => r.productId = p ∧ r.status = .active)).foldr
    (fun r n => r.quantity + n) 0

/-- Two units of product 7, reserved one each by reservations 100 and 200. -/
def reserveTwo : List Event :=
  [.adjustInventory 7 2, .reserveStock 100 [⟨7, 1⟩] 1, .exec 0, .exec 0, .exec 0, .exec 0,
    .reserveStock 200 [⟨7, 1⟩] 1000, .exec 4, .exec 4, .exec 4, .exec 4]

/-- Two `ReleaseStock(100)` (transactions 8 and 9) both `SELECT` the active row first. -/
def doubleRelease : List Event :=
  reserveTwo ++ [.releaseStock 100, .releaseStock 100, .exec 8, .exec 9, .exec 8, .exec 8, .exec 8,
    .exec 9, .exec 9, .exec 9]

/-- The reaper (transaction 8) selects the expired reservation 100, then `CommitStock(100)`
(transaction 10) runs to its commit. -/
def commitBeforeReap : List Event :=
  reserveTwo ++ [.tick 5, .cleanupExpiredReservations, .exec 8, .commitStock 100, .exec 10, .exec 10,
    .exec 10, .exec 10]

/-- The reaper then finishes. -/
def commitThenReap : List Event := commitBeforeReap ++ [.exec 8, .exec 8, .exec 8]

/-- What a run leaves for product 7: its row, the active quantity, and the reservation statuses. -/
def productSeven (w : World) : Option InventoryRow × Int × List ReservationStatus :=
  (w.inventory 7, activeQuantity w 7, w.reservations.map (·.status))

theorem reservation_lifecycle_races :
    (run World.init reserveTwo).map productSeven = some (some ⟨0, 2, 2, 3⟩, 2, [.active, .active]) ∧
    (run World.init doubleRelease).map productSeven =
      some (some ⟨2, 0, 2, 5⟩, 1, [.released, .active]) ∧
    (run World.init commitBeforeReap).map productSeven =
      some (some ⟨0, 1, 1, 4⟩, 1, [.committed, .active]) ∧
    (run World.init commitThenReap).map productSeven =
      some (some ⟨1, 0, 1, 5⟩, 1, [.released, .active]) := by
  decide

end Coldy.Inventory
