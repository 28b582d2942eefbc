import Mathlib.Data.List.Chain
import Coldy.Orders.Read

/-!
# Keyset pagination of `ListOrders`

A client pages through `ListOrders` from the empty cursor, passing each next cursor back, while
the order service keeps running (`pageThrough`); each request's `GetByID` calls for the items
succeed or fail as they will.  The key `(created_at, id)` is a strict total order (`keyLt`); the
service's steps keep every row under its id with its `created_at` (`World.run_ordersFresh`); and
one page is the first `limit` of the rows selected below the cursor, by key descending
(`list_page`).  Hence:

* the orders returned are strictly descending, none twice, each the user's with the filtered
  status at its request, and every order of the user with that status throughout is among them;
  each page but the last is full and `hasMore` says whether rows were left
  (`listOrders_pages_exact`);
* when the clock at each request is later than at the one before, a client that may make more
  requests than any state has orders reaches a page without more (`listOrders_paging_finishes`):
  an order created after the second request lies above every cursor;
* the filter `CANCELED` fails every request: Go's `"canceled"` is not an `order_status`
  (`listOrders_canceled_fails`).
-/

namespace Coldy.Orders

open Coldy.Idempotency Coldy.Sql

/-! ### One page -/

/-- What `orders`' primary key guarantees: one row per id, and no id is empty. -/
structure OrdersWF (orders : List OrderRow) : Prop where
  ids_nodup : (orders.map (·.id)).Nodup
  id_ne : ∀ r ∈ orders, r.id ≠ ""

private instance : IsTotal OrderRow fun a b => keyLt a.key b.key = false :=
  ⟨fun a b => by
    cases h : keyLt a.key b.key
    · exact .inl rfl
    · exact .inr (keyLt_asymm h)⟩

private instance : IsTrans OrderRow fun a b => keyLt a.key b.key = false :=
  ⟨fun a b c h₁ h₂ => Bool.eq_false_iff.mpr fun h => by
    by_cases e : a.key = b.key
    · rw [e] at h; simp [h] at h₂
    · rcases keyLt_total e with h' | h'
      · simp [h'] at h₁
      · simp [keyLt_trans h' h] at h₂⟩

theorem mem_orderByKeyDesc {r : OrderRow} {rows : List OrderRow} :
    r ∈ orderByKeyDesc rows ↔ r ∈ rows :=
  List.mem_insertionSort _

/-- Rows of distinct ids come out of `orderByKeyDesc` strictly descending. -/
theorem orderByKeyDesc_strict {rows : List OrderRow} (h : (rows.map (·.id)).Nodup) :
    (orderByKeyDesc rows).Pairwise fun a b => keyLt b.key a.key := by
  have hs : (orderByKeyDesc rows).Sorted fun a b => keyLt a.key b.key = false :=
    List.sorted_insertionSort _ _
  have hn : ((orderByKeyDesc rows).map (·.id)).Nodup :=
    ((List.perm_insertionSort _ _).map _).nodup_iff.mpr h
  refine (hs.and (List.pairwise_map.mp hn)).imp fun {a b} ⟨h₁, h₂⟩ => ?_
  rcases @keyLt_total a.key b.key (fun e => h₂ (congrArg Prod.snd e)) with h' | h'
  · simp [h'] at h₁
  · exact h'

/-- `List` answers with the rows it selects, by key descending, or with a page of the first
`limit` of them when there are more, the next cursor naming the page's last row. -/
theorem list_ok {db : Tables} {userID status cursor : String} {limit : Nat}
    {page : List OrderRow} {next : String} (hwf : OrdersWF db.orders) (hlimit : 0 < limit)
    (h : list db userID status limit cursor = .ok (page, next)) :
    ∃ s S, statusFilter status = .ok s ∧
      S = orderByKeyDesc (db.orders.filter (listSelects db userID s cursor)) ∧
      ((next = "" ∧ page = S) ∨ ∃ init p rest, S = init ++ p :: rest ∧ rest ≠ [] ∧
        page = init ++ [p] ∧ init.length + 1 = limit ∧ p.id = next ∧ next ≠ "") := by
  unfold list at h
  split at h
  · cases h
  · rename_i s hs
    obtain ⟨_, -, hs⟩ := bind_eq_ok.mp hs
    refine ⟨s, _, hs, rfl, ?_⟩
    have hmem : ∀ r ∈ orderByKeyDesc (db.orders.filter (listSelects db userID s cursor)),
        r ∈ db.orders := fun r hr => (List.mem_filter.mp (mem_orderByKeyDesc.mp hr)).1
    generalize orderByKeyDesc (db.orders.filter (listSelects db userID s cursor)) = S at h hmem ⊢
    dsimp only at h
    split at h
    · rename_i hl
      cases h
      obtain ⟨m, rfl⟩ : ∃ m, limit = m + 1 := ⟨limit - 1, by omega⟩
      have hm : m + 1 < S.length := by simp at hl; omega
      have hnext : ((S.take (m + 1 + 1))[m + 1 - 1]?.map (·.id)).getD "" = S[m].id := by
        rw [Nat.add_sub_cancel, List.getElem?_take_of_lt (by omega), List.getElem?_eq_getElem (by omega)]
        rfl
      rw [hnext]
      refine .inr ⟨S.take m, S[m], S.drop (m + 1), ?_, ?_, ?_, ?_, rfl,
        hwf.id_ne _ (hmem _ (List.getElem_mem _))⟩
      · rw [← List.drop_eq_getElem_cons (by omega), List.take_append_drop]
      · simp only [ne_eq, List.drop_eq_nil_iff]; omega
      · rw [List.take_take, Nat.min_eq_left (by omega), List.take_succ,
          List.getElem?_eq_getElem (by omega)]
        rfl
      · simp only [List.length_take]; omega
    · rename_i hl
      cases h
      exact .inl ⟨rfl, List.take_of_length_le (by simp at hl; omega)⟩

/-- `List` answers for a user id that reads as a UUID and a status filter PostgreSQL accepts. -/
theorem list_succeeds {db : Tables} {userID status c : String} {limit : Nat}
    {s : Option OrderStatusEnum} (hu : uuidParam userID = .ok ()) (hs : statusFilter status = .ok s) :
    ∃ page next, list db userID status limit c = .ok (page, next) := by
  have hp : (uuidParam userID >>= fun _ => statusFilter status) = .ok s := by rw [hu, hs]; rfl
  simp only [list, hp]
  split <;> exact ⟨_, _, rfl⟩

/-- `ListOrders` answers with `List`'s page, each order's items loaded, and its next cursor. -/
theorem listOrders_ok {db : Tables} {userID status c next : String} {limit : Nat}
    {loads : String → Bool} {orders : List Order} {more : Bool}
    (h : listOrders db userID status limit c loads = .ok (orders, next, more)) :
    ∃ page, list db userID status limit c = .ok (page, next) ∧
      orders = page.map (loadItems db loads) ∧ more = decide (next ≠ "") := by
  unfold listOrders at h
  split at h
  · cases h; exact ⟨_, ‹_›, rfl, rfl⟩
  · cases h

theorem find?_id_eq {orders : List OrderRow} (h : (orders.map (·.id)).Nodup) {r : OrderRow}
    (hr : r ∈ orders) : orders.find? (·.id = r.id) = some r := by
  induction orders with
  | nil => cases hr
  | cons a as ih =>
    simp only [List.map_cons, List.nodup_cons, List.mem_map] at h
    rcases List.mem_cons.mp hr with rfl | hr
    · simp
    · have : a.id ≠ r.id := fun e => h.1 ⟨r, hr, e.symm⟩
      simp [List.find?_cons, this, ih h.2 hr]

theorem OrdersWF.eq_of_id_eq {orders : List OrderRow} (h : OrdersWF orders) {r r' : OrderRow}
    (hr : r ∈ orders) (hr' : r' ∈ orders) (e : r.id = r'.id) : r = r' :=
  List.inj_on_of_nodup_map h.ids_nodup hr hr' e

/-- Where a client's cursor stands in `db`: at the start, or at the id of a row of key `κ`. -/
def CursorAt (db : Tables) (c : String) : Option (Int × String) → Prop
  | none => c = ""
  | some κ => κ.2 = c ∧ ∃ r ∈ db.orders, r.key = κ

/-- Key `k` lies below the bound `b` (any key does when there is none). -/
def Below (b : Option (Int × String)) (k : Int × String) : Bool := b.all (keyLt k ·)

theorem afterCursor_iff {db : Tables} {c : String} {b : Option (Int × String)}
    (hwf : OrdersWF db.orders) (hc : CursorAt db c b) (r : OrderRow) :
    afterCursor db c r = Below b r.key := by
  cases b with
  | none => simp [afterCursor, Below, show c = "" from hc]
  | some κ =>
    obtain ⟨rfl, r₀, hr₀, rfl⟩ := hc
    have hne : r₀.id ≠ "" := hwf.id_ne r₀ hr₀
    simp [afterCursor, Below, hne, OrderRow.key, find?_id_eq hwf.ids_nodup hr₀]

theorem listSelects_eq {db : Tables} {c userID : String} {b : Option (Int × String)}
    {s : Option OrderStatusEnum} (hwf : OrdersWF db.orders) (hc : CursorAt db c b) (r : OrderRow) :
    listSelects db userID s c r = (r.isListed userID s && Below b r.key) := by
  rw [listSelects, afterCursor_iff hwf hc]

/-- One `List`: the page is strictly descending and holds selected rows.  Without a next cursor
it holds every selected row; with one it holds `limit` rows and ends at the row the cursor names,
every selected row it leaves out lies below that row, and there is one. -/
theorem list_page {db : Tables} {userID status c next : String} {limit : Nat}
    {s : Option OrderStatusEnum} {page : List OrderRow}
    (hwf : OrdersWF db.orders) (hlimit : 0 < limit) (hs : statusFilter status = .ok s)
    (h : list db userID status limit c = .ok (page, next)) :
    page.Pairwise (fun a a' => keyLt a'.key a.key) ∧ (page.map (·.id)).Nodup ∧
    (∀ r ∈ page, r ∈ db.orders ∧ listSelects db userID s c r) ∧
    (next = "" → ∀ r ∈ db.orders, listSelects db userID s c r → r ∈ page) ∧
    (next ≠ "" → page.length = limit ∧ ∃ p ∈ page, p.id = next ∧
      (∀ q ∈ page, keyLt q.key p.key = false) ∧
      (∀ r ∈ db.orders, listSelects db userID s c r → r ∉ page → keyLt r.key p.key) ∧
      ∃ r ∈ db.orders, listSelects db userID s c r ∧ r ∉ page) := by
  obtain ⟨s', S, hs', rfl, hcase⟩ := list_ok hwf hlimit h
  rw [hs] at hs'
  cases hs'
  have hsel : ∀ r, r ∈ orderByKeyDesc (db.orders.filter (listSelects db userID s c)) ↔
      r ∈ db.orders ∧ listSelects db userID s c r := fun r => by
    rw [mem_orderByKeyDesc, List.mem_filter]
  have hnd : ((db.orders.filter (listSelects db userID s c)).map (·.id)).Nodup :=
    hwf.ids_nodup.sublist ((List.filter_sublist _).map _)
  have hstrict := orderByKeyDesc_strict hnd
  have hSnd : ((orderByKeyDesc (db.orders.filter (listSelects db userID s c))).map (·.id)).Nodup :=
    ((List.perm_insertionSort _ _).map _).nodup_iff.mpr hnd
  generalize orderByKeyDesc (db.orders.filter (listSelects db userID s c)) = S at hsel hstrict hSnd hcase
  rcases hcase with ⟨rfl, rfl⟩ | ⟨init, p, rest, rfl, hrest, rfl, hlen, rfl, hne⟩
  · exact ⟨hstrict, hSnd, fun r hr => (hsel r).mp hr,
      fun _ r hr hl => (hsel r).mpr ⟨hr, hl⟩, fun h => absurd rfl h⟩
  · have hsub : (init ++ [p]).Sublist (init ++ p :: rest) :=
      List.Sublist.append_left (List.singleton_sublist.mpr (List.mem_cons_self _ _)) _
    have hnodup : (init ++ [p] ++ rest).Nodup := by
      rw [List.append_assoc, List.singleton_append]; exact hSnd.of_map _
    have hord := hstrict
    simp only [List.pairwise_append, List.pairwise_cons, List.mem_cons] at hord
    refine ⟨hstrict.sublist hsub, hSnd.sublist (hsub.map _),
      fun r hr => (hsel r).mp (hsub.subset hr), fun h => absurd h hne, fun _ => ?_⟩
    refine ⟨by simp [hlen], p, by simp, rfl, fun q hq => ?_, fun r hr hl hnot => ?_, ?_⟩
    · rcases List.mem_append.mp hq with hq | hq
      · exact keyLt_asymm (hord.2.2 q hq p (.inl rfl))
      · rw [List.mem_singleton.mp hq]; exact keyLt_irrefl _
    · rcases List.mem_append.mp ((hsel r).mpr ⟨hr, hl⟩) with hr' | hr'
      · exact absurd (List.mem_append_left _ hr') hnot
      · rcases List.mem_cons.mp hr' with rfl | hr'
        · exact absurd (List.mem_append_right _ (List.mem_singleton_self _)) hnot
        · exact hord.2.1.1 r hr'
    · obtain ⟨r, hr⟩ := List.exists_mem_of_ne_nil rest hrest
      obtain ⟨h₁, h₂⟩ := (hsel r).mp (List.mem_append_right _ (List.mem_cons_of_mem _ hr))
      exact ⟨r, h₁, h₂, fun hr' => (List.nodup_append.mp hnodup).2.2 hr' hr⟩

/-! ### Paging through -/

/-- The key of an order `ListOrders` answers. -/
def Order.key (o : Order) : Int × String := (o.createdAt, o.id)

@[simp] theorem loadItems_key (db : Tables) (loads : String → Bool) (r : OrderRow) :
    (loadItems db loads r).key = r.key := rfl

/-- A client paging through `ListOrders` from the cursor `c`, its `k`-th request served against
the tables of `reqs[k]`, whose `GetByID` calls succeed as its second part says: the orders
returned, with `none` once a page came back without more, else the cursor it stopped at when
`reqs` ran out. -/
def pageThrough (userID status : String) (limit : Nat) :
    List (Tables × (String → Bool)) → String → Except String (List Order × Option String)
  | [], c => .ok ([], some c)
  | (db, loads) :: reqs, c =>
    match listOrders db userID status limit c loads with
    | .error e => .error e
    | .ok (page, next, more) =>
      if more then (pageThrough userID status limit reqs next).map fun (os, c') => (page ++ os, c')
      else .ok (page, none)

theorem listOrders_of_list {db : Tables} {userID status c next : String} {limit : Nat}
    {page : List OrderRow} (loads : String → Bool) (h : list db userID status limit c = .ok (page, next)) :
    listOrders db userID status limit c loads =
      .ok (page.map (loadItems db loads), next, decide (next ≠ "")) := by
  simp only [listOrders, h]

theorem pageThrough_cons {userID status : String} {limit : Nat} {db : Tables}
    {loads : String → Bool} {reqs : List (Tables × (String → Bool))} {c next : String}
    {orders : List Order} {more : Bool}
    (h : listOrders db userID status limit c loads = .ok (orders, next, more)) :
    pageThrough userID status limit ((db, loads) :: reqs) c =
      if more then (pageThrough userID status limit reqs next).map fun (os, c') => (orders ++ os, c')
      else .ok (orders, none) := by
  simp only [pageThrough, h]

/-- What the order service's writes do to `orders` between two requests: every row is still
there under its id, with its `created_at`. -/
def OrdersEvolve (old new : List OrderRow) : Prop :=
  ∀ r ∈ old, ∃ r' ∈ new, r'.id = r.id ∧ r'.createdAt = r.createdAt

/-- A row keeps its key: the row of its id in a later table has the same key. -/
theorem OrdersEvolve.key_eq {old new : List OrderRow} (h : OrdersEvolve old new)
    (hwf : OrdersWF new) {r r' : OrderRow} (hr : r ∈ old) (hr' : r' ∈ new) (e : r'.id = r.id) :
    r'.key = r.key := by
  obtain ⟨r'', h'', hid, hc⟩ := h r hr
  obtain rfl := hwf.eq_of_id_eq hr' h'' (e.trans hid.symm)
  simp [OrderRow.key, hc, hid]

theorem Below.of_keyLt {b : Option (Int × String)} {k k' : Int × String} (h : keyLt k k')
    (hp : Below b k') : Below b k := by
  cases b with
  | none => rfl
  | some κ => exact keyLt_trans h hp

/-- Paging through from a cursor that stands at bound `b`, to a page without more: the orders
returned are strictly descending, each once, each below `b` and read from a row selected at its
request, and every order selected below `b` in every table is among them. -/
theorem pageThrough_ok {userID status : String} {limit : Nat} {s : Option OrderStatusEnum}
    (hlimit : 0 < limit) (hs : statusFilter status = .ok s) :
    ∀ {reqs : List (Tables × (String → Bool))} {c : String} {b : Option (Int × String)}
      {os : List Order},
      (∀ x ∈ reqs, OrdersWF x.1.orders) →
      reqs.Pairwise (fun x x' => OrdersEvolve x.1.orders x'.1.orders) →
      (∀ x ∈ reqs.head?, CursorAt x.1 c b) →
      pageThrough userID status limit reqs c = .ok (os, none) →
      os.Pairwise (fun a a' => keyLt a'.key a.key) ∧ (os.map (·.id)).Nodup ∧
      (∀ o ∈ os, Below b o.key ∧
        ∃ x ∈ reqs, ∃ r ∈ x.1.orders, r.isListed userID s ∧ o = loadItems x.1 x.2 r) ∧
      ∀ id, (∀ x ∈ reqs, ∃ r ∈ x.1.orders, r.id = id ∧ r.isListed userID s ∧ Below b r.key) →
        ∃ o ∈ os, o.id = id
  | [], _, _, _, _, _, _, h => by cases h
  | (db, loads) :: reqs, c, b, os, hwf, hev, hc, h => by
    simp only [pageThrough] at h
    split at h
    · cases h
    · rename_i orders next more hl
      obtain ⟨page, hlist, rfl, rfl⟩ := listOrders_ok hl
      have hwf₀ := hwf _ (List.mem_cons_self _ _)
      obtain ⟨hpw, hpn, hpmem, hfin, hmore⟩ := list_page hwf₀ hlimit hs hlist
      simp only [listSelects_eq hwf₀ (hc _ rfl), Bool.and_eq_true] at hpmem hfin hmore
      have hmap : ∀ {l : List OrderRow}, (l.map (loadItems db loads)).map (·.id) = l.map (·.id) :=
        by intro l; rw [List.map_map]; rfl
      -- an order of this page, read from its row
      have hhere : ∀ o ∈ page.map (loadItems db loads), Below b o.key ∧
          ∃ x ∈ (db, loads) :: reqs, ∃ r ∈ x.1.orders, r.isListed userID s ∧
            o = loadItems x.1 x.2 r := by
        intro o ho
        obtain ⟨r, hr, rfl⟩ := List.mem_map.mp ho
        exact ⟨(hpmem r hr).2.2, _, List.mem_cons_self _ _, r, (hpmem r hr).1, (hpmem r hr).2.1, rfl⟩
      by_cases hnext : next = ""
      · simp only [hnext, ne_eq, not_true_eq_false, decide_False, Bool.false_eq_true, ite_false,
          Except.ok.injEq, Prod.mk.injEq] at h
        obtain ⟨rfl, -⟩ := h
        refine ⟨List.pairwise_map.mpr hpw, hmap ▸ hpn, hhere, fun id hid => ?_⟩
        obtain ⟨r, hr, rfl, hl, hb⟩ := hid _ (List.mem_cons_self _ _)
        exact ⟨_, List.mem_map_of_mem _ (hfin hnext r hr ⟨hl, hb⟩), rfl⟩
      · simp only [hnext, ne_eq, not_false_eq_true, decide_True, ite_true] at h
        obtain ⟨-, p, hp, rfl, hpmax, hbelow, -⟩ := hmore hnext
        have hpdb := (hpmem p hp).1
        have hevd : ∀ x ∈ reqs, OrdersEvolve db.orders x.1.orders := fun x hx =>
          List.rel_of_pairwise_cons hev hx
        cases hrec : pageThrough userID status limit reqs p.id with
        | error e => simp [hrec, Except.map] at h
        | ok v =>
          obtain ⟨os', c'⟩ := v
          simp only [hrec, Except.map, Except.ok.injEq, Prod.mk.injEq] at h
          obtain ⟨rfl, rfl⟩ := h
          have hcur : ∀ x ∈ reqs.head?, CursorAt x.1 p.id (some p.key) := fun x hx => by
            obtain ⟨r', hr', hid, hca⟩ := hevd x (List.mem_of_mem_head? hx) p hpdb
            exact ⟨rfl, r', hr', by simp [OrderRow.key, hid, hca]⟩
          obtain ⟨hrw, hrn, hrmem, hrall⟩ := pageThrough_ok hlimit hs
            (fun x hx => hwf x (List.mem_cons_of_mem _ hx)) hev.of_cons hcur hrec
          -- an order of a later page lies below every row of this one
          have hlater : ∀ a ∈ page, ∀ o ∈ os', keyLt o.key a.key := fun a ha o ho =>
            keyLt_of_not_keyLt (hrmem o ho).1 (hpmax a ha)
          refine ⟨List.pairwise_append.mpr ⟨List.pairwise_map.mpr hpw, hrw, ?_⟩, ?_, ?_, ?_⟩
          · intro o' ho' o ho
            obtain ⟨a, ha, rfl⟩ := List.mem_map.mp ho'
            exact hlater a ha o ho
          · rw [List.map_append, hmap]
            refine List.nodup_append.mpr ⟨hpn, hrn, fun x hx hx' => ?_⟩
            obtain ⟨a, ha, rfl⟩ := List.mem_map.mp hx
            obtain ⟨o, ho, e⟩ := List.mem_map.mp hx'
            obtain ⟨-, y, hy, r, hr, -, rfl⟩ := hrmem o ho
            have hk := (hevd y hy).key_eq (hwf y (List.mem_cons_of_mem _ hy)) (hpmem a ha).1 hr e
            simpa [hk, keyLt_irrefl] using hlater a ha _ ho
          · intro o ho
            rcases List.mem_append.mp ho with ho | ho
            · exact hhere o ho
            · obtain ⟨hb, y, hy, hr⟩ := hrmem o ho
              exact ⟨Below.of_keyLt hb (hpmem p hp).2.2, y, List.mem_cons_of_mem _ hy, hr⟩
          · intro id hid
            obtain ⟨r₀, hr₀, rfl, hl₀, hb₀⟩ := hid _ (List.mem_cons_self _ _)
            by_cases hin : r₀ ∈ page
            · exact ⟨_, List.mem_append_left _ (List.mem_map_of_mem _ hin), rfl⟩
            · have hlt := hbelow r₀ hr₀ ⟨hl₀, hb₀⟩ hin
              obtain ⟨o, ho, e⟩ := hrall r₀.id fun x hx => by
                obtain ⟨r', hr', e', hl', -⟩ := hid x (List.mem_cons_of_mem _ hx)
                have hk := (hevd x hx).key_eq (hwf x (List.mem_cons_of_mem _ hx)) hr₀ hr' e'
                exact ⟨r', hr', e', hl', by simpa [Below, hk] using hlt⟩
              exact ⟨o, List.mem_append_right _ ho, e⟩

/-! ### The order service between two requests -/

theorem OrdersEvolve.refl (orders : List OrderRow) : OrdersEvolve orders orders :=
  fun r hr => ⟨r, hr, rfl, rfl⟩

theorem OrdersEvolve.trans {o₁ o₂ o₃ : List OrderRow} (h₁ : OrdersEvolve o₁ o₂)
    (h₂ : OrdersEvolve o₂ o₃) : OrdersEvolve o₁ o₃ := fun r hr => by
  obtain ⟨r₂, hr₂, e₁, c₁⟩ := h₁ r hr
  obtain ⟨r₃, hr₃, e₂, c₂⟩ := h₂ r₂ hr₂
  exact ⟨r₃, hr₃, e₂.trans e₁, c₂.trans c₁⟩

/-- `new` is `old` with its rows rewritten in place, each keeping its id and `created_at`. -/
def RowsRewritten (old new : List OrderRow) : Prop :=
  ∃ f : OrderRow → OrderRow, new = old.map f ∧ ∀ r, (f r).id = r.id ∧ (f r).createdAt = r.createdAt

theorem RowsRewritten.refl (orders : List OrderRow) : RowsRewritten orders orders :=
  ⟨id, (List.map_id _).symm, fun _ => ⟨rfl, rfl⟩⟩

theorem RowsRewritten.setOrderStatus (orders : List OrderRow) (orderId : String)
    (s : OrderStatusEnum) (now : Int) :
    RowsRewritten orders (setOrderStatus orders orderId s now) :=
  ⟨_, rfl, fun r => by by_cases h : r.id = orderId <;> simp [h]⟩

/-- What a step of the order service does to `orders` and the clock: the clock does not go back,
and the rows are rewritten in place, keeping ids and `created_at`, or one row is appended under an
id fresh from the counter, created at the clock's time. -/
structure OrdersStep (w w' : World) : Prop where
  nextId_le : w.nextId ≤ w'.nextId
  now_le : w.now ≤ w'.now
  orders : RowsRewritten w.db.orders w'.db.orders ∨
    ∃ r k, w'.db.orders = w.db.orders ++ [r] ∧ w.nextId ≤ k ∧ k < w'.nextId ∧ r.id = freshId k ∧
      r.createdAt = w.now

theorem World.step_ordersStep {w w' : World} {e : Event} (h : w.step e = some w') :
    OrdersStep w w' := by
  cases e with
  | intake e =>
    obtain ⟨iw, hiw, rfl⟩ := Option.map_eq_some'.mp h
    have hnow := IntakeWorld.step_now_le createOrder hiw
    rcases IntakeWorld.step_db createOrder hiw with ⟨hdb, hid⟩ | ⟨req, ok, v, hc, hid⟩
    · exact ⟨Nat.le_of_eq hid.symm, hnow, .inl (by simp only [hdb]; exact RowsRewritten.refl _)⟩
    · obtain ⟨o, ho, -⟩ := createOrder_ok hc
      obtain ⟨row, -, hrow, -, hoid, -, -, horders, -⟩ := createWithOutbox_ok ho
      obtain ⟨-, -, -, -, -, -, -, -, hrid, -, -, -, hcreated, -⟩ := insertOrder_ok hrow
      have hids : createOrder.ids req = req.items.length + 2 := rfl
      refine ⟨by simp only [hid]; omega, hnow,
        .inr ⟨row, w.nextId, horders, Nat.le_refl _, ?_, hrid.trans hoid, hcreated⟩⟩
      simp only [hid, hids]; omega
  | updateOrderStatus orderId status ok =>
    simp only [World.step] at h
    split at h <;> cases h
    · rename_i db hdb
      obtain ⟨s, hs⟩ := updateStatus_orders (updateOrderStatus_ok hdb)
      exact ⟨Nat.le_succ _, Int.le_refl _, .inl (hs ▸ RowsRewritten.setOrderStatus _ _ _ _)⟩
    · exact ⟨Nat.le_refl _, Int.le_refl _, .inl (RowsRewritten.refl _)⟩
  | cancelOrder orderId reason =>
    cases h; exact ⟨Nat.le_refl _, Int.le_refl _, .inl (RowsRewritten.refl _)⟩
  | cancelNext c ok =>
    simp only [World.step] at h
    split at h
    · rename_i call _
      cases h
      rcases cancelStep_db w.db w.nextId w.now ok call with ⟨hdb, hid⟩ | ⟨hu, hid⟩
      · exact ⟨Nat.le_of_eq hid.symm, Int.le_refl _,
          .inl (by simp only [hdb]; exact RowsRewritten.refl _)⟩
      · obtain ⟨s, hs⟩ := updateStatus_orders hu
        exact ⟨by simp only [hid]; omega, Int.le_refl _,
          .inl (hs ▸ RowsRewritten.setOrderStatus _ _ _ _)⟩
    · cases h

/-- What holds of `orders` in every reachable state: each id is fresh from the counter, and
belongs to one row. -/
structure OrdersFresh (nextId : Nat) (orders : List OrderRow) : Prop where
  fresh : ∀ r ∈ orders, ∃ k < nextId, r.id = freshId k
  ids_nodup : (orders.map (·.id)).Nodup

theorem OrdersFresh.wf {nextId : Nat} {orders : List OrderRow} (h : OrdersFresh nextId orders) :
    OrdersWF orders :=
  ⟨h.ids_nodup, fun r hr => by
    obtain ⟨k, -, e⟩ := h.fresh r hr
    exact e ▸ freshId_ne_empty k⟩

/-- A step keeps `OrdersFresh`, and every row of before is still there, with its key. -/
theorem OrdersStep.fresh {w w' : World} (h : OrdersStep w w')
    (hf : OrdersFresh w.nextId w.db.orders) :
    OrdersFresh w'.nextId w'.db.orders ∧ OrdersEvolve w.db.orders w'.db.orders := by
  rcases h.orders with ⟨f, hf', hkeep⟩ | ⟨r, k, hr, hk, hk', hid, -⟩
  · have hids : (w'.db.orders.map (·.id)) = w.db.orders.map (·.id) := by
      rw [hf', List.map_map]; exact List.map_congr_left fun r _ => (hkeep r).1
    refine ⟨⟨fun r' hr' => ?_, hids ▸ hf.ids_nodup⟩, fun r hr => ⟨f r, hf' ▸ List.mem_map_of_mem f hr, hkeep r⟩⟩
    rw [hf'] at hr'
    obtain ⟨r, hr, rfl⟩ := List.mem_map.mp hr'
    obtain ⟨k, hk, e⟩ := hf.fresh r hr
    exact ⟨k, by have := h.nextId_le; omega, (hkeep r).1.trans e⟩
  · have hnew : r.id ∉ w.db.orders.map (·.id) := fun hm => by
      obtain ⟨r', hr', e⟩ := List.mem_map.mp hm
      obtain ⟨k', hk'', e'⟩ := hf.fresh r' hr'
      have := freshId_injective (e'.symm.trans (e.trans hid))
      omega
    refine ⟨⟨fun r' hr' => ?_, ?_⟩, fun r' hr' => ⟨r', hr ▸ List.mem_append_left _ hr', rfl, rfl⟩⟩
    · rw [hr] at hr'
      rcases List.mem_append.mp hr' with hr' | hr'
      · obtain ⟨k', hk'', e⟩ := hf.fresh r' hr'
        exact ⟨k', by have := h.nextId_le; omega, e⟩
      · exact ⟨k, hk', List.mem_singleton.mp hr' ▸ hid⟩
    · rw [hr, List.map_append, List.map_singleton]
      exact List.nodup_append.mpr ⟨hf.ids_nodup, List.nodup_singleton _,
        List.disjoint_singleton.mpr hnew⟩

theorem World.run_append (w : World) (es es' : List Event) :
    w.run (es ++ es') = (w.run es).bind fun w' => w'.run es' := by
  induction es generalizing w with
  | nil => rfl
  | cons e es ih =>
    simp only [List.cons_append, World.run]
    cases w.step e <;> simp [ih]

/-- A run keeps `OrdersFresh`, and every row of its start is still there, with its key. -/
theorem World.run_ordersFresh {w w' : World} {es : List Event}
    (hf : OrdersFresh w.nextId w.db.orders) (h : w.run es = some w') :
    OrdersFresh w'.nextId w'.db.orders ∧ OrdersEvolve w.db.orders w'.db.orders := by
  induction es generalizing w with
  | nil => cases h; exact ⟨hf, OrdersEvolve.refl _⟩
  | cons e es ih =>
    simp only [World.run] at h
    obtain ⟨w₁, h₁, h⟩ := Option.bind_eq_some.mp h
    obtain ⟨hf₁, hev₁⟩ := (World.step_ordersStep h₁).fresh hf
    obtain ⟨hf', hev⟩ := ih hf₁ h
    exact ⟨hf', hev₁.trans hev⟩

theorem World.init_ordersFresh : OrdersFresh World.init.nextId World.init.db.orders :=
  ⟨fun _ h => by simp [World.init] at h, List.nodup_nil⟩

/-! ### The clock -/

/-- Every row was created no later than the clock says. -/
def CreatedBy (w : World) : Prop := ∀ r ∈ w.db.orders, r.createdAt ≤ w.now

/-- From `w` to `w'` the clock did not go back, and every row of `w'` is a row of `w`, under its id
and with its `created_at`, or was created at `w`'s time or later. -/
def CreatedSince (w w' : World) : Prop :=
  w.now ≤ w'.now ∧ ∀ r' ∈ w'.db.orders,
    (∃ r ∈ w.db.orders, r.id = r'.id ∧ r.createdAt = r'.createdAt) ∨ w.now ≤ r'.createdAt

theorem CreatedSince.refl (w : World) : CreatedSince w w :=
  ⟨Int.le_refl _, fun r hr => .inl ⟨r, hr, rfl, rfl⟩⟩

theorem CreatedSince.trans {w₁ w₂ w₃ : World} (h₁ : CreatedSince w₁ w₂) (h₂ : CreatedSince w₂ w₃) :
    CreatedSince w₁ w₃ := by
  refine ⟨Int.le_trans h₁.1 h₂.1, fun r₃ hr₃ => ?_⟩
  rcases h₂.2 r₃ hr₃ with ⟨r₂, hr₂, e₂, c₂⟩ | hlate
  · rcases h₁.2 r₂ hr₂ with ⟨r₁, hr₁, e₁, c₁⟩ | hlate
    · exact .inl ⟨r₁, hr₁, e₁.trans e₂, c₁.trans c₂⟩
    · exact .inr (c₂ ▸ hlate)
  · exact .inr (Int.le_trans h₁.1 hlate)

theorem OrdersStep.createdSince {w w' : World} (h : OrdersStep w w') : CreatedSince w w' := by
  refine ⟨h.now_le, fun r' hr' => ?_⟩
  rcases h.orders with ⟨f, hf, hkeep⟩ | ⟨r, k, hr, -, -, -, hc⟩
  · rw [hf] at hr'
    obtain ⟨r, hr, rfl⟩ := List.mem_map.mp hr'
    exact .inl ⟨r, hr, (hkeep r).1.symm, (hkeep r).2.symm⟩
  · rw [hr] at hr'
    rcases List.mem_append.mp hr' with hr' | hr'
    · exact .inl ⟨r', hr', rfl, rfl⟩
    · exact .inr (List.mem_singleton.mp hr' ▸ hc.ge)

theorem OrdersStep.createdBy {w w' : World} (h : OrdersStep w w') (hc : CreatedBy w) :
    CreatedBy w' := fun r' hr' => by
  rcases h.createdSince.2 r' hr' with ⟨r, hr, -, e⟩ | -
  · exact e ▸ Int.le_trans (hc r hr) h.now_le
  · rcases h.orders with ⟨f, hf, hkeep⟩ | ⟨r, k, hr, -, -, -, hcr⟩
    · rw [hf] at hr'
      obtain ⟨r, hr, rfl⟩ := List.mem_map.mp hr'
      exact (hkeep r).2 ▸ Int.le_trans (hc r hr) h.now_le
    · rw [hr] at hr'
      rcases List.mem_append.mp hr' with hr' | hr'
      · exact Int.le_trans (hc r' hr') h.now_le
      · exact List.mem_singleton.mp hr' ▸ hcr ▸ h.now_le

/-- A run keeps `CreatedBy`, and everything it creates is created at its start's time or later. -/
theorem World.run_createdSince {w w' : World} {es : List Event} (h : w.run es = some w') :
    CreatedSince w w' ∧ (CreatedBy w → CreatedBy w') := by
  induction es generalizing w with
  | nil => cases h; exact ⟨CreatedSince.refl _, id⟩
  | cons e es ih =>
    simp only [World.run] at h
    obtain ⟨w₁, h₁, h⟩ := Option.bind_eq_some.mp h
    have hstep := World.step_ordersStep h₁
    obtain ⟨hs, hb⟩ := ih h
    exact ⟨hstep.createdSince.trans hs, fun hc => hb (hstep.createdBy hc)⟩

theorem World.init_createdBy : CreatedBy World.init := fun _ h => by simp [World.init] at h

/-- A state the service reaches from its start: ids fresh, every row under its id once, and no
row created after the clock's time. -/
theorem World.reachable {w : World} {es : List Event} (h : World.init.run es = some w) :
    OrdersFresh w.nextId w.db.orders ∧ CreatedBy w :=
  ⟨(World.run_ordersFresh World.init_ordersFresh h).1,
    (World.run_createdSince h).2 World.init_createdBy⟩

/-! ### Paging through a running service -/

/-- Requests each reached from the one before are each reached from every earlier one. -/
theorem runs_pairwise {reqs : List (World × (String → Bool))}
    (h : reqs.Chain' fun x x' => ∃ es, x.1.run es = some x'.1) :
    reqs.Pairwise fun x x' => ∃ es, x.1.run es = some x'.1 := by
  haveI : IsTrans (World × (String → Bool)) fun x x' => ∃ es, x.1.run es = some x'.1 :=
    ⟨fun _ _ _ ⟨es, h⟩ ⟨es', h'⟩ => ⟨es ++ es', by rw [World.run_append, h]; exact h'⟩⟩
  exact List.chain'_iff_pairwise.mp h

/-- Requests reached, the first from the empty service and each from the one before, see orders
with fresh ids. -/
theorem runs_fresh {reqs : List (World × (String → Bool))}
    (hstart : ∀ x ∈ reqs.head?, ∃ es, World.init.run es = some x.1)
    (hruns : reqs.Chain' fun x x' => ∃ es, x.1.run es = some x'.1) :
    ∀ x ∈ reqs, OrdersFresh x.1.nextId x.1.db.orders := by
  intro x hx
  cases reqs with
  | nil => cases hx
  | cons x₀ reqs =>
    obtain ⟨es, h₀⟩ := hstart x₀ rfl
    have hf₀ := (World.reachable h₀).1
    rcases List.mem_cons.mp hx with rfl | hx
    · exact hf₀
    · obtain ⟨es', h'⟩ := List.rel_of_pairwise_cons (runs_pairwise hruns) hx
      exact (World.run_ordersFresh hf₀ h').1

/-- A page of `ListOrders` over orders with distinct ids: a full page when there are more, and
every selected order on it when there are none. -/
theorem listOrders_more {db : Tables} {userID status c next : String} {limit : Nat}
    {s : Option OrderStatusEnum} {loads : String → Bool} {page : List Order} {more : Bool}
    (hwf : OrdersWF db.orders) (hlimit : 0 < limit) (hs : statusFilter status = .ok s)
    (h : listOrders db userID status limit c loads = .ok (page, next, more)) :
    (more = true → page.length = limit) ∧
      (more = false ↔ ∀ r ∈ db.orders, listSelects db userID s c r → r.id ∈ page.map (·.id)) := by
  obtain ⟨rows, hl, rfl, rfl⟩ := listOrders_ok h
  obtain ⟨-, -, hpmem, hfin, hmore⟩ := list_page hwf hlimit hs hl
  have hids : (rows.map (loadItems db loads)).map (·.id) = rows.map (·.id) := by
    rw [List.map_map]; rfl
  refine ⟨fun hm => by simpa using (hmore (by simpa using hm)).1, fun hm => ?_, fun hin => ?_⟩
  · intro r hr hsel
    rw [hids]
    exact List.mem_map_of_mem _ (hfin (by simpa using hm) r hr hsel)
  · by_contra hm
    obtain ⟨-, -, -, -, -, -, r, hr, hsel, hnot⟩ := hmore (by simpa using hm)
    rw [hids] at hin
    obtain ⟨r', hr', e⟩ := List.mem_map.mp (hin r hr hsel)
    exact hnot (hwf.eq_of_id_eq (hpmem r' hr').1 hr e ▸ hr')

theorem listOrders_pages_exact {userID status : String} {limit : Nat}
    {s : Option OrderStatusEnum} {reqs : List (World × (String → Bool))} {os : List Order}
    (hlimit : 0 < limit) (hs : statusFilter status = .ok s)
    (hstart : ∀ x ∈ reqs.head?, ∃ es, World.init.run es = some x.1)
    (hruns : reqs.Chain' fun x x' => ∃ es, x.1.run es = some x'.1)
    (hpages : pageThrough userID status limit (reqs.map fun x => (x.1.db, x.2)) "" = .ok (os, none)) :
    os.Pairwise (fun a a' => keyLt a'.key a.key) ∧ (os.map (·.id)).Nodup ∧
    (∀ o ∈ os, ∃ x ∈ reqs, ∃ r ∈ x.1.db.orders, r.isListed userID s ∧ o = loadItems x.1.db x.2 r) ∧
    (∀ id, (∀ x ∈ reqs, ∃ r ∈ x.1.db.orders, r.id = id ∧ r.isListed userID s) →
      ∃ o ∈ os, o.id = id) ∧
    ∀ x ∈ reqs, ∀ c page next more,
      listOrders x.1.db userID status limit c x.2 = .ok (page, next, more) →
      (more = true → page.length = limit) ∧
      (more = false ↔ ∀ r ∈ x.1.db.orders, listSelects x.1.db userID s c r → r.id ∈ page.map (·.id)) := by
  have hfresh := runs_fresh hstart hruns
  have hev : (reqs.map fun x => (x.1.db, x.2)).Pairwise fun d d' =>
      OrdersEvolve d.1.orders d'.1.orders :=
    List.pairwise_map.mpr ((runs_pairwise hruns).imp_of_mem fun hx _ ⟨_, h⟩ =>
      (World.run_ordersFresh (hfresh _ hx) h).2)
  have hwf : ∀ d ∈ reqs.map (fun x => (x.1.db, x.2)), OrdersWF d.1.orders := by
    simp only [List.mem_map]
    rintro _ ⟨x, hx, rfl⟩
    exact (hfresh x hx).wf
  obtain ⟨hdesc, hnd, hmem, hall⟩ :=
    @pageThrough_ok userID status limit s hlimit hs _ "" none os hwf hev (fun _ _ => rfl) hpages
  refine ⟨hdesc, hnd, fun o ho => ?_, fun id hid => hall id fun d hd => ?_,
    fun x hx c page next more h => listOrders_more (hfresh x hx).wf hlimit hs h⟩
  · obtain ⟨-, d, hd, r, hr, hl, rfl⟩ := hmem o ho
    obtain ⟨x, hx, rfl⟩ := List.mem_map.mp hd
    exact ⟨x, hx, r, hr, hl, rfl⟩
  · obtain ⟨x, hx, rfl⟩ := List.mem_map.mp hd
    obtain ⟨r, hr, e, hl⟩ := hid x hx
    exact ⟨r, hr, e, hl, rfl⟩

/-- From a request on, with the cursor at the key `κ` of a row of `W` and every later table
keeping `W`'s rows and holding besides only rows created at `T` or later, above `κ`: the client
reaches a page without more within one request more than `W` has rows below `κ`. -/
theorem pageThrough_finishes {userID status : String} {limit : Nat} {s : Option OrderStatusEnum}
    (hlimit : 0 < limit) (hu : uuidParam userID = .ok ()) (hs : statusFilter status = .ok s)
    {W : List OrderRow} {T : Int} :
    ∀ {reqs : List (Tables × (String → Bool))} {c : String} {κ : Int × String},
      κ.1 < T → (∃ r ∈ W, r.id = c ∧ r.key = κ) →
      (∀ x ∈ reqs, OrdersWF x.1.orders ∧ OrdersEvolve W x.1.orders ∧
        ∀ r ∈ x.1.orders, (∃ r₀ ∈ W, r₀.id = r.id ∧ r₀.createdAt = r.createdAt) ∨ T ≤ r.createdAt) →
      (W.filter fun r => Below (some κ) r.key).length < reqs.length →
      ∃ os, pageThrough userID status limit reqs c = .ok (os, none)
  | [], _, _, _, _, _, hn => absurd hn (Nat.not_lt_zero _)
  | (db, loads) :: reqs, c, κ, hκ, ⟨r₀, hr₀, hc, hk⟩, hreqs, hn => by
    obtain ⟨hwf, hev, hnew⟩ := hreqs _ (List.mem_cons_self _ _)
    obtain ⟨page, next, hl⟩ := @list_succeeds db userID status c limit s hu hs
    obtain ⟨-, -, hpmem, -, hmore⟩ := list_page hwf hlimit hs hl
    have hcur : CursorAt db c (some κ) := by
      obtain ⟨r', hr', e, ec⟩ := hev r₀ hr₀
      exact ⟨(congrArg Prod.snd hk).symm.trans hc, r', hr', by simp [← hk, OrderRow.key, e, ec]⟩
    simp only [listSelects_eq hwf hcur, Bool.and_eq_true] at hpmem hmore
    rw [pageThrough_cons (listOrders_of_list loads hl)]
    by_cases hnext : next = ""
    · exact ⟨page.map (loadItems db loads), by simp [hnext]⟩
    · obtain ⟨-, p, hp, rfl, -, -, -⟩ := hmore hnext
      obtain ⟨hpdb, -, hpb⟩ := hpmem p hp
      -- the page's last row lies below `κ`, so before `T`: it is a row of `W`
      have hpT : p.createdAt < T := by
        simp only [Below, Option.all_some, keyLt, OrderRow.key, Bool.or_eq_true, decide_eq_true_eq,
          Bool.and_eq_true] at hpb
        omega
      obtain ⟨q, hq, hqid, hqc⟩ := (hnew p hpdb).resolve_right (Int.not_le.mpr hpT)
      have hqk : q.key = p.key := by simp [OrderRow.key, hqid, hqc]
      -- the rows of `W` below `p` are those below `κ` less `q`
      have heq : (W.filter fun r => Below (some p.key) r.key) =
          (W.filter fun r => Below (some κ) r.key).filter fun r => Below (some p.key) r.key := by
        rw [List.filter_filter]
        refine List.filter_congr fun r _ => ?_
        cases h : Below (some p.key) r.key
        · simp
        · simp [Below.of_keyLt h hpb]
      have hlt : (W.filter fun r => Below (some p.key) r.key).length <
          (W.filter fun r => Below (some κ) r.key).length := by
        rw [heq, List.length_filter_lt_length_iff_exists]
        exact ⟨q, List.mem_filter.mpr ⟨hq, hqk ▸ hpb⟩, by simp [Below, hqk, keyLt_irrefl]⟩
      have hn' : (W.filter fun r => Below (some p.key) r.key).length < reqs.length := by
        simp only [List.length_cons] at hn; omega
      obtain ⟨os, hos⟩ := @pageThrough_finishes userID status limit s hlimit hu hs W T reqs p.id p.key
        hpT ⟨q, hq, hqid, hqk⟩ (fun x hx => hreqs x (List.mem_cons_of_mem _ hx)) hn'
      refine ⟨page.map (loadItems db loads) ++ os, ?_⟩
      rw [if_pos (by simpa using hnext), hos]
      rfl

theorem listOrders_paging_finishes {userID status : String} {limit : Nat}
    {s : Option OrderStatusEnum} {reqs : List (World × (String → Bool))}
    (hlimit : 0 < limit) (hu : uuidParam userID = .ok ()) (hs : statusFilter status = .ok s)
    (hstart : ∀ x ∈ reqs.head?, ∃ es, World.init.run es = some x.1)
    (hruns : reqs.Chain' fun x x' => x.1.now < x'.1.now ∧ ∃ es, x.1.run es = some x'.1)
    (hmany : ∀ x ∈ reqs, x.1.db.orders.length + 2 ≤ reqs.length) (hne : reqs ≠ []) :
    ∃ os, pageThrough userID status limit (reqs.map fun x => (x.1.db, x.2)) "" = .ok (os, none) := by
  obtain ⟨x₀, reqs, rfl⟩ := List.exists_cons_of_ne_nil hne
  obtain ⟨es₀, h₀⟩ := hstart x₀ rfl
  obtain ⟨hf₀, hc₀⟩ := World.reachable h₀
  obtain ⟨page, next, hl⟩ := @list_succeeds x₀.1.db userID status "" limit s hu hs
  obtain ⟨-, -, hpmem, -, hmore⟩ := list_page hf₀.wf hlimit hs hl
  rw [List.map_cons, pageThrough_cons (listOrders_of_list x₀.2 hl)]
  by_cases hnext : next = ""
  · exact ⟨page.map (loadItems x₀.1.db x₀.2), by simp [hnext]⟩
  obtain ⟨-, p, hp, rfl, -, -, -⟩ := hmore hnext
  have hp₀ := (hpmem p hp).1
  -- the second request, at a later time `T`, and every one after it
  obtain ⟨x₁, reqs', rfl⟩ : ∃ x₁ reqs', reqs = x₁ :: reqs' := by
    cases reqs with
    | nil => simpa using hmany x₀ (List.mem_singleton_self _)
    | cons x₁ reqs' => exact ⟨x₁, reqs', rfl⟩
  obtain ⟨⟨hT, es₁, h₁⟩, hruns'⟩ := List.chain'_cons.mp hruns
  have hpair := runs_pairwise (hruns'.imp fun _ _ h => h.2)
  have hf₁ := (World.run_ordersFresh hf₀ h₁).1
  have hlater : ∀ x ∈ x₁ :: reqs', ∃ es, x₁.1.run es = some x.1 := by
    intro x hx
    rcases List.mem_cons.mp hx with rfl | hx
    · exact ⟨[], rfl⟩
    · exact List.rel_of_pairwise_cons hpair hx
  obtain ⟨q, hq, hqid, hqc⟩ := (World.run_ordersFresh hf₀ h₁).2 p hp₀
  obtain ⟨os, hos⟩ := @pageThrough_finishes userID status limit s hlimit hu hs x₁.1.db.orders x₁.1.now
    ((x₁ :: reqs').map fun x => (x.1.db, x.2)) p.id p.key
    (lt_of_le_of_lt (hc₀ p hp₀) hT) ⟨q, hq, hqid, by simp [OrderRow.key, hqid, hqc]⟩
    (by
      simp only [List.mem_map]
      rintro _ ⟨x, hx, rfl⟩
      obtain ⟨es, hx₁⟩ := hlater x hx
      obtain ⟨hfx, hevx⟩ := World.run_ordersFresh hf₁ hx₁
      exact ⟨hfx.wf, hevx, (World.run_createdSince hx₁).1.2⟩)
    (by
      have := hmany x₁ (List.mem_cons_of_mem _ (List.mem_cons_self _ _))
      have := List.length_filter_le (fun r => Below (some p.key) r.key) x₁.1.db.orders
      simp only [List.length_map, List.length_cons] at *
      omega)
  refine ⟨page.map (loadItems x₀.1.db x₀.2) ++ os, ?_⟩
  rw [if_pos (by simpa using hnext), hos]
  rfl

/-- The client's user. -/
def pagingUser : String := "a0eebc99-9c0b-4ef8-bb6d-6bb9bd380a11"

/-- A `CreateOrder` call of `pagingUser` with key `key`, run to its end as call `c`. -/
def createCall (c : Nat) (key : String) : List Event :=
  [.intake (.start key ⟨pagingUser, [⟨"6f1c2e9a-0b7d-4c55-9a3e-2d8f4b1c7e01", "Widget", 1, ⟨"USD", 500, rfl⟩, rfl⟩],
      "1 Main St", "Springfield", "IL", "62701", "US"⟩),
    .intake (.next c true), .intake (.next c true), .intake (.next c true)]

/-- The service after two orders of `pagingUser`, created at times `1` and `2`. -/
def twoOrders : World :=
  (World.init.run (.intake (.tick 1) :: createCall 0 "k1" ++ .intake (.tick 2) :: createCall 1 "k2")).getD .init

/-- The service after a third order, created at time `3`, and then at time `4`. -/
def threeOrders : World :=
  (twoOrders.run (.intake (.tick 3) :: createCall 2 "k3" ++ [.intake (.tick 4)])).getD twoOrders

/-- A client's requests: at time `2`, with every `GetByID` succeeding, and at time `4`, after a
third order was created above the cursor, with every `GetByID` failing. -/
def twoThenThree : List (World × (String → Bool)) :=
  [(twoOrders, fun _ => true), (threeOrders, fun _ => false)]

/-- What the client gets: the later of the two orders with its item, then the earlier one, whose
items failed to load. -/
def acrossInsert : List Order :=
  (twoOrders.db.orders.drop 1).map (loadItems twoOrders.db fun _ => true) ++
    (twoOrders.db.orders.take 1).map (loadItems threeOrders.db fun _ => false)

/-- Pages of one order each, across an insert: the client gets `acrossInsert`, and nothing else. -/
theorem listOrders_pages_across_insert :
    (0 < 1 ∧ statusFilter "" = .ok none ∧
      (∀ x ∈ twoThenThree.head?, ∃ es, World.init.run es = some x.1) ∧
      twoThenThree.Chain' (fun x x' => ∃ es, x.1.run es = some x'.1) ∧
      pageThrough pagingUser "" 1 (twoThenThree.map fun x => (x.1.db, x.2)) "" =
        .ok (acrossInsert, none)) ∧
    (acrossInsert.Pairwise (fun a a' => keyLt a'.key a.key) ∧ (acrossInsert.map (·.id)).Nodup ∧
      (∀ o ∈ acrossInsert, ∃ x ∈ twoThenThree, ∃ r ∈ x.1.db.orders, r.isListed pagingUser none ∧
        o = loadItems x.1.db x.2 r) ∧
      (∀ id, (∀ x ∈ twoThenThree, ∃ r ∈ x.1.db.orders, r.id = id ∧ r.isListed pagingUser none) →
        ∃ o ∈ acrossInsert, o.id = id) ∧
      ∀ x ∈ twoThenThree, ∀ c page next more,
        listOrders x.1.db pagingUser "" 1 c x.2 = .ok (page, next, more) →
        (more = true → page.length = 1) ∧
        (more = false ↔ ∀ r ∈ x.1.db.orders, listSelects x.1.db pagingUser none c r →
          r.id ∈ page.map (·.id))) := by
  have hstart : ∀ x ∈ twoThenThree.head?, ∃ es, World.init.run es = some x.1 := fun x hx => by
    obtain rfl := Option.mem_some_iff.mp hx
    exact ⟨.intake (.tick 1) :: createCall 0 "k1" ++ .intake (.tick 2) :: createCall 1 "k2", rfl⟩
  have hruns : twoThenThree.Chain' (fun x x' => ∃ es, x.1.run es = some x'.1) :=
    List.chain'_pair.mpr ⟨.intake (.tick 3) :: createCall 2 "k3" ++ [Event.intake (.tick 4)], rfl⟩
  have hpages : pageThrough pagingUser "" 1 (twoThenThree.map fun x => (x.1.db, x.2)) "" =
      .ok (acrossInsert, none) := rfl
  exact ⟨⟨Nat.one_pos, rfl, hstart, hruns, hpages⟩,
    listOrders_pages_exact Nat.one_pos rfl hstart hruns hpages⟩

/-- Four requests of `pagingUser` over its two orders, at times `2` to `5`, with every `GetByID`
succeeding. -/
def fourRequests : List (World × (String → Bool)) :=
  [2, 3, 4, 5].map fun t => ((twoOrders.run [.intake (.tick t)]).getD twoOrders, fun _ => true)

theorem listOrders_paging_finishes_fourRequests :
    (0 < 1 ∧ uuidParam pagingUser = .ok () ∧ statusFilter "" = .ok none ∧
      (∀ x ∈ fourRequests.head?, ∃ es, World.init.run es = some x.1) ∧
      fourRequests.Chain' (fun x x' => x.1.now < x'.1.now ∧ ∃ es, x.1.run es = some x'.1) ∧
      (∀ x ∈ fourRequests, x.1.db.orders.length + 2 ≤ fourRequests.length) ∧ fourRequests ≠ []) ∧
    ∃ os, pageThrough pagingUser "" 1 (fourRequests.map fun x => (x.1.db, x.2)) "" = .ok (os, none) := by
  have hstart : ∀ x ∈ fourRequests.head?, ∃ es, World.init.run es = some x.1 := fun x hx => by
    obtain rfl := Option.mem_some_iff.mp hx
    exact ⟨.intake (.tick 1) :: createCall 0 "k1" ++ .intake (.tick 2) :: createCall 1 "k2" ++
      [Event.intake (.tick 2)], rfl⟩
  have hruns : fourRequests.Chain' (fun x x' => x.1.now < x'.1.now ∧ ∃ es, x.1.run es = some x'.1) :=
    .cons ⟨by decide, [.intake (.tick 3)], rfl⟩ (.cons ⟨by decide, [.intake (.tick 4)], rfl⟩
      (.cons ⟨by decide, [.intake (.tick 5)], rfl⟩ (List.chain'_singleton _)))
  have hmany : ∀ x ∈ fourRequests, x.1.db.orders.length + 2 ≤ fourRequests.length := by decide
  exact ⟨⟨Nat.one_pos, rfl, rfl, hstart, hruns, hmany, List.cons_ne_nil _ _⟩,
    listOrders_paging_finishes Nat.one_pos rfl rfl hstart hruns hmany (List.cons_ne_nil _ _)⟩

/-- With the `CANCELED` filter every request fails: `toRepoStatus` gives Go's `"canceled"`, which
is not a label of `order_status`. -/
theorem listOrders_canceled_fails (db : Tables) (userId : String) (size : Int) (cursor : String)
    (loads : String → Bool) :
    listOrdersRpc db userId .canceled size cursor loads =
      .error (if userId = "" then "user_id is required" else "failed to list orders") ∧
    (uuidParam userId = .ok () →
      listOrders db userId (toRepoStatus .canceled) (pageSize size) cursor loads = .error
        "failed to list orders: failed to list orders: pq: invalid input value for enum order_status: \"canceled\"") := by
  obtain ⟨e, he⟩ : ∃ e, (uuidParam userId >>= fun _ => statusFilter (toRepoStatus .canceled)) = .error e := by
    cases uuidParam userId <;> exact ⟨_, rfl⟩
  have hl : listOrders db userId (toRepoStatus .canceled) (pageSize size) cursor loads =
      .error ("failed to list orders: " ++ ("failed to list orders: " ++ e)) := by
    simp only [listOrders, list, he]
  refine ⟨?_, fun hu => by simp only [listOrders, list, hu]; rfl⟩
  by_cases h : userId = "" <;> simp [listOrdersRpc, h, hl]

theorem listOrders_canceled_fails_twoOrders :
    uuidParam pagingUser = .ok () ∧
    listOrdersRpc twoOrders.db pagingUser .canceled 20 "" (fun _ => true) =
      .error "failed to list orders" ∧
    listOrders twoOrders.db pagingUser (toRepoStatus .canceled) (pageSize 20) "" (fun _ => true) =
      .error
        "failed to list orders: failed to list orders: pq: invalid input value for enum order_status: \"canceled\"" :=
  ⟨rfl, (listOrders_canceled_fails twoOrders.db pagingUser 20 "" fun _ => true).1,
    (listOrders_canceled_fails twoOrders.db pagingUser 20 "" fun _ => true).2 rfl⟩

end Coldy.Orders
