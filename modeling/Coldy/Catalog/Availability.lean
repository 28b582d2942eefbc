import Mathlib.Data.List.Nodup
import Coldy.Catalog.Products

/-!
# `CheckAvailability`

The gRPC `CheckAvailability` collects the request's items into a `map[string]int32`, setting
`items[item.ProductId] = item.Quantity` for each item in turn, so a product named twice keeps its
last quantity only (`requestMap_find?`).  `CatalogService.CheckAvailability` passes the keys to
`ProductRepository.CheckAvailability`, whose `WHERE id = ANY($1)` PostgreSQL refuses when a key is
not a UUID, and looks each key up in the stocks it returns, under the id as PostgreSQL writes it
(`checkAvailability_ok`).  A key is unavailable when no stock is found under its own spelling
(available `0`) or the stock is below its quantity; the answer is available when no key is
(`checkAvailabilityRpc_ok`).  Go
iterates a map in no fixed order; the model iterates in the order the keys were first set, and
every statement here is about membership.
-/

namespace Coldy.Catalog

open Coldy.Json Coldy.Uuid

/-- `service.UnavailableItem`. -/
structure UnavailableItem where
  productId : String
  requested : Int
  available : Int
  deriving DecidableEq, Repr

/-- The map `Server.CheckAvailability` builds: `items[item.ProductId] = item.Quantity`. -/
def requestMap (items : List (String × Int)) : List (String × Int) :=
  items.foldl (fun m i => mapSet m i.1 i.2) []

/-- One turn of `CatalogService.CheckAvailability`'s loop, over the stocks `available` the
repository found: the item reported for `productId`, if any. -/
def unavailableItem (available : List (String × Int)) (productId : String) (requested : Int) :
    Option UnavailableItem :=
  match available.find? (·.1 = productId) with
  | none => some ⟨productId, requested, 0⟩
  | some (_, qty) => if qty < requested then some ⟨productId, requested, qty⟩ else none

/-- `CatalogService.CheckAvailability` over the map `items`. -/
def serviceCheckAvailability (products : List Product) (items : List (String × Int)) :
    Except String (List UnavailableItem) :=
  match checkAvailability products (items.map (·.1)) with
  | .error e => .error ("failed to check availability: " ++ e)
  | .ok available => .ok (items.filterMap fun e => unavailableItem available e.1 e.2)

/-- `Server.CheckAvailability`: `Available` and `UnavailableItems`, or the text of the gRPC status
it returns. -/
def checkAvailabilityRpc (products : List Product) (items : List (String × Int)) :
    Except String (Bool × List UnavailableItem) :=
  if items = [] then .error "items are required"
  else
    match serviceCheckAvailability products (requestMap items) with
    | .error _ => .error "failed to check availability"
    | .ok unavailable => .ok (unavailable = [], unavailable)

/-- The stock `CheckAvailability` finds for the spelling `p` of an id: that of the product whose id,
as PostgreSQL writes it, is `p`. -/
def stockFound (products : List Product) (p : String) : Option Int :=
  (products.find? fun r => readUuid r.id = p).map (·.stockQuantity)

/-! ### The request's map -/

/-- The map holds, for each product, the quantity of its last item. -/
theorem requestMap_find? (items : List (String × Int)) (p : String) :
    (requestMap items).find? (·.1 = p) = items.reverse.find? (·.1 = p) :=
  goMap_find? items p

/-- The map has one entry per product. -/
theorem requestMap_nodup (items : List (String × Int)) : ((requestMap items).map (·.1)).Nodup :=
  goMap_nodup items

/-- The entries of the map: each product with the quantity of its last item. -/
theorem mem_requestMap {items : List (String × Int)} {p : String} {q : Int} :
    (p, q) ∈ requestMap items ↔ items.reverse.find? (·.1 = p) = some (p, q) := by
  rw [← requestMap_find?]
  exact ⟨find?_of_mem_nodup (requestMap_nodup items), List.mem_of_find?_eq_some⟩

/-- Every product the request names is a key of the map. -/
theorem mem_requestMap_keys {items : List (String × Int)} {i : String × Int} (hi : i ∈ items) :
    i.1 ∈ (requestMap items).map (·.1) := by
  obtain ⟨e, he⟩ : ∃ e, items.reverse.find? (·.1 = i.1) = some e :=
    Option.isSome_iff_exists.mp (List.find?_isSome.mpr ⟨i, List.mem_reverse.mpr hi, by simp⟩)
  rw [← requestMap_find?] at he
  exact List.mem_map.mpr ⟨e, List.mem_of_find?_eq_some he, by simpa using List.find?_some he⟩

/-! ### The repository's stocks -/

theorem forM_eq_ok {f : String → Except String Unit} :
    ∀ {ids : List String}, ids.forM f = .ok () → ∀ id ∈ ids, f id = .ok ()
  | [], _ => by simp
  | id :: ids, h => by
    obtain ⟨⟨⟩, h₁, h₂⟩ := Sql.bind_eq_ok.mp h
    exact List.forall_mem_cons.mpr ⟨h₁, forM_eq_ok h₂⟩

/-- The query succeeds only on ids that are UUIDs, and then finds under a key the stock of the
product whose id, as PostgreSQL writes it, is that key. -/
theorem checkAvailability_ok {products : List Product} {ids : List String}
    {available : List (String × Int)} (h : checkAvailability products ids = .ok available) :
    (∀ id ∈ ids, (parseUuid id).isSome) ∧ ∀ p ∈ ids,
      available.find? (·.1 = p) = (stockFound products p).map (p, ·) := by
  unfold checkAvailability at h
  split at h
  · cases h
  rename_i hparams
  cases h
  obtain ⟨⟨⟩, -, hids⟩ := Sql.bind_eq_ok.mp hparams
  have huuid := forM_eq_ok hids
  refine ⟨fun id hid => Sql.uuidParam_eq_ok (huuid id hid), fun p hp => ?_⟩
  unfold stockFound
  induction products with
  | nil => rfl
  | cons r rs ih =>
    by_cases hr : readUuid r.id = p
    · have hany : (ids.any fun id => sameId id r.id) = true :=
        List.any_eq_true.mpr ⟨p, hp, by simp [sameId, ← hr, readUuid_readUuid]⟩
      simp [List.filter_cons, hany, hr]
    · by_cases hany : (ids.any fun id => sameId id r.id) = true <;>
        simp [List.filter_cons, hany, hr, ih]

/-! ### The answer -/

theorem unavailableItem_some {available : List (String × Int)} {p : String} {q : Int}
    {u : UnavailableItem} (h : unavailableItem available p q = some u) :
    u.productId = p ∧ u.requested = q := by
  unfold unavailableItem at h
  split at h
  · cases h; exact ⟨rfl, rfl⟩
  · split at h <;> cases h; exact ⟨rfl, rfl⟩

/-- The loop reports each product at most once. -/
theorem nodup_unavailable {available : List (String × Int)} :
    ∀ {m : List (String × Int)}, (m.map (·.1)).Nodup →
      ((m.filterMap fun e => unavailableItem available e.1 e.2).map (·.productId)).Nodup
  | [], _ => List.nodup_nil
  | e :: m, hm => by
    rw [List.map_cons, List.nodup_cons] at hm
    rw [List.filterMap_cons]
    split
    · exact nodup_unavailable hm.2
    · rename_i u hu
      rw [List.map_cons, List.nodup_cons]
      refine ⟨fun hmem => hm.1 ?_, nodup_unavailable hm.2⟩
      obtain ⟨u', hu', he⟩ := List.mem_map.mp hmem
      obtain ⟨e', he', hu''⟩ := List.mem_filterMap.mp hu'
      rw [← (unavailableItem_some hu).1, ← he, (unavailableItem_some hu'').1]
      exact List.mem_map_of_mem _ he'

/-- Over the stocks `checkAvailability` found, a key's report is decided by the stock found under
its own spelling. -/
theorem unavailableItem_of_found {products : List Product} {ids : List String}
    {av : List (String × Int)} (hav : checkAvailability products ids = .ok av) {p : String}
    (hp : p ∈ ids) (q : Int) :
    unavailableItem av p q = match stockFound products p with
      | none => some ⟨p, q, 0⟩
      | some s => if s < q then some ⟨p, q, s⟩ else none := by
  rw [unavailableItem, (checkAvailability_ok hav).2 p hp]
  cases stockFound products p <;> rfl

/-- A successful `Server.CheckAvailability`: the stocks found for the map's keys, and the entries
of the map the service's loop reports. -/
theorem checkAvailabilityRpc_eq_ok {products : List Product} {items : List (String × Int)}
    {available : Bool} {unavailable : List UnavailableItem}
    (h : checkAvailabilityRpc products items = .ok (available, unavailable)) :
    ∃ av, checkAvailability products ((requestMap items).map (·.1)) = .ok av ∧
      available = decide (unavailable = []) ∧
      unavailable = (requestMap items).filterMap fun e => unavailableItem av e.1 e.2 := by
  unfold checkAvailabilityRpc at h
  split at h
  · cases h
  split at h
  · cases h
  rename_i us hs
  cases h
  unfold serviceCheckAvailability at hs
  split at hs
  · cases hs
  rename_i av hav
  cases hs
  exact ⟨av, hav, rfl, rfl⟩

/-- When `Server.CheckAvailability` succeeds, every product id of the request is a UUID; the
answer is available exactly when no item is reported; each product is reported at most once, and
only with the quantity of its last item.  A product whose stock is not found under the request's
own spelling is reported with `0`; one whose stock is below its last quantity is reported with
that stock; one whose stock covers it is not reported. -/
theorem checkAvailabilityRpc_ok {products : List Product} {items : List (String × Int)}
    {available : Bool} {unavailable : List UnavailableItem}
    (h : checkAvailabilityRpc products items = .ok (available, unavailable)) :
    (∀ i ∈ items, (parseUuid i.1).isSome) ∧
    (available = true ↔ unavailable = []) ∧
    (unavailable.map (·.productId)).Nodup ∧
    (∀ u ∈ unavailable, items.reverse.find? (·.1 = u.productId) = some (u.productId, u.requested)) ∧
    ∀ p q, items.reverse.find? (·.1 = p) = some (p, q) →
      (stockFound products p = none → ⟨p, q, 0⟩ ∈ unavailable) ∧
      (∀ s, stockFound products p = some s → s < q → ⟨p, q, s⟩ ∈ unavailable) ∧
      (∀ s, stockFound products p = some s → q ≤ s → ∀ u ∈ unavailable, u.productId ≠ p) := by
  obtain ⟨av, hav, rfl, rfl⟩ := checkAvailabilityRpc_eq_ok h
  have hitem := fun p q (hpq : (p, q) ∈ requestMap items) =>
    unavailableItem_of_found hav (List.mem_map_of_mem (·.1) hpq) q
  refine ⟨fun i hi => (checkAvailability_ok hav).1 _ (mem_requestMap_keys hi), by simp,
    nodup_unavailable (requestMap_nodup items), fun u hu => ?_, fun p q hpq => ?_⟩
  · obtain ⟨e, he, hu'⟩ := List.mem_filterMap.mp hu
    obtain ⟨hp, hq⟩ := unavailableItem_some hu'
    exact mem_requestMap.mp (by rw [hp, hq]; exact he)
  · have hmem := mem_requestMap.mpr hpq
    refine ⟨fun hn => ?_, fun s hsq hlt => ?_, fun s hsq hle u hu hup => ?_⟩
    · exact List.mem_filterMap.mpr ⟨_, hmem, by rw [hitem p q hmem, hn]⟩
    · exact List.mem_filterMap.mpr ⟨_, hmem, by simp only [hitem p q hmem, hsq, if_pos hlt]⟩
    · obtain ⟨e, he, hu'⟩ := List.mem_filterMap.mp hu
      have he' : e = (p, q) := by
        have := find?_of_mem_nodup (requestMap_nodup items) he
        rw [← (unavailableItem_some hu').1, hup, requestMap_find?, hpq] at this
        exact (Option.some.inj this).symm
      subst he'
      simp [hitem p q hmem, hsq, Int.not_lt.mpr hle] at hu'

/-- One product with five in stock. -/
def fiveInStock : List Product :=
  [⟨"6f1c2e9a-0b7d-4c55-9a3e-2d8f4b1c7e01", "Widget", "", "W-1", "USD", 500, 5, "tools", [], 0, 0⟩]

/-- Four of it, then six. -/
def fourThenSix : List (String × Int) :=
  [("6f1c2e9a-0b7d-4c55-9a3e-2d8f4b1c7e01", 4), ("6f1c2e9a-0b7d-4c55-9a3e-2d8f4b1c7e01", 6)]

theorem checkAvailabilityRpc_ok_fourThenSix :
    checkAvailabilityRpc fiveInStock fourThenSix =
        .ok (false, [⟨"6f1c2e9a-0b7d-4c55-9a3e-2d8f4b1c7e01", 6, 5⟩]) ∧
      (∀ i ∈ fourThenSix, (parseUuid i.1).isSome) ∧
      (false = true ↔ [(⟨"6f1c2e9a-0b7d-4c55-9a3e-2d8f4b1c7e01", 6, 5⟩ : UnavailableItem)] = []) ∧
      ([(⟨"6f1c2e9a-0b7d-4c55-9a3e-2d8f4b1c7e01", 6, 5⟩ : UnavailableItem)].map (·.productId)).Nodup ∧
      (∀ u ∈ [(⟨"6f1c2e9a-0b7d-4c55-9a3e-2d8f4b1c7e01", 6, 5⟩ : UnavailableItem)],
        fourThenSix.reverse.find? (·.1 = u.productId) = some (u.productId, u.requested)) ∧
      ∀ p q, fourThenSix.reverse.find? (·.1 = p) = some (p, q) →
        (stockFound fiveInStock p = none →
          ⟨p, q, 0⟩ ∈ [(⟨"6f1c2e9a-0b7d-4c55-9a3e-2d8f4b1c7e01", 6, 5⟩ : UnavailableItem)]) ∧
        (∀ s, stockFound fiveInStock p = some s → s < q →
          ⟨p, q, s⟩ ∈ [(⟨"6f1c2e9a-0b7d-4c55-9a3e-2d8f4b1c7e01", 6, 5⟩ : UnavailableItem)]) ∧
        (∀ s, stockFound fiveInStock p = some s → q ≤ s →
          ∀ u ∈ [(⟨"6f1c2e9a-0b7d-4c55-9a3e-2d8f4b1c7e01", 6, 5⟩ : UnavailableItem)],
            u.productId ≠ p) :=
  ⟨rfl, checkAvailabilityRpc_ok rfl⟩

/-- One product with five in stock: two items of three each are reported available, and the
product spelled in capitals is reported missing. -/
theorem checkAvailability_counts_last_item :
    checkAvailabilityRpc
        [⟨"6f1c2e9a-0b7d-4c55-9a3e-2d8f4b1c7e01", "Widget", "", "W-1", "USD", 500, 5, "tools", [], 0, 0⟩]
        [("6f1c2e9a-0b7d-4c55-9a3e-2d8f4b1c7e01", 3), ("6f1c2e9a-0b7d-4c55-9a3e-2d8f4b1c7e01", 3)] =
      .ok (true, []) ∧
    checkAvailabilityRpc
        [⟨"6f1c2e9a-0b7d-4c55-9a3e-2d8f4b1c7e01", "Widget", "", "W-1", "USD", 500, 5, "tools", [], 0, 0⟩]
        [("6F1C2E9A-0B7D-4C55-9A3E-2D8F4B1C7E01", 1)] =
      .ok (false, [⟨"6F1C2E9A-0B7D-4C55-9A3E-2D8F4B1C7E01", 1, 0⟩]) :=
  ⟨rfl, rfl⟩

end Coldy.Catalog
