import Coldy.Orders.Outbox

/-!
# What the outbox publishers deliver

A round of `processEvents` reads up to 100 unpublished rows, the oldest first
(`GetUnpublishedEvents`), then publishes and marks each.

* With one publisher running alone and every call succeeding, a round of `k` rows takes `1 + 2k`
  turns, and of `u` unpublished rows it leaves at most `u - k`, whatever the ids
  (`System.run_round`, `unpublished_markAll`); so an idle publisher marks every row of `outbox`
  published within `2u + ⌈u / 100⌉` turns, and in a reachable system the message of every row is
  then in Pub/Sub (`publisher_drains_outbox`).
* Whatever runs and fails, every message in Pub/Sub is the message of a row of `outbox`, and two
  messages with one `event_id` attribute are the same message: a row published twice
  (`markEventPublished_rewrites_published_at`) gives two copies of one message
  (`duplicate_messages_are_copies`).
-/

namespace Coldy.Orders

/-- The rows of `outbox` not yet published. -/
def unpublished (rows : List OutboxRow) : Nat := rows.countP (!·.published)

/-- What `MarkEventPublished` of each of `ids` in turn, at time `now`, does to `outbox`. -/
def markAll (ids : List String) (now : Int) (rows : List OutboxRow) : List OutboxRow :=
  ids.foldl (fun rows id => rows.map (markRow id now)) rows

theorem countP_markAll (ids : List String) (now : Int) (rows : List OutboxRow) :
    (markAll ids now rows).countP (!·.published) =
      rows.countP fun r => !r.published && !ids.contains r.id := by
  induction ids generalizing rows with
  | nil => simp [markAll]
  | cons id ids ih =>
    show (markAll ids now (rows.map (markRow id now))).countP _ = _
    rw [ih, List.countP_map]
    refine List.countP_congr fun r _ => ?_
    unfold markRow
    by_cases h : r.id = id <;> simp [h]

/-- A round marks at least as many unpublished rows as it fetched. -/
theorem unpublished_markAll {db : Tables} {limit : Nat} {events : List OutboxEvent} (now : Int)
    (h : getUnpublishedEvents db limit true = .ok events) :
    unpublished (markAll (events.map (·.id)) now db.outbox) + events.length ≤
        unpublished db.outbox ∧
      events.length = min limit (unpublished db.outbox) := by
  simp only [getUnpublishedEvents, if_true] at h
  have hids := (scanEvents_ok h).1
  rw [hids, ← List.length_map events (·.id), hids, List.length_map]
  set U := db.outbox.filter (!·.published)
  set ids := ((orderByCreatedAt U).take limit).map (·.id)
  have hsub : ((orderByCreatedAt U).take limit).Subperm U :=
    (List.take_sublist _ _).subperm.trans (List.perm_insertionSort _ _).subperm
  have hall : ((orderByCreatedAt U).take limit).countP (fun r => ids.contains r.id) =
      ((orderByCreatedAt U).take limit).length :=
    List.countP_eq_length.mpr fun r hr => List.elem_iff.mpr (List.mem_map_of_mem _ hr)
  have hsplit := List.length_eq_countP_add_countP (fun r => ids.contains r.id) U
  have hle := hsub.countP_le fun r => ids.contains r.id
  have hU : unpublished db.outbox = U.length := List.countP_eq_length_filter _ _
  have hmark : unpublished (markAll ids now db.outbox) = U.countP fun r => !ids.contains r.id := by
    rw [unpublished, countP_markAll, List.countP_filter]
    exact List.countP_congr fun r _ => by simp [Bool.and_comm]
  have hnot : (U.countP fun r => decide ¬ids.contains r.id = true) =
      U.countP fun r => !ids.contains r.id :=
    List.countP_congr fun r _ => by simp
  refine ⟨by omega, ?_⟩
  rw [List.length_take, hU, orderByCreatedAt, List.length_insertionSort]

section Process

variable (sha256Hex : String → String)

theorem System.step_process {s : System} {i : Nat} {p : Publisher} (ok : Bool)
    (hp : s.publishers[i]? = some p) :
    System.step sha256Hex s (.process i ok) =
      some ⟨{ s.orders with db := (processStep sha256Hex s.orders.db s.orders.now ok p).1 },
        s.publishers.set i (processStep sha256Hex s.orders.db s.orders.now ok p).2.2,
        s.messages ++ (processStep sha256Hex s.orders.db s.orders.now ok p).2.1.toList⟩ := by
  simp only [System.step, hp]

theorem System.run_append (s : System) (es es' : List SystemEvent) :
    System.run sha256Hex s (es ++ es') =
      (System.run sha256Hex s es).bind fun s' => System.run sha256Hex s' es' := by
  induction es generalizing s with
  | nil => rfl
  | cons e es ih =>
    simp only [List.cons_append, System.run]
    cases System.step sha256Hex s e <;> simp [ih]

/-- A publisher about to publish the rows it fetched, all still in `outbox`, running alone with
every call succeeding: `2k` turns publish and mark its `k` rows in turn and leave it idle. -/
theorem System.run_handle {s : System} {i : Nat} {events : List OutboxEvent}
    (hp : s.publishers[i]? = some (Publisher.next events))
    (hin : ∀ e ∈ events, s.orders.db.outbox.any (·.id = e.id)) :
    ∃ s', System.run sha256Hex s (List.replicate (2 * events.length) (.process i true)) = some s' ∧
      s'.orders = { s.orders with db := { s.orders.db with
        outbox := markAll (events.map (·.id)) s.orders.now s.orders.db.outbox } } ∧
      s'.publishers[i]? = some ⟨[], .idle⟩ ∧
      s'.messages = s.messages ++ events.map (publishEvent sha256Hex) := by
  induction events generalizing s with
  | nil => exact ⟨s, rfl, rfl, hp, by simp⟩
  | cons e rest ih =>
    have hi : i < s.publishers.length := (List.getElem?_eq_some_iff.mp hp).1
    obtain ⟨s', hrun, horders, hp', hmsg⟩ := @ih ⟨{ s.orders with db :=
        { s.orders.db with outbox := s.orders.db.outbox.map (markRow e.id s.orders.now) } },
        (s.publishers.set i ⟨e :: rest, .mark⟩).set i (Publisher.next rest),
        s.messages ++ [publishEvent sha256Hex e]⟩
      (by simp [hi]) fun e' he' => by
        simpa [List.any_map, Function.comp_def] using hin e' (List.mem_cons_of_mem _ he')
    have hm : markEventPublished s.orders.db e.id s.orders.now true =
        .ok { s.orders.db with outbox := s.orders.db.outbox.map (markRow e.id s.orders.now) } := by
      unfold markEventPublished
      rw [if_neg (by decide), if_pos (hin e (List.mem_cons_self _ _))]
    refine ⟨s', ?_, by rw [horders]; rfl, hp', by simp [hmsg]⟩
    rw [← hrun]
    show System.run sha256Hex s
      (.process i true :: .process i true :: List.replicate (2 * rest.length) (.process i true)) = _
    simp [System.run, System.step, hp, hi, processStep, Publisher.next, hm]

/-- A round of an idle publisher running alone with every call succeeding: it fetches the rows
`GetUnpublishedEvents` returns, then publishes and marks each, and is idle again. -/
theorem System.run_round {s : System} {i : Nat} {events : List OutboxEvent}
    (hp : s.publishers[i]? = some ⟨[], .idle⟩)
    (hev : getUnpublishedEvents s.orders.db 100 true = .ok events) :
    ∃ s', System.run sha256Hex s (List.replicate (1 + 2 * events.length) (.process i true)) =
        some s' ∧
      s'.orders = { s.orders with db := { s.orders.db with
        outbox := markAll (events.map (·.id)) s.orders.now s.orders.db.outbox } } ∧
      s'.publishers[i]? = some ⟨[], .idle⟩ ∧
      s'.messages = s.messages ++ events.map (publishEvent sha256Hex) := by
  have hi : i < s.publishers.length := (List.getElem?_eq_some_iff.mp hp).1
  have hfetch : processStep sha256Hex s.orders.db s.orders.now true ⟨[], .idle⟩ =
      (s.orders.db, none, Publisher.next events) := by
    simp only [processStep, hev]
  obtain ⟨s', hrun, horders, hp', hmsg⟩ := @System.run_handle sha256Hex
    ⟨s.orders, s.publishers.set i (Publisher.next events), s.messages⟩ i events (by simp [hi])
    fun e he => by
      obtain ⟨r, hr, hd⟩ := mem_getUnpublishedEvents hev e he
      exact List.any_eq_true.mpr ⟨r, hr, decide_eq_true (OutboxRow.decode_ok hd).1.symm⟩
  refine ⟨s', ?_, horders, hp', by simpa using hmsg⟩
  rw [Nat.add_comm, List.replicate_succ]
  simp only [System.run, System.step_process sha256Hex true hp, hfetch, Option.some_bind,
    Option.toList_none, List.append_nil]
  exact hrun

/-- Marking rows keeps what each decodes to. -/
theorem decode_of_mem_markAll (ids : List String) (now : Int) {rows : List OutboxRow} :
    ∀ r' ∈ markAll ids now rows, ∃ r ∈ rows, r'.decode = r.decode := by
  induction ids generalizing rows with
  | nil => exact fun r hr => ⟨r, hr, rfl⟩
  | cons id ids ih =>
    intro r' hr'
    obtain ⟨r₁, hr₁, hd⟩ := ih r' hr'
    obtain ⟨r, hr, rfl⟩ := List.mem_map.mp hr₁
    exact ⟨r, hr, hd.trans (decode_markRow _ _ r)⟩

/-- An idle publisher running alone with every call succeeding, over rows whose payloads
decode, marks every row of `outbox` published within `2u + ⌈u / 100⌉` turns, `u` the unpublished
rows. -/
theorem System.run_drain {s : System} {i : Nat} (hp : s.publishers[i]? = some ⟨[], .idle⟩)
    (hdec : ∀ r ∈ s.orders.db.outbox, ∃ e, r.decode = .ok e) :
    ∃ m ≤ 2 * unpublished s.orders.db.outbox + (unpublished s.orders.db.outbox + 99) / 100,
      ∃ s', System.run sha256Hex s (List.replicate m (.process i true)) = some s' ∧
        ∀ r ∈ s'.orders.db.outbox, r.published := by
  generalize hu : unpublished s.orders.db.outbox = u
  induction u using Nat.strongRecOn generalizing s with
  | ind u ih =>
    by_cases h0 : u = 0
    · refine ⟨0, Nat.zero_le _, s, rfl, fun r hr => ?_⟩
      simpa using List.countP_eq_zero.mp (hu.trans h0) r hr
    · obtain ⟨events, hev⟩ : ∃ events, getUnpublishedEvents s.orders.db 100 true = .ok events :=
        scanEvents_of_decode fun r hr => hdec r
          (List.mem_filter.mp ((List.mem_insertionSort _).mp (List.mem_of_mem_take hr))).1
      obtain ⟨s₁, hrun₁, horders, hp₁, -⟩ := System.run_round sha256Hex hp hev
      obtain ⟨hcount, hlen⟩ := unpublished_markAll s.orders.now hev
      have hu₁ : unpublished s₁.orders.db.outbox + events.length ≤ u := by
        rw [horders, ← hu]; exact hcount
      have hdec₁ : ∀ r ∈ s₁.orders.db.outbox, ∃ e, r.decode = .ok e := fun r' hr' => by
        rw [horders] at hr'
        obtain ⟨r, hr, hd⟩ := decode_of_mem_markAll _ _ r' hr'
        exact hd ▸ hdec r hr
      obtain ⟨m, hm, s', hrun, hpub⟩ := ih _ (by omega) hp₁ hdec₁ rfl
      refine ⟨1 + 2 * events.length + m, by omega, s', ?_, hpub⟩
      rw [List.replicate_add, System.run_append, hrun₁]
      exact hrun

/-- From any reachable system, an idle publisher running alone with every call succeeding marks
every row of `outbox` published within `2u + ⌈u / 100⌉` turns, `u` the unpublished rows, and the
message of every row is then in Pub/Sub. -/
theorem publisher_drains_outbox {es : List SystemEvent} {s : System} {i : Nat}
    (h : System.run sha256Hex System.init es = some s)
    (hp : s.publishers[i]? = some ⟨[], .idle⟩) :
    ∃ m ≤ 2 * unpublished s.orders.db.outbox + (unpublished s.orders.db.outbox + 99) / 100,
      ∃ s', System.run sha256Hex s (List.replicate m (.process i true)) = some s' ∧
        ∀ r ∈ s'.orders.db.outbox, r.published ∧
          ∃ e, r.decode = .ok e ∧ publishEvent sha256Hex e ∈ s'.messages := by
  have hs := (System.Inv.init sha256Hex).run sha256Hex h
  obtain ⟨m, hm, s', hrun, hpub⟩ := System.run_drain sha256Hex hp hs.outbox.decodes
  have hinv := hs.run sha256Hex hrun
  exact ⟨m, hm, s', hrun, fun r hr => ⟨hpub r hr, hinv.outbox.published r hr (hpub r hr)⟩⟩

/-! ### Duplicates are copies -/

/-- The message a step publishes, if any, is that of the first row the publisher fetched. -/
theorem processStep_message {db : Tables} {now : Int} {ok : Bool} {p : Publisher} {m : Message}
    (h : (processStep sha256Hex db now ok p).2.1 = some m) :
    ∃ event rest, p.events = event :: rest ∧ publishEvent sha256Hex event = m := by
  rcases p with ⟨events, step⟩
  unfold processStep at h
  split at h
  · split at h <;> cases h
  · rename_i event rest _ he
    split at h
    · cases h; exact ⟨event, rest, he, rfl⟩
    · cases h
  · split at h <;> cases h
  · cases h

/-- Every message in Pub/Sub is the message of the event a row of `outbox` decodes to. -/
def MessagesOfRows (s : System) : Prop :=
  ∀ m ∈ s.messages, ∃ r ∈ s.orders.db.outbox, ∃ e, r.decode = .ok e ∧
    publishEvent sha256Hex e = m

theorem MessagesOfRows.step {s s' : System} {e : SystemEvent} (hs : s.Inv sha256Hex)
    (hm : MessagesOfRows sha256Hex s) (h : System.step sha256Hex s e = some s') :
    MessagesOfRows sha256Hex s' := by
  have hsent : ∀ m ∈ s'.messages, ∃ r ∈ s.orders.db.outbox, ∃ e, r.decode = .ok e ∧
      publishEvent sha256Hex e = m := by
    cases e with
    | order e => obtain ⟨w, -, rfl⟩ := Option.map_eq_some'.mp h; exact hm
    | startPublisher => cases h; exact hm
    | process i ok =>
      simp only [System.step] at h
      split at h
      · rename_i p hpi
        cases h
        intro m hm'
        rcases List.mem_append.mp hm' with hm' | hm'
        · exact hm m hm'
        · obtain ⟨event, rest, hev, rfl⟩ := processStep_message sha256Hex (Option.mem_toList.mp hm')
          obtain ⟨r, hr, hd⟩ :=
            (hs.publishers p (List.getElem?_mem hpi)).fetched event (hev ▸ List.mem_cons_self _ _)
          exact ⟨r, hr, event, hd, rfl⟩
      · cases h
  intro m hm'
  obtain ⟨r, hr, e, hd, rfl⟩ := hsent m hm'
  obtain ⟨r', hr', hd'⟩ := (System.step_outboxGrows sha256Hex h).keeps_decode hr hd
  exact ⟨r', hr', e, hd', rfl⟩

theorem MessagesOfRows.run {s s' : System} {es : List SystemEvent} (hs : s.Inv sha256Hex)
    (hm : MessagesOfRows sha256Hex s) (h : System.run sha256Hex s es = some s') :
    MessagesOfRows sha256Hex s' := by
  induction es generalizing s with
  | nil => cases h; exact hm
  | cons e es ih =>
    obtain ⟨s₁, h₁, h₂⟩ := Option.bind_eq_some.mp h
    exact ih (hs.step sha256Hex h₁) (hm.step sha256Hex hs h₁) h₂

theorem lookup_event_id (e : OutboxEvent) :
    (publishEvent sha256Hex e).attributes.lookup "event_id" = some e.id := rfl

/-- In any run of the order service with any number of publishers, whatever fails, every message in
Pub/Sub is the message of a row of `outbox` (as the row now stands), and two messages with one
`event_id` attribute are the same message. -/
theorem duplicate_messages_are_copies {es : List SystemEvent} {s : System}
    (h : System.run sha256Hex System.init es = some s) :
    (∀ m ∈ s.messages, ∃ r ∈ s.orders.db.outbox, ∃ e, r.decode = .ok e ∧
        publishEvent sha256Hex e = m) ∧
      ∀ m₁ ∈ s.messages, ∀ m₂ ∈ s.messages,
        m₁.attributes.lookup "event_id" = m₂.attributes.lookup "event_id" → m₁ = m₂ := by
  have hinv := (System.Inv.init sha256Hex).run sha256Hex h
  have hm : MessagesOfRows sha256Hex s :=
    MessagesOfRows.run sha256Hex (System.Inv.init sha256Hex) (fun _ h => nomatch h) h
  refine ⟨hm, fun m₁ h₁ m₂ h₂ hid => ?_⟩
  obtain ⟨r₁, hr₁, e₁, hd₁, rfl⟩ := hm m₁ h₁
  obtain ⟨r₂, hr₂, e₂, hd₂, rfl⟩ := hm m₂ h₂
  rw [lookup_event_id, lookup_event_id] at hid
  have hid' : r₁.id = r₂.id := calc
    r₁.id = e₁.id := (OutboxRow.decode_ok hd₁).1.symm
    _ = e₂.id := Option.some.inj hid
    _ = r₂.id := (OutboxRow.decode_ok hd₂).1
  have hrow : r₁ = r₂ := hinv.outbox.unique r₁ hr₁ r₂ hr₂ hid'
  rw [hrow, hd₂, Except.ok.injEq] at hd₁
  rw [hd₁]

end Process

/-- A `CreateOrder` writes its order and its `order.created` row, and a publisher starts. -/
def oneOrder : List SystemEvent := bothFetch.take 4

/-- The system `oneOrder` reaches. -/
def oneOrderSystem : System := (System.run id .init oneOrder).getD .init

theorem publisher_drains_outbox_oneOrder :
    System.run id .init oneOrder = some oneOrderSystem ∧
      oneOrderSystem.publishers[0]? = some ⟨[], .idle⟩ ∧
      unpublished oneOrderSystem.orders.db.outbox = 1 ∧
      ∃ m ≤ 2 * unpublished oneOrderSystem.orders.db.outbox +
          (unpublished oneOrderSystem.orders.db.outbox + 99) / 100,
        ∃ s', System.run id oneOrderSystem (List.replicate m (.process 0 true)) = some s' ∧
          ∀ r ∈ s'.orders.db.outbox, r.published ∧
            ∃ e, r.decode = .ok e ∧ publishEvent id e ∈ s'.messages :=
  ⟨rfl, rfl, rfl, @publisher_drains_outbox id oneOrder oneOrderSystem 0 rfl rfl⟩

/-- The system once both publishers of `bothFetch` have published the row and marked it. -/
def publishedTwice : System :=
  (System.run id .init (bothFetch ++ publishAt 0 5000000000 ++ publishAt 1 9000000000)).getD .init

theorem duplicate_messages_are_copies_publishedTwice :
    System.run id .init (bothFetch ++ publishAt 0 5000000000 ++ publishAt 1 9000000000) =
        some publishedTwice ∧
      publishedTwice.messages.length = 2 ∧
      (∀ m ∈ publishedTwice.messages, ∃ r ∈ publishedTwice.orders.db.outbox, ∃ e,
        r.decode = .ok e ∧ publishEvent id e = m) ∧
      ∀ m₁ ∈ publishedTwice.messages, ∀ m₂ ∈ publishedTwice.messages,
        m₁.attributes.lookup "event_id" = m₂.attributes.lookup "event_id" → m₁ = m₂ :=
  ⟨rfl, rfl, @duplicate_messages_are_copies id
    (bothFetch ++ publishAt 0 5000000000 ++ publishAt 1 9000000000) publishedTwice rfl⟩

end Coldy.Orders
