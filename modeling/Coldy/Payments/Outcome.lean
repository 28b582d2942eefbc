import Coldy.Payments.Confirm

/-!
# What a payment's status records

Over every interleaving of `ConfirmPayment` calls, with any provider latencies and outcomes, any
breaker state and any failed statements, `inv_run` shows:

* a payment is `succeeded` only with the transaction id of a charge the provider made for it;
* a payment is `failed` only with one of three errors as its `error_message`, each the outcome of
  one `ConfirmPayment` call for it: the breaker rejected that call, which then invoked no
  provider; the provider declined the invocation that call started; or that call's `Execute` gave
  up at its timeout, `Timeout` or more after the invocation it started;
* every `payment_outbox` row records such an outcome of its own payment.

The invariant is carried by the calls in flight (`CallInv`): a call that has read a result from
the provider, or has been rejected or given up on at its timeout, holds the evidence until it
writes it.  The evidence lies in records that only grow (`Extends`).
-/

namespace Coldy.Payments

open Coldy.Breaker

/-! ### Calls past `Execute` -/

/-- Whether a call has got past `Execute`: the breaker admitted or rejected it, or it ended
before. -/
def ConfirmStep.pastExecute : ConfirmStep → Bool
  | .getPayment | .markProcessing _ | .execute _ => false
  | _ => true

/-- Call `c` exists and has got past `Execute`. -/
def PastExecute (w : World) (c : Nat) : Prop :=
  ∃ call, w.calls[c]? = some call ∧ call.step.pastExecute

/-- A call still before `Execute` is none of the calls past it. -/
theorem PastExecute.ne {w : World} {c d : Nat} {call : ConfirmCall} (hd : PastExecute w d)
    (hc : w.calls[c]? = some call) (hs : call.step.pastExecute = false) : d ≠ c := by
  rintro rfl
  obtain ⟨_, h, h'⟩ := hd
  obtain rfl := Option.some.inj (h.symm.trans hc)
  simp [hs] at h'

/-- Call `c` is a call for payment `id`. -/
def CallOf (w : World) (c id : Nat) : Prop := ∃ call, w.calls[c]? = some call ∧ call.paymentId = id

/-! ### What the records keep -/

/-- `w'` keeps what `w` records: every invocation keeps its index, payment, call and start, and
one that returned keeps its result; rejections and timeouts are only added to; every call keeps
its index and payment, and once past `Execute` stays past it. -/
structure Extends (w w' : World) : Prop where
  invocations : ∀ (j : Nat) (i : Invocation), w.invocations[j]? = some i →
    ∃ r, w'.invocations[j]? = some { i with result := r } ∧ (i.result = none ∨ r = i.result)
  rejections : w.rejections ⊆ w'.rejections
  timeouts : w.timeouts ⊆ w'.timeouts
  calls : ∀ (c : Nat) (call : ConfirmCall), w.calls[c]? = some call → ∃ call', w'.calls[c]? = some call' ∧
    call'.paymentId = call.paymentId ∧ (call.step.pastExecute → call'.step.pastExecute)

/-- A step that appends invocations, adds rejections and timeouts, and keeps the calls. -/
theorem Extends.of_append {w w' : World} (hi : ∃ l, w'.invocations = w.invocations ++ l)
    (hr : w.rejections ⊆ w'.rejections) (ht : w.timeouts ⊆ w'.timeouts)
    (hc : w'.calls = w.calls) : Extends w w' := by
  obtain ⟨l, hl⟩ := hi
  refine ⟨fun j i h => ⟨i.result, ?_, .inr rfl⟩, hr, ht, fun _ call h => ⟨call, hc ▸ h, rfl, id⟩⟩
  rw [hl, List.getElem?_append_left (List.getElem?_eq_some_iff.mp h).1, h]

theorem Extends.of_eq {w w' : World} (hi : w'.invocations = w.invocations)
    (hr : w'.rejections = w.rejections) (ht : w'.timeouts = w.timeouts) (hc : w'.calls = w.calls) :
    Extends w w' :=
  .of_append ⟨[], by rw [hi, List.append_nil]⟩ (hr ▸ List.Subset.refl _) (ht ▸ List.Subset.refl _) hc

theorem Extends.trans {w₁ w₂ w₃ : World} (h₁ : Extends w₁ w₂) (h₂ : Extends w₂ w₃) :
    Extends w₁ w₃ := by
  refine ⟨fun j i h => ?_, fun _ h => h₂.rejections (h₁.rejections h),
    fun _ h => h₂.timeouts (h₁.timeouts h), fun c call h => ?_⟩
  · obtain ⟨r₂, h₂', e₂⟩ := h₁.invocations j i h
    obtain ⟨r₃, h₃, e₃⟩ := h₂.invocations j _ h₂'
    refine ⟨r₃, h₃, ?_⟩
    rcases e₂ with e₂ | rfl
    · exact .inl e₂
    · rcases e₃ with e₃ | rfl
      · exact .inl e₃
      · exact .inr rfl
  · obtain ⟨call₂, h₂', e₂, s₂⟩ := h₁.calls c call h
    obtain ⟨call₃, h₃, e₃, s₃⟩ := h₂.calls c call₂ h₂'
    exact ⟨call₃, h₃, e₃.trans e₂, s₃ ∘ s₂⟩

/-- Replacing call `c` by a step of it. -/
theorem Extends.setCall {w : World} {c : Nat} {call call' : ConfirmCall}
    (hc : w.calls[c]? = some call) (hid : call'.paymentId = call.paymentId)
    (hs : call.step.pastExecute → call'.step.pastExecute) : Extends w (w.setCall c call') := by
  refine ⟨fun j i h => ⟨i.result, h, .inr rfl⟩, List.Subset.refl _, List.Subset.refl _,
    fun d cd h => ?_⟩
  by_cases e : c = d
  · subst e
    obtain rfl := Option.some.inj (h.symm.trans hc)
    exact ⟨call', List.getElem?_set_self (List.getElem?_eq_some_iff.mp hc).1, hid, hs⟩
  · exact ⟨cd, (List.getElem?_set_ne e).trans h, rfl, id⟩

/-- The provider returning `r` for the invocation at index `k`, still running. -/
theorem Extends.returns {w : World} {k pid c : Nat} {t : Int}
    (hk : w.invocations[k]? = some ⟨pid, none, c, t⟩) (r : ProviderResult) :
    Extends w { w with invocations := w.invocations.set k ⟨pid, some r, c, t⟩ } := by
  refine ⟨fun j i h => ?_, List.Subset.refl _, List.Subset.refl _,
    fun _ call h => ⟨call, h, rfl, id⟩⟩
  by_cases e : k = j
  · subst e
    obtain rfl := Option.some.inj (h.symm.trans hk)
    exact ⟨some r, List.getElem?_set_self (List.getElem?_eq_some_iff.mp hk).1, .inl rfl⟩
  · exact ⟨i.result, (List.getElem?_set_ne e).trans h, .inr rfl⟩

theorem Extends.pastExecute {w w' : World} (h : Extends w w') {c : Nat} :
    PastExecute w c → PastExecute w' c
  | ⟨call, hc, hs⟩ => (h.calls c call hc).imp fun _ ⟨h', _, hs'⟩ => ⟨h', hs' hs⟩

theorem Extends.callOf {w w' : World} (h : Extends w w') {c id : Nat} :
    CallOf w c id → CallOf w' c id
  | ⟨call, hc, e⟩ => (h.calls c call hc).imp fun _ ⟨h', e', _⟩ => ⟨h', e'.trans e⟩

/-- An invocation that has returned is kept as it is. -/
theorem Extends.mem_returned {w w' : World} (h : Extends w w') {i : Invocation}
    (hi : i ∈ w.invocations) (hr : i.result ≠ none) : i ∈ w'.invocations := by
  obtain ⟨j, hj⟩ := List.mem_iff_getElem?.mp hi
  obtain ⟨r, hj', e⟩ := h.invocations j i hj
  obtain rfl := e.resolve_left hr
  exact List.getElem?_mem hj'

/-- An invocation is kept with its payment, call and start. -/
theorem Extends.mem_started {w w' : World} (h : Extends w w') {i : Invocation}
    (hi : i ∈ w.invocations) : ∃ r, { i with result := r } ∈ w'.invocations := by
  obtain ⟨j, hj⟩ := List.mem_iff_getElem?.mp hi
  obtain ⟨r, hj', -⟩ := h.invocations j i hj
  exact ⟨r, List.getElem?_mem hj'⟩

/-! ### The invariant -/

section

variable {cfg : Config}

/-- The provider charged payment `id`, with transaction id `txn`. -/
def Charged (w : World) (id txn : Nat) : Prop :=
  ∃ i ∈ w.invocations, i.paymentId = id ∧ i.result = some (.charged txn)

theorem Charged.mono {w w' : World} (h : Extends w w') {id txn : Nat} :
    Charged w id txn → Charged w' id txn
  | ⟨i, hi, e, hr⟩ => ⟨i, h.mem_returned hi (by simp [hr]), e, hr⟩

/-- Why call `c`, a call for payment `id`, may mark it failed with `err`: the breaker rejected
`c`; the provider declined the invocation `c` started; or `c`'s `Execute` gave up at its timeout,
`Timeout` or more after the invocation `c` started. -/
def FailureReason (cfg : Config) (w : World) (c id : Nat) (err : String) : Prop :=
  CallOf w c id ∧
    ((err = errCircuitOpen ∧ c ∈ w.rejections) ∨
      (err = errDeclined ∧ ∃ i ∈ w.invocations, i.call = c ∧ i.paymentId = id ∧
        i.result = some .declined) ∨
      (err = errDeadline ∧ ∃ i ∈ w.invocations, i.call = c ∧ i.paymentId = id ∧
        ∃ t, (c, t) ∈ w.timeouts ∧ i.startedAt + cfg.timeout ≤ t))

theorem FailureReason.mono {w w' : World} (h : Extends w w') {c id : Nat} {err : String} :
    FailureReason cfg w c id err → FailureReason cfg w' c id err
  | ⟨hc, .inl ⟨e, hr⟩⟩ => ⟨h.callOf hc, .inl ⟨e, h.rejections hr⟩⟩
  | ⟨hc, .inr (.inl ⟨e, i, hi, ec, ei, hr⟩)⟩ =>
    ⟨h.callOf hc, .inr (.inl ⟨e, i, h.mem_returned hi (by simp [hr]), ec, ei, hr⟩)⟩
  | ⟨hc, .inr (.inr ⟨e, i, hi, ec, ei, ht⟩)⟩ =>
    let ⟨_, hi'⟩ := h.mem_started hi
    ⟨h.callOf hc, .inr (.inr ⟨e, _, hi', ec, ei, ht.imp fun _ ⟨ht, hle⟩ => ⟨h.timeouts ht, hle⟩⟩)⟩

/-- What call `c` knows about the provider: once admitted, the invocation it started for its
payment at the time of admission; once it has a failure or a charge to write, the reason for it. -/
def CallInv (cfg : Config) (w : World) (c : Nat) (call : ConfirmCall) : Prop :=
  match call.step with
  | .select _ inv admittedAt => ∃ i, w.invocations[inv]? = some i ∧ i.paymentId = call.paymentId ∧
      i.call = c ∧ i.startedAt = admittedAt
  | .markFailed _ err | .publishFailed _ err => FailureReason cfg w c call.paymentId err
  | .markSucceeded _ txn | .publishSucceeded _ txn => Charged w call.paymentId txn
  | _ => True

theorem CallInv.mono {w w' : World} (h : Extends w w') {c : Nat} {call : ConfirmCall}
    (hc : CallInv cfg w c call) : CallInv cfg w' c call := by
  obtain ⟨id, s⟩ := call
  cases s <;> simp only [CallInv] at hc ⊢
  case select inv _ =>
    obtain ⟨i, hi, e⟩ := hc
    obtain ⟨r, hi', -⟩ := h.invocations inv i hi
    exact ⟨_, hi', e⟩
  all_goals exact hc.mono h

/-- What payment `id`'s row records: a `succeeded` row a charge for it, a `failed` row the reason
a call for it had. -/
def PaymentReason (cfg : Config) (w : World) (id : Nat) (p : Payment) : Prop :=
  (p.status = .succeeded → ∃ txn, p.providerTransactionId = some txn ∧ Charged w id txn) ∧
    (p.status = .failed → ∃ err, p.errorMessage = some err ∧ ∃ c, FailureReason cfg w c id err)

theorem PaymentReason.mono {w w' : World} (h : Extends w w') {id : Nat} {p : Payment}
    (hp : PaymentReason cfg w id p) : PaymentReason cfg w' id p :=
  ⟨fun hs => (hp.1 hs).imp fun _ ⟨ht, hm⟩ => ⟨ht, hm.mono h⟩,
    fun hf => (hp.2 hf).imp fun _ ⟨he, c, hr⟩ => ⟨he, c, hr.mono h⟩⟩

theorem PaymentReason.of_status {w : World} {id : Nat} {p : Payment}
    (hs : p.status ≠ .succeeded) (hf : p.status ≠ .failed) : PaymentReason cfg w id p :=
  ⟨fun h => absurd h hs, fun h => absurd h hf⟩

/-- What a `payment_outbox` row records: a charge, or the reason a call had for a failure, of its
own payment. -/
def RowReason (cfg : Config) (w : World) (r : OutboxRow) : Prop :=
  match r.payload with
  | .succeeded pid _ txn => r.aggregateId = pid ∧ Charged w pid txn
  | .failed pid _ err => r.aggregateId = pid ∧ ∃ c, FailureReason cfg w c pid err

theorem RowReason.mono {w w' : World} (h : Extends w w') {r : OutboxRow}
    (hr : RowReason cfg w r) : RowReason cfg w' r := by
  obtain ⟨_, _, _, _, _ | _⟩ := r
  · exact ⟨hr.1, hr.2.imp fun _ hf => hf.mono h⟩
  · exact ⟨hr.1, hr.2.mono h⟩

/-- The invariant of the payments world: every call, payment and outbox row has its reason; every
invocation was started by a call past `Execute` that the breaker did not reject; every rejected
call is past `Execute`. -/
structure Inv (cfg : Config) (w : World) : Prop where
  calls : ∀ (c : Nat) (call : ConfirmCall), w.calls[c]? = some call → CallInv cfg w c call
  payments : ∀ id p, w.payments id = some p → PaymentReason cfg w id p
  outbox : ∀ r ∈ w.outbox, RowReason cfg w r
  invoked : ∀ i ∈ w.invocations, PastExecute w i.call ∧ i.call ∉ w.rejections
  rejected : ∀ c ∈ w.rejections, PastExecute w c

theorem Inv.init (cfg : Config) : Inv cfg World.init :=
  ⟨by simp [World.init], by simp [World.init], by simp [World.init], by simp [World.init],
    by simp [World.init]⟩

/-- A step that keeps the calls, the payments, the outbox, the rejections and which calls started
the invocations keeps `Inv`. -/
theorem Inv.of_extends {w w' : World} (hw : Inv cfg w) (he : Extends w w')
    (hc : w'.calls = w.calls) (hp : w'.payments = w.payments) (ho : w'.outbox = w.outbox)
    (hi : ∀ i ∈ w'.invocations, ∃ i₀ ∈ w.invocations, i₀.call = i.call)
    (hr : w'.rejections = w.rejections) : Inv cfg w' := by
  refine ⟨fun c call h => (hw.calls c call (hc ▸ h)).mono he,
    fun id p h => (hw.payments id p (hp ▸ h)).mono he, fun r h => (hw.outbox r (ho ▸ h)).mono he,
    fun i h => ?_, fun c h => he.pastExecute (hw.rejected c (hr ▸ h))⟩
  obtain ⟨i₀, h₀, e⟩ := hi i h
  obtain ⟨hs, hn⟩ := hw.invoked i₀ h₀
  exact ⟨e ▸ he.pastExecute hs, hr ▸ e ▸ hn⟩

/-- `Inv` reads neither the breaker, the clock nor `nextId`. -/
theorem Inv.congr {w w' : World} (hw : Inv cfg w) (hi : w'.invocations = w.invocations)
    (hr : w'.rejections = w.rejections) (ht : w'.timeouts = w.timeouts) (hc : w'.calls = w.calls)
    (hp : w'.payments = w.payments) (ho : w'.outbox = w.outbox) : Inv cfg w' :=
  hw.of_extends (.of_eq hi hr ht hc) hc hp ho (fun i h => ⟨i, hi ▸ h, rfl⟩) hr

theorem Inv.withPayments {w : World} (hw : Inv cfg w) {f : Nat → Option Payment}
    (hf : ∀ id p, f id = some p → PaymentReason cfg w id p) : Inv cfg { w with payments := f } :=
  have he : Extends w { w with payments := f } := .of_eq rfl rfl rfl rfl
  ⟨fun c call h => (hw.calls c call h).mono he, fun id p h => (hf id p h).mono he,
    fun r h => (hw.outbox r h).mono he, hw.invoked, hw.rejected⟩

theorem Inv.setPayment {w : World} (hw : Inv cfg w) {id : Nat} {f : Payment → Payment}
    (hf : ∀ p, PaymentReason cfg w id (f p)) : Inv cfg (w.setPayment id f) := by
  refine hw.withPayments fun q p h => ?_
  split at h
  · subst q
    obtain ⟨p₀, -, rfl⟩ := Option.map_eq_some'.mp h
    exact hf p₀
  · exact hw.payments q p h

theorem Inv.withOutbox {w : World} (hw : Inv cfg w) {o : List OutboxRow} {n : Nat}
    (ho : ∀ r ∈ o, RowReason cfg w r) : Inv cfg { w with outbox := o, nextId := n } :=
  have he : Extends w { w with outbox := o, nextId := n } := .of_eq rfl rfl rfl rfl
  ⟨fun c call h => (hw.calls c call h).mono he, fun id p h => (hw.payments id p h).mono he,
    fun r h => (ho r h).mono he, hw.invoked, hw.rejected⟩

theorem Inv.publishEvent {w : World} (hw : Inv cfg w) (ok : Bool) {id : Nat} {et : String}
    {payload : EventPayload} (hr : RowReason cfg w ⟨w.nextId, "payment", id, et, payload⟩) :
    Inv cfg (w.publishEvent ok id et payload) := by
  unfold World.publishEvent
  split
  · refine hw.withOutbox fun r h => ?_
    rcases List.mem_append.mp h with h | h
    · exact hw.outbox r h
    · exact List.mem_singleton.mp h ▸ hr
  · exact hw

/-- Replacing call `c` by a step of it that knows what it must keeps `Inv`. -/
theorem Inv.setCall {w : World} (hw : Inv cfg w) {c : Nat} {call call' : ConfirmCall}
    (hc : w.calls[c]? = some call) (hid : call'.paymentId = call.paymentId)
    (hs : call.step.pastExecute → call'.step.pastExecute) (hinv : CallInv cfg w c call') :
    Inv cfg (w.setCall c call') := by
  have he := Extends.setCall hc hid hs
  refine ⟨fun d cd h => ?_, fun id p h => (hw.payments id p h).mono he,
    fun r h => (hw.outbox r h).mono he, fun i h => ?_, fun d h => he.pastExecute (hw.rejected d h)⟩
  · rcases World.setCall_calls h with ⟨rfl, rfl⟩ | ⟨-, h⟩
    · exact hinv.mono he
    · exact (hw.calls d cd h).mono he
  · obtain ⟨hst, hn⟩ := hw.invoked i h
    exact ⟨he.pastExecute hst, hn⟩

/-- The breaker admits call `c`: the provider is invoked for it, at the time of admission. -/
theorem Inv.admit {w : World} (hw : Inv cfg w) {c id : Nat} {p : Payment}
    (hc : w.calls[c]? = some ⟨id, .execute p⟩) (b : CircuitBreaker) :
    Inv cfg (({ w with breaker := b, invocations := w.invocations ++ [⟨id, none, c, w.now⟩] } :
      World).setCall c ⟨id, .select p w.invocations.length w.now⟩) := by
  let w₁ : World := { w with breaker := b, invocations := w.invocations ++ [⟨id, none, c, w.now⟩] }
  have hc₁ : w₁.calls[c]? = some ⟨id, .execute p⟩ := hc
  have he₁ : Extends w w₁ := .of_append ⟨_, rfl⟩ (List.Subset.refl _) (List.Subset.refl _) rfl
  have he : Extends w (w₁.setCall c ⟨id, .select p w.invocations.length w.now⟩) :=
    he₁.trans (Extends.setCall hc₁ rfl fun _ => rfl)
  refine ⟨fun d cd h => ?_, fun q p h => (hw.payments q p h).mono he,
    fun r h => (hw.outbox r h).mono he, fun i h => ?_, fun d h => he.pastExecute (hw.rejected d h)⟩
  · rcases World.setCall_calls h with ⟨hd, rfl⟩ | ⟨-, h⟩
    · rw [hd]
      exact ⟨_, List.getElem?_concat_length _ _, rfl, rfl, rfl⟩
    · exact (hw.calls d cd h).mono he
  · rcases List.mem_append.mp h with h | h
    · obtain ⟨hst, hn⟩ := hw.invoked i h
      exact ⟨he.pastExecute hst, hn⟩
    · obtain rfl := List.mem_singleton.mp h
      exact ⟨⟨_, List.getElem?_set_self (List.getElem?_eq_some_iff.mp hc).1, rfl⟩,
        fun hr => (hw.rejected c hr).ne hc rfl rfl⟩

/-- The breaker rejects call `c`, which goes on to fail with `ErrCircuitOpen`. -/
theorem Inv.reject {w : World} (hw : Inv cfg w) {c id : Nat} {p : Payment}
    (hc : w.calls[c]? = some ⟨id, .execute p⟩) (b : CircuitBreaker) :
    Inv cfg (({ w with breaker := b, rejections := w.rejections ++ [c] } : World).setCall c
      ⟨id, .markFailed p errCircuitOpen⟩) := by
  let w₁ : World := { w with breaker := b, rejections := w.rejections ++ [c] }
  have hc₁ : w₁.calls[c]? = some ⟨id, .execute p⟩ := hc
  have he₁ : Extends w w₁ :=
    .of_append ⟨[], (List.append_nil _).symm⟩ (List.subset_append_left _ _) (List.Subset.refl _) rfl
  have he : Extends w (w₁.setCall c ⟨id, .markFailed p errCircuitOpen⟩) :=
    he₁.trans (Extends.setCall hc₁ rfl fun _ => rfl)
  have hself : (w₁.setCall c ⟨id, .markFailed p errCircuitOpen⟩).calls[c]? =
      some ⟨id, .markFailed p errCircuitOpen⟩ :=
    List.getElem?_set_self (List.getElem?_eq_some_iff.mp hc).1
  refine ⟨fun d cd h => ?_, fun q p h => (hw.payments q p h).mono he,
    fun r h => (hw.outbox r h).mono he, fun i h => ?_, fun d h => ?_⟩
  · rcases World.setCall_calls h with ⟨hd, rfl⟩ | ⟨-, h⟩
    · rw [hd]
      exact ⟨⟨_, hself, rfl⟩, .inl ⟨rfl, List.mem_append_right _ (List.mem_singleton_self _)⟩⟩
    · exact (hw.calls d cd h).mono he
  · obtain ⟨hst, hn⟩ := hw.invoked i h
    refine ⟨he.pastExecute hst, fun hr => ?_⟩
    rcases List.mem_append.mp hr with hr | hr
    · exact hn hr
    · exact hst.ne hc rfl (List.mem_singleton.mp hr)
  · rcases List.mem_append.mp h with h | h
    · exact he.pastExecute (hw.rejected d h)
    · rw [List.mem_singleton.mp h]
      exact ⟨_, hself, rfl⟩

/-! ### Steps -/

theorem confirmStep_calls {w w' : World} {c id : Nat} {ok : Bool} {s s' : ConfirmStep}
    (h : confirmStep cfg w c id ok s = some (s', w')) : w'.calls = w.calls := by
  cases s <;> simp only [confirmStep] at h <;> (repeat' split at h) <;> cases h <;>
    first | rfl | exact World.publishEvent_calls ..

/-- A call past `Execute` stays past it. -/
theorem confirmStep_pastExecute {w w' : World} {c id : Nat} {ok : Bool} {s s' : ConfirmStep}
    (h : confirmStep cfg w c id ok s = some (s', w')) : s.pastExecute → s'.pastExecute := by
  intro hs
  cases s <;> simp only [ConfirmStep.pastExecute, Bool.false_eq_true] at hs <;>
    simp only [confirmStep] at h <;> (repeat' split at h) <;> cases h <;> rfl

/-- One step of call `c` keeps the invariant. -/
theorem confirmStep_inv {w w' : World} {c id : Nat} {ok : Bool} {s s' : ConfirmStep}
    (hw : Inv cfg w) (hc : w.calls[c]? = some ⟨id, s⟩)
    (h : confirmStep cfg w c id ok s = some (s', w')) : Inv cfg (w'.setCall c ⟨id, s'⟩) := by
  have hci : CallInv cfg w c ⟨id, s⟩ := hw.calls c _ hc
  -- every step but `Execute`'s keeps `Inv` before the call itself moves
  have hc' : w'.calls[c]? = some ⟨id, s⟩ := by rw [confirmStep_calls h]; exact hc
  have keep : Inv cfg w' → CallInv cfg w' c ⟨id, s'⟩ → Inv cfg (w'.setCall c ⟨id, s'⟩) :=
    fun hw' hi => hw'.setCall hc' rfl (confirmStep_pastExecute h) hi
  cases s with
  | getPayment =>
    simp only [confirmStep] at h
    split at h <;> [skip; split at h] <;> cases h <;> exact keep hw trivial
  | markProcessing p =>
    simp only [confirmStep] at h
    split at h <;> cases h
    · exact keep (hw.setPayment fun _ => .of_status (by simp) (by simp)) trivial
    · exact keep hw trivial
  | execute p =>
    simp only [confirmStep] at h
    split at h <;> cases h
    · exact hw.admit hc _
    · exact hw.reject hc _
  | select p inv admittedAt =>
    obtain ⟨i, hi, hid, hcall, -⟩ := hci
    simp only [confirmStep, hi, Option.some_bind] at h
    split at h <;> cases h
    · rename_i hr
      exact keep (hw.congr rfl rfl rfl rfl rfl rfl) ⟨i, List.getElem?_mem hi, hid, hr⟩
    · rename_i hr
      exact keep (hw.congr rfl rfl rfl rfl rfl rfl)
        ⟨⟨_, hc, rfl⟩, .inr (.inl ⟨rfl, i, List.getElem?_mem hi, hcall, hid, hr⟩)⟩
  | markFailed p err =>
    simp only [confirmStep] at h
    cases h
    cases ok
    · exact keep hw hci
    · exact keep (hw.setPayment fun _ => ⟨fun h => by simp at h, fun _ => ⟨err, rfl, c, hci⟩⟩) hci
  | markSucceeded p txn =>
    simp only [confirmStep] at h
    split at h <;> cases h
    · exact keep (hw.setPayment fun _ => ⟨fun _ => ⟨txn, rfl, hci⟩, fun h => by simp at h⟩) hci
    · exact keep hw trivial
  | publishFailed p err =>
    simp only [confirmStep] at h
    cases h
    exact keep (hw.publishEvent ok ⟨rfl, c, hci⟩) trivial
  | publishSucceeded p txn =>
    simp only [confirmStep] at h
    cases h
    exact keep (hw.publishEvent ok ⟨rfl, hci⟩) trivial
  | getPaymentAgain =>
    simp only [confirmStep] at h
    split at h <;> cases h <;> exact keep hw trivial
  | done r => simp [confirmStep] at h

theorem inv_step {w w' : World} {e : Event} (hw : Inv cfg w) (h : step cfg w e = some w') :
    Inv cfg w' := by
  cases e with
  | createPayment id orderId amount =>
    simp only [step, World.insertPayment] at h
    split at h <;> cases h
    refine hw.withPayments fun q p hq => ?_
    simp only at hq
    split at hq
    · cases hq; exact .of_status (by simp) (by simp)
    · exact hw.payments q p hq
  | confirmPayment id =>
    cases h
    have he : Extends w { w with calls := w.calls ++ [⟨id, .getPayment⟩] } :=
      ⟨fun j i h => ⟨i.result, h, .inr rfl⟩, List.Subset.refl _, List.Subset.refl _,
        fun c call h => ⟨call, by rw [List.getElem?_append_left (List.getElem?_eq_some_iff.mp h).1, h],
          rfl, fun h => h⟩⟩
    refine ⟨fun c call h => ?_, fun q p h => (hw.payments q p h).mono he,
      fun r h => (hw.outbox r h).mono he, fun i h => ?_, fun c h => he.pastExecute (hw.rejected c h)⟩
    · rw [List.getElem?_append] at h
      split at h
      · exact (hw.calls c call h).mono he
      · rw [List.mem_singleton.mp (List.getElem?_mem h)]; trivial
    · obtain ⟨hst, hn⟩ := hw.invoked i h
      exact ⟨he.pastExecute hst, hn⟩
  | next c ok =>
    simp only [step] at h
    split at h
    · rename_i call hcall
      obtain ⟨⟨s', w''⟩, hs, rfl⟩ := Option.map_eq_some'.mp h
      exact confirmStep_inv hw hcall hs
    · cases h
  | timeout c =>
    simp only [step] at h
    split at h
    · rename_i id p inv admittedAt hcall
      split at h <;> cases h
      rename_i hle
      obtain ⟨i, hi, hid, hic, hstart⟩ := hw.calls c _ hcall
      have hw₁ : Inv cfg { w with breaker := w.breaker.recordFailure cfg w.now,
                                  timeouts := w.timeouts ++ [(c, w.now)] } :=
        hw.of_extends (.of_append ⟨[], (List.append_nil _).symm⟩ (List.Subset.refl _)
          (List.subset_append_left _ _) rfl) rfl rfl rfl (fun i h => ⟨i, h, rfl⟩) rfl
      exact hw₁.setCall hcall rfl (fun _ => rfl) ⟨⟨_, hcall, rfl⟩, .inr (.inr ⟨rfl, i,
        List.getElem?_mem hi, hic, hid, w.now, List.mem_append_right _ (List.mem_singleton_self _),
        hstart ▸ hle⟩)⟩
    · cases h
  | providerReturns inv r =>
    simp only [step] at h
    split at h
    · rename_i id c t hinv
      cases h
      refine hw.of_extends (.returns hinv r) rfl rfl rfl (fun i h => ?_) rfl
      rcases List.mem_or_eq_of_mem_set h with h | rfl
      · exact ⟨i, h, rfl⟩
      · exact ⟨_, List.getElem?_mem hinv, rfl⟩
    · cases h
  | tick now =>
    simp only [step] at h
    split at h <;> cases h
    exact hw.congr rfl rfl rfl rfl rfl rfl

theorem inv_run {es : List Event} {w w' : World} (hw : Inv cfg w)
    (h : run cfg w es = some w') : Inv cfg w' := by
  induction es generalizing w with
  | nil => cases h; exact hw
  | cons e es ih =>
    obtain ⟨w₁, h₁, h₂⟩ := Option.bind_eq_some.mp h
    exact ih (inv_step hw h₁) h₂

end

/-! ### What the status and the outbox record -/

/-- Whatever the interleaving, a `succeeded` payment carries the transaction id of a charge the
provider made for it.  A `failed` one carries the error of one call for it: `ErrCircuitOpen` when
the breaker rejected that call, which invoked no provider; the decline of the invocation that call
started; or `context.DeadlineExceeded` when that call's `Execute` gave up on the invocation it
started, `Timeout` or more after its start. -/
theorem confirmPayment_status_records_provider (cfg : Config) (es : List Event) (w : World)
    (h : run cfg World.init es = some w) (id : Nat) (p : Payment) (hp : w.payments id = some p) :
    (p.status = .succeeded → ∃ txn, p.providerTransactionId = some txn ∧
      ∃ i ∈ w.invocations, i.paymentId = id ∧ i.result = some (.charged txn)) ∧
    (p.status = .failed → ∃ err, p.errorMessage = some err ∧
      ∃ c call, w.calls[c]? = some call ∧ call.paymentId = id ∧
        ((err = errCircuitOpen ∧ c ∈ w.rejections ∧ ∀ i ∈ w.invocations, i.call ≠ c) ∨
          (err = errDeclined ∧ ∃ i ∈ w.invocations, i.call = c ∧ i.paymentId = id ∧
            i.result = some .declined) ∨
          (err = errDeadline ∧ ∃ i ∈ w.invocations, i.call = c ∧ i.paymentId = id ∧
            ∃ t, (c, t) ∈ w.timeouts ∧ i.startedAt + cfg.timeout ≤ t))) := by
  have hw := inv_run (Inv.init cfg) h
  obtain ⟨hs, hf⟩ := hw.payments id p hp
  refine ⟨hs, fun hfail => ?_⟩
  obtain ⟨err, he, c, ⟨call, hc, hid⟩, hr⟩ := hf hfail
  refine ⟨err, he, c, call, hc, hid, ?_⟩
  rcases hr with ⟨rfl, hrej⟩ | hr
  · exact .inl ⟨rfl, hrej, fun i hi e => (hw.invoked i hi).2 (e ▸ hrej)⟩
  · exact .inr hr

/-- A call times out; the provider charges afterwards. -/
def lateCharge : List Event :=
  [.createPayment 0 1 500, .confirmPayment 0, .next 0 true, .next 0 true, .next 0 true,
    .tick 10000000000, .timeout 0, .next 0 true, .next 0 true, .providerReturns 0 (.charged 7)]

/-- The world `lateCharge` leads to. -/
def lateChargeWorld : World := (run paymentBreakerConfig World.init lateCharge).getD World.init

theorem lateCharge_status_recorded :
    run paymentBreakerConfig World.init lateCharge = some lateChargeWorld ∧
      lateChargeWorld.payments 0 = some ⟨0, 1, 500, .failed, none, some errDeadline⟩ ∧
      ∃ c call, lateChargeWorld.calls[c]? = some call ∧ call.paymentId = 0 ∧
        ∃ i ∈ lateChargeWorld.invocations, i.call = c ∧ i.paymentId = 0 ∧
          ∃ t, (c, t) ∈ lateChargeWorld.timeouts ∧ i.startedAt + paymentBreakerConfig.timeout ≤ t := by
  obtain ⟨err, he, c, call, hc, hid, hr⟩ := (confirmPayment_status_records_provider
    paymentBreakerConfig lateCharge lateChargeWorld rfl 0 _ rfl).2 rfl
  cases he
  refine ⟨rfl, rfl, c, call, hc, hid, ?_⟩
  rcases hr with ⟨h, -⟩ | ⟨h, -⟩ | ⟨-, h⟩
  · exact absurd h (by decide)
  · exact absurd h (by decide)
  · exact h

/-- Two calls both read payment `0` as `pending`; call `0` runs to its end, then call `1`. -/
def doubleConfirm : List Event :=
  [.createPayment 0 1 500, .confirmPayment 0, .confirmPayment 0, .next 0 true, .next 1 true,
    .next 0 true, .next 0 true, .providerReturns 0 (.charged 7), .next 0 true, .next 0 true,
    .next 0 true, .next 0 true, .next 1 true, .next 1 true, .providerReturns 1 (.charged 8),
    .next 1 true, .next 1 true, .next 1 true, .next 1 true]

/-- Five payments are declined, which opens the breaker; then payment `5` is confirmed. -/
def openBreaker : List Event :=
  (List.range 5).flatMap (fun i => [.createPayment i 1 500, .confirmPayment i, .next i true,
    .next i true, .next i true, .providerReturns i .declined, .next i true, .next i true,
    .next i true]) ++
  [.createPayment 5 1 500, .confirmPayment 5, .next 5 true, .next 5 true, .next 5 true,
    .next 5 true, .next 5 true]

/-- The status of payment `id` and the provider's calls for it. -/
def paymentOutcome (id : Nat) (w : World) : Option PaymentStatus × List Invocation :=
  ((w.payments id).map (·.status), w.invocations.filter (·.paymentId == id))

theorem confirmPayment_double_charge_and_unpaid_failures :
    (run paymentBreakerConfig World.init (doubleConfirm.take 13)).map (paymentOutcome 0) =
      some (some .processing, [⟨0, some (.charged 7), 0, 0⟩]) ∧
    (run paymentBreakerConfig World.init doubleConfirm).map (paymentOutcome 0) =
      some (some .succeeded, [⟨0, some (.charged 7), 0, 0⟩, ⟨0, some (.charged 8), 1, 0⟩]) ∧
    (run paymentBreakerConfig World.init openBreaker).map (paymentOutcome 5) =
      some (some .failed, []) ∧
    (run paymentBreakerConfig World.init lateCharge).map (paymentOutcome 0) =
      some (some .failed, [⟨0, some (.charged 7), 0, 0⟩]) := by
  decide

/-- The provider charges; `markSucceeded`'s statement commits and `publishEvent`'s fails. -/
def unpublishedCharge : List Event :=
  [.createPayment 0 1 500, .confirmPayment 0, .next 0 true, .next 0 true, .next 0 true,
    .providerReturns 0 (.charged 7), .next 0 true, .next 0 true, .next 0 false, .next 0 true]

/-- The provider declines; `markFailed`'s statement fails and `publishEvent`'s commits. -/
def unrecordedDecline : List Event :=
  [.createPayment 0 1 500, .confirmPayment 0, .next 0 true, .next 0 true, .next 0 true,
    .providerReturns 0 .declined, .next 0 true, .next 0 false, .next 0 true]

/-- Payment `0`'s status and the event types in `payment_outbox`. -/
def statusAndEvents (w : World) : Option PaymentStatus × List String :=
  ((w.payments 0).map (·.status), w.outbox.map (·.eventType))

theorem payment_status_and_outbox_split :
    (run paymentBreakerConfig World.init unpublishedCharge).map statusAndEvents =
      some (some .succeeded, []) ∧
    (run paymentBreakerConfig World.init unrecordedDecline).map statusAndEvents =
      some (some .processing, ["payment.failed"]) := by
  decide

end Coldy.Payments
