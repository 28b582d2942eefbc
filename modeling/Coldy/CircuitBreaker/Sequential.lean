import Coldy.CircuitBreaker.Basic

/-!
# The breaker's sequential contract

A `Tally` is the breaker as its contract describes it: the number `c` of failures recorded since the
last recorded success (or creation), and the time `T` of the last recorded outcome (or creation).
`Tally.observe` gives what a call at time `now` must do: it runs `fn` iff `c < MaxFailures` or
`now - T > ResetTimeout`, and then returns `nil` on success, `fn`'s error on failure and the
timeout context's error on timeout; it returns `ErrCircuitOpen` otherwise; between calls the breaker is closed
iff `c < MaxFailures`; and `onStateChange` is called once for each change in the list of states
the call passes through.

`execute_sequential_contract`: for a fresh breaker and every sequence of calls, with any outcomes
and any times, `execute` produces exactly the observations of the `Tally`, and every callback is
one of `(Closed, Open)`, `(Open, HalfOpen)`, `(HalfOpen, Closed)`, `(HalfOpen, Open)`.
-/

namespace Coldy.Breaker

/-- One call of `Execute` in a sequential run. -/
structure Call (ε : Type) where
  admitAt : Int
  recordAt : Int
  outcome : Outcome ε

/-- What a caller of `Execute` sees: whether `fn` ran, the result, the state once the call has
returned, and the `onStateChange` calls made during the call. -/
structure Observation (ε : Type) where
  invoked : Bool
  result : Option (ExecError ε)
  state : State
  callbacks : List (State × State)
  deriving DecidableEq, Repr

/-- The state changes along a list of visited states, one pair per change. -/
def stateChanges : List State → List (State × State)
  | a :: b :: rest => (if a = b then [] else [(a, b)]) ++ stateChanges (b :: rest)
  | _ => []

/-- The four state changes the breaker may report. -/
def allowedChange : State × State → Bool
  | (.stateClosed, .stateOpen) => true
  | (.stateOpen, .stateHalfOpen) => true
  | (.stateHalfOpen, .stateClosed) => true
  | (.stateHalfOpen, .stateOpen) => true
  | _ => false

/-- The breaker as the contract counts it. -/
structure Tally where
  failures : Nat
  lastOutcome : Int

namespace Tally

variable {ε : Type} (cfg : Config) (t : Tally)

/-- Closed iff fewer than `MaxFailures` failures since the last success. -/
def state : State := if t.failures < cfg.maxFailures then .stateClosed else .stateOpen

/-- A call at `now` runs `fn` iff `c < MaxFailures` or `now - T > ResetTimeout`. -/
def admits (now : Int) : Bool := t.failures < cfg.maxFailures ∨ now - t.lastOutcome > cfg.resetTimeout

/-- The tally after an outcome recorded at `now`. -/
def record (now : Int) (o : Outcome ε) : Tally :=
  if o.isSuccess then ⟨0, now⟩ else ⟨t.failures + 1, now⟩

/-- The tally after a call. -/
def next (c : Call ε) : Tally := if t.admits cfg c.admitAt then t.record c.recordAt c.outcome else t

/-- The states a call passes through: an admitted call on an open breaker goes through half-open. -/
def visited (c : Call ε) : List State :=
  if t.admits cfg c.admitAt then
    if t.state cfg = .stateOpen then [.stateOpen, .stateHalfOpen, (t.next cfg c).state cfg]
    else [t.state cfg, (t.next cfg c).state cfg]
  else [t.state cfg]

/-- What the contract prescribes for a call: an admitted call returns `nil` on success, `fn`'s
error on failure and the timeout context's error on timeout; any other returns `ErrCircuitOpen`. -/
def observe (c : Call ε) : Observation ε where
  invoked := t.admits cfg c.admitAt
  result :=
    if t.admits cfg c.admitAt then
      match c.outcome with
      | .success => none
      | .failure err => some (.raised err)
      | .timeout ctxErr => some (.raised ctxErr)
    else some .circuitOpen
  state := (t.next cfg c).state cfg
  callbacks := stateChanges (t.visited cfg c)

end Tally

/-- The observations the contract prescribes for a sequence of calls. -/
def specRun {ε : Type} (cfg : Config) : Tally → List (Call ε) → List (Observation ε)
  | _, [] => []
  | t, c :: cs => t.observe cfg c :: specRun cfg (t.next cfg c) cs

/-- One call of `execute`, observed. -/
def observeExecute {ε : Type} (cfg : Config) (c : Call ε) (cb : CircuitBreaker) :
    Observation ε × CircuitBreaker :=
  let r := execute cfg c.admitAt c.recordAt c.outcome cb
  (⟨r.1.invoked, r.1.result, r.2.state, r.2.changes.drop cb.changes.length⟩, r.2)

/-- The observations of a sequential run of `execute`. -/
def runExecute {ε : Type} (cfg : Config) : CircuitBreaker → List (Call ε) → List (Observation ε)
  | _, [] => []
  | cb, c :: cs =>
    let r := observeExecute cfg c cb
    r.1 :: runExecute cfg r.2 cs

/-! ### Simulation -/

/-- The breaker between two calls agrees with the tally: same state, the counter is `c` modulo
`2 ^ 32`, and `lastAttempt` is `T`. -/
structure Simulates (cfg : Config) (cb : CircuitBreaker) (t : Tally) : Prop where
  state : cb.state = t.state cfg
  failures : cb.failures = t.failures % 4294967296
  lastAttempt : cb.lastAttempt = t.lastOutcome

variable {ε : Type} {cfg : Config}

private theorem simulates_new (hmax : 0 < cfg.maxFailures) (now : Int) :
    Simulates cfg (CircuitBreaker.new now) ⟨0, now⟩ :=
  ⟨by simp [CircuitBreaker.new, Tally.state, hmax], rfl, rfl⟩

private theorem stateChanges_pair (a b : State) :
    stateChanges [a, b] = if a = b then [] else [(a, b)] := by
  simp [stateChanges]

private theorem stateChanges_triple (a b c : State) :
    stateChanges [a, b, c] = (if a = b then [] else [(a, b)]) ++ (if b = c then [] else [(b, c)]) := by
  simp [stateChanges]

private theorem simulates_iff {cb : CircuitBreaker} {t : Tally} :
    Simulates cfg cb t ↔ cb.state = t.state cfg ∧ cb.failures = t.failures % 4294967296 ∧
      cb.lastAttempt = t.lastOutcome :=
  ⟨fun h => ⟨h.1, h.2, h.3⟩, fun h => ⟨h.1, h.2.1, h.2.2⟩⟩

private theorem observeExecute_step (hmax : 0 < cfg.maxFailures) {cb : CircuitBreaker} {t : Tally}
    (hs : Simulates cfg cb t) (c : Call ε) :
    (observeExecute cfg c cb).1 = t.observe cfg c ∧
      Simulates cfg (observeExecute cfg c cb).2 (t.next cfg c) := by
  obtain ⟨hst, hf, hl⟩ := hs
  have hlt := cfg.maxFailures_lt
  obtain ⟨a, r, o⟩ := c
  by_cases hc : t.failures < cfg.maxFailures
  · have hcl : cb.state = .stateClosed := by simp [hst, Tally.state, hc]
    have hfc : (cb.failures + 1) % 4294967296 = t.failures + 1 := by
      rw [hf, Nat.mod_eq_of_lt (by omega : t.failures < 4294967296)]; exact Nat.mod_eq_of_lt (by omega)
    cases o <;> by_cases hc1 : t.failures + 1 < cfg.maxFailures <;>
      simp [observeExecute, execute_eq, CircuitBreaker.canAttempt_fst,
        CircuitBreaker.canAttempt_snd, hcl, Outcome.record, Outcome.result, Tally.observe, Tally.next,
        Tally.visited, Tally.admits, hc, Tally.record, Outcome.isSuccess, Tally.state, hmax,
        CircuitBreaker.recordSuccess_changes, CircuitBreaker.recordFailure_changes,
        CircuitBreaker.opensOnFailure, hfc, stateChanges_pair, simulates_iff, hc1] <;> omega
  · have hop : cb.state = .stateOpen := by simp [hst, Tally.state, hc]
    have hc1 : ¬t.failures + 1 < cfg.maxFailures := by omega
    by_cases he : a - t.lastOutcome > cfg.resetTimeout
    · cases o <;>
        simp [observeExecute, execute_eq, CircuitBreaker.canAttempt_fst,
          CircuitBreaker.canAttempt_snd, hop, Outcome.record, Outcome.result, Tally.observe, Tally.next,
          Tally.visited, Tally.admits, hc, Tally.record, Outcome.isSuccess, Tally.state, hmax,
          CircuitBreaker.recordSuccess_changes, CircuitBreaker.recordFailure_changes,
          CircuitBreaker.setState_changes, CircuitBreaker.opensOnFailure, stateChanges_triple,
          simulates_iff, hl, he, hf, Nat.add_mod, hc1]
    · simp [observeExecute, execute_eq, CircuitBreaker.canAttempt_fst,
        CircuitBreaker.canAttempt_snd, hop, Tally.observe, Tally.next, Tally.visited, Tally.admits, hc,
        Tally.state, simulates_iff, hl, he, hf, stateChanges]

private theorem runExecute_eq_specRun (hmax : 0 < cfg.maxFailures) (cs : List (Call ε)) :
    ∀ {cb : CircuitBreaker} {t : Tally}, Simulates cfg cb t → runExecute cfg cb cs = specRun cfg t cs := by
  induction cs with
  | nil => intros; rfl
  | cons c cs ih =>
    intro cb t hs
    obtain ⟨h1, h2⟩ := observeExecute_step hmax hs c
    simp only [runExecute, specRun, h1, ih h2]

private theorem Tally.state_ne_halfOpen (cfg : Config) (t : Tally) :
    t.state cfg ≠ .stateHalfOpen := by
  unfold Tally.state; split <;> simp

/-- Every callback the contract prescribes is one of the four allowed changes. -/
private theorem observe_callbacks_allowed (t : Tally) (c : Call ε) :
    ∀ p ∈ (t.observe cfg c).callbacks, allowedChange p = true := by
  have h1 := Tally.state_ne_halfOpen cfg t
  have h2 := Tally.state_ne_halfOpen cfg (t.next cfg c)
  simp only [Tally.observe, Tally.visited]
  generalize t.state cfg = s at *
  generalize (t.next cfg c).state cfg = s' at *
  split_ifs <;> cases s <;> cases s' <;> simp_all [stateChanges, allowedChange]

private theorem specRun_callbacks_allowed (cs : List (Call ε)) :
    ∀ (t : Tally), ∀ o ∈ specRun cfg t cs, ∀ p ∈ o.callbacks, allowedChange p = true := by
  induction cs with
  | nil => simp [specRun]
  | cons c cs ih =>
    intro t o ho
    rcases List.mem_cons.1 ho with rfl | ho
    · exact observe_callbacks_allowed t c
    · exact ih _ o ho

/-- The sequential contract of `Execute`: on a fresh breaker, every sequence of calls is observed
exactly as the tally of failures since the last success prescribes, and `onStateChange` only ever
receives the four allowed changes. -/
theorem execute_sequential_contract (cfg : Config) (hmax : 0 < cfg.maxFailures) (created : Int)
    (calls : List (Call ε)) :
    runExecute cfg (CircuitBreaker.new created) calls = specRun cfg ⟨0, created⟩ calls ∧
      ∀ o ∈ runExecute cfg (CircuitBreaker.new created) calls, ∀ p ∈ o.callbacks,
        allowedChange p = true := by
  have h := runExecute_eq_specRun hmax calls (simulates_new hmax created)
  exact ⟨h, h ▸ specRun_callbacks_allowed calls _⟩

/-- Scenario S5 on the payment breaker: five failures, a rejection, then a success after
`ResetTimeout`. -/
theorem execute_sequential_contract_s5 :
    0 < paymentBreakerConfig.maxFailures ∧
      let calls : List (Call String) :=
        (List.range 5).map (fun i => ⟨i, i, .failure "declined"⟩) ++
          [⟨5, 5, .success⟩, ⟨40000000000, 40000000000, .success⟩]
      runExecute paymentBreakerConfig (CircuitBreaker.new 0) calls =
          specRun paymentBreakerConfig ⟨0, 0⟩ calls ∧
        ∀ o ∈ runExecute paymentBreakerConfig (CircuitBreaker.new 0) calls, ∀ p ∈ o.callbacks,
          allowedChange p = true :=
  ⟨by decide, execute_sequential_contract paymentBreakerConfig (by decide) 0 _⟩

end Coldy.Breaker
