import Mathlib.Tactic.Common

/-!
# The circuit breaker

`pkg/circuitbreaker`: the state of a `CircuitBreaker` and its four mutex-guarded operations
`setState`, `canAttempt`, `recordSuccess` and `recordFailure`.  Each operation runs under the
breaker's mutex, so each is one function of the breaker.  Times are readings of the monotonic clock
in nanoseconds; the `uint32` failure counter wraps modulo `2 ^ 32`.  The field `changes` lists, in
order, the calls the breaker makes to its `onStateChange` callback (the one `NewPaymentService`
registers).

`execute` is `Execute` for a caller that sees the whole call: the admission by `canAttempt`, then
the outcome of `fn` recorded at a later time.  The concurrent model splits it into those two steps.
-/

namespace Coldy.Breaker

/-- `circuitbreaker.State`. -/
inductive State
  | stateClosed
  | stateHalfOpen
  | stateOpen
  deriving DecidableEq, Repr

/-- `circuitbreaker.Config`: `MaxFailures` is a `uint32`; `Timeout` and `ResetTimeout` are
`time.Duration`s in nanoseconds. -/
structure Config where
  maxFailures : Nat
  timeout : Int
  resetTimeout : Int
  maxFailures_lt : maxFailures < 4294967296

/-- `circuitbreaker.CircuitBreaker` without its mutex and its (immutable) config. -/
structure CircuitBreaker where
  state : State
  failures : Nat
  lastAttempt : Int
  changes : List (State × State)
  failures_lt : failures < 4294967296
  deriving DecidableEq

/-- The configuration `NewPaymentService` gives its breaker: five failures, a 10 s timeout and a
30 s reset timeout. -/
def paymentBreakerConfig : Config := ⟨5, 10000000000, 30000000000, by decide⟩

namespace CircuitBreaker

/-- `New`: closed, no failures, `lastAttempt` the creation time. -/
def new (now : Int) : CircuitBreaker := ⟨.stateClosed, 0, now, [], by decide⟩

/-- `setState`: a change of state is reported to `onStateChange` as the pair `(old, new)`. -/
def setState (cb : CircuitBreaker) (newState : State) : CircuitBreaker :=
  if cb.state = newState then cb
  else { cb with state := newState, changes := cb.changes ++ [(cb.state, newState)] }

/-- `canAttempt` at time `now`: an open breaker admits a call once more than `ResetTimeout` has
passed since `lastAttempt`, and turns half-open. -/
def canAttempt (cfg : Config) (now : Int) (cb : CircuitBreaker) : Bool × CircuitBreaker :=
  if cb.state = .stateOpen then
    if now - cb.lastAttempt > cfg.resetTimeout then (true, cb.setState .stateHalfOpen)
    else (false, cb)
  else (true, cb)

/-- `recordSuccess` at time `now`. -/
def recordSuccess (now : Int) (cb : CircuitBreaker) : CircuitBreaker :=
  let cb := { cb with failures := 0, lastAttempt := now, failures_lt := by decide }
  if cb.state = .stateHalfOpen then cb.setState .stateClosed else cb

/-- `recordFailure` at time `now`: `failures++` on a `uint32`. -/
def recordFailure (cfg : Config) (now : Int) (cb : CircuitBreaker) : CircuitBreaker :=
  let cb := { cb with failures := (cb.failures + 1) % 4294967296, lastAttempt := now,
                      failures_lt := Nat.mod_lt _ (by decide) }
  if cb.state = .stateHalfOpen then cb.setState .stateOpen
  else if cfg.maxFailures ≤ cb.failures then cb.setState .stateOpen
  else cb

@[simp] theorem setState_self (cb : CircuitBreaker) : cb.setState cb.state = cb := by
  simp [setState]

@[simp] theorem setState_state (cb : CircuitBreaker) (s : State) : (cb.setState s).state = s := by
  unfold setState; split <;> simp_all

@[simp] theorem setState_failures (cb : CircuitBreaker) (s : State) :
    (cb.setState s).failures = cb.failures := by
  unfold setState; split <;> rfl

@[simp] theorem setState_lastAttempt (cb : CircuitBreaker) (s : State) :
    (cb.setState s).lastAttempt = cb.lastAttempt := by
  unfold setState; split <;> rfl

/-- The callback log grows by the pair `(old, new)` exactly when the state changes. -/
theorem setState_changes (cb : CircuitBreaker) (s : State) :
    (cb.setState s).changes = cb.changes ++ if cb.state = s then [] else [(cb.state, s)] := by
  unfold setState; split <;> simp_all

/-- `canAttempt` admits unless the breaker is open and `ResetTimeout` has not yet passed. -/
theorem canAttempt_fst (cfg : Config) (now : Int) (cb : CircuitBreaker) :
    (cb.canAttempt cfg now).1 = decide (cb.state ≠ .stateOpen ∨ now - cb.lastAttempt > cfg.resetTimeout) := by
  unfold canAttempt; split_ifs <;> simp_all

theorem canAttempt_snd (cfg : Config) (now : Int) (cb : CircuitBreaker) :
    (cb.canAttempt cfg now).2 =
      if cb.state = .stateOpen ∧ now - cb.lastAttempt > cfg.resetTimeout then cb.setState .stateHalfOpen
      else cb := by
  unfold canAttempt; split_ifs <;> simp_all

/-- The three ways `canAttempt` can go. -/
theorem canAttempt_cases (cfg : Config) (now : Int) (cb : CircuitBreaker) :
    (cb.state ≠ .stateOpen ∧ cb.canAttempt cfg now = (true, cb)) ∨
    (cb.state = .stateOpen ∧ now - cb.lastAttempt > cfg.resetTimeout ∧
      cb.canAttempt cfg now = (true, cb.setState .stateHalfOpen)) ∨
    (cb.state = .stateOpen ∧ ¬now - cb.lastAttempt > cfg.resetTimeout ∧
      cb.canAttempt cfg now = (false, cb)) := by
  unfold canAttempt; split_ifs <;> simp_all

@[simp] theorem recordSuccess_state (now : Int) (cb : CircuitBreaker) :
    (cb.recordSuccess now).state = if cb.state = .stateHalfOpen then .stateClosed else cb.state := by
  unfold recordSuccess; dsimp only; split_ifs <;> simp_all

@[simp] theorem recordSuccess_failures (now : Int) (cb : CircuitBreaker) :
    (cb.recordSuccess now).failures = 0 := by
  unfold recordSuccess; dsimp only; split_ifs <;> simp

@[simp] theorem recordSuccess_lastAttempt (now : Int) (cb : CircuitBreaker) :
    (cb.recordSuccess now).lastAttempt = now := by
  unfold recordSuccess; dsimp only; split_ifs <;> simp

theorem recordSuccess_changes (now : Int) (cb : CircuitBreaker) :
    (cb.recordSuccess now).changes =
      cb.changes ++ if cb.state = .stateHalfOpen then [(.stateHalfOpen, .stateClosed)] else [] := by
  unfold recordSuccess; dsimp only; split_ifs <;> simp_all [setState_changes]

/-- Whether `recordFailure` opens the breaker: always when half-open, else when the counter
reaches `MaxFailures`. -/
def opensOnFailure (cfg : Config) (cb : CircuitBreaker) : Prop :=
  cb.state = .stateHalfOpen ∨ cfg.maxFailures ≤ (cb.failures + 1) % 4294967296

instance (cfg : Config) (cb : CircuitBreaker) : Decidable (opensOnFailure cfg cb) :=
  inferInstanceAs (Decidable (_ ∨ _))

@[simp] theorem recordFailure_state (cfg : Config) (now : Int) (cb : CircuitBreaker) :
    (cb.recordFailure cfg now).state = if opensOnFailure cfg cb then .stateOpen else cb.state := by
  unfold recordFailure opensOnFailure; dsimp only
  split_ifs <;> simp_all
  omega

@[simp] theorem recordFailure_failures (cfg : Config) (now : Int) (cb : CircuitBreaker) :
    (cb.recordFailure cfg now).failures = (cb.failures + 1) % 4294967296 := by
  unfold recordFailure; dsimp only; split_ifs <;> simp

@[simp] theorem recordFailure_lastAttempt (cfg : Config) (now : Int) (cb : CircuitBreaker) :
    (cb.recordFailure cfg now).lastAttempt = now := by
  unfold recordFailure; dsimp only; split_ifs <;> simp

theorem recordFailure_changes (cfg : Config) (now : Int) (cb : CircuitBreaker) :
    (cb.recordFailure cfg now).changes = cb.changes ++
      if opensOnFailure cfg cb ∧ cb.state ≠ .stateOpen then [(cb.state, .stateOpen)] else [] := by
  unfold recordFailure opensOnFailure; dsimp only
  split_ifs <;> simp_all [setState_changes]
  omega

end CircuitBreaker

/-- What `fn` does inside `Execute`'s `select`: it returns `nil`, it returns an error, or the
timeout context ends first (its `Err()` is then returned). -/
inductive Outcome (ε : Type)
  | success
  | failure (err : ε)
  | timeout (ctxErr : ε)
  deriving DecidableEq, Repr

/-- The non-`nil` results of `Execute`: `ErrCircuitOpen`, or an error of `fn` or of its timeout
context. -/
inductive ExecError (ε : Type)
  | circuitOpen
  | raised (err : ε)
  deriving DecidableEq, Repr

namespace Outcome

variable {ε : Type}

/-- The error `Execute` returns for an admitted call (`none` is `nil`). -/
def result : Outcome ε → Option (ExecError ε)
  | .success => none
  | .failure err => some (.raised err)
  | .timeout ctxErr => some (.raised ctxErr)

/-- Record the outcome of an admitted call at time `now`. -/
def record (cfg : Config) (now : Int) : Outcome ε → CircuitBreaker → CircuitBreaker
  | .success => CircuitBreaker.recordSuccess now
  | .failure _ => CircuitBreaker.recordFailure cfg now
  | .timeout _ => CircuitBreaker.recordFailure cfg now

/-- Whether the outcome is recorded as a success. -/
def isSuccess : Outcome ε → Bool
  | .success => true
  | _ => false

theorem record_eq (cfg : Config) (now : Int) (o : Outcome ε) :
    o.record cfg now = if o.isSuccess then CircuitBreaker.recordSuccess now
      else CircuitBreaker.recordFailure cfg now := by
  cases o <;> rfl

end Outcome

/-- What one `Execute` call did: whether it ran `fn`, and what it returned. -/
structure Effect (ε : Type) where
  invoked : Bool
  result : Option (ExecError ε)
  deriving DecidableEq, Repr

/-- `Execute`, admitted at `admitAt` and, when `fn` runs, with its outcome recorded at
`recordAt`. -/
def execute {ε : Type} (cfg : Config) (admitAt recordAt : Int) (out : Outcome ε)
    (cb : CircuitBreaker) : Effect ε × CircuitBreaker :=
  match cb.canAttempt cfg admitAt with
  | (false, cb) => (⟨false, some .circuitOpen⟩, cb)
  | (true, cb) => (⟨true, out.result⟩, out.record cfg recordAt cb)

theorem execute_eq {ε : Type} (cfg : Config) (admitAt recordAt : Int) (out : Outcome ε)
    (cb : CircuitBreaker) :
    execute cfg admitAt recordAt out cb =
      if (cb.canAttempt cfg admitAt).1 then
        (⟨true, out.result⟩, out.record cfg recordAt (cb.canAttempt cfg admitAt).2)
      else (⟨false, some .circuitOpen⟩, (cb.canAttempt cfg admitAt).2) := by
  unfold execute; split <;> simp_all

end Coldy.Breaker
