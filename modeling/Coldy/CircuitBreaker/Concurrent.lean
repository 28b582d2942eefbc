import Coldy.CircuitBreaker.Basic

/-!
# Concurrent calls of the breaker

Concurrent `Execute` calls interleave at the breaker's mutex: a call is admitted by `canAttempt`
(`Event.attempt`), runs `fn` without touching the breaker, and later records its outcome
(`Event.record`).  The world keeps the calls admitted but not yet recorded, each with its admission
time, and a ghost counter `period` of the times the breaker has turned half-open; a call admitted
while the breaker is half-open is a probe of the current period.

`halfOpen_records_only_probes`: when `Timeout ≤ ResetTimeout` and an outcome is recorded within
`Timeout` of its call's admission, every outcome recorded while the breaker is half-open is that of
a probe of the current half-open period.  The invariant behind it (`Inv`): while the breaker is open
every pending call was admitted no later than `lastAttempt`, and while it is half-open every pending
call is a probe or was admitted no later than `lastAttempt`, which lies more than `ResetTimeout`
before the clock.
-/

namespace Coldy.Breaker

/-- A call admitted by `canAttempt` whose outcome is not yet recorded. -/
structure Pending where
  id : Nat
  admittedAt : Int
  probe : Option Nat
  deriving DecidableEq, Repr

/-- The breaker, the clock, the ghost half-open period and the pending calls. -/
structure World where
  cb : CircuitBreaker
  clock : Int
  period : Nat
  pending : List Pending
  nextId : Nat
  deriving DecidableEq

/-- A step of one call at the breaker's mutex, at time `now`. -/
inductive Event
  | attempt (now : Int)
  | record (id : Nat) (success : Bool) (now : Int)
  deriving DecidableEq, Repr

namespace World

/-- A fresh breaker created at `created`. -/
def init (created : Int) : World := ⟨CircuitBreaker.new created, created, 0, [], 0⟩

/-- The pending call with identifier `id`. -/
def call? (w : World) (id : Nat) : Option Pending := w.pending.find? (fun p => p.id = id)

end World

/-- One step; `none` when the event cannot happen (the clock would go back, or no such call). -/
def step (cfg : Config) (w : World) : Event → Option World
  | .attempt now =>
    if w.clock ≤ now then
      let r := w.cb.canAttempt cfg now
      let period := if w.cb.state = .stateOpen ∧ r.1 then w.period + 1 else w.period
      if r.1 then
        some ⟨r.2, now, period,
          w.pending ++ [⟨w.nextId, now, if r.2.state = .stateHalfOpen then some period else none⟩],
          w.nextId + 1⟩
      else some { w with clock := now }
    else none
  | .record id success now =>
    match w.call? id with
    | some _ =>
      if w.clock ≤ now then
        some { w with
          cb := if success then w.cb.recordSuccess now else w.cb.recordFailure cfg now
          clock := now
          pending := w.pending.filter (fun p => p.id ≠ id) }
      else none
    | none => none

/-- Run a list of events. -/
def run (cfg : Config) (w : World) : List Event → Option World
  | [] => some w
  | e :: es => (step cfg w e).bind (fun w' => run cfg w' es)

/-- The invariant of the interleaved breaker. -/
structure Inv (cfg : Config) (w : World) : Prop where
  admitted_le_clock : ∀ p ∈ w.pending, p.admittedAt ≤ w.clock
  open_admitted : w.cb.state = .stateOpen → ∀ p ∈ w.pending, p.admittedAt ≤ w.cb.lastAttempt
  halfOpen_probe : w.cb.state = .stateHalfOpen →
    ∀ p ∈ w.pending, p.probe = some w.period ∨ p.admittedAt ≤ w.cb.lastAttempt
  halfOpen_elapsed : w.cb.state = .stateHalfOpen → w.cb.lastAttempt + cfg.resetTimeout < w.clock

variable {cfg : Config}

theorem inv_init (created : Int) : Inv cfg (World.init created) :=
  ⟨by simp [World.init], by simp [World.init, CircuitBreaker.new],
    by simp [World.init, CircuitBreaker.new], by simp [World.init, CircuitBreaker.new]⟩

/-- Recording an outcome never leaves the breaker half-open. -/
theorem record_state_ne_halfOpen (success : Bool) (now : Int) (cb : CircuitBreaker) :
    (if success then cb.recordSuccess now else cb.recordFailure cfg now).state ≠ .stateHalfOpen := by
  cases success <;> simp only [Bool.false_eq_true, ↓reduceIte, CircuitBreaker.recordSuccess_state,
    CircuitBreaker.recordFailure_state] <;> split_ifs <;> simp_all [CircuitBreaker.opensOnFailure]

theorem record_lastAttempt (success : Bool) (now : Int) (cb : CircuitBreaker) :
    (if success then cb.recordSuccess now else cb.recordFailure cfg now).lastAttempt = now := by
  cases success <;> simp

/-- The three ways an attempt can go: admitted by a breaker that is not open, admitted as the
probe that turns an open breaker half-open, or rejected. -/
theorem step_attempt_cases {w w' : World} {now : Int} (h : step cfg w (.attempt now) = some w') :
    w.clock ≤ now ∧
    ((w.cb.state ≠ .stateOpen ∧ w' = ⟨w.cb, now, w.period,
        w.pending ++ [⟨w.nextId, now, if w.cb.state = .stateHalfOpen then some w.period else none⟩],
        w.nextId + 1⟩) ∨
     (w.cb.state = .stateOpen ∧ now - w.cb.lastAttempt > cfg.resetTimeout ∧
       w' = ⟨w.cb.setState .stateHalfOpen, now, w.period + 1,
        w.pending ++ [⟨w.nextId, now, some (w.period + 1)⟩], w.nextId + 1⟩) ∨
     (w.cb.state = .stateOpen ∧ w' = { w with clock := now })) := by
  simp only [step] at h
  by_cases hc : w.clock ≤ now
  · rw [if_pos hc] at h
    refine ⟨hc, ?_⟩
    rcases CircuitBreaker.canAttempt_cases cfg now w.cb with ⟨hs, he⟩ | ⟨hs, ht, he⟩ | ⟨hs, -, he⟩ <;>
      simp only [he] at h <;> simp_all
  · simp [hc] at h

private theorem admitted_append {w : World} {now : Int} (hi : Inv cfg w) (hc : w.clock ≤ now)
    (id : Nat) (pr : Option Nat) : ∀ p ∈ w.pending ++ [⟨id, now, pr⟩], p.admittedAt ≤ now := by
  simp only [List.mem_append, List.mem_singleton]
  rintro p (hp | rfl)
  · exact Int.le_trans (hi.1 p hp) hc
  · exact Int.le_refl _

private theorem inv_attempt {w w' : World} {now : Int} (hi : Inv cfg w)
    (h : step cfg w (.attempt now) = some w') : Inv cfg w' := by
  obtain ⟨hc, ⟨hs, rfl⟩ | ⟨hs, he, rfl⟩ | ⟨hs, rfl⟩⟩ := step_attempt_cases h
  · refine ⟨admitted_append hi hc _ _, fun ho => absurd ho hs, fun hh p hp => ?_, fun hh => ?_⟩
    · simp only [List.mem_append, List.mem_singleton] at hp
      rcases hp with hp | rfl
      · exact hi.3 hh p hp
      · exact .inl (by simpa using hh)
    · have := hi.4 hh; dsimp only; omega
  · refine ⟨admitted_append hi hc _ _, by simp, fun _ p hp => ?_, fun _ => by simp; omega⟩
    simp only [List.mem_append, List.mem_singleton] at hp
    rcases hp with hp | rfl
    · exact .inr (by simpa using hi.2 hs p hp)
    · simp
  · exact ⟨fun p hp => Int.le_trans (hi.1 p hp) hc, hi.2, hi.3, fun hh => by have := hi.4 hh; dsimp only; omega⟩

/-- A recorded outcome: the call was pending and the clock does not go back. -/
theorem step_record_cases {w w' : World} {id : Nat} {success : Bool} {now : Int}
    (h : step cfg w (.record id success now) = some w') :
    (∃ p, w.call? id = some p) ∧ w.clock ≤ now ∧
      w' = { w with cb := if success then w.cb.recordSuccess now else w.cb.recordFailure cfg now,
                    clock := now, pending := w.pending.filter (fun p => p.id ≠ id) } := by
  simp only [step] at h
  split at h
  · by_cases hc : w.clock ≤ now
    · rw [if_pos hc] at h
      exact ⟨⟨_, ‹_›⟩, hc, (Option.some.inj h).symm⟩
    · rw [if_neg hc] at h; cases h
  · cases h

private theorem inv_record {w w' : World} {id : Nat} {success : Bool} {now : Int} (hi : Inv cfg w)
    (h : step cfg w (.record id success now) = some w') : Inv cfg w' := by
  obtain ⟨-, hc, rfl⟩ := step_record_cases h
  have hle : ∀ p ∈ w.pending.filter (fun p => p.id ≠ id), p.admittedAt ≤ now :=
    fun p hp => Int.le_trans (hi.1 p (List.mem_filter.1 hp).1) hc
  refine ⟨hle, fun _ p hp => ?_, fun hh => absurd hh (record_state_ne_halfOpen _ _ _),
    fun hh => absurd hh (record_state_ne_halfOpen _ _ _)⟩
  rw [record_lastAttempt]
  exact hle p hp

theorem inv_step {w w' : World} {e : Event} (hi : Inv cfg w) (h : step cfg w e = some w') :
    Inv cfg w' := by
  cases e with
  | attempt now => exact inv_attempt hi h
  | record id success now => exact inv_record hi h

theorem inv_run (evs : List Event) : ∀ {w w' : World}, Inv cfg w → run cfg w evs = some w' →
    Inv cfg w' := by
  induction evs with
  | nil => intro w w' hi h; cases h; exact hi
  | cons e es ih =>
    intro w w' hi h
    simp only [run, Option.bind_eq_some] at h
    obtain ⟨w1, h1, h2⟩ := h
    exact ih (inv_step hi h1) h2

/-- Half-open decisions are made only by half-open probes: with `Timeout ≤ ResetTimeout`, an
outcome recorded within `Timeout` of its call's admission while the breaker is half-open is that of
a probe admitted in the current half-open period, and it closes the breaker iff it is a success,
opening it otherwise. -/
theorem halfOpen_records_only_probes (cfg : Config) (hto : cfg.timeout ≤ cfg.resetTimeout)
    (created : Int) (evs : List Event) (w w' : World) (hrun : run cfg (World.init created) evs = some w)
    (id : Nat) (success : Bool) (now : Int) (p : Pending) (hp : w.call? id = some p)
    (htimely : now ≤ p.admittedAt + cfg.timeout) (hstep : step cfg w (.record id success now) = some w')
    (hhalf : w.cb.state = .stateHalfOpen) :
    p.probe = some w.period ∧ (w'.cb.state = .stateClosed ↔ success = true) ∧
      (w'.cb.state = .stateOpen ↔ success = false) := by
  have hi := inv_run evs (inv_init created) hrun
  obtain ⟨-, hc, rfl⟩ := step_record_cases hstep
  have hmem : p ∈ w.pending := List.mem_of_find?_eq_some hp
  refine ⟨?_, ?_⟩
  · rcases hi.3 hhalf p hmem with hpr | hle
    · exact hpr
    · have := hi.4 hhalf; omega
  · cases success <;> simp [hhalf, CircuitBreaker.opensOnFailure]

/-- The world of scenario S5 once the breaker has turned half-open: five failures opened it at
9 ns, and the call admitted at 40 s is the probe of the first half-open period. -/
def s5HalfOpen : World :=
  ⟨⟨.stateHalfOpen, 5, 9, [(.stateClosed, .stateOpen), (.stateOpen, .stateHalfOpen)], by decide⟩,
    40000000000, 1, [⟨5, 40000000000, some 1⟩], 6⟩

/-- The events of S5 up to the half-open probe's admission. -/
def s5Events : List Event :=
  (List.range 5).flatMap (fun i => [.attempt (2 * i), .record i false (2 * i + 1)]) ++
    [.attempt 40000000000]

theorem halfOpen_records_only_probes_s5 :
    paymentBreakerConfig.timeout ≤ paymentBreakerConfig.resetTimeout ∧
      run paymentBreakerConfig (World.init 0) s5Events = some s5HalfOpen ∧
      s5HalfOpen.call? 5 = some ⟨5, 40000000000, some 1⟩ ∧
      (40000000001 : Int) ≤ 40000000000 + paymentBreakerConfig.timeout ∧
      step paymentBreakerConfig s5HalfOpen (.record 5 true 40000000001) =
        some { s5HalfOpen with cb := s5HalfOpen.cb.recordSuccess 40000000001, clock := 40000000001,
                               pending := [] } ∧
      s5HalfOpen.cb.state = .stateHalfOpen ∧
      ((⟨5, 40000000000, some 1⟩ : Pending).probe = some s5HalfOpen.period ∧
        ((s5HalfOpen.cb.recordSuccess 40000000001).state = .stateClosed ↔ true = true) ∧
        ((s5HalfOpen.cb.recordSuccess 40000000001).state = .stateOpen ↔ true = false)) :=
  have hrun : run paymentBreakerConfig (World.init 0) s5Events = some s5HalfOpen := by decide
  have hcall : s5HalfOpen.call? 5 = some ⟨5, 40000000000, some 1⟩ := by decide
  have hstep : step paymentBreakerConfig s5HalfOpen (.record 5 true 40000000001) =
      some { s5HalfOpen with cb := s5HalfOpen.cb.recordSuccess 40000000001, clock := 40000000001,
                             pending := [] } := by decide
  ⟨by decide, hrun, hcall, by decide, hstep, rfl,
    halfOpen_records_only_probes paymentBreakerConfig (by decide) 0 s5Events s5HalfOpen _ hrun 5 true
      40000000001 _ hcall (by decide) hstep rfl⟩

end Coldy.Breaker
