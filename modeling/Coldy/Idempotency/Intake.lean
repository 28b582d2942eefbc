import Coldy.Idempotency.Store

/-!
# Idempotent intake

The shape `OrderService.CreateOrder` and `PaymentService.CreatePayment` share, over a database of
type `σ` and requests of type `ρ`: `Store.Get` of the request's key; on a hit, the cached body
decoded into the service's type and returned as a replay; on a miss, or a failed `Get` (which is
only logged), the database work, then `Store.Set` of the `json.Marshal` of what was created (a
failed `Set` is only logged).  The three are steps of their own, so calls interleave between them.
A turn given to a finished call changes nothing.

* A step changes the database only by a call's work (`IntakeWorld.step_db`).
* Calls of one key served one after another, with the store working, do the work at most once
  (`serial_creates_at_most_once`).
* The store holds only string bodies, so no call of any run replays (`noReplay_run`).
-/

namespace Coldy.Idempotency

open Coldy.Json

/-- What a service plugs into the shape. -/
structure Intake (σ ρ : Type) where
  /-- The operation name in the key. -/
  operation : String
  /-- The type the cached body is decoded into. -/
  target : GoType
  /-- The noun of the replay's error. -/
  noun : String
  /-- The user id of a request. -/
  userId : ρ → String
  /-- The database work for a request at time `now`, with fresh ids from `seed` on, its
  statements succeeding iff `ok`: the new database and what was created, or the error. -/
  create : σ → ρ → Nat → Int → Bool → Except String (σ × GoValue)
  /-- How many fresh ids the work takes. -/
  ids : ρ → Nat

/-- The next step of an intake call. -/
inductive IntakeStep
  | lookup
  | create
  | cache (created : GoValue)
  | done (result : Except String (GoValue × Bool))

/-- An intake call: the client's idempotency key, the request, the next step. -/
structure IntakeCall (ρ : Type) where
  key : String
  req : ρ
  step : IntakeStep

/-- A service's database, the store, the clock, the next fresh id and the calls in flight. -/
structure IntakeWorld (σ ρ : Type) where
  db : σ
  redis : Redis
  now : Int
  nextId : Nat
  calls : List (IntakeCall ρ)

variable {σ ρ : Type}

namespace Intake

/-- The store key of a call. -/
def keyOf (I : Intake σ ρ) (c : IntakeCall ρ) : String :=
  generateKey (I.userId c.req) I.operation c.key

/-- The replay branch: the cached `Result`'s body decoded into the target type. -/
def replay (I : Intake σ ρ) (cached : GoValue) : Except String (GoValue × Bool) :=
  match resultBody cached with
  | none => .error ("failed to unmarshal cached " ++ I.noun ++ ": unexpected end of JSON input")
  | some body =>
    match unmarshal I.target body with
    | .ok x => .ok (x, true)
    | .error e => .error ("failed to unmarshal cached " ++ I.noun ++ ": " ++ e.message)

/-- One step of call `c` at time `now`, its Redis or database call succeeding iff `ok`: the new
database, store, next fresh id and step. -/
def stepCall (I : Intake σ ρ) (db : σ) (r : Redis) (now : Int) (seed : Nat) (ok : Bool)
    (c : IntakeCall ρ) : σ × Redis × Nat × IntakeStep :=
  match c.step with
  | .lookup =>
    match get r ok now (I.keyOf c) with
    | .ok (some cached) => (db, r, seed, .done (I.replay cached))
    | _ => (db, r, seed, .create)
  | .create =>
    match I.create db c.req seed now ok with
    | .ok (db', v) => (db', r, seed + I.ids c.req, .cache v)
    | .error e => (db, r, seed, .done (.error e))
  | .cache v =>
    match set r ok now (I.keyOf c) 200 (.bytes (marshalBytes v)) with
    | .ok r' => (db, r', seed, .done (.ok (v, false)))
    | .error _ => (db, r, seed, .done (.ok (v, false)))
  | .done res => (db, r, seed, .done res)


/-- A whole call from its lookup, given its turns back to back: the Redis calls succeed, the
database work's statements succeed iff `ok`. -/
def serve (I : Intake σ ρ) (db : σ) (r : Redis) (now : Int) (seed : Nat) (key : String) (req : ρ)
    (ok : Bool) : σ × Redis × Nat × IntakeStep :=
  let s₁ := I.stepCall db r now seed true ⟨key, req, .lookup⟩
  let s₂ := I.stepCall s₁.1 s₁.2.1 now s₁.2.2.1 ok ⟨key, req, s₁.2.2.2⟩
  I.stepCall s₂.1 s₂.2.1 now s₂.2.2.1 true ⟨key, req, s₂.2.2.2⟩

/-- A served call leaves the database and the store as they were, or it found no live entry, its
work succeeded, and `Set` stored what it created. -/
theorem serve_cases (I : Intake σ ρ) (db : σ) (r : Redis) (now : Int) (seed : Nat) (key : String)
    (req : ρ) (ok : Bool) :
    ((I.serve db r now seed key req ok).1 = db ∧ (I.serve db r now seed key req ok).2.1 = r) ∨
    ((∀ cached, get r true now (I.keyOf ⟨key, req, .lookup⟩) ≠ .ok (some cached)) ∧
      ∃ v, I.create db req seed now ok = .ok ((I.serve db r now seed key req ok).1, v) ∧
        set r true now (I.keyOf ⟨key, req, .lookup⟩) 200 (.bytes (marshalBytes v)) =
          .ok (I.serve db r now seed key req ok).2.1) := by
  unfold serve
  by_cases hit : ∃ cached, get r true now (I.keyOf ⟨key, req, .lookup⟩) = .ok (some cached)
  · obtain ⟨cached, hc⟩ := hit
    left
    simp [stepCall, hc]
  · push_neg at hit
    have hs : I.stepCall db r now seed true ⟨key, req, .lookup⟩ = (db, r, seed, .create) := by
      simp only [stepCall]
    rw [hs]
    rcases hcr : I.create db req seed now ok with e | ⟨db', v⟩
    · left; simp [stepCall, hcr]
    · exact .inr ⟨hit, v, by simp [stepCall, hcr, set, keyOf]⟩

/-- A call's step leaves the database and the counter alone, or it is the call's work, which
succeeded and took `ids` fresh ids. -/
theorem stepCall_db (I : Intake σ ρ) (db : σ) (r : Redis) (now : Int) (seed : Nat) (ok : Bool)
    (c : IntakeCall ρ) :
    ((I.stepCall db r now seed ok c).1 = db ∧ (I.stepCall db r now seed ok c).2.2.1 = seed) ∨
      ∃ v, I.create db c.req seed now ok = .ok ((I.stepCall db r now seed ok c).1, v) ∧
        (I.stepCall db r now seed ok c).2.2.1 = seed + I.ids c.req := by
  unfold stepCall
  split
  · split <;> exact .inl ⟨rfl, rfl⟩
  · split
    · exact .inr ⟨_, ‹_›, rfl⟩
    · exact .inl ⟨rfl, rfl⟩
  · split <;> exact .inl ⟨rfl, rfl⟩
  · exact .inl ⟨rfl, rfl⟩

end Intake

/-- The events of an intake world. -/
inductive IntakeEvent (ρ : Type)
  | start (key : String) (req : ρ)
  | next (call : Nat) (ok : Bool)
  | tick (now : Int)

namespace IntakeWorld

/-- One step. -/
def step (I : Intake σ ρ) (w : IntakeWorld σ ρ) : IntakeEvent ρ → Option (IntakeWorld σ ρ)
  | .start key req => some { w with calls := w.calls ++ [⟨key, req, .lookup⟩] }
  | .next c ok =>
    match w.calls[c]? with
    | some call =>
      let (db, r, seed, s) := I.stepCall w.db w.redis w.now w.nextId ok call
      some ⟨db, r, w.now, seed, w.calls.set c { call with step := s }⟩
    | none => none
  | .tick now => if w.now ≤ now then some { w with now := now } else none

/-- Run a list of events. -/
def run (I : Intake σ ρ) (w : IntakeWorld σ ρ) : List (IntakeEvent ρ) → Option (IntakeWorld σ ρ)
  | [] => some w
  | e :: es => (step I w e).bind fun w' => run I w' es

/-- A step leaves the database and the counter alone, or it is a call's work, which succeeded and
took `ids` fresh ids. -/
theorem step_db_call (I : Intake σ ρ) {w w' : IntakeWorld σ ρ} {e : IntakeEvent ρ}
    (h : step I w e = some w') :
    (w'.db = w.db ∧ w'.nextId = w.nextId) ∨
      ∃ call ∈ w.calls, ∃ ok v, I.create w.db call.req w.nextId w.now ok = .ok (w'.db, v) ∧
        w'.nextId = w.nextId + I.ids call.req := by
  cases e with
  | start key req => cases h; exact .inl ⟨rfl, rfl⟩
  | next c ok =>
    simp only [step] at h
    split at h
    · rename_i call hcall
      cases h
      rcases I.stepCall_db w.db w.redis w.now w.nextId ok call with h | ⟨v, hc, hs⟩
      exacts [.inl h, .inr ⟨call, List.getElem?_mem hcall, ok, v, hc, hs⟩]
    · cases h
  | tick now =>
    simp only [step] at h
    split at h <;> cases h
    exact .inl ⟨rfl, rfl⟩

/-- The clock never goes back. -/
theorem step_now_le (I : Intake σ ρ) {w w' : IntakeWorld σ ρ} {e : IntakeEvent ρ}
    (h : step I w e = some w') : w.now ≤ w'.now := by
  cases e with
  | start key req => cases h; exact Int.le_refl _
  | next c ok =>
    simp only [step] at h
    split at h
    · cases h; exact Int.le_refl _
    · cases h
  | tick now =>
    simp only [step] at h
    split at h
    · cases h; assumption
    · cases h

/-- `step_db_call` without the call. -/
theorem step_db (I : Intake σ ρ) {w w' : IntakeWorld σ ρ} {e : IntakeEvent ρ}
    (h : step I w e = some w') :
    (w'.db = w.db ∧ w'.nextId = w.nextId) ∨
      ∃ req ok v, I.create w.db req w.nextId w.now ok = .ok (w'.db, v) ∧
        w'.nextId = w.nextId + I.ids req :=
  (step_db_call I h).imp_right fun ⟨call, _, ok, v, hc, hs⟩ => ⟨call.req, ok, v, hc, hs⟩

/-- A property of requests that every call of a world has, and every request a step starts,
every call after the step has: a step changes the step of a call, never its request. -/
theorem step_reqs (I : Intake σ ρ) (P : ρ → Prop) {w w' : IntakeWorld σ ρ} {e : IntakeEvent ρ}
    (h : step I w e = some w') (hw : ∀ c ∈ w.calls, P c.req)
    (he : ∀ key req, e = .start key req → P req) : ∀ c ∈ w'.calls, P c.req := by
  cases e with
  | start key req =>
    cases h
    intro c hc
    rcases List.mem_append.mp hc with hc | hc
    · exact hw c hc
    · rw [List.mem_singleton.mp hc]; exact he key req rfl
  | next c ok =>
    simp only [step] at h
    split at h
    · rename_i call hcall
      cases h
      intro c' hc'
      rcases List.mem_or_eq_of_mem_set hc' with hc' | rfl
      exacts [hw c' hc', hw call (List.getElem?_mem hcall)]
    · cases h
  | tick now =>
    simp only [step] at h
    split at h <;> cases h
    exact hw

theorem run_append (I : Intake σ ρ) (w : IntakeWorld σ ρ) (es es' : List (IntakeEvent ρ)) :
    run I w (es ++ es') = (run I w es).bind fun w' => run I w' es' := by
  induction es generalizing w with
  | nil => rfl
  | cons e es ih =>
    simp only [List.cons_append, run, Option.bind_assoc]
    exact congrArg _ (funext ih)


/-- The events of a call served alone: the clock moves to `t`, the call starts as call `n`, and
it is given its three turns. -/
def serveEvents (n : Nat) (t : Int) (key : String) (req : ρ) (ok : Bool) : List (IntakeEvent ρ) :=
  [.tick t, .start key req, .next n true, .next n ok, .next n true]

theorem run_serveEvents (I : Intake σ ρ) {w : IntakeWorld σ ρ} {t : Int} (key : String) (req : ρ)
    (ok : Bool) (ht : w.now ≤ t) :
    run I w (serveEvents w.calls.length t key req ok) =
      some ⟨(I.serve w.db w.redis t w.nextId key req ok).1,
        (I.serve w.db w.redis t w.nextId key req ok).2.1, t,
        (I.serve w.db w.redis t w.nextId key req ok).2.2.1,
        w.calls ++ [⟨key, req, (I.serve w.db w.redis t w.nextId key req ok).2.2.2⟩]⟩ := by
  simp [run, step, serveEvents, ht, Intake.serve, List.getElem?_concat_length, List.set_append_right]

/-- Calls of one key served one after another, from call `n` on, each at its own time. -/
def serial (n : Nat) (key : String) : List (Int × ρ × Bool) → List (IntakeEvent ρ)
  | [] => []
  | (t, req, ok) :: cs => serveEvents n t key req ok ++ serial (n + 1) key cs

/-- After calls of one key from time `T0` on a database that was `db₀`: it still is, or one
call's work made it what it is and `Set` has stored an entry since `T0`. -/
private def OnceInv (I : Intake σ ρ) (db₀ : σ) (K : String) (T0 : Int) (w : IntakeWorld σ ρ) :
    Prop :=
  T0 ≤ w.now ∧ (w.db = db₀ ∨ ((∃ req seed t ok v, I.create db₀ req seed t ok = .ok (w.db, v)) ∧
    ∃ body s, T0 ≤ s ∧ w.redis K = some ((result 200 body s).marshal, s + defaultTTL)))

private theorem onceInv_serveEvents (I : Intake σ ρ) {db₀ : σ} {K : String} {T0 : Int}
    {w w' : IntakeWorld σ ρ} {t : Int} {key : String} {req : ρ} {ok : Bool}
    (hw : OnceInv I db₀ K T0 w) (hK : I.keyOf ⟨key, req, .lookup⟩ = K)
    (hlive : t < T0 + defaultTTL) (h : run I w (serveEvents w.calls.length t key req ok) = some w') :
    OnceInv I db₀ K T0 w' ∧ w'.calls.length = w.calls.length + 1 := by
  obtain ⟨hT, hdb⟩ := hw
  subst hK
  have ht : w.now ≤ t := by
    by_contra hlt
    simp [serveEvents, run, step, hlt] at h
  rw [run_serveEvents I key req ok ht] at h
  cases h
  refine ⟨⟨Int.le_trans hT ht, ?_⟩, by simp⟩
  rcases I.serve_cases w.db w.redis t w.nextId key req ok with ⟨hd, hr⟩ | ⟨hmiss, v, hc, hs⟩
  · simpa only [hd, hr] using hdb
  · rcases hdb with rfl | ⟨-, body, s, hs0, hentry⟩
    · exact .inr ⟨⟨req, _, t, ok, v, hc⟩, _, t, Int.le_trans hT ht, set_entry hs⟩
    · exact absurd (get_entry hentry (by decide) (by omega)) (hmiss _)

private theorem onceInv_serial (I : Intake σ ρ) {db₀ : σ} {K : String} {T0 : Int} {key : String} :
    ∀ (cs : List (Int × ρ × Bool)) (w w' : IntakeWorld σ ρ), OnceInv I db₀ K T0 w →
      (∀ c ∈ cs, I.keyOf ⟨key, c.2.1, .lookup⟩ = K ∧ c.1 < T0 + defaultTTL) →
      run I w (serial w.calls.length key cs) = some w' → OnceInv I db₀ K T0 w'
  | [], w, w', hw, _, h => by cases h; exact hw
  | (t, req, ok) :: cs, w, w', hw, hcs, h => by
    rw [serial, run_append] at h
    obtain ⟨w₁, h₁, h₂⟩ := Option.bind_eq_some.mp h
    have hc := hcs _ (List.mem_cons_self _ _)
    obtain ⟨hw₁, hlen⟩ := onceInv_serveEvents I hw hc.1 hc.2 h₁
    exact onceInv_serial I cs w₁ w' hw₁ (fun c h => hcs c (List.mem_cons_of_mem _ h)) (hlen ▸ h₂)

/-- Calls of one user and one key, each served whole after the one before, within `DefaultTTL` of
the first, with the store's calls succeeding: the database ends as it was, or as one call's work
made it. -/
theorem serial_creates_at_most_once (I : Intake σ ρ) {w w' : IntakeWorld σ ρ} {user key : String}
    {cs : List (Int × ρ × Bool)} (huser : ∀ c ∈ cs, I.userId c.2.1 = user)
    (hlive : ∀ c ∈ cs, c.1 < w.now + defaultTTL)
    (h : run I w (serial w.calls.length key cs) = some w') :
    w'.db = w.db ∨ ∃ req seed t ok v, I.create w.db req seed t ok = .ok (w'.db, v) := by
  obtain ⟨-, h' | ⟨h', -⟩⟩ := onceInv_serial I cs w w'
    (⟨Int.le_refl _, .inl rfl⟩ : OnceInv I w.db (generateKey user I.operation key) w.now w)
    (fun c hc => ⟨by simp [Intake.keyOf, huser c hc], hlive c hc⟩) h
  exacts [.inl h', .inr h']

end IntakeWorld

/-! ### Replays -/

/-- Every entry of the store holds a `Result` of status 200 whose body is a JSON string. -/
def StringBodies (r : Redis) : Prop :=
  ∀ k j exp, r k = some (j, exp) → ∃ s t, j = (result 200 (.string s) t).marshal

theorem stringBodies_empty : StringBodies Redis.empty := fun _ _ _ h => by cases h

/-- `Set` of the bytes of a `json.Marshal` stores a string body: `[]byte` marshals to base64. -/
theorem stringBodies_set {r r' : Redis} {ok : Bool} {now : Int} {key : String} {b : List Nat}
    (hr : StringBodies r) (h : set r ok now key 200 (.bytes b) = .ok r') : StringBodies r' := by
  unfold set at h
  split at h <;> cases h
  intro k j exp hk
  dsimp only at hk
  split at hk
  · cases hk; exact ⟨_, now, rfl⟩
  · exact hr k j exp hk

/-- The error of a replay into the struct type `name`. -/
def Intake.replayError (I : Intake σ ρ) (name : String) : String :=
  "failed to unmarshal cached " ++ I.noun ++ ": " ++ (TypeError.mk "string" name none).message

/-- A lookup that finds an entry with a string body ends the call with `replayError`; one that
finds none, or fails, goes on to the database work. -/
theorem Intake.stepCall_lookup (I : Intake σ ρ) {name : String} {fs : List (String × GoType)}
    (ht : I.target = .struct name fs) {db : σ} {r : Redis} (hr : StringBodies r) (now : Int)
    (seed : Nat) (ok : Bool) (key : String) (req : ρ) :
    I.stepCall db r now seed ok ⟨key, req, .lookup⟩ = (db, r, seed, .create) ∨
      I.stepCall db r now seed ok ⟨key, req, .lookup⟩ =
        (db, r, seed, .done (.error (I.replayError name))) := by
  simp only [Intake.stepCall]
  split
  · rename_i cached hget
    right
    unfold get at hget
    split at hget <;> [skip; cases hget]
    split at hget <;> [skip; cases hget]
    rename_i j exp hk
    split at hget <;> [skip; cases hget]
    obtain ⟨s, t, rfl⟩ := hr _ _ _ hk
    split at hget <;> cases hget
    rename_i v hv
    rw [unmarshal_result _ _ _ (by decide)] at hv
    cases hv
    simp only [Intake.replay, resultBody, GoValue.marshal, ht, unmarshal_string_struct]
    rfl
  · exact .inl rfl

/-- A step keeps the store's bodies strings and returns no replay. -/
theorem Intake.stepCall_noReplay (I : Intake σ ρ) {name : String} {fs : List (String × GoType)}
    (ht : I.target = .struct name fs) (db : σ) {r : Redis} (hr : StringBodies r) (now : Int)
    (seed : Nat) (ok : Bool) {c : IntakeCall ρ} (hc : ∀ x, c.step ≠ .done (.ok (x, true))) :
    StringBodies (I.stepCall db r now seed ok c).2.1 ∧
      ∀ x, (I.stepCall db r now seed ok c).2.2.2 ≠ .done (.ok (x, true)) := by
  obtain ⟨key, req, st⟩ := c
  cases st with
  | lookup =>
    rcases I.stepCall_lookup ht hr now seed ok key req with h | h <;> rw [h] <;> simp [hr]
  | create =>
    simp only [Intake.stepCall]
    split <;> simp [hr]
  | cache v =>
    simp only [Intake.stepCall]
    split
    · rename_i r' hs; exact ⟨stringBodies_set hr hs, by simp⟩
    · simp [hr]
  | done res => exact ⟨hr, hc⟩

/-- No call has returned a replay, and the store holds only string bodies. -/
structure NoReplay (w : IntakeWorld σ ρ) : Prop where
  store : StringBodies w.redis
  calls : ∀ c ∈ w.calls, ∀ x, c.step ≠ .done (.ok (x, true))

theorem noReplay_step (I : Intake σ ρ) {name : String} {fs : List (String × GoType)}
    (ht : I.target = .struct name fs) {w w' : IntakeWorld σ ρ} {e : IntakeEvent ρ}
    (hw : NoReplay w) (h : IntakeWorld.step I w e = some w') : NoReplay w' := by
  cases e with
  | start key req =>
    cases h
    refine ⟨hw.store, fun c hc => ?_⟩
    rcases List.mem_append.mp hc with hc | hc
    · exact hw.calls c hc
    · rw [List.mem_singleton.mp hc]; simp
  | next n ok =>
    simp only [IntakeWorld.step] at h
    split at h
    · rename_i call hcall
      cases h
      have := I.stepCall_noReplay ht w.db hw.store w.now w.nextId ok
        (hw.calls _ (List.getElem?_mem hcall))
      refine ⟨this.1, fun c hc => ?_⟩
      rcases List.mem_or_eq_of_mem_set hc with hc | rfl
      · exact hw.calls c hc
      · exact this.2
    · cases h
  | tick now =>
    simp only [IntakeWorld.step] at h
    split at h <;> cases h
    exact ⟨hw.store, hw.calls⟩

theorem noReplay_run (I : Intake σ ρ) {name : String} {fs : List (String × GoType)}
    (ht : I.target = .struct name fs) {es : List (IntakeEvent ρ)} {w w' : IntakeWorld σ ρ}
    (hw : NoReplay w) (h : IntakeWorld.run I w es = some w') : NoReplay w' := by
  induction es generalizing w with
  | nil => cases h; exact hw
  | cons e es ih =>
    obtain ⟨w₁, h₁, h₂⟩ := Option.bind_eq_some.mp h
    exact ih (noReplay_step I ht hw h₁) h₂

end Coldy.Idempotency
