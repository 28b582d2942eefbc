import Coldy.Encoding.Json

/-!
# The idempotency store

`pkg/idempotency`: a Redis string per key holding the JSON of a `Result`, which expires
`DefaultTTL` after it was set.  Each Redis call succeeds or fails at the environment's choice.

`GenerateKey` hashes `userID:operation:idempotencyKey` with SHA-256; the hash is taken as
injective, so the store is keyed by that text.  The text determines its three parts when the user
id and the operation hold no `:` (`generateKey_injective_without_colons`); a user id with a `:`
shares keys with another user (`generateKey_collides`).

`set_entry`, `get_entry`: once `Set` has stored a body, a `Get` that succeeds before the entry
expires returns the `Result` that holds it.
-/

namespace Coldy.Idempotency

open Coldy.Json

/-- `DefaultTTL`: 24 hours, in nanoseconds. -/
def defaultTTL : Int := 86400000000000

/-- The text `GenerateKey` hashes. -/
def generateKey (userID operation idempotencyKey : String) : String :=
  userID ++ ":" ++ operation ++ ":" ++ idempotencyKey

/-- Two texts that each run up to their first separator `c` split there in the same place. -/
private theorem split_at_first {c : Char} :
    ∀ {a a' b b' : List Char}, c ∉ a → c ∉ a' → a ++ c :: b = a' ++ c :: b' → a = a' ∧ b = b'
  | [], [], _, _, _, _, h => ⟨rfl, (List.cons.inj h).2⟩
  | [], _ :: _, _, _, _, h', h => absurd ((List.cons.inj h).1 ▸ List.mem_cons_self _ _) h'
  | _ :: _, [], _, _, h, _, e => absurd ((List.cons.inj e).1 ▸ List.mem_cons_self _ _) h
  | x :: a, y :: a', _, _, h, h', e => by
    rw [List.cons_append, List.cons_append, List.cons.injEq] at e
    obtain ⟨rfl, rfl⟩ := split_at_first (mt (List.mem_cons_of_mem x) h)
      (mt (List.mem_cons_of_mem y) h') e.2
    exact ⟨e.1 ▸ rfl, rfl⟩

/-- When neither user id nor operation holds a `:`, the text `GenerateKey` hashes determines all
three parts: the first `:` ends the user id, the next one the operation. -/
theorem generateKey_injective_without_colons {u₁ u₂ op₁ op₂ k₁ k₂ : String}
    (hu₁ : ':' ∉ u₁.data) (hu₂ : ':' ∉ u₂.data) (hop₁ : ':' ∉ op₁.data) (hop₂ : ':' ∉ op₂.data)
    (h : generateKey u₁ op₁ k₁ = generateKey u₂ op₂ k₂) : u₁ = u₂ ∧ op₁ = op₂ ∧ k₁ = k₂ := by
  have hd := congrArg String.data h
  simp only [generateKey, String.data_append, List.append_assoc] at hd
  obtain ⟨hu, hd⟩ := split_at_first hu₁ hu₂ hd
  obtain ⟨hop, hk⟩ := split_at_first hop₁ hop₂ hd
  exact ⟨String.ext hu, String.ext hop, String.ext hk⟩

theorem generateKey_injective_orders :
    ':' ∉ "u1".data ∧ ':' ∉ "u1".data ∧ ':' ∉ "create_order".data ∧ ':' ∉ "create_order".data ∧
      generateKey "u1" "create_order" "k" = generateKey "u1" "create_order" "k" ∧
      ("u1" = "u1" ∧ "create_order" = "create_order" ∧ "k" = "k") :=
  ⟨by decide, by decide, by decide, by decide, rfl,
    generateKey_injective_without_colons (by decide) (by decide) (by decide) (by decide) rfl⟩

/-- A user id holding `:` collides with another user's key, and with another operation's. -/
theorem generateKey_collides :
    generateKey "u1" "create_order" "create_order:k" = generateKey "u1:create_order" "create_order" "k" ∧
    generateKey "u1" "create_order" "create_payment:k" =
      generateKey "u1:create_order" "create_payment" "k" := by
  decide

/-- The error a failed Redis call returns (its text is the client's). -/
def redisErr : String := "redis error"

/-- Redis: per key, the stored JSON and when it expires. -/
def Redis := String → Option (JsonValue × Int)

/-- No keys. -/
def Redis.empty : Redis := fun _ => none

/-- `Result`, with its `json` tags. -/
def resultType : GoType :=
  .struct "idempotency.Result" [("status_code", .int 64 "int"), ("body", .raw), ("created_at", .time)]

/-- The `Result` `Set` stores. -/
def result (statusCode : Int) (body : JsonValue) (now : Int) : GoValue :=
  .struct [("status_code", .int statusCode), ("body", .raw body), ("created_at", .time (rfc3339 now))]

/-- `Result.Body` of what `Get` returned: its bytes, `none` when they are empty. -/
def resultBody : GoValue → Option JsonValue
  | .struct [_, ("body", .raw v), _] => some v
  | _ => none

/-- `Store.Get` at time `now`, the Redis call succeeding iff `ok`: `none` for a missing or expired
key. -/
def get (r : Redis) (ok : Bool) (now : Int) (key : String) : Except String (Option GoValue) :=
  if ok then
    match r key with
    | some (data, expiresAt) =>
      if now < expiresAt then
        match unmarshal resultType data with
        | .ok v => .ok (some v)
        | .error e => .error ("failed to unmarshal result: " ++ e.message)
      else .ok none
    | none => .ok none
  else .error ("failed to get idempotency key: " ++ redisErr)

/-- `Store.Set` at time `now`, the Redis call succeeding iff `ok`: `body` marshalled into the
`Result`, the `Result` marshalled and stored for `DefaultTTL`. -/
def set (r : Redis) (ok : Bool) (now : Int) (key : String) (statusCode : Int) (body : GoValue) :
    Except String Redis :=
  if ok then
    .ok fun k => if k = key then some ((result statusCode body.marshal now).marshal, now + defaultTTL)
      else r k
  else .error ("failed to set idempotency key: " ++ redisErr)

/-- The stored `Result` decodes back, whatever its body. -/
theorem unmarshal_result (statusCode : Int) (body : JsonValue) (now : Int)
    (h : fitsInt 64 statusCode = true) :
    unmarshal resultType (result statusCode body now).marshal =
      .ok (.struct [("status_code", .int statusCode), ("body", .raw body),
        ("created_at", .time (rfc3339 now))]) :=
  unmarshal_struct_marshal (by decide)
    (.cons ⟨rfl, unmarshal_int_marshal h⟩ (.cons ⟨rfl, unmarshal_raw body⟩ (.cons ⟨rfl, rfl⟩ .nil)))

/-- `Set` stores the `Result` of its body for `DefaultTTL`. -/
theorem set_entry {r r' : Redis} {ok : Bool} {now : Int} {key : String} {statusCode : Int}
    {body : GoValue} (h : set r ok now key statusCode body = .ok r') :
    r' key = some ((result statusCode body.marshal now).marshal, now + defaultTTL) := by
  unfold set at h
  split at h <;> cases h
  simp

/-- A successful `Get` of a live entry returns its `Result`. -/
theorem get_entry {r : Redis} {key : String} {statusCode : Int} {body : JsonValue} {s t : Int}
    (h : r key = some ((result statusCode body s).marshal, s + defaultTTL))
    (hcode : fitsInt 64 statusCode = true) (hlive : t < s + defaultTTL) :
    get r true t key = .ok (some (.struct [("status_code", .int statusCode), ("body", .raw body),
      ("created_at", .time (rfc3339 s))])) := by
  simp [get, h, hlive, unmarshal_result _ _ _ hcode]

end Coldy.Idempotency
