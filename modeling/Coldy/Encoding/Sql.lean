import Coldy.Encoding.JsonText
import Coldy.Encoding.Uuid

/-!
# What PostgreSQL does with the services' values

What the order, payment and catalogue tables share:

* the ids `uuid.New()` gives, drawn from a counter here and distinct for distinct counters
  (`freshId_injective`);
* how a statement's parameters are bound and assigned to columns: a text with a NUL is refused, a
  `uuid` parameter must read as a UUID, and a `varchar(n)` column refuses a longer text unless
  only spaces are cut off (`textParam`, `uuidParam`, `varchar`);
* the row comparison of the keys `(created_at, id)` that keyset pagination sorts and cuts by, a
  strict total order (`keyLt_trans`, `keyLt_total`);
* the page size the gRPC servers clamp a request's to (`pageSize`).
-/

namespace Coldy.Sql

open Coldy.Json

/-! ### Ids -/

/-- The `n`-th `uuid.New()`. -/
def freshId (n : Nat) : String := toString n

/-- Distinct counters give distinct ids: the decimal digits of `n` read back give `n`. -/
theorem freshId_injective : Function.Injective freshId := fun m n h =>
  (repr_digits m).2.symm.trans
    ((congrArg (fun s : String => s.data.foldl pushDigit 0) h).trans (repr_digits n).2)

/-- An id is never empty. -/
theorem freshId_ne_empty (n : Nat) : freshId n ≠ "" := fun h => by
  have hn := (repr_digits n).2
  rw [show (Nat.repr n).data = [] from congrArg String.data h] at hn
  subst hn
  exact absurd h (by decide)

/-! ### Parameters -/

/-- A text parameter as the server receives it: the encoding check refuses a NUL. -/
def textParam (s : String) : Except String Unit :=
  if '\x00' ∈ s.data then .error "pq: invalid byte sequence for encoding \"UTF8\": 0x00" else .ok ()

/-- Text parameters, bound in order. -/
def textParams : List String → Except String Unit
  | [] => .ok ()
  | s :: ss => textParam s >>= fun _ => textParams ss

/-- A text bound to a `uuid` parameter: `uuid_in` must read it. -/
def uuidParam (s : String) : Except String Unit :=
  textParam s >>= fun _ =>
    if (Uuid.parseUuid s).isSome then .ok ()
    else .error ("pq: invalid input syntax for type uuid: \"" ++ s ++ "\"")

/-- A text assigned to a `varchar(n)` column: kept when at most `n` characters long, cut to `n`
when only spaces are cut off, else refused. -/
def varchar (n : Nat) (s : String) : Except String String :=
  if s.length ≤ n then .ok s
  else if (s.data.drop n).all (· = ' ') then .ok ⟨s.data.take n⟩
  else .error ("pq: value too long for type character varying(" ++ toString n ++ ")")

@[simp] theorem varchar_empty (n : Nat) : varchar n "" = .ok "" := by
  simp [varchar]

theorem bind_eq_ok {α β : Type} {x : Except String α} {f : α → Except String β} {b : β} :
    x >>= f = .ok b ↔ ∃ a, x = .ok a ∧ f a = .ok b := by
  cases x <;> simp [bind, Except.bind]

@[simp] theorem uuidParam_eq_ok {s : String} : uuidParam s = .ok () → (Uuid.parseUuid s).isSome := by
  simp only [uuidParam, bind_eq_ok]
  rintro ⟨_, -, h⟩
  split at h
  · assumption
  · cases h

/-! ### The order of keys -/

/-- Texts by character code, lexicographically; on `uuid_out`'s output form this is `uuid_cmp`'s
order of the bytes. -/
def textLt : List Char → List Char → Bool
  | [], [] => false
  | [], _ :: _ => true
  | _ :: _, [] => false
  | a :: as, b :: bs =>
    @decide _ (Nat.decLt a.toNat b.toNat) || @decide _ (instDecidableEqChar a b) && textLt as bs

/-- PostgreSQL's row comparison `(a₁, a₂) < (b₁, b₂)`. -/
def keyLt (a b : Int × String) : Bool :=
  @decide _ (Int.decLt a.1 b.1) || @decide _ (Int.decEq a.1 b.1) && textLt a.2.data b.2.data

theorem textLt_irrefl : ∀ l : List Char, textLt l l = false
  | [] => rfl
  | a :: as => by simp [textLt, textLt_irrefl as]

theorem textLt_trans : ∀ {l₁ l₂ l₃ : List Char}, textLt l₁ l₂ → textLt l₂ l₃ → textLt l₁ l₃
  | [], _ :: _, _ :: _, _, _ => rfl
  | a :: as, b :: bs, c :: cs, h₁, h₂ => by
    simp only [textLt, Bool.or_eq_true, Bool.and_eq_true, decide_eq_true_eq] at h₁ h₂ ⊢
    rcases h₁ with h₁ | ⟨rfl, h₁⟩ <;> rcases h₂ with h₂ | ⟨rfl, h₂⟩
    · exact .inl (Nat.lt_trans h₁ h₂)
    · exact .inl h₁
    · exact .inl h₂
    · exact .inr ⟨rfl, textLt_trans h₁ h₂⟩
  | [], [], _, h, _ => by simp [textLt] at h
  | _ :: _, [], _, h, _ => by simp [textLt] at h
  | _, _ :: _, [], _, h => by simp [textLt] at h

private theorem char_eq_of_toNat_eq {a b : Char} (h : a.toNat = b.toNat) : a = b :=
  Char.ext (UInt32.eq_of_val_eq (Fin.eq_of_val_eq h))

theorem textLt_total : ∀ {l₁ l₂ : List Char}, l₁ ≠ l₂ → textLt l₁ l₂ ∨ textLt l₂ l₁
  | [], [], h => absurd rfl h
  | [], _ :: _, _ => .inl rfl
  | _ :: _, [], _ => .inr rfl
  | a :: as, b :: bs, h => by
    simp only [textLt, Bool.or_eq_true, Bool.and_eq_true, decide_eq_true_eq]
    rcases Nat.lt_trichotomy a.toNat b.toNat with hab | hab | hab
    · exact .inl (.inl hab)
    · obtain rfl := char_eq_of_toNat_eq hab
      have : as ≠ bs := fun e => h (e ▸ rfl)
      rcases textLt_total this with h' | h'
      · exact .inl (.inr ⟨rfl, h'⟩)
      · exact .inr (.inr ⟨rfl, h'⟩)
    · exact .inr (.inl hab)

theorem keyLt_irrefl (a : Int × String) : keyLt a a = false := by
  simp [keyLt, textLt_irrefl]

theorem keyLt_trans {a b c : Int × String} (h₁ : keyLt a b) (h₂ : keyLt b c) : keyLt a c := by
  simp only [keyLt, Bool.or_eq_true, Bool.and_eq_true, decide_eq_true_eq] at h₁ h₂ ⊢
  rcases h₁ with h₁ | ⟨e₁, h₁⟩ <;> rcases h₂ with h₂ | ⟨e₂, h₂⟩
  · exact .inl (Int.lt_trans h₁ h₂)
  · exact .inl (e₂ ▸ h₁)
  · exact .inl (e₁ ▸ h₂)
  · exact .inr ⟨e₁.trans e₂, textLt_trans h₁ h₂⟩

theorem keyLt_total {a b : Int × String} (h : a ≠ b) : keyLt a b ∨ keyLt b a := by
  simp only [keyLt, Bool.or_eq_true, Bool.and_eq_true, decide_eq_true_eq]
  rcases Int.lt_trichotomy a.1 b.1 with e | e | e
  · exact .inl (.inl e)
  · have : a.2.data ≠ b.2.data := fun d => h (Prod.ext e (String.ext d))
    rcases textLt_total this with t | t
    · exact .inl (.inr ⟨e, t⟩)
    · exact .inr (.inr ⟨e.symm, t⟩)
  · exact .inr (.inl e)

theorem keyLt_asymm {a b : Int × String} (h : keyLt a b) : keyLt b a = false :=
  Bool.eq_false_iff.mpr fun h' => by simpa [keyLt_irrefl] using keyLt_trans h h'

theorem keyLt_of_not_keyLt {x y z : Int × String} (h : keyLt x z) (h' : keyLt y z = false) :
    keyLt x y := by
  by_cases e : y = z
  · exact e ▸ h
  · rcases keyLt_total e with h'' | h''
    · simp [h''] at h'
    · exact keyLt_trans h h''

/-! ### Page sizes -/

/-- The page size the gRPC servers pass (`Server.ListOrders`, `Server.ListProducts`): `20` when
not positive, at most `100`. -/
def pageSize (n : Int) : Nat := if n ≤ 0 then 20 else if 100 < n then 100 else n.toNat

theorem pageSize_pos (n : Int) : 0 < pageSize n := by
  unfold pageSize; split_ifs <;> omega

end Coldy.Sql
