import Mathlib.Tactic.Common
import Mathlib.Tactic.NormNum.Pow

/-!
# `float64`, on integers

What `encoding/json` does to a JSON integer it decodes into an `interface{}`, and writes back.
`strconv.ParseFloat` rounds it to the nearest `float64`, a tie going to the even significand
(`roundFloat`); from `2^1024 - 2^970` on that is beyond the largest finite `float64`, and the text
is refused.  `json.Marshal` writes a `float64` with the fewest significant digits that read back as
it, the nearest such decimal (`shortest`), in `'f'` form below `1e21` and in `'e'` form from there
(`expForm`).

Every `float64` of at least `2^53` in magnitude is an integer, so the `float64` of an integer is an
integer, kept here as one, and everything is integer arithmetic.  Below `2^53` nothing changes: an
integer is its own `float64` and its own shortest decimal (`roundFloat_of_lt`, `shortest_of_lt`);
from `2^53 + 1` on, integers are lost: `2^53 + 1` reads as `2^53`.
-/

namespace Coldy.Json

/-- The spacing of the `float64`s in the binade of `n`: `1` below `2^53`, doubling with each binade
above; `fuel` bounds the binades counted. -/
def spacingFrom : Nat → Nat → Nat
  | 0, _ => 1
  | fuel + 1, n => if n < 2 ^ 53 then 1 else 2 * spacingFrom fuel (n / 2)

/-- The spacing of the `float64`s around `n`. -/
def spacing (n : Nat) : Nat := spacingFrom n n

theorem spacing_of_lt {n : Nat} (h : n < 2 ^ 53) : spacing n = 1 := by
  unfold spacing
  cases n with
  | zero => rfl
  | succ n => exact if_pos h

/-- The spacing around a positive number is at most the number. -/
theorem spacingFrom_le (fuel : Nat) {n : Nat} (hn : 1 ≤ n) : spacingFrom fuel n ≤ n := by
  induction fuel generalizing n with
  | zero => exact hn
  | succ fuel ih =>
    unfold spacingFrom
    split
    · exact hn
    · have := @ih (n / 2) (by omega)
      omega

/-- `strconv.ParseFloat` of a natural number: the nearest `float64`, a tie going to the even
significand. -/
def roundFloat (n : Nat) : Nat :=
  let s := spacing n
  if 2 * (n % s) < s ∨ (2 * (n % s) = s ∧ n / s % 2 = 0) then n / s * s else (n / s + 1) * s

theorem roundFloat_of_lt {n : Nat} (h : n < 2 ^ 53) : roundFloat n = n := by
  simp [roundFloat, spacing_of_lt h, Nat.mod_one]

/-- Rounding at most doubles a number. -/
theorem roundFloat_le (n : Nat) : roundFloat n ≤ 2 * n + 1 := by
  have hs : spacing n ≤ n + 1 := by
    rcases Nat.eq_zero_or_pos n with rfl | hn
    · decide
    · exact (spacingFrom_le n hn).trans (Nat.le_succ n)
  have hdiv := Nat.div_mul_le_self n (spacing n)
  simp only [roundFloat]
  split
  · omega
  · rw [Nat.add_mul, Nat.one_mul]; omega

example : roundFloat (2 ^ 53 + 1) = 2 ^ 53 ∧ roundFloat (2 ^ 53 + 3) = 2 ^ 53 + 4 := by decide

/-- `2^1024`: what `roundFloat` gives from `2^1024 - 2^970` on, beyond the largest finite `float64`,
`(2^53 - 1) * 2^971`; `strconv.ParseFloat` refuses it with `ErrRange`. -/
def floatOverflow : Nat :=
  179769313486231590772930519078902473361797697894230657273430081157732675805500963132708477322407536021120113879871393357658789768814416622492847430639474124377767893424865485276302219601246094119453082952085005768838150682342462881473913110540827237163350510684586298239947245938479716304835356329624224137216

theorem floatOverflow_eq : floatOverflow = 2 ^ 1024 := by norm_num [floatOverflow]

/-- Whether the decimal `c` reads back as the `float64` `v`, from `2^53` on: it lies within half the
gap to each neighbour of `v` (the gap below is halved at a power of two), the bounds included when
the significand of `v` is even.  All in twice the units. -/
def readsBack (v c : Nat) : Bool :=
  let s := spacing v
  let below := if v / s = 2 ^ 52 then s / 2 else s
  if v / s % 2 = 0 then 2 * v ≤ 2 * c + below ∧ 2 * c ≤ 2 * v + s
  else 2 * v < 2 * c + below ∧ 2 * c < 2 * v + s

/-- The multiple of `10^k` that reads back as `v`, for the largest `k` from `K` down for which
there is one; of two, the one nearer `v`. -/
def shortestFrom (v : Nat) : Nat → Nat
  | 0 => v
  | k + 1 =>
    let p := 10 ^ (k + 1)
    let lo := v / p * p
    match readsBack v lo, readsBack v (lo + p) with
    | true, true => if v - lo ≤ lo + p - v then lo else lo + p
    | true, false => lo
    | false, true => lo + p
    | false, false => shortestFrom v k

/-- The decimal `strconv.FormatFloat(v, _, -1, 64)` writes for the `float64` `v`, an integer: the
fewest significant digits that read back as `v`, the nearest such decimal. -/
def shortest (v : Nat) : Nat :=
  if v < 2 ^ 53 then v else shortestFrom v (Nat.toDigits 10 v).length

theorem shortest_of_lt {v : Nat} (h : v < 2 ^ 53) : shortest v = v := if_pos h

example : shortest (2 ^ 63) = 9223372036854776000 ∧ shortest (2 ^ 53) = 2 ^ 53 := by decide

/-- `strconv.FormatFloat(c, 'e', -1, 64)` for a shortest decimal `c` of at least `1e21`: its
significant digits, a point after the first, and the exponent. -/
def expForm (c : Nat) : String :=
  let ds := Nat.toDigits 10 c
  let sig := (ds.reverse.dropWhile (· = '0')).reverse
  ⟨sig.take 1 ++ (if sig.length ≤ 1 then [] else '.' :: sig.drop 1)⟩ ++ "e+" ++
    toString (ds.length - 1)

example : expForm (10 ^ 21) = "1e+21" ∧ expForm 123450000000000000000000 = "1.2345e+23" := by
  decide

end Coldy.Json
