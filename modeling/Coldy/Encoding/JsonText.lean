import Coldy.Encoding.Json

/-!
# Reading the text of `json.Marshal` back

The text `JsonValue.encode` writes for strings and integers can be read back, and the reading stops
where the value ends:

* `unquoteBody` reads a string literal after its opening quote, escape by escape; on the text
  `quote` writes it gives back the string and stops at the closing quote (`unquoteBody_quote`).
* `readInt` reads an optional `-` and decimal digits; on `toString` of an integer followed by a
  character that is not a digit it gives back the integer and stops there (`readInt_toString`).

So a literal or a number followed by more text determines both (`quote_append_inj`,
`toString_append_inj`), which is what makes texts of one object shape, such as a cache key, tell
their values apart.
-/

namespace Coldy.Json

/-! ### String literals -/

/-- The value of a hexadecimal digit as `hex4` writes it. -/
def hexVal (c : Char) : Nat := if c.toNat < 58 then c.toNat - 48 else c.toNat - 87

/-- Put `c` in front of what a reader read. -/
def consRead (c : Char) : Option (List Char × List Char) → Option (List Char × List Char) :=
  Option.map fun p => (c :: p.1, p.2)

/-- A string literal after its opening quote: the characters it stands for and the text after its
closing quote; `none` without a closing quote or at an escape `quote` does not write. -/
def unquoteBody : List Char → Option (List Char × List Char)
  | [] => none
  | '"' :: rest => some ([], rest)
  | '\\' :: '"' :: rest => consRead '"' (unquoteBody rest)
  | '\\' :: '\\' :: rest => consRead '\\' (unquoteBody rest)
  | '\\' :: 'n' :: rest => consRead '\n' (unquoteBody rest)
  | '\\' :: 'r' :: rest => consRead '\r' (unquoteBody rest)
  | '\\' :: 't' :: rest => consRead '\t' (unquoteBody rest)
  | '\\' :: 'u' :: a :: b :: c :: d :: rest =>
    consRead (Char.ofNat (hexVal a * 4096 + hexVal b * 256 + hexVal c * 16 + hexVal d))
      (unquoteBody rest)
  | '\\' :: _ => none
  | c :: rest => consRead c (unquoteBody rest)

private theorem hexVal_digitChar {k : Nat} (hk : k < 16) : hexVal (Nat.digitChar k) = k :=
  (by decide : ∀ k, k < 16 → hexVal (Nat.digitChar k) = k) k hk

private theorem hex4_data (n : Nat) :
    (hex4 n).data = [Nat.digitChar (n / 4096 % 16), Nat.digitChar (n / 256 % 16),
      Nat.digitChar (n / 16 % 16), Nat.digitChar (n % 16)] := by
  simp [hex4, List.range, List.range.loop, Nat.pow_succ]

/-- The four digits `hex4` writes for a code unit read back as it. -/
theorem hexVal_hex4 {n : Nat} (hn : n < 65536) :
    hexVal (Nat.digitChar (n / 4096 % 16)) * 4096 + hexVal (Nat.digitChar (n / 256 % 16)) * 256 +
      hexVal (Nat.digitChar (n / 16 % 16)) * 16 + hexVal (Nat.digitChar (n % 16)) = n := by
  rw [hexVal_digitChar (Nat.mod_lt _ (by omega)), hexVal_digitChar (Nat.mod_lt _ (by omega)),
    hexVal_digitChar (Nat.mod_lt _ (by omega)), hexVal_digitChar (Nat.mod_lt _ (by omega))]
  omega

/-- One escaped character reads back as itself. -/
theorem unquoteBody_escapeChar (c : Char) (t : List Char) :
    unquoteBody ((escapeChar c).data ++ t) = consRead c (unquoteBody t) := by
  unfold escapeChar
  split_ifs with h1 h2 h3 h4 h5 h6
  · subst h1; rfl
  · subst h2; rfl
  · subst h3; rfl
  · subst h4; rfl
  · subst h5; rfl
  · have hc : c.toNat < 65536 := by
      rcases h6 with h | rfl | rfl | rfl | h | h <;> first | omega | decide
    simp only [String.data_append, hex4_data, List.cons_append, List.nil_append]
    show consRead (Char.ofNat _) _ = _
    rw [hexVal_hex4 hc, Char.ofNat_toNat]
  · show unquoteBody (c :: t) = _
    simp [unquoteBody, h1, h2]

theorem unquoteBody_join (s t : List Char) :
    unquoteBody ((s.map fun c => (escapeChar c).data).flatten ++ '"' :: t) = some (s, t) := by
  induction s with
  | nil => rfl
  | cons c s ih =>
    rw [List.map_cons, List.flatten_cons, List.append_assoc, unquoteBody_escapeChar, ih]
    rfl

private theorem foldl_append_data (l : List String) (acc : String) :
    (l.foldl (· ++ ·) acc).data = acc.data ++ (l.map String.data).flatten := by
  induction l generalizing acc with
  | nil => simp
  | cons s l ih => simp [ih]

theorem quote_data (s : String) :
    (quote s).data = '"' :: ((s.data.map fun c => (escapeChar c).data).flatten ++ ['"']) := by
  simp [quote, String.join, foldl_append_data, List.map_map, Function.comp_def]

/-- What `quote` writes reads back as the string, up to the closing quote. -/
theorem unquoteBody_quote (s : String) (t : List Char) :
    unquoteBody ((quote s).data.tail ++ t) = some (s.data, t) := by
  rw [quote_data, List.tail_cons, List.append_assoc, List.singleton_append, unquoteBody_join]

/-- A string literal followed by more text determines both. -/
theorem quote_append_inj {a b : String} {x y : List Char}
    (h : (quote a).data ++ x = (quote b).data ++ y) : a = b ∧ x = y := by
  have h' : (quote a).data.tail ++ x = (quote b).data.tail ++ y := by
    simpa [quote_data] using h
  have := unquoteBody_quote a x
  rw [h', unquoteBody_quote] at this
  obtain ⟨hab, hxy⟩ := Prod.mk.inj (Option.some.inj this)
  exact ⟨String.ext hab.symm, hxy.symm⟩

/-! ### Integers -/

/-- One decimal digit onto a value. -/
def pushDigit (n : Nat) (c : Char) : Nat := 10 * n + (c.toNat - 48)

/-- The leading decimal digits of a text, read onto `acc`, and what follows them. -/
def readDigits (acc : Nat) : List Char → Nat × List Char
  | c :: cs => if c.isDigit then readDigits (pushDigit acc c) cs else (acc, c :: cs)
  | [] => (acc, [])

/-- An integer as `toString` writes it, and what follows it. -/
def readInt : List Char → Int × List Char
  | '-' :: cs => ((-(readDigits 0 cs).1 : Int), (readDigits 0 cs).2)
  | cs => ((readDigits 0 cs).1, (readDigits 0 cs).2)

theorem readDigits_append {acc : Nat} {cs : List Char} (h : ∀ c ∈ cs, c.isDigit) (rest : List Char) :
    readDigits acc (cs ++ rest) = readDigits (cs.foldl pushDigit acc) rest := by
  induction cs generalizing acc with
  | nil => rfl
  | cons c cs ih =>
    simp only [List.forall_mem_cons] at h
    simp only [List.cons_append, readDigits, h.1, if_true, List.foldl_cons]
    exact ih h.2

private theorem digitChar_isDigit {d : Nat} (hd : d < 10) : (Nat.digitChar d).isDigit :=
  (by decide : ∀ d, d < 10 → (Nat.digitChar d).isDigit) d hd

private theorem pushDigit_digitChar (n : Nat) {d : Nat} (hd : d < 10) :
    pushDigit n (Nat.digitChar d) = 10 * n + d := by
  rw [pushDigit, (by decide : ∀ d, d < 10 → (Nat.digitChar d).toNat - 48 = d) d hd]

/-- `Nat.toDigitsCore` puts the digits of `n` in front of `ds`: all digits, read back as `n`. -/
theorem toDigitsCore_digits :
    ∀ (f n : Nat) (ds : List Char), n < f →
      ∃ pre, Nat.toDigitsCore 10 f n ds = pre ++ ds ∧ (∀ c ∈ pre, c.isDigit) ∧
        pre.foldl pushDigit 0 = n
  | 0, _, _, h => absurd h (Nat.not_lt_zero _)
  | f + 1, n, ds, h => by
    have hd := Nat.mod_lt n (by decide : 10 > 0)
    show ∃ pre, (if n / 10 = 0 then Nat.digitChar (n % 10) :: ds
      else Nat.toDigitsCore 10 f (n / 10) (Nat.digitChar (n % 10) :: ds)) = pre ++ ds ∧ _
    split
    · refine ⟨[Nat.digitChar (n % 10)], rfl, by simpa using digitChar_isDigit hd, ?_⟩
      rw [List.foldl_cons, List.foldl_nil, pushDigit_digitChar _ hd]
      omega
    · obtain ⟨pre, hpre, hdig, hval⟩ :=
        toDigitsCore_digits f (n / 10) (Nat.digitChar (n % 10) :: ds) (by omega)
      refine ⟨pre ++ [Nat.digitChar (n % 10)], by simp [hpre], fun c hc => ?_, ?_⟩
      · rcases List.mem_append.mp hc with hc | hc
        · exact hdig c hc
        · rw [List.mem_singleton.mp hc]; exact digitChar_isDigit hd
      · rw [List.foldl_append, hval, List.foldl_cons, List.foldl_nil, pushDigit_digitChar _ hd]
        omega

theorem repr_digits (n : Nat) :
    (∀ c ∈ (Nat.repr n).data, c.isDigit) ∧ (Nat.repr n).data.foldl pushDigit 0 = n := by
  obtain ⟨pre, hpre, hdig, hval⟩ := toDigitsCore_digits (n + 1) n [] (Nat.lt_succ_self n)
  have : (Nat.repr n).data = pre := by
    rw [← List.append_nil pre, ← hpre]
    rfl
  exact this ▸ ⟨hdig, hval⟩

theorem readDigits_repr (n : Nat) {c : Char} (hc : ¬c.isDigit) (rest : List Char) :
    readDigits 0 ((Nat.repr n).data ++ c :: rest) = (n, c :: rest) := by
  rw [readDigits_append (repr_digits n).1, (repr_digits n).2]
  simp [readDigits, hc]

/-- An integer `toString` writes, followed by a character that is not a digit, reads back. -/
theorem readInt_toString (n : Int) {c : Char} (hc : ¬c.isDigit) (hm : c ≠ '-') (rest : List Char) :
    readInt ((toString n).data ++ c :: rest) = (n, c :: rest) := by
  cases n with
  | ofNat m =>
    have hfirst : ∀ t, (Nat.repr m).data ++ c :: rest ≠ '-' :: t := fun t h => by
      cases hd : (Nat.repr m).data with
      | nil => rw [hd] at h; cases h; exact hm rfl
      | cons d ds =>
        rw [hd] at h
        have := (repr_digits m).1 d (by simp [hd])
        cases h; exact absurd this (by decide)
    show readInt ((Nat.repr m).data ++ c :: rest) = _
    unfold readInt
    split
    · rename_i cs h; exact absurd h (hfirst cs)
    · rw [readDigits_repr m hc]; rfl
  | negSucc m =>
    show readInt ('-' :: ((Nat.repr (m + 1)).data ++ c :: rest)) = _
    simp only [readInt, readDigits_repr _ hc]
    rfl

/-- An integer's text followed by a comma and more text determines both. -/
theorem toString_append_inj {m n : Int} {x y : List Char}
    (h : (toString m).data ++ ',' :: x = (toString n).data ++ ',' :: y) : m = n ∧ x = y := by
  have hm := readInt_toString m (by decide : ¬ ','.isDigit) (by decide) x
  rw [h, readInt_toString n (by decide) (by decide)] at hm
  obtain ⟨hmn, hxy⟩ := Prod.mk.inj hm
  exact ⟨hmn.symm, (List.cons.inj hxy).2.symm⟩

end Coldy.Json
