import Mathlib.Tactic.Common

/-!
# PostgreSQL's `uuid` text form

A `UUID` column stores sixteen bytes.  `uuid_in` (`string_to_uuid`) reads two hexadecimal digits
of either case per byte, the whole optionally in braces, skipping one `-` after each odd byte but
the last; `uuid_out` writes each byte as two lowercase digits, with a `-` before bytes 4, 6, 8
and 10.  What `uuid_out` writes reads back as the bytes it came from (`parseUuid_formatUuid`), so
a text in output form comes back from a `UUID` column unchanged (`readUuid_formatUuid`); any
other spelling of the same bytes comes back in output form.
-/

namespace Coldy.Uuid

/-! ### Digits -/

/-- `isxdigit` and `strtoul(.., 16)` on one character. -/
def hexValue (c : Char) : Option (Fin 16) :=
  if h : 48 ≤ c.toNat ∧ c.toNat ≤ 57 then some ⟨c.toNat - 48, by omega⟩
  else if h : 97 ≤ c.toNat ∧ c.toNat ≤ 102 then some ⟨c.toNat - 87, by omega⟩
  else if h : 65 ≤ c.toNat ∧ c.toNat ≤ 70 then some ⟨c.toNat - 55, by omega⟩
  else none

/-- `hex_chars[d]`, `"0123456789abcdef"`. -/
def hexDigit (d : Fin 16) : Char := Char.ofNat (if d.val < 10 then 48 + d.val else 87 + d.val)

@[simp] theorem hexValue_hexDigit (d : Fin 16) : hexValue (hexDigit d) = some d := by
  revert d; decide

/-- The high and the low digit of a byte. -/
def high (b : Fin 256) : Fin 16 := ⟨b.val / 16, by omega⟩
/-- The low digit of a byte. -/
def low (b : Fin 256) : Fin 16 := ⟨b.val % 16, by omega⟩

/-- The byte of two digits. -/
def byte (hi lo : Fin 16) : Fin 256 := ⟨16 * hi.val + lo.val, by omega⟩

@[simp] theorem byte_high_low (b : Fin 256) : byte (high b) (low b) = b :=
  Fin.ext (Nat.div_add_mod b.val 16)

/-! ### `uuid_in` -/

/-- After byte `i`, `string_to_uuid` skips one `-` when `i` is odd and not the last byte. -/
def skipHyphen (i : Nat) : List Char → List Char
  | '-' :: cs => if i % 2 = 1 ∧ i < 15 then cs else '-' :: cs
  | cs => cs

/-- `string_to_uuid`'s loop from byte `i` on, `n` bytes to go: the bytes and what follows. -/
def parseBytes : Nat → Nat → List Char → Option (List (Fin 256) × List Char)
  | 0, _, cs => some ([], cs)
  | n + 1, i, a :: b :: cs =>
    match hexValue a, hexValue b with
    | some hi, some lo =>
      (parseBytes n (i + 1) (skipHyphen i cs)).map fun (bs, rest) => (byte hi lo :: bs, rest)
    | _, _ => none
  | _ + 1, _, _ => none

/-- `uuid_in`: sixteen bytes, optionally in braces, and nothing after. -/
def parseUuid (s : String) : Option (List (Fin 256)) :=
  match s.data with
  | '{' :: cs =>
    match parseBytes 16 0 cs with
    | some (bs, ['}']) => some bs
    | _ => none
  | cs =>
    match parseBytes 16 0 cs with
    | some (bs, []) => some bs
    | _ => none

/-! ### `uuid_out` -/

/-- `uuid_out` writes a `-` before bytes 4, 6, 8 and 10. -/
def hyphenBefore (i : Nat) : Bool := i = 4 || i = 6 || i = 8 || i = 10

/-- `uuid_out`'s loop from byte `i` on. -/
def formatBytes : Nat → List (Fin 256) → List Char
  | _, [] => []
  | i, b :: bs => (if hyphenBefore i then ['-'] else []) ++
      hexDigit (high b) :: hexDigit (low b) :: formatBytes (i + 1) bs

/-- `uuid_out`. -/
def formatUuid (bs : List (Fin 256)) : String := ⟨formatBytes 0 bs⟩

/-- A text stored in a `UUID` column, as the column gives it back: in output form.  PostgreSQL
refuses to bind a text that is not a UUID (`Sql.uuidParam`); the fallback, the text unchanged,
serves the ids `uuid.New()` gives, which the model draws from a counter, and the ids the
catalogue's `GetByID`, `Update` and `UpdateStock` compare, whose refusal of a text that is not a
UUID is not modelled: there it finds no row. -/
def readUuid (s : String) : String :=
  match parseUuid s with
  | some bs => formatUuid bs
  | none => s

/-! ### Round trip -/

/-- The text of bytes `i, i+1, …` after the `-` before byte `i`, which the previous byte's
`skipHyphen` consumes. -/
private def digitsFrom (i : Nat) : List (Fin 256) → List Char
  | [] => []
  | b :: bs => hexDigit (high b) :: hexDigit (low b) :: formatBytes (i + 1) bs

private theorem hexDigit_ne_hyphen (d : Fin 16) : hexDigit d ≠ '-' := by
  revert d; decide

/-- After byte `i`, the hyphen `uuid_out` puts before byte `i + 1` is the one `uuid_in` skips. -/
private theorem skipHyphen_formatBytes {i : Nat} {bs : List (Fin 256)} {rest : List Char}
    (hi : i + 1 + bs.length ≤ 16) (hrest : rest.head? ≠ some '-') :
    skipHyphen i (formatBytes (i + 1) bs ++ rest) = digitsFrom (i + 1) bs ++ rest := by
  cases bs with
  | nil =>
    match rest, hrest with
    | [], _ => rfl
    | c :: cs, h =>
      have : c ≠ '-' := fun e => h (e ▸ rfl)
      simp only [formatBytes, digitsFrom, List.nil_append, skipHyphen]
      split <;> simp_all
  | cons b bs =>
    simp only [formatBytes, digitsFrom]
    cases hh : hyphenBefore (i + 1)
    · simp [skipHyphen, hexDigit_ne_hyphen]
    · have : i % 2 = 1 ∧ i < 15 := by simp [hyphenBefore] at hh; omega
      simp [skipHyphen, this]

private theorem parseBytes_digitsFrom (bs : List (Fin 256)) :
    ∀ (i : Nat) (rest : List Char), i + bs.length ≤ 16 → rest.head? ≠ some '-' →
      parseBytes bs.length i (digitsFrom i bs ++ rest) = some (bs, rest) := by
  induction bs with
  | nil => intro i rest _ _; rfl
  | cons b bs ih =>
    intro i rest hi hrest
    simp only [List.length_cons] at hi
    rw [digitsFrom, List.cons_append, List.cons_append]
    simp only [List.length_cons, parseBytes, hexValue_hexDigit,
      @skipHyphen_formatBytes i bs rest (by omega) hrest, ih (i + 1) rest (by omega) hrest,
      Option.map_some', byte_high_low]

private theorem hexDigit_ne_brace (d : Fin 16) : hexDigit d ≠ '{' := by
  revert d; decide

/-- What `uuid_out` writes, `uuid_in` reads back as the same sixteen bytes. -/
theorem parseUuid_formatUuid {bs : List (Fin 256)} (h : bs.length = 16) :
    parseUuid (formatUuid bs) = some bs := by
  have key := parseBytes_digitsFrom bs 0 [] (by omega) (by simp)
  rw [h, List.append_nil] at key
  match bs, key with
  | b :: bs, key =>
    unfold parseUuid formatUuid
    split
    · rename_i cs hcs
      simp only [formatBytes, hyphenBefore] at hcs
      exact absurd (List.cons.inj hcs).1 (hexDigit_ne_brace _)
    · simp only [digitsFrom] at key
      simp [formatBytes, hyphenBefore, key]

theorem parseBytes_length : ∀ {n i : Nat} {cs : List Char} {bs : List (Fin 256)}
    {rest : List Char}, parseBytes n i cs = some (bs, rest) → bs.length = n
  | 0, _, _, _, _, h => by cases h; rfl
  | n + 1, i, a :: b :: cs, bs, rest, h => by
    simp only [parseBytes] at h
    split at h
    · obtain ⟨⟨bs', rest'⟩, h', he⟩ := Option.map_eq_some'.mp h
      cases he
      simp [parseBytes_length h']
    · cases h
  | _ + 1, _, [], _, _, h | _ + 1, _, [_], _, _, h => by cases h

/-- `uuid_in` reads sixteen bytes. -/
theorem parseUuid_length {s : String} {bs : List (Fin 256)} (h : parseUuid s = some bs) :
    bs.length = 16 := by
  unfold parseUuid at h
  split at h <;> split at h <;> cases h
  all_goals exact parseBytes_length ‹_›

/-- A text in output form comes back from a `UUID` column as it is. -/
theorem readUuid_formatUuid {bs : List (Fin 256)} (h : bs.length = 16) :
    readUuid (formatUuid bs) = formatUuid bs := by
  simp [readUuid, parseUuid_formatUuid h]

/-- What a `UUID` column gives back, it gives back unchanged. -/
theorem readUuid_readUuid (s : String) : readUuid (readUuid s) = readUuid s := by
  cases h : parseUuid s with
  | none => simp [readUuid, h]
  | some bs => simp [readUuid, h, parseUuid_formatUuid (parseUuid_length h)]

/-- The bytes of `a0eebc99-9c0b-4ef8-bb6d-6bb9bd380a11`. -/
def sampleBytes : List (Fin 256) :=
  [0xa0, 0xee, 0xbc, 0x99, 0x9c, 0x0b, 0x4e, 0xf8, 0xbb, 0x6d, 0x6b, 0xb9, 0xbd, 0x38, 0x0a, 0x11]

theorem readUuid_formatUuid_sample :
    sampleBytes.length = 16 ∧ readUuid (formatUuid sampleBytes) = formatUuid sampleBytes :=
  ⟨rfl, readUuid_formatUuid rfl⟩

example : readUuid "A0EEBC99-9C0B-4EF8-BB6D-6BB9BD380A11" = "a0eebc99-9c0b-4ef8-bb6d-6bb9bd380a11" := by
  decide

end Coldy.Uuid
