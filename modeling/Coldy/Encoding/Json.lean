import Mathlib.Data.List.Nodup
import Mathlib.Data.List.Sort
import Coldy.Encoding.Float

/-!
# `encoding/json`, on values

What `json.Marshal` and `json.Unmarshal` do to the Go values of the modelled paths, on JSON values
rather than on bytes: `encoding/json` reads back every value it writes, so a `[]byte` that holds
`json.Marshal(x)` is kept as the JSON value of `x`, except where the code marshals those bytes
again (`GoValue.bytes`); then their text (`JsonValue.encode`) and its base64 encoding are what
gets written.

`Unmarshal` is modelled for a fresh variable, which is how every modelled caller uses it, and into a
struct for objects that repeat no key whose field is a struct.  Numbers
are integers: no value of the modelled paths holds a fraction.  A `time.Time` is kept as the
RFC 3339 text it marshals to.

Decoding into an `interface{}` gives maps, slices, strings and `float64`s: a number goes through
`strconv.ParseFloat` (`convertNumber`, rounding as `Coldy.Json.roundFloat` does), and `json.Marshal`
writes a `float64` back as its shortest decimal (`floatJson`).  A map keeps the last value of a
repeated key (`goMap`) and is written with its keys sorted.  So a value whose numbers are below
`2^53` in magnitude and whose objects repeat no key decodes into `interface{}` and is written back
as itself, its object keys sorted (`unmarshal_interface_safe`); a larger integer comes back rounded.

`unmarshal_string_struct`: a JSON string does not decode into a struct.  What `json.Marshal`
writes of a struct whose fields each decode back, `json.Unmarshal` reads back into the struct's
type (`unmarshal_struct_marshal`), and likewise for a slice (`unmarshal_slice_marshal`).
-/

namespace Coldy.Json

/-- A JSON value. -/
inductive JsonValue
  | null
  | bool (b : Bool)
  | number (n : Int)
  /-- A number in exponent form, as `json.Marshal` writes a `float64` from `1e21` on: the integer
  it stands for. -/
  | exponent (n : Int)
  | string (s : String)
  | array (vs : List JsonValue)
  | object (kvs : List (String × JsonValue))
  deriving Repr

/-- The kind `UnmarshalTypeError` names for a value; a number's text is named only where an integer
or a `float64` refuses it. -/
def JsonValue.kind : JsonValue → String
  | .null => "null"
  | .bool _ => "bool"
  | .number _ | .exponent _ => "number"
  | .string _ => "string"
  | .array _ => "array"
  | .object _ => "object"

/-! ### Text -/

/-- The four hexadecimal digits of a code unit below `0x10000`. -/
def hex4 (n : Nat) : String :=
  String.mk ((List.range 4).reverse.map fun i => Nat.digitChar (n / Nat.pow 16 i % 16))

/-- One character of a string as `encodeState.string` writes it, with HTML escaping on. -/
def escapeChar (c : Char) : String :=
  if c = '"' then "\\\"" else if c = '\\' then "\\\\"
  else if c = '\n' then "\\n" else if c = '\r' then "\\r" else if c = '\t' then "\\t"
  else if c.toNat < 0x20 ∨ c = '<' ∨ c = '>' ∨ c = '&' ∨ c.toNat = 0x2028 ∨ c.toNat = 0x2029 then
    "\\u" ++ hex4 c.toNat
  else c.toString

/-- A string literal. -/
def quote (s : String) : String :=
  "\"" ++ String.join (s.toList.map escapeChar) ++ "\""

/-- The text of a number in exponent form. -/
def exponentText (n : Int) : String := (if n < 0 then "-" else "") ++ expForm n.natAbs

mutual

/-- The compact text `json.Marshal` writes. -/
def JsonValue.encode : JsonValue → String
  | .null => "null"
  | .bool b => if b then "true" else "false"
  | .number n => toString n
  | .exponent n => exponentText n
  | .string s => quote s
  | .array vs => "[" ++ encodeElems vs ++ "]"
  | .object kvs => "\x7b" ++ encodeMembers kvs ++ "\x7d"

/-- The elements of an array, comma-separated. -/
def encodeElems : List JsonValue → String
  | [] => ""
  | [v] => v.encode
  | v :: vs => v.encode ++ "," ++ encodeElems vs

/-- The members of an object, comma-separated. -/
def encodeMembers : List (String × JsonValue) → String
  | [] => ""
  | [(k, v)] => quote k ++ ":" ++ v.encode
  | (k, v) :: kvs => quote k ++ ":" ++ v.encode ++ "," ++ encodeMembers kvs

end

/-- The UTF-8 bytes of a text. -/
def utf8 (s : String) : List Nat :=
  s.toList.flatMap fun c => (String.utf8EncodeChar c).map UInt8.toNat

/-- `base64.StdEncoding`'s alphabet. -/
def base64Alphabet : List Char :=
  "ABCDEFGHIJKLMNOPQRSTUVWXYZabcdefghijklmnopqrstuvwxyz0123456789+/".toList

/-- The character for a sextet. -/
def base64Digit (n : Nat) : Char := base64Alphabet.getD n '='

/-- `base64.StdEncoding.EncodeToString`: three bytes to four characters, `=`-padded. -/
def base64Encode : List Nat → List Char
  | a :: b :: c :: rest =>
    let n := a * 65536 + b * 256 + c
    [base64Digit (n / 262144), base64Digit (n / 4096 % 64), base64Digit (n / 64 % 64),
      base64Digit (n % 64)] ++ base64Encode rest
  | [a, b] =>
    let n := a * 65536 + b * 256
    [base64Digit (n / 262144), base64Digit (n / 4096 % 64), base64Digit (n / 64 % 64), '=']
  | [a] => [base64Digit (a / 4), base64Digit (a % 4 * 16), '=', '=']
  | [] => []

/-! ### Times -/

/-- The proleptic Gregorian date of a day counted from 1970-01-01. -/
def civilFromDays (z : Int) : Int × Nat × Nat :=
  let z := z + 719468
  let era := z / 146097
  let doe := (z - era * 146097).toNat
  let yoe := (doe - doe / 1460 + doe / 36524 - doe / 146096) / 365
  let doy := doe - (365 * yoe + yoe / 4 - yoe / 100)
  let mp := (5 * doy + 2) / 153
  let d := doy - (153 * mp + 2) / 5 + 1
  let m := if mp < 10 then mp + 3 else mp - 9
  (yoe + era * 400 + (if m ≤ 2 then 1 else 0), m, d)

/-- `n` in `w` decimal digits, zero-padded. -/
def pad (w n : Nat) : String :=
  let s := toString n
  String.mk (List.replicate (w - s.length) '0') ++ s

/-- The fraction `.fffffffff` of `time.RFC3339Nano`, trailing zeros trimmed, empty when zero. -/
def fraction (ns : Nat) : String :=
  if ns = 0 then "" else "." ++ String.mk ((pad 9 ns).toList.reverse.dropWhile (· = '0')).reverse

/-- `time.Time.MarshalJSON` of an instant in nanoseconds since the epoch, in UTC. -/
def rfc3339 (t : Int) : String :=
  let secs := t / 1000000000
  let (y, m, d) := civilFromDays (secs / 86400)
  let s := (secs % 86400).toNat
  pad 4 y.toNat ++ "-" ++ pad 2 m ++ "-" ++ pad 2 d ++ "T" ++ pad 2 (s / 3600) ++ ":" ++
    pad 2 (s / 60 % 60) ++ ":" ++ pad 2 (s % 60) ++ fraction (t % 1000000000).toNat ++ "Z"

/-! ### Go maps -/

/-- `m[k] = v` on a Go map held as its entries, one per key, in the order the keys were first set. -/
def mapSet {β : Type} (m : List (String × β)) (k : String) (v : β) : List (String × β) :=
  if m.any (·.1 = k) then m.map fun e => if e.1 = k then (k, v) else e else m ++ [(k, v)]

/-- The map built by setting each entry in turn. -/
def goMap {β : Type} (kvs : List (String × β)) : List (String × β) :=
  kvs.foldl (fun m e => mapSet m e.1 e.2) []

section GoMap

variable {β : Type}

private theorem fst_mapSet_entry (x : String × β) (k : String) (v : β) :
    (if x.1 = k then (k, v) else x).1 = x.1 := by
  split <;> simp_all

theorem find?_mapSet (m : List (String × β)) (k p : String) (v : β) :
    (mapSet m k v).find? (·.1 = p) = ([(k, v)].find? (·.1 = p)).or (m.find? (·.1 = p)) := by
  unfold mapSet
  by_cases hk : k = p
  · subst hk
    split
    · rename_i hany
      obtain ⟨e, he, hek⟩ := List.any_eq_true.mp hany
      rw [List.find?_map]
      obtain ⟨e', he'⟩ : ∃ e', m.find? (·.1 = k) = some e' :=
        Option.isSome_iff_exists.mp (List.find?_isSome.mpr ⟨e, he, hek⟩)
      have hk' : e'.1 = k := by simpa using List.find?_some he'
      simp [Function.comp_def, fst_mapSet_entry, he', hk']
    · rename_i hany
      have : m.find? (·.1 = k) = none := List.find?_eq_none.mpr fun e he hek =>
        hany (List.any_eq_true.mpr ⟨e, he, hek⟩)
      simp [List.find?_append, this]
  · have hnil : [(k, v)].find? (·.1 = p) = none := by simp [hk]
    rw [hnil, Option.none_or]
    split
    · rw [List.find?_map]
      cases hf : m.find? (·.1 = p) with
      | none => simp [Function.comp_def, fst_mapSet_entry, hf]
      | some e =>
        have he : e.1 = p := by simpa using List.find?_some hf
        have : e.1 ≠ k := fun h => hk (h ▸ he)
        simp [Function.comp_def, fst_mapSet_entry, hf, this]
    · simp [List.find?_append, hnil]

/-- A key finds the value of its last entry. -/
theorem goMap_find? (kvs : List (String × β)) (p : String) :
    (goMap kvs).find? (·.1 = p) = kvs.reverse.find? (·.1 = p) := by
  suffices h : ∀ m, (kvs.foldl (fun m e => mapSet m e.1 e.2) m).find? (·.1 = p) =
      (kvs.reverse.find? (·.1 = p)).or (m.find? (·.1 = p)) by
    simpa using h []
  induction kvs with
  | nil => intro m; simp
  | cons e es ih =>
    intro m
    rw [List.foldl_cons, ih, find?_mapSet, List.reverse_cons, List.find?_append, Option.or_assoc]

/-- Setting a key keeps the keys one per entry. -/
theorem mapSet_nodup {m : List (String × β)} (hm : (m.map (·.1)).Nodup) (k : String) (v : β) :
    ((mapSet m k v).map (·.1)).Nodup := by
  unfold mapSet
  split
  · rwa [List.map_map, show ((·.1) ∘ fun e : String × β => if e.1 = k then (k, v) else e) =
      (·.1) from funext fun e => fst_mapSet_entry e k v]
  · rename_i hany
    rw [List.map_append, List.nodup_append]
    refine ⟨hm, List.nodup_singleton _, fun k' hk hk' => hany ?_⟩
    obtain ⟨e, he, rfl⟩ := List.mem_map.mp hk
    exact List.any_eq_true.mpr ⟨e, he, by simpa using hk'⟩

/-- A map has one entry per key. -/
theorem goMap_nodup (kvs : List (String × β)) : ((goMap kvs).map (·.1)).Nodup := by
  suffices h : ∀ m : List (String × β), (m.map (·.1)).Nodup →
      ((kvs.foldl (fun m e => mapSet m e.1 e.2) m).map (·.1)).Nodup from h [] List.nodup_nil
  induction kvs with
  | nil => exact fun _ h => h
  | cons e es ih => exact fun m hm => ih _ (mapSet_nodup hm e.1 e.2)

/-- Entries with distinct keys are the map they build, in their order. -/
theorem goMap_of_nodup {kvs : List (String × β)} (h : (kvs.map (·.1)).Nodup) :
    goMap kvs = kvs := by
  suffices hacc : ∀ m : List (String × β), ((m ++ kvs).map (·.1)).Nodup →
      kvs.foldl (fun m e => mapSet m e.1 e.2) m = m ++ kvs by simpa using hacc [] (by simpa using h)
  clear h
  induction kvs with
  | nil => intro m _; simp
  | cons e es ih =>
    intro m hm
    have hnew : m.any (·.1 = e.1) = false := by
      refine Bool.eq_false_iff.mpr fun hany => ?_
      obtain ⟨x, hx, hxe⟩ := List.any_eq_true.mp hany
      rw [List.map_append, List.nodup_append] at hm
      exact hm.2.2 (List.mem_map_of_mem _ hx) (by simp [show x.1 = e.1 by simpa using hxe])
    rw [List.foldl_cons, mapSet, if_neg (by simp [hnew]), ih _ (by simpa using hm)]
    simp

/-- In a list with one entry per key, an entry is what its key finds. -/
theorem find?_of_mem_nodup {m : List (String × β)} (hm : (m.map (·.1)).Nodup)
    {e : String × β} (he : e ∈ m) : m.find? (·.1 = e.1) = some e := by
  obtain ⟨x, hx⟩ : ∃ x, m.find? (·.1 = e.1) = some x :=
    Option.isSome_iff_exists.mp (List.find?_isSome.mpr ⟨e, he, by simp⟩)
  have hkey : x.1 = e.1 := by simpa using List.find?_some hx
  rw [hx, List.inj_on_of_nodup_map hm (List.mem_of_find?_eq_some hx) he hkey]

end GoMap

/-- The order `json.Marshal` writes a map's keys in: `strings.Compare`, the order of code points. -/
def KeyLe {α : Type} (a b : String × α) : Prop := ¬@LT.lt String String.instLT b.1 a.1

instance {α : Type} : DecidableRel (@KeyLe α) := fun a b =>
  @instDecidableNot _ (String.decLt b.1 a.1)

/-- `encoding/json`'s `floatEncoder` for a `float64` `v`: its shortest decimal, in `'f'` form below
`1e21` and in `'e'` form from there. -/
def floatJson (v : Int) : JsonValue :=
  let c : Int := if v < 0 then -(shortest v.natAbs : Int) else shortest v.natAbs
  if v.natAbs < 10 ^ 21 then .number c else .exponent c

/-! ### Go values -/

/-- A Go value as `encoding/json` sees it.  Struct fields are listed by their JSON names (the
field name, or the `json` tag), in declaration order. -/
inductive GoValue
  | null
  | str (s : String)
  | int (n : Int)
  /-- A `float64`; every one the model meets is an integer, and is kept as that integer. -/
  | float (v : Int)
  | bool (b : Bool)
  | bytes (b : List Nat)
  | raw (v : JsonValue)
  | time (text : String)
  | slice (vs : List GoValue)
  | struct (fields : List (String × GoValue))
  | map (kvs : List (String × GoValue))
  deriving Repr

mutual

/-- `json.Marshal`: `null` for a nil slice, map or interface, base64 for a `[]byte`, a
`RawMessage` as it is, map keys sorted. -/
def GoValue.marshal : GoValue → JsonValue
  | .null => .null
  | .str s => .string s
  | .int n => .number n
  | .float v => floatJson v
  | .bool b => .bool b
  | .bytes b => .string (String.mk (base64Encode b))
  | .raw v => v
  | .time text => .string text
  | .slice vs => .array (marshalElems vs)
  | .struct fs => .object (marshalMembers fs)
  | .map kvs => .object ((marshalMembers kvs).insertionSort KeyLe)

/-- The elements of a slice. -/
def marshalElems : List GoValue → List JsonValue
  | [] => []
  | v :: vs => v.marshal :: marshalElems vs

/-- The fields of a struct or the entries of a map. -/
def marshalMembers : List (String × GoValue) → List (String × JsonValue)
  | [] => []
  | (k, v) :: kvs => (k, v.marshal) :: marshalMembers kvs

end

/-- `json.Marshal(x)`: the bytes of its text. -/
def marshalBytes (x : GoValue) : List Nat := utf8 x.marshal.encode

/-- A Go type, as a decoding target. -/
inductive GoType
  | string (name : String)
  | int (bits : Nat) (name : String)
  | bool
  | time
  | raw
  | slice (elem : GoType)
  | struct (name : String) (fields : List (String × GoType))
  | map (elem : GoType)
  | interface
  deriving Repr

/-- The name `reflect` prints for a type. -/
def GoType.name : GoType → String
  | .string name | .int _ name | .struct name _ => name
  | .bool => "bool"
  | .time => "time.Time"
  | .raw => "json.RawMessage"
  | .slice elem => "[]" ++ elem.name
  | .map elem => "map[string]" ++ elem.name
  | .interface => "interface {}"

mutual

/-- The zero value. -/
def GoType.zero : GoType → GoValue
  | .string _ => .str ""
  | .int _ _ => .int 0
  | .bool => .bool false
  | .time => .time "0001-01-01T00:00:00Z"
  | .raw => .null
  | .slice _ | .map _ | .interface => .null
  | .struct _ fs => .struct (zeroFields fs)

/-- The zero values of a struct's fields. -/
def zeroFields : List (String × GoType) → List (String × GoValue)
  | [] => []
  | (k, t) :: fs => (k, t.zero) :: zeroFields fs

end

/-- An `UnmarshalTypeError`: the JSON kind, the Go type, and, inside a struct, the struct and the
field path. -/
structure TypeError where
  value : String
  type : String
  field : Option (String × String)

/-- `UnmarshalTypeError.Error`. -/
def TypeError.message (e : TypeError) : String :=
  match e.field with
  | none => "json: cannot unmarshal " ++ e.value ++ " into Go value of type " ++ e.type
  | some (s, f) =>
    "json: cannot unmarshal " ++ e.value ++ " into Go struct field " ++ s ++ "." ++ f ++
      " of type " ++ e.type

/-- `reflect.Type.Name()` of a struct type named `pkg.Name`: the name without its package. -/
def unqualified (name : String) : String := ⟨(name.data.reverse.takeWhile (· ≠ '.')).reverse⟩

/-- The error decoding field `k` of the struct type named `s` gives, in the field's context: the
innermost struct's `Name()` and the path of JSON field names from the outermost. -/
def TypeError.inField (s k : String) (e : TypeError) : TypeError :=
  { e with field := some (match e.field with
    | none => (unqualified s, k)
    | some (s', f) => (s', k ++ "." ++ f)) }

/-- Whether a JSON number fits a signed integer of `bits` bits. -/
def fitsInt (bits : Nat) (n : Int) : Bool :=
  decide (-(Nat.pow 2 (bits - 1) : Int) ≤ n ∧ n < (Nat.pow 2 (bits - 1) : Int))

/-- Whether key `k` names field `f`: exactly, or up to ASCII case. -/
def keyMatches (k f : String) : Bool := k == f || k.toLower == f.toLower

/-- Replace the first field `k` names (exactly if one does, else up to case). -/
def setField (k : String) (v : GoValue) (fs : List (String × GoValue)) : List (String × GoValue) :=
  match fs.findIdx? (·.1 == k) <|> fs.findIdx? (keyMatches k ·.1) with
  | some i => fs.modify (fun kv => (kv.1, v)) i
  | none => fs

/-- `strconv.ParseFloat(_, 64)` of an integer's text: its `float64`, or `none` beyond the largest
finite one (`ErrRange`). -/
def parseFloat (n : Int) : Option Int :=
  let r := roundFloat n.natAbs
  if floatOverflow ≤ r then none else some (if n < 0 then -(r : Int) else r)

/-- `decodeState.convertNumber` of a number's text `text`, standing for `n`: its `float64`. -/
def convertNumber (text : String) (n : Int) : Except TypeError GoValue :=
  match parseFloat n with
  | some v => .ok (.float v)
  | none => .error ⟨"number " ++ text, "float64", none⟩

mutual

/-- `json.Unmarshal` of a value into a fresh variable of a type.  Into an `interface{}`, an array
decodes as into an `[]interface{}` and an object as into a `map[string]interface{}`. -/
def unmarshal : GoType → JsonValue → Except TypeError GoValue
  | .raw, v => .ok (.raw v)
  | t, .null => .ok t.zero
  | .string _, .string s => .ok (.str s)
  | .int bits name, .number n =>
    if fitsInt bits n then .ok (.int n) else .error ⟨"number " ++ toString n, name, none⟩
  | .int _ name, .exponent n => .error ⟨"number " ++ exponentText n, name, none⟩
  | .bool, .bool b => .ok (.bool b)
  | .time, .string s => .ok (.time s)
  | .slice t, .array vs => (unmarshalElems t vs).map .slice
  | .struct name fs, .object kvs => (unmarshalMembers name fs kvs (zeroFields fs)).map .struct
  | .map t, .object kvs => (unmarshalEntries t kvs).map fun m => .map (goMap m)
  | .interface, .bool b => .ok (.bool b)
  | .interface, .number n => convertNumber (toString n) n
  | .interface, .exponent n => convertNumber (exponentText n) n
  | .interface, .string s => .ok (.str s)
  | .interface, .array vs => (unmarshalElems .interface vs).map .slice
  | .interface, .object kvs => (unmarshalEntries .interface kvs).map fun m => .map (goMap m)
  | t, v => .error ⟨v.kind, t.name, none⟩

/-- The elements of an array, into a slice. -/
def unmarshalElems (t : GoType) : List JsonValue → Except TypeError (List GoValue)
  | [] => .ok []
  | v :: vs => do
    let x ← unmarshal t v
    let xs ← unmarshalElems t vs
    return x :: xs

/-- The members of an object, into the fields `acc` of struct `name`, in order: an unknown key is
skipped; the first error is the result. -/
def unmarshalMembers (name : String) (fs : List (String × GoType)) :
    List (String × JsonValue) → List (String × GoValue) → Except TypeError (List (String × GoValue))
  | [], acc => .ok acc
  | (k, v) :: kvs, acc =>
    match fs.find? (·.1 == k) <|> fs.find? (keyMatches k ·.1) with
    | none => unmarshalMembers name fs kvs acc
    | some (f, t) =>
      match unmarshal t v with
      | .error e => .error (e.inField name f)
      | .ok x => unmarshalMembers name fs kvs (setField f x acc)

/-- The members of an object, decoded in order into a map's element type: the entries set, or the
first error. -/
def unmarshalEntries (t : GoType) : List (String × JsonValue) → Except TypeError (List (String × GoValue))
  | [] => .ok []
  | (k, v) :: kvs => do
    let x ← unmarshal t v
    let xs ← unmarshalEntries t kvs
    return (k, x) :: xs

end

example : (unmarshal (.struct "idempotency.Item" [("quantity", .int 32 "int32")])
    (.object [("quantity", .string "x")])).mapError TypeError.message =
      .error "json: cannot unmarshal string into Go struct field Item.quantity of type int32" :=
  rfl

/-- A JSON string does not decode into a struct. -/
@[simp] theorem unmarshal_string_struct (name : String) (fs : List (String × GoType)) (s : String) :
    unmarshal (.struct name fs) (.string s) = .error ⟨"string", name, none⟩ := rfl

/-! ### Round trips -/

private theorem findIdx?_key_append {β : Type} {k : String} {x : β} {pre post : List (String × β)}
    (h : k ∉ pre.map (·.1)) : (pre ++ (k, x) :: post).findIdx? (·.1 == k) = some pre.length := by
  have hpre : pre.findIdx? (·.1 == k) = none := List.findIdx?_eq_none_iff.mpr fun y hy =>
    beq_eq_false_iff_ne.mpr fun he => h (List.mem_map.mpr ⟨y, hy, he⟩)
  simp [hpre]

private theorem find?_key_append {β : Type} {k : String} {x : β} {pre post : List (String × β)}
    (h : k ∉ pre.map (·.1)) : (pre ++ (k, x) :: post).find? (·.1 == k) = some (k, x) := by
  have hpre : pre.find? (·.1 == k) = none :=
    List.find?_eq_none.mpr fun y hy hk => h (List.mem_map.mpr ⟨y, hy, by simpa using hk⟩)
  simp [hpre]

private theorem modify_append_length {α : Type} (f : α → α) (pre post : List α) (x : α) :
    (pre ++ x :: post).modify f pre.length = pre ++ f x :: post := by
  induction pre with
  | nil => rfl
  | cons a pre ih => simp [ih]

/-- Setting a field that no earlier field names replaces that field. -/
theorem setField_append {k : String} {v x : GoValue} {pre post : List (String × GoValue)}
    (h : k ∉ pre.map (·.1)) : setField k v (pre ++ (k, x) :: post) = pre ++ (k, v) :: post := by
  simp only [setField, findIdx?_key_append h]
  exact modify_append_length _ pre post (k, x)

/-- A `json.RawMessage` takes any value as it is. -/
theorem unmarshal_raw (v : JsonValue) : unmarshal .raw v = .ok (.raw v) := by
  cases v <;> rfl

/-- An integer that fits its type decodes back. -/
theorem unmarshal_int_marshal {bits : Nat} {name : String} {n : Int} (h : fitsInt bits n = true) :
    unmarshal (.int bits name) (GoValue.int n).marshal = .ok (.int n) :=
  show (if fitsInt bits n then _ else _) = _ from if_pos h

/-- A field of a struct type and a field of a struct value: one name, and the value decodes back
from its JSON into the field's type. -/
def DecodesAs (f : String × GoType) (v : String × GoValue) : Prop :=
  f.1 = v.1 ∧ unmarshal f.2 v.2.marshal = .ok v.2

/-- Decoding the members of a marshalled struct: once the fields `pre` are decoded into `vpre`,
the rest decode into `vpost`. -/
theorem unmarshalMembers_marshal {name : String} {fs pre post : List (String × GoType)}
    {vpre vpost : List (String × GoValue)} (hfs : fs = pre ++ post)
    (hnd : (fs.map (·.1)).Nodup) (hpre : vpre.map (·.1) = pre.map (·.1))
    (hpost : List.Forall₂ DecodesAs post vpost) :
    unmarshalMembers name fs (marshalMembers vpost) (vpre ++ zeroFields post) =
      .ok (vpre ++ vpost) := by
  induction hpost generalizing pre vpre with
  | nil => simp [unmarshalMembers, zeroFields]
  | @cons f v post vpost hfv _ ih =>
    obtain ⟨k, t⟩ := f
    obtain ⟨k', x⟩ := v
    obtain ⟨rfl, hx⟩ := hfv
    have hk : k ∉ pre.map (·.1) := fun hm => by
      subst hfs
      rw [List.map_append, List.map_cons] at hnd
      exact (List.pairwise_append.mp hnd).2.2 k hm k (List.mem_cons_self _ _) rfl
    have hfind : fs.find? (·.1 == k) = some (k, t) := hfs ▸ find?_key_append hk
    have hset : setField k x (vpre ++ (k, t.zero) :: zeroFields post) =
        (vpre ++ [(k, x)]) ++ zeroFields post := by
      rw [setField_append (hpre ▸ hk), List.append_assoc]; rfl
    have ih' := @ih (pre ++ [(k, t)]) (vpre ++ [(k, x)]) (by rw [hfs, List.append_assoc]; rfl)
      (by simp [hpre])
    simp only [List.append_assoc, List.singleton_append] at ih' hset
    simp only at hx
    simp only [marshalMembers, zeroFields, unmarshalMembers, hfind, Option.some_orElse, hx, hset,
      ih']

/-- A struct whose fields have distinct names and each decode back decodes back. -/
theorem unmarshal_struct_marshal {name : String} {fs : List (String × GoType)}
    {vs : List (String × GoValue)} (hnd : (fs.map (·.1)).Nodup) (h : List.Forall₂ DecodesAs fs vs) :
    unmarshal (.struct name fs) (GoValue.struct vs).marshal = .ok (.struct vs) := by
  show (unmarshalMembers name fs (marshalMembers vs) ([] ++ zeroFields fs)).map GoValue.struct = _
  rw [@unmarshalMembers_marshal name fs [] fs [] vs rfl hnd rfl h]
  rfl

/-- A slice whose elements each decode back decodes back. -/
theorem unmarshal_slice_marshal {t : GoType} {vs : List GoValue}
    (h : ∀ v ∈ vs, unmarshal t v.marshal = .ok v) :
    unmarshal (.slice t) (GoValue.slice vs).marshal = .ok (.slice vs) := by
  show (unmarshalElems t (marshalElems vs)).map GoValue.slice = _
  suffices unmarshalElems t (marshalElems vs) = .ok vs by rw [this]; rfl
  induction vs with
  | nil => rfl
  | cons v vs ih =>
    simp only [marshalElems, unmarshalElems, h v (List.mem_cons_self _ _),
      ih fun w hw => h w (List.mem_cons_of_mem _ hw)]
    rfl

/-! ### Decoding into `interface{}` -/

/-- An integer below `2^53` in magnitude is its own `float64`. -/
theorem parseFloat_of_lt {n : Int} (h : n.natAbs < 2 ^ 53) : parseFloat n = some n := by
  have hr : roundFloat n.natAbs = n.natAbs := roundFloat_of_lt h
  have hlt : n.natAbs < floatOverflow := h.trans (by decide)
  simp only [parseFloat, hr, if_neg (Nat.not_le.mpr hlt), Option.some.injEq]
  omega

/-- Rounding at most doubles an integer, so one well below `2^1024` parses. -/
theorem convertNumber_ok (text : String) {n : Int} (h : 2 * n.natAbs + 1 < floatOverflow) :
    ∃ g, convertNumber text n = .ok g := by
  have hlt : roundFloat n.natAbs < floatOverflow := (roundFloat_le _).trans_lt h
  simp only [convertNumber, parseFloat, if_neg (Nat.not_le.mpr hlt)]
  exact ⟨_, rfl⟩

/-- A `float64` below `2^53` in magnitude is written as the integer it is. -/
theorem floatJson_of_lt {n : Int} (h : n.natAbs < 2 ^ 53) : floatJson n = .number n := by
  have hc : shortest n.natAbs = n.natAbs := shortest_of_lt h
  simp only [floatJson, hc, if_pos (h.trans (by decide) : n.natAbs < 10 ^ 21),
    JsonValue.number.injEq]
  omega

example : unmarshal .interface (.number (2 ^ 53 + 1)) = .ok (.float (2 ^ 53)) := rfl

theorem unmarshalEntries_ok {t : GoType} :
    ∀ {kvs : List (String × JsonValue)}, (∀ kv ∈ kvs, ∃ g, unmarshal t kv.2 = .ok g) →
      ∃ ms, unmarshalEntries t kvs = .ok ms
  | [], _ => ⟨[], rfl⟩
  | (k, v) :: kvs, h => by
    obtain ⟨g, hg⟩ := h (k, v) (List.mem_cons_self _ _)
    obtain ⟨ms, hms⟩ := unmarshalEntries_ok fun kv hkv => h kv (List.mem_cons_of_mem _ hkv)
    exact ⟨(k, g) :: ms, by simp only [unmarshalEntries, hg, hms]; rfl⟩

mutual

/-- Whether a Go value is built from nulls, strings, booleans, bytes, times, `int64`s, slices,
structs and maps, as the services' payloads are. -/
def GoValue.plain : GoValue → Bool
  | .int n => fitsInt 64 n
  | .float _ | .raw _ => false
  | .slice vs => plainElems vs
  | .struct fs | .map fs => plainMembers fs
  | .null | .str _ | .bool _ | .bytes _ | .time _ => true

/-- Whether every element is plain. -/
def plainElems : List GoValue → Bool
  | [] => true
  | v :: vs => v.plain && plainElems vs

/-- Whether every field or entry is plain. -/
def plainMembers : List (String × GoValue) → Bool
  | [] => true
  | (_, v) :: fs => v.plain && plainMembers fs

end

private theorem int64_double_lt {n : Int} (h : fitsInt 64 n = true) :
    2 * n.natAbs + 1 < floatOverflow := by
  have hb : -(9223372036854775808 : Int) ≤ n ∧ n < 9223372036854775808 := by
    simpa [fitsInt] using h
  have hf : 2 * 9223372036854775808 + 1 < floatOverflow := by decide
  omega

mutual

/-- What `json.Marshal` writes of a plain value decodes into `interface{}`. -/
theorem unmarshal_interface_plain : ∀ {x : GoValue}, x.plain = true →
    ∃ g, unmarshal .interface x.marshal = .ok g
  | .null, _ | .str _, _ | .bool _, _ | .bytes _, _ | .time _, _ => ⟨_, rfl⟩
  | .int n, h => convertNumber_ok _ (int64_double_lt h)
  | .slice vs, h => by
    obtain ⟨gs, hgs⟩ := @unmarshalElems_interface_plain vs h
    exact ⟨.slice gs, show (unmarshalElems .interface (marshalElems vs)).map _ = _ by rw [hgs]; rfl⟩
  | .struct fs, h => by
    obtain ⟨ms, hms⟩ := unmarshalEntries_ok (@unmarshalMembers_interface_plain fs h)
    exact ⟨_, show (unmarshalEntries .interface (marshalMembers fs)).map _ = _ by rw [hms]; rfl⟩
  | .map fs, h => by
    have hsorted : ∀ kv ∈ (marshalMembers fs).insertionSort KeyLe,
        ∃ g, unmarshal .interface kv.2 = .ok g := fun kv hkv =>
      @unmarshalMembers_interface_plain fs h kv ((List.perm_insertionSort _ _).mem_iff.mp hkv)
    obtain ⟨ms, hms⟩ := unmarshalEntries_ok hsorted
    exact ⟨_, show (unmarshalEntries .interface _).map _ = _ by rw [hms]; rfl⟩

theorem unmarshalElems_interface_plain : ∀ {xs : List GoValue}, plainElems xs = true →
    ∃ gs, unmarshalElems .interface (marshalElems xs) = .ok gs
  | [], _ => ⟨[], rfl⟩
  | x :: xs, h => by
    obtain ⟨hx, hxs⟩ := Bool.and_eq_true_iff.mp h
    obtain ⟨g, hg⟩ := unmarshal_interface_plain hx
    obtain ⟨gs, hgs⟩ := unmarshalElems_interface_plain hxs
    exact ⟨g :: gs, by simp only [marshalElems, unmarshalElems, hg, hgs]; rfl⟩

theorem unmarshalMembers_interface_plain : ∀ {fs : List (String × GoValue)},
    plainMembers fs = true → ∀ kv ∈ marshalMembers fs, ∃ g, unmarshal .interface kv.2 = .ok g
  | [], _ => fun _ h => nomatch h
  | (_, x) :: fs, h => by
    obtain ⟨hx, hfs⟩ := Bool.and_eq_true_iff.mp h
    intro kv hkv
    rcases List.mem_cons.mp hkv with rfl | hkv
    · exact unmarshal_interface_plain hx
    · exact unmarshalMembers_interface_plain hfs kv hkv

end

/-- What `json.Marshal` writes of a plain map decodes into a `map[string]interface{}`. -/
theorem unmarshal_map_plain {fs : List (String × GoValue)} (h : (GoValue.map fs).plain = true) :
    ∃ g, unmarshal (.map .interface) (GoValue.map fs).marshal = .ok g :=
  unmarshal_interface_plain h

mutual

/-- Whether a value comes back from `interface{}` as itself up to the order of object keys: every
number below `2^53` in magnitude and not in exponent form, and no object repeating a key. -/
def JsonValue.safe : JsonValue → Bool
  | .number n => n.natAbs < 2 ^ 53
  | .exponent _ => false
  | .array vs => safeElems vs
  | .object kvs => (kvs.map (·.1)).Nodup && safeMembers kvs
  | .null | .bool _ | .string _ => true

/-- Whether every element is safe. -/
def safeElems : List JsonValue → Bool
  | [] => true
  | v :: vs => v.safe && safeElems vs

/-- Whether every member is safe. -/
def safeMembers : List (String × JsonValue) → Bool
  | [] => true
  | (_, v) :: kvs => v.safe && safeMembers kvs

end

mutual

/-- A value with the keys of every object sorted as `json.Marshal` writes a map's. -/
def JsonValue.sorted : JsonValue → JsonValue
  | .array vs => .array (sortedElems vs)
  | .object kvs => .object ((sortedMembers kvs).insertionSort KeyLe)
  | .null => .null
  | .bool b => .bool b
  | .number n => .number n
  | .exponent n => .exponent n
  | .string s => .string s

/-- The elements, sorted. -/
def sortedElems : List JsonValue → List JsonValue
  | [] => []
  | v :: vs => v.sorted :: sortedElems vs

/-- The members, their values sorted. -/
def sortedMembers : List (String × JsonValue) → List (String × JsonValue)
  | [] => []
  | (k, v) :: kvs => (k, v.sorted) :: sortedMembers kvs

end

mutual

/-- A safe value decodes into `interface{}`, and `json.Marshal` writes it back with its object keys
sorted. -/
theorem unmarshal_interface_safe : ∀ {v : JsonValue}, v.safe = true →
    ∃ g, unmarshal .interface v = .ok g ∧ g.marshal = v.sorted
  | .null, _ | .bool _, _ | .string _, _ => ⟨_, rfl, rfl⟩
  | .number n, h => by
    have hn : n.natAbs < 2 ^ 53 := of_decide_eq_true h
    refine ⟨.float n, show convertNumber _ n = _ by simp only [convertNumber, parseFloat_of_lt hn], ?_⟩
    exact floatJson_of_lt hn
  | .exponent _, h => absurd h Bool.false_ne_true
  | .array vs, h => by
    obtain ⟨gs, hgs, hm⟩ := @unmarshalElems_interface_safe vs h
    exact ⟨.slice gs, show (unmarshalElems .interface vs).map _ = _ by rw [hgs]; rfl,
      by simp only [GoValue.marshal, hm]; rfl⟩
  | .object kvs, h => by
    obtain ⟨hnd, hkvs⟩ := Bool.and_eq_true_iff.mp h
    obtain ⟨ms, hms, hkeys, hm⟩ := unmarshalEntries_interface_safe hkvs
    have hmap : goMap ms = ms := goMap_of_nodup (hkeys ▸ of_decide_eq_true hnd)
    exact ⟨.map ms, show (unmarshalEntries .interface kvs).map _ = _ by
      rw [hms]; exact congrArg (fun m => (.ok (.map m) : Except TypeError GoValue)) hmap,
      by simp only [GoValue.marshal, hm]; rfl⟩

theorem unmarshalElems_interface_safe : ∀ {vs : List JsonValue}, safeElems vs = true →
    ∃ gs, unmarshalElems .interface vs = .ok gs ∧ marshalElems gs = sortedElems vs
  | [], _ => ⟨[], rfl, rfl⟩
  | v :: vs, h => by
    obtain ⟨hv, hvs⟩ := Bool.and_eq_true_iff.mp h
    obtain ⟨g, hg, hgm⟩ := unmarshal_interface_safe hv
    obtain ⟨gs, hgs, hgsm⟩ := unmarshalElems_interface_safe hvs
    exact ⟨g :: gs, by simp only [unmarshalElems, hg, hgs]; rfl,
      by simp only [marshalElems, sortedElems, hgm, hgsm]⟩

theorem unmarshalEntries_interface_safe : ∀ {kvs : List (String × JsonValue)},
    safeMembers kvs = true → ∃ ms, unmarshalEntries .interface kvs = .ok ms ∧
      ms.map (·.1) = kvs.map (·.1) ∧ marshalMembers ms = sortedMembers kvs
  | [], _ => ⟨[], rfl, rfl, rfl⟩
  | (k, v) :: kvs, h => by
    obtain ⟨hv, hkvs⟩ := Bool.and_eq_true_iff.mp h
    obtain ⟨g, hg, hgm⟩ := unmarshal_interface_safe hv
    obtain ⟨ms, hms, hkeys, hmm⟩ := unmarshalEntries_interface_safe hkvs
    exact ⟨(k, g) :: ms, by simp only [unmarshalEntries, hg, hms]; rfl, by simp [hkeys],
      by simp only [marshalMembers, sortedMembers, hgm, hmm]⟩

end

/-- Decoded into a `map[string]interface{}` and marshalled again, a safe value is written back with
its object keys sorted. -/
theorem unmarshal_map_safe {v : JsonValue} {g : GoValue} (hv : v.safe = true)
    (h : unmarshal (.map .interface) v = .ok g) : g.marshal = v.sorted := by
  cases v with
  | null => cases h; rfl
  | object kvs =>
    obtain ⟨g', hg', hm⟩ := unmarshal_interface_safe hv
    have hsame : unmarshal (.map .interface) (.object kvs) = unmarshal .interface (.object kvs) :=
      rfl
    rw [hsame, hg'] at h
    cases h
    exact hm
  | bool _ | number _ | exponent _ | string _ | array _ => cases h

end Coldy.Json
