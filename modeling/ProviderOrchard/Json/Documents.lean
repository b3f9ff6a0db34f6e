/-
JSON documents as the credentials may hold them, at two levels.  `JsonText` is the
text: every token as written, string bodies with their escapes, and the whitespace
between tokens; `JsonText.bytes` writes it out.  `JsonValue` is what the text means,
with the whitespace gone and strings decoded.  `JsonValue.decodeMap` says what
`json.Unmarshal` into a nil `map[string]string` is for: `null` leaves the map nil,
an object sets one element per member, the last of equal keys winning, and the first
member whose value is no string (nor `null`) makes the call fail with its
`UnmarshalTypeError`; any other value fails at once.
-/
import ProviderOrchard.Json.DecoderSync

namespace ProviderOrchard

namespace Json

/-! ### The text -/

/-- Whitespace between tokens. -/
structure Ws where
  bytes : Bytes
  space : ∀ c ∈ bytes, isSpace c = true

/-- No whitespace. -/
def Ws.none : Ws := ⟨[], fun _ h => absurd h (List.not_mem_nil _)⟩

/-- A string literal: its body as written between the quotes, escapes included. -/
structure JsonString where
  body : Bytes
  wf : StrBody body

/-- The literal with its quotes. -/
def JsonString.bytes (s : JsonString) : Bytes := 0x22 :: (s.body ++ [0x22])

/-- The string the literal denotes: `unquoteBytes` takes every body the scanner accepts. -/
def JsonString.value (s : JsonString) : Bytes := (unquoteBytes s.bytes).get (unquoteBytes_strBody s.wf)

theorem JsonString.unquoteBytes_bytes (s : JsonString) : unquoteBytes s.bytes = some s.value :=
  (Option.some_get _).symm

/-- A body of plain bytes: no control byte, quote or backslash. -/
theorem StrBody.of_plain : ∀ {b : Bytes}, (∀ c ∈ b, 0x20 ≤ c ∧ c ≠ 0x22 ∧ c ≠ 0x5C) → StrBody b
  | [], _ => .nil
  | c :: _, h =>
    have hc := h c (List.mem_cons_self _ _)
    .plain hc.1 hc.2.1 hc.2.2 (StrBody.of_plain fun x hx => h x (List.mem_cons_of_mem _ hx))

/-- A run of decimal digits, at least one. -/
structure Digits where
  bytes : Bytes
  nonempty : bytes ≠ []
  digit : ∀ c ∈ bytes, isDigit c = true

/-- The exponent of a number: `e` or `E`, an optional sign, digits. -/
structure JsonExponent where
  mark : UInt8
  sign : Option UInt8
  digits : Digits
  mark_wf : mark = 0x65 ∨ mark = 0x45
  sign_wf : ∀ g ∈ sign, g = 0x2B ∨ g = 0x2D

/-- A number as the scanner's grammar has it: an optional minus, an integer part that
is `0` or starts with `1`-`9`, an optional fraction, an optional exponent. -/
structure JsonNumber where
  neg : Bool
  int : Digits
  int_wf : int.bytes = [0x30] ∨ int.bytes.head? ≠ some 0x30
  frac : Option Digits
  exp : Option JsonExponent

def JsonExponent.bytes (e : JsonExponent) : Bytes := e.mark :: (e.sign.toList ++ e.digits.bytes)

def JsonNumber.bytes (n : JsonNumber) : Bytes :=
  (if n.neg then [0x2D] else []) ++ n.int.bytes ++ ((n.frac.map fun f => 0x2E :: f.bytes).getD []) ++
    ((n.exp.map JsonExponent.bytes).getD [])

/-- Something with the whitespace written before and after it. -/
structure Padded (α : Type) where
  before : Ws
  val : α
  after : Ws

/-- The text of a JSON value.  A non-empty array or object keeps its first element
apart from the rest, which follow commas. -/
inductive JsonText where
  | null
  | bool (b : Bool)
  | number (n : JsonNumber)
  | string (s : JsonString)
  | emptyArray (inner : Ws)
  | array (first : Padded JsonText) (rest : List (Padded JsonText))
  | emptyObject (inner : Ws)
  | object (first : Padded JsonString × Padded JsonText)
      (rest : List (Padded JsonString × Padded JsonText))

mutual
/-- The bytes of a value's text. -/
def JsonText.bytes : JsonText → Bytes
  | .null => lit "null"
  | .bool b => if b then lit "true" else lit "false"
  | .number n => n.bytes
  | .string s => s.bytes
  | .emptyArray ws => 0x5B :: (ws.bytes ++ [0x5D])
  | .array e es => 0x5B :: (paddedBytes e ++ elemsBytes es ++ [0x5D])
  | .emptyObject ws => 0x7B :: (ws.bytes ++ [0x7D])
  | .object m ms => 0x7B :: (memberBytes m ++ membersBytes ms ++ [0x7D])

/-- A value with its whitespace. -/
def paddedBytes : Padded JsonText → Bytes
  | ⟨b, v, a⟩ => b.bytes ++ v.bytes ++ a.bytes

/-- The elements after an array's first, each after a comma. -/
def elemsBytes : List (Padded JsonText) → Bytes
  | [] => []
  | e :: es => 0x2C :: (paddedBytes e ++ elemsBytes es)

/-- A member: the key, a colon, the value. -/
def memberBytes : Padded JsonString × Padded JsonText → Bytes
  | (⟨kb, k, ka⟩, v) => kb.bytes ++ k.bytes ++ ka.bytes ++ 0x3A :: paddedBytes v

/-- The members after an object's first, each after a comma. -/
def membersBytes : List (Padded JsonString × Padded JsonText) → Bytes
  | [] => []
  | m :: ms => 0x2C :: (memberBytes m ++ membersBytes ms)
end

/-! ### What the text means -/

/-- A JSON value: the text with its whitespace dropped and its strings decoded. -/
inductive JsonValue where
  | null
  | bool (b : Bool)
  | number (n : JsonNumber)
  | string (s : Bytes)
  | array (elems : List JsonValue)
  | object (members : List (Bytes × JsonValue))

mutual
def JsonText.value : JsonText → JsonValue
  | .null => .null
  | .bool b => .bool b
  | .number n => .number n
  | .string s => .string s.value
  | .emptyArray _ => .array []
  | .array ⟨_, v, _⟩ es => .array (v.value :: elemsValue es)
  | .emptyObject _ => .object []
  | .object (⟨_, k, _⟩, ⟨_, v, _⟩) ms => .object ((k.value, v.value) :: membersValue ms)

def elemsValue : List (Padded JsonText) → List JsonValue
  | [] => []
  | ⟨_, v, _⟩ :: es => v.value :: elemsValue es

def membersValue : List (Padded JsonString × Padded JsonText) → List (Bytes × JsonValue)
  | [] => []
  | (⟨_, k, _⟩, ⟨_, v, _⟩) :: ms => (k.value, v.value) :: membersValue ms
end

mutual
/-- How deep arrays and objects nest: the scanner's stack at its highest. -/
def JsonValue.depth : JsonValue → Nat
  | .array vs => elemsDepth vs + 1
  | .object ms => membersDepth ms + 1
  | _ => 0

def elemsDepth : List JsonValue → Nat
  | [] => 0
  | v :: vs => max v.depth (elemsDepth vs)

def membersDepth : List (Bytes × JsonValue) → Nat
  | [] => 0
  | (_, v) :: ms => max v.depth (membersDepth ms)
end

/-- The kind of a value, as `UnmarshalTypeError` names it. -/
def JsonValue.kind : JsonValue → Bytes
  | .null => lit "null"
  | .bool _ => lit "bool"
  | .number _ => lit "number"
  | .string _ => lit "string"
  | .array _ => lit "array"
  | .object _ => lit "object"

/-- A member's value stored into a `string` element: a string is stored, `null` leaves
the empty string, any other value leaves it too and is a type error. -/
def JsonValue.stringElem : JsonValue → Bytes × Option JsonError
  | .null => ([], none)
  | .string s => (s, none)
  | v => ([], some (.unmarshalType v.kind stringType))

/-- The members stored into the map in order, with the first type error. -/
def decodeMembers : List (Bytes × JsonValue) → GoMap × Option JsonError → GoMap × Option JsonError
  | [], r => r
  | (k, v) :: ms, (m, e) => decodeMembers ms (m.set k v.stringElem.1, e.or v.stringElem.2)

/-- `json.Unmarshal` into a nil `map[string]string`, as it is meant: the map afterwards
(`none` while nil) or the error. -/
def JsonValue.decodeMap : JsonValue → Except JsonError (Option GoMap)
  | .null => .ok none
  | .object ms =>
    match decodeMembers ms (GoMap.empty, none) with
    | (m, none) => .ok (some m)
    | (_, some e) => .error e
  | v => .error (.unmarshalType v.kind mapType)

end Json

end ProviderOrchard
