/-
`json.Unmarshal` into a `map[string]string`, as `extractToken` calls it, from
encoding/json's decode.go (Go 1.22).
`Unmarshal` runs `checkValid` first; the decoder then walks the same bytes with
the same scanner, stepping it byte by byte except over literals, which
`rescanLiteral` passes over in one go.  The target type is fixed, so `value`,
`object`, `array` and `literalStore` are written for the two kinds they meet:
the map and its `string` elements.  A value of another kind is skipped with an
`UnmarshalTypeError`, the first of which is returned once decoding ends.
-/
import ProviderOrchard.Json.Strings
import ProviderOrchard.Script

namespace ProviderOrchard

/-- `m[k] = v`. -/
def GoMap.set (m : GoMap) (k v : Bytes) : GoMap :=
  ⟨(k, v) :: m.entries.filter (fun e => e.1 ≠ k), by
    rw [List.map_cons, List.nodup_cons]
    refine ⟨fun h => ?_, m.keys_nodup.sublist ((List.filter_sublist _).map _)⟩
    obtain ⟨e, he, hk⟩ := List.mem_map.mp h
    exact (of_decide_eq_true (List.mem_filter.mp he).2) hk⟩

@[simp] theorem GoMap.lookup_set (m : GoMap) (k v k' : Bytes) :
    (m.set k v).lookup k' = if k = k' then some v else m.lookup k' := by
  by_cases h : k = k'
  · subst h
    simp [GoMap.lookup, GoMap.set]
  · simp only [GoMap.lookup, GoMap.set, List.find?_cons, decide_eq_false h, if_neg h,
      List.find?_filter]
    congr 2
    funext e
    by_cases he : e.1 = k' <;> simp [he, Ne.symm h]

/-- The empty map `reflect.MakeMap` makes. -/
def GoMap.empty : GoMap := ⟨[], List.nodup_nil⟩

/-- Setting entries in order: a key is bound to its last entry, or as before. -/
theorem GoMap.lookup_foldl_set (es : List (Bytes × Bytes)) (m : GoMap) (k : Bytes) :
    (es.foldl (fun m e => m.set e.1 e.2) m).lookup k =
      ((es.reverse.find? fun e => e.1 = k).map Prod.snd).or (m.lookup k) := by
  induction es generalizing m with
  | nil => rfl
  | cons e es ih =>
    rw [List.foldl_cons, ih, GoMap.lookup_set, List.reverse_cons, List.find?_append, Option.map_or',
      Option.or_assoc]
    by_cases he : e.1 = k <;> simp [he]

/-- Setting a map's entries, sorted, into the empty map gives back its bindings. -/
theorem GoMap.lookup_foldl_mergeSort (m : GoMap) (le : Bytes × Bytes → Bytes × Bytes → Bool) (k : Bytes) :
    ((m.entries.mergeSort le).foldl (fun m e => m.set e.1 e.2) GoMap.empty).lookup k = m.lookup k := by
  have hperm : (m.entries.mergeSort le).reverse.Perm m.entries :=
    (List.reverse_perm _).trans (List.mergeSort_perm _ _)
  rw [GoMap.lookup_foldl_set, find?_key_perm hperm ((hperm.map Prod.fst).nodup_iff.mpr m.keys_nodup)]
  exact Option.or_none

namespace Json

/-- `phasePanicMsg`. -/
def phasePanicMsg : Bytes := lit "JSON decoder out of sync - data changing underfoot?"

/-- The errors `json.Unmarshal` gives here. -/
inductive JsonError
  /-- A `SyntaxError` of `checkValid`. -/
  | syntaxError (err : SyntaxError)
  /-- `UnmarshalTypeError`: a JSON `value` where a Go value of type `goType` was wanted. -/
  | unmarshalType (value goType : Bytes)
  /-- `panic(phasePanicMsg)`: the bytes out of step with the scanner, which
  `checkValid` rules out. -/
  | phase
  deriving DecidableEq, Repr

/-- The error's `Error()` text. -/
def JsonError.text : JsonError → Bytes
  | .syntaxError err => err.msg
  | .unmarshalType value goType =>
    lit "json: cannot unmarshal " ++ value ++ lit " into Go value of type " ++ goType
  | .phase => phasePanicMsg

/-- The type of `extractToken`'s target, as `reflect.Type.String` writes it. -/
def mapType : Bytes := lit "map[string]string"

/-- The type of its elements. -/
def stringType : Bytes := lit "string"

/-- `decodeState`: the bytes not yet read (`data[off:]`), the byte the current
opcode came from (`data[readIndex()]`), the opcode, the scanner, and the first
saved error. -/
structure DecodeState where
  rest : Bytes
  last : UInt8
  opcode : ScanOp
  scan : Scanner
  savedError : Option JsonError

namespace DecodeState

/-- `saveError`: only the first error is kept. -/
def saveError (d : DecodeState) (err : JsonError) : DecodeState :=
  if d.savedError = none then { d with savedError := some err } else d

/-- `scanNext`. -/
def scanNext (d : DecodeState) : DecodeState :=
  match d.rest with
  | c :: rest =>
    let r := d.scan.step.apply d.scan c
    { d with rest := rest, last := c, scan := r.1, opcode := r.2 }
  | [] =>
    let r := d.scan.eof
    { d with scan := r.1, opcode := r.2 }

/-- `scanWhile`'s loop over the bytes `rest`. -/
def scanWhileFrom (op : ScanOp) (d : DecodeState) : Bytes → DecodeState
  | [] =>
    let r := d.scan.eof
    { d with rest := [], scan := r.1, opcode := r.2 }
  | c :: rest =>
    let r := d.scan.step.apply d.scan c
    if r.2 = op then scanWhileFrom op { d with last := c, scan := r.1 } rest
    else { d with rest := rest, last := c, scan := r.1, opcode := r.2 }

/-- `scanWhile(op)`: steps over the bytes while they give `op`. -/
def scanWhile (op : ScanOp) (d : DecodeState) : DecodeState := scanWhileFrom op d d.rest

/-- A string literal after its opening quote: the bytes through the closing quote,
a backslash taking the byte after it, and the bytes after. -/
def stringLiteralRest : Bytes → Bytes × Bytes
  | [] => ([], [])
  | 0x5C :: c :: rest =>
    let r := stringLiteralRest rest
    (0x5C :: c :: r.1, r.2)
  | 0x22 :: rest => ([0x22], rest)
  | c :: rest =>
    let r := stringLiteralRest rest
    (c :: r.1, r.2)

theorem stringLiteralRest_cons {c : UInt8} (hbs : c ≠ 0x5C) (hq : c ≠ 0x22) (t : Bytes) :
    stringLiteralRest (c :: t) = (c :: (stringLiteralRest t).1, (stringLiteralRest t).2) :=
  stringLiteralRest.eq_4 c t (fun _ _ h => absurd h hbs) (fun h => absurd h hq)

/-- The bytes `rescanLiteral` takes into a number. -/
def isNumberByte (c : UInt8) : Bool :=
  isDigit c || c == 0x2E || c == 0x65 || c == 0x45 || c == 0x2B || c == 0x2D

/-- `rescanLiteral`: passes over the literal whose first byte is `last`, then
steps `stateEndValue` on the byte after it.  Returns the literal's bytes after
the first. -/
def rescanLiteral (d : DecodeState) : DecodeState × Bytes :=
  let literal :=
    if d.last = 0x22 then stringLiteralRest d.rest
    else if d.last = 0x2D ∨ isDigit d.last then d.rest.span isNumberByte
    else if d.last = 0x74 ∨ d.last = 0x6E then (d.rest.take 3, d.rest.drop 3)
    else if d.last = 0x66 then (d.rest.take 4, d.rest.drop 4)
    else ([], d.rest)
  match literal.2 with
  | c :: rest =>
    let r := stateEndValue d.scan c
    ({ d with rest := rest, last := c, scan := r.1, opcode := r.2 }, literal.1)
  | [] => ({ d with rest := [], scan := { d.scan with endTop := true }, opcode := .scanEnd }, literal.1)

/-- `skip`'s loop: steps until the value opened at `depth` closes; running out of
bytes is Go's index out of range. -/
def skipFrom (depth : Nat) (d : DecodeState) : Bytes → Option DecodeState
  | [] => none
  | c :: rest =>
    let r := d.scan.step.apply d.scan c
    if r.1.parseState.length < depth then some { d with rest := rest, last := c, scan := r.1, opcode := r.2 }
    else skipFrom depth { d with last := c, scan := r.1 } rest

/-- `skip`: passes over the object or array just begun. -/
def skip (d : DecodeState) : Option DecodeState := skipFrom d.scan.parseState.length d d.rest

/-- `literalStore` into a `string` element, for the literal `c :: body`: its new
value, `[]` where it keeps the zero value.  `none` is a phase panic. -/
def literalStoreString (d : DecodeState) (c : UInt8) (body : Bytes) :
    Option (DecodeState × Bytes) :=
  if c = 0x6E then some (d, [])
  else if c = 0x74 ∨ c = 0x66 then some (d.saveError (.unmarshalType (lit "bool") stringType), [])
  else if c = 0x22 then (unquoteBytes (c :: body)).map fun s => (d, s)
  else if c = 0x2D ∨ isDigit c then some (d.saveError (.unmarshalType (lit "number") stringType), [])
  else none

/-- `literalStore` into the map: `null` sets it to nil, any other literal is an
`UnmarshalTypeError`; the map stays nil. -/
def literalStoreMap (d : DecodeState) (c : UInt8) (body : Bytes) :
    Option (DecodeState × Option GoMap) :=
  if c = 0x6E then some (d, none)
  else if c = 0x74 ∨ c = 0x66 then some (d.saveError (.unmarshalType (lit "bool") mapType), none)
  else if c = 0x22 then
    (unquoteBytes (c :: body)).map fun _ => (d.saveError (.unmarshalType (lit "string") mapType), none)
  else if c = 0x2D ∨ isDigit c then some (d.saveError (.unmarshalType (lit "number") mapType), none)
  else none

/-- `array` and `object` into a type that holds neither: the error, then `skip`. -/
def skipValue (d : DecodeState) (value goType : Bytes) : Option DecodeState :=
  (d.saveError (.unmarshalType value goType)).skip

/-- `value` into a `string` element: its new value, `[]` for the zero value. -/
def valueString (d : DecodeState) : Option (DecodeState × Bytes) :=
  match d.opcode with
  | .scanBeginArray => (d.skipValue (lit "array") stringType).map fun d => (d.scanNext, [])
  | .scanBeginObject => (d.skipValue (lit "object") stringType).map fun d => (d.scanNext, [])
  | .scanBeginLiteral =>
    let r := d.rescanLiteral
    literalStoreString r.1 d.last r.2
  | _ => none

/-- `object`'s member loop for the map: a key, `:`, a value, then `,` or `}`.
`fuel` bounds the passes; the bytes left always suffice. -/
def objectMapLoop : Nat → DecodeState → GoMap → Option (DecodeState × GoMap)
  | 0, _, _ => none
  | fuel + 1, d, m =>
    let d := d.scanWhile .scanSkipSpace
    if d.opcode = .scanEndObject then some (d, m)
    else if d.opcode ≠ .scanBeginLiteral then none
    else
      let r := d.rescanLiteral
      match unquoteBytes (d.last :: r.2) with
      | none => none
      | some key =>
        let d := if r.1.opcode = .scanSkipSpace then r.1.scanWhile .scanSkipSpace else r.1
        if d.opcode ≠ .scanObjectKey then none
        else
          match valueString (d.scanWhile .scanSkipSpace) with
          | none => none
          | some (d, v) =>
            let m := m.set key v
            let d := if d.opcode = .scanSkipSpace then d.scanWhile .scanSkipSpace else d
            if d.opcode = .scanEndObject then some (d, m)
            else if d.opcode ≠ .scanObjectValue then none
            else objectMapLoop fuel d m

/-- `object` into the nil map: `MakeMap`, then the member loop. -/
def objectMap (d : DecodeState) : Option (DecodeState × GoMap) :=
  objectMapLoop (d.rest.length + 1) d GoMap.empty

/-- `value` into the map: the map afterwards, `none` for nil. -/
def valueMap (d : DecodeState) : Option (DecodeState × Option GoMap) :=
  match d.opcode with
  | .scanBeginArray => (d.skipValue (lit "array") mapType).map fun d => (d.scanNext, none)
  | .scanBeginObject => (d.objectMap).map fun r => (r.1.scanNext, some r.2)
  | .scanBeginLiteral =>
    let r := d.rescanLiteral
    literalStoreMap r.1 d.last r.2
  | _ => none

end DecodeState

/-- `json.Unmarshal(data, &creds)` for a nil `creds map[string]string`: the map
afterwards (`none` while nil), or the error.  `checkValid` ran this scanner over
all of `data`, and `reset` keeps its byte count. -/
def unmarshalStringMap (data : Bytes) : Except JsonError (Option GoMap) :=
  match checkValid data with
  | .error err => .error (.syntaxError err)
  | .ok () =>
    let d : DecodeState := ⟨data, 0, .scanContinue, { Scanner.init with bytes := data.length }, none⟩
    match (d.scanWhile .scanSkipSpace).valueMap with
    | none => .error .phase
    | some (d, m) =>
      match d.savedError with
      | some err => .error err
      | none => .ok m

end Json

end ProviderOrchard
