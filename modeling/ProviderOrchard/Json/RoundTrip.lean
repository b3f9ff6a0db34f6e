/-
`json.Marshal` of a `map[string]string` and `json.Unmarshal` back into one, for
maps whose keys and values are ASCII text.  The scanner accepts every object the
encoder writes, so `checkValid` passes; the decoder then reads one member per
pass of its object loop, and the map it builds binds each key to the value the
encoded map gave it.  The proofs go leaves first: one string literal, one member,
the members, the object.
-/
import ProviderOrchard.Json.Unmarshal

namespace ProviderOrchard

namespace Json

/-- The members of an object as `json.Marshal` writes a map's entries:
`"key":"value"`, separated by commas. -/
def marshalMembers : List (Bytes × Bytes) → Bytes
  | [] => []
  | e :: es =>
    appendString e.1 ++ 0x3A :: appendString e.2 ++ (if es = [] then [] else 0x2C :: marshalMembers es)

/-- `json.Marshal` of a non-nil `map[string]string`: its entries sorted by key. -/
def marshalStringMap (m : GoMap) : Bytes :=
  0x7B :: marshalMembers (m.entries.mergeSort fun a b => decide (a.1 ≤ b.1)) ++ [0x7D]

/-- Entries whose keys and values are ASCII text. -/
def AsciiEntries (es : List (Bytes × Bytes)) : Prop := ∀ e ∈ es, IsAscii e.1 ∧ IsAscii e.2

instance (es : List (Bytes × Bytes)) : Decidable (AsciiEntries es) :=
  inferInstanceAs (Decidable (∀ e ∈ es, IsAscii e.1 ∧ IsAscii e.2))

theorem AsciiEntries.tail {e : Bytes × Bytes} {es : List (Bytes × Bytes)}
    (h : AsciiEntries (e :: es)) : AsciiEntries es :=
  fun e' he' => h e' (List.mem_cons_of_mem e he')

theorem AsciiEntries.mergeSort {es : List (Bytes × Bytes)} (h : AsciiEntries es)
    (le : Bytes × Bytes → Bytes × Bytes → Bool) : AsciiEntries (es.mergeSort le) :=
  fun e he => h e ((List.mergeSort_perm es le).subset he)

theorem appendString_append (s t : Bytes) :
    appendString s ++ t = 0x22 :: (appendStringBody s ++ 0x22 :: t) := by
  simp [appendString]

theorem length_le_marshalMembers (es : List (Bytes × Bytes)) :
    es.length ≤ (marshalMembers es).length := by
  induction es with
  | nil => exact Nat.le_refl 0
  | cons e es ih =>
    rw [marshalMembers]
    split
    case isTrue h =>
      simp only [h, List.length_cons, List.length_append, List.length_nil]
      omega
    case isFalse =>
      simp only [List.length_cons, List.length_append]
      omega

/-! ### The scanner over an encoded map -/

section Scanner

variable (endTop : Bool) (ps : List ParseState) (err : Option SyntaxError) (n : Nat) (rest : Bytes)

theorem scanBytes_colon :
    Scanner.scanBytes ⟨.stateEndValue, endTop, .parseObjectKey :: ps, err, n⟩ (0x3A :: rest) =
      Scanner.scanBytes ⟨.stateBeginValue, endTop, .parseObjectValue :: ps, err, n + 1⟩ rest := rfl

theorem scanBytes_comma :
    Scanner.scanBytes ⟨.stateEndValue, endTop, .parseObjectValue :: ps, err, n⟩ (0x2C :: rest) =
      Scanner.scanBytes ⟨.stateBeginString, endTop, .parseObjectKey :: ps, err, n + 1⟩ rest := rfl

/-- One member `"key":"value"`: from a step that expects a key, the scanner ends
after the value with the object expecting `,` or `}`. -/
theorem scanBytes_member {step : StepFn}
    (hstep : step = .stateBeginString ∨ step = .stateBeginStringOrEmpty) {k v : Bytes}
    (hk : IsAscii k) (hv : IsAscii v) :
    Scanner.scanBytes ⟨step, endTop, .parseObjectKey :: ps, err, n⟩
        (appendString k ++ 0x3A :: appendString v) =
      .ok ⟨.stateEndValue, endTop, .parseObjectValue :: ps, err,
        n + (appendString k ++ 0x3A :: appendString v).length⟩ := by
  rw [Scanner.scanBytes_append_of_ok
      (scanBytes_appendString (by rcases hstep with rfl | rfl <;> simp) endTop _ err hk n),
    scanBytes_colon, scanBytes_appendString (.inl rfl) endTop _ err hv,
    List.length_append, List.length_cons]
  congr 2
  omega

/-- The members of a non-empty map, from a step that expects a key. -/
theorem scanBytes_marshalMembers {es : List (Bytes × Bytes)} (hes : es ≠ [])
    (hascii : AsciiEntries es) {step : StepFn}
    (hstep : step = .stateBeginString ∨ step = .stateBeginStringOrEmpty) :
    Scanner.scanBytes ⟨step, endTop, .parseObjectKey :: ps, err, n⟩ (marshalMembers es) =
      .ok ⟨.stateEndValue, endTop, .parseObjectValue :: ps, err, n + (marshalMembers es).length⟩ := by
  induction es generalizing step n with
  | nil => exact absurd rfl hes
  | cons e es ih =>
    have hmember := scanBytes_member endTop ps err n hstep (hascii e (List.mem_cons_self e es)).1
      (hascii e (List.mem_cons_self e es)).2
    rw [marshalMembers, Scanner.scanBytes_append_of_ok hmember]
    split
    case isTrue => rw [List.append_nil]; rfl
    case isFalse hne =>
      rw [scanBytes_comma, ih _ hne hascii.tail (.inl rfl)]
      simp only [List.length_append, List.length_cons]
      congr 2
      omega

/-- `checkValid` accepts every object `json.Marshal` writes for ASCII entries. -/
theorem checkValid_marshalMembers {es : List (Bytes × Bytes)} (hascii : AsciiEntries es) :
    checkValid (0x7B :: marshalMembers es ++ [0x7D]) = .ok () := by
  by_cases hes : es = []
  · subst hes
    rfl
  · have hopen : Scanner.init.scanBytes (0x7B :: (marshalMembers es ++ [0x7D])) =
        Scanner.scanBytes ⟨.stateBeginStringOrEmpty, false, [.parseObjectKey], none, 1⟩
          (marshalMembers es ++ [0x7D]) := rfl
    rw [checkValid, List.cons_append, hopen, Scanner.scanBytes_append_of_ok
      (scanBytes_marshalMembers false [] none 1 hes hascii (.inr rfl))]
    rfl

end Scanner

/-! ### The decoder over an encoded map -/

namespace DecodeState

/-- The literal's end is found past one byte as `appendString` writes it. -/
theorem stringLiteralRest_appendByte (b : UInt8) (t : Bytes) :
    stringLiteralRest (appendByte b ++ t) =
      (appendByte b ++ (stringLiteralRest t).1, (stringLiteralRest t).2) := by
  unfold appendByte
  split
  case isTrue hsafe =>
    obtain ⟨-, -, hq, hbs⟩ := plainAscii_of_htmlSafe hsafe
    exact stringLiteralRest_cons hbs hq t
  obtain ⟨-, -, -, hhi, hhi'⟩ := lowerhex_spec (toNat_div_16_lt b)
  obtain ⟨-, -, -, hlo, hlo'⟩ := lowerhex_spec (toNat_mod_16_lt b)
  rcases escapeAscii_cases b with ⟨-, he⟩ | ⟨e, -, he⟩ | he <;> rw [he]
  · exact stringLiteralRest.eq_2 b t
  · exact stringLiteralRest.eq_2 e t
  · show stringLiteralRest (0x5C :: 0x75 :: 0x30 :: 0x30 :: lowerhex (b / 16) :: lowerhex (b % 16) :: t) = _
    rw [stringLiteralRest.eq_2, stringLiteralRest_cons (by decide) (by decide),
      stringLiteralRest_cons (by decide) (by decide), stringLiteralRest_cons hhi' hhi,
      stringLiteralRest_cons hlo' hlo]
    rfl

/-- The literal `appendString` writes for an ASCII text ends at its closing quote. -/
theorem stringLiteralRest_appendStringBody {s : Bytes} (hs : IsAscii s) (t : Bytes) :
    stringLiteralRest (appendStringBody s ++ 0x22 :: t) = (appendStringBody s ++ [0x22], t) := by
  rw [appendStringBody_of_isAscii hs]
  induction s with
  | nil => rfl
  | cons b s ih =>
    rw [List.flatMap_cons, List.append_assoc, stringLiteralRest_appendByte b,
      ih fun c hc => hs c (List.mem_cons_of_mem b hc), List.append_assoc]

/-- From a step that expects a value or a key, `scanWhile(scanSkipSpace)` stops at
an opening quote. -/
theorem scanWhile_quote {step : StepFn}
    (hstep : step = .stateBeginValue ∨ step = .stateBeginString ∨ step = .stateBeginStringOrEmpty)
    (t : Bytes) (last : UInt8) (op : ScanOp) (endTop : Bool) (ps : List ParseState)
    (err : Option SyntaxError) (n : Nat) (se : Option JsonError) :
    scanWhile .scanSkipSpace ⟨0x22 :: t, last, op, ⟨step, endTop, ps, err, n⟩, se⟩ =
      ⟨t, 0x22, .scanBeginLiteral, ⟨.stateInString, endTop, ps, err, n⟩, se⟩ := by
  rcases hstep with rfl | rfl | rfl <;> rfl

/-- `rescanLiteral` after an opening quote: the literal through its closing quote,
then `stateEndValue` on the byte after it. -/
theorem rescanLiteral_string {rest lit : Bytes} {c : UInt8} {t : Bytes}
    (h : stringLiteralRest rest = (lit, c :: t)) (op : ScanOp) (s : Scanner) (se : Option JsonError) :
    rescanLiteral ⟨rest, 0x22, op, s, se⟩ = (⟨t, c, (stateEndValue s c).2, (stateEndValue s c).1, se⟩, lit) := by
  simp only [rescanLiteral, if_true, h]

/-- One pass of the object loop over a member `"key":"value"` and the byte after it:
`}` ends the object, `,` starts the next pass; the map gains the member. -/
theorem objectMapLoop_member {step : StepFn}
    (hstep : step = .stateBeginString ∨ step = .stateBeginStringOrEmpty) {k v : Bytes}
    (hk : IsAscii k) (hv : IsAscii v) {c : UInt8} (hc : c = 0x2C ∨ c = 0x7D) (t : Bytes)
    (last : UInt8) (op : ScanOp) (N : Nat) (se : Option JsonError) (fuel : Nat) (m : GoMap) :
    objectMapLoop (fuel + 1)
        ⟨appendString k ++ 0x3A :: appendString v ++ c :: t, last, op,
          ⟨step, false, [.parseObjectKey], none, N⟩, se⟩ m =
      if c = 0x7D then some (⟨t, 0x7D, .scanEndObject, ⟨.stateEndTop, true, [], none, N⟩, se⟩, m.set k v)
      else objectMapLoop fuel
        ⟨t, 0x2C, .scanObjectValue, ⟨.stateBeginString, false, [.parseObjectKey], none, N⟩, se⟩
        (m.set k v) := by
  have hrest : appendString k ++ 0x3A :: appendString v ++ c :: t =
      0x22 :: (appendStringBody k ++ 0x22 :: 0x3A :: 0x22 :: (appendStringBody v ++ 0x22 :: c :: t)) := by
    simp [appendString]
  have hkey : unquoteBytes (0x22 :: (appendStringBody k ++ [0x22])) = some k := unquoteBytes_appendString hk
  have hval : unquoteBytes (0x22 :: (appendStringBody v ++ [0x22])) = some v := unquoteBytes_appendString hv
  have hstore : ∀ d : DecodeState, d.literalStoreString 0x22 (appendStringBody v ++ [0x22]) = some (d, v) :=
    fun d => by rw [literalStoreString, if_neg (by decide), if_neg (by decide), if_pos rfl, hval]; rfl
  have hcolon : stateEndValue ⟨.stateInString, false, [.parseObjectKey], none, N⟩ 0x3A =
      (⟨.stateBeginValue, false, [.parseObjectValue], none, N⟩, .scanObjectKey) := rfl
  rw [objectMapLoop, hrest, scanWhile_quote (by rcases hstep with rfl | rfl <;> simp)]
  simp only [rescanLiteral_string (stringLiteralRest_appendStringBody hk _), hkey, hcolon, reduceCtorEq,
    if_false, ne_eq, not_true_eq_false, scanWhile_quote (.inl rfl), valueString,
    rescanLiteral_string (stringLiteralRest_appendStringBody hv _), hstore]
  rcases hc with rfl | rfl <;> rfl

/-- The object loop over the members of a non-empty map: one pass per member,
each binding its key, until the `}` after the last. -/
theorem objectMapLoop_marshalMembers {es : List (Bytes × Bytes)} (hes : es ≠ [])
    (hascii : AsciiEntries es) {step : StepFn}
    (hstep : step = .stateBeginString ∨ step = .stateBeginStringOrEmpty) (t : Bytes) (last : UInt8)
    (op : ScanOp) (N : Nat) (se : Option JsonError) {fuel : Nat} (hfuel : es.length ≤ fuel)
    (m : GoMap) :
    objectMapLoop fuel
        ⟨marshalMembers es ++ 0x7D :: t, last, op, ⟨step, false, [.parseObjectKey], none, N⟩, se⟩ m =
      some (⟨t, 0x7D, .scanEndObject, ⟨.stateEndTop, true, [], none, N⟩, se⟩,
        es.foldl (fun m e => m.set e.1 e.2) m) := by
  induction es generalizing step last op fuel m with
  | nil => exact absurd rfl hes
  | cons e es ih =>
    obtain ⟨fuel, rfl⟩ : ∃ f, fuel = f + 1 := ⟨fuel - 1, by simp only [List.length_cons] at hfuel; omega⟩
    have he := hascii e (List.mem_cons_self e es)
    rw [marshalMembers, List.foldl_cons]
    split
    case isTrue hnil =>
      subst hnil
      rw [List.append_nil, objectMapLoop_member hstep he.1 he.2 (.inr rfl), if_pos rfl]
      rfl
    case isFalse hne =>
      rw [List.append_assoc, List.cons_append, objectMapLoop_member hstep he.1 he.2 (.inl rfl),
        if_neg (by decide)]
      exact ih hne hascii.tail (.inl rfl) _ _ (by simpa using hfuel) _

end DecodeState

/-- `json.Unmarshal` of the object `json.Marshal` writes for ASCII entries succeeds,
and the map is built by setting the entries in their order. -/
theorem unmarshalStringMap_marshalMembers {es : List (Bytes × Bytes)} (hascii : AsciiEntries es) :
    unmarshalStringMap (0x7B :: marshalMembers es ++ [0x7D]) =
      .ok (some (es.foldl (fun m e => m.set e.1 e.2) GoMap.empty)) := by
  rw [unmarshalStringMap, checkValid_marshalMembers hascii]
  by_cases hes : es = []
  · subst hes
    rfl
  · have hopen : DecodeState.scanWhile .scanSkipSpace
        ⟨0x7B :: (marshalMembers es ++ [0x7D]), 0, .scanContinue,
          { Scanner.init with bytes := (0x7B :: (marshalMembers es ++ [0x7D])).length }, none⟩ =
        ⟨marshalMembers es ++ [0x7D], 0x7B, .scanBeginObject,
          ⟨.stateBeginStringOrEmpty, false, [.parseObjectKey], none,
            (0x7B :: (marshalMembers es ++ [0x7D])).length⟩, none⟩ := rfl
    have hfuel : es.length ≤ (marshalMembers es ++ [0x7D]).length + 1 := by
      have := length_le_marshalMembers es
      simp only [List.length_append]
      omega
    simp only [List.cons_append, hopen, DecodeState.valueMap, DecodeState.objectMap,
      DecodeState.objectMapLoop_marshalMembers hes hascii (.inr rfl) [] _ _ _ _ hfuel]
    rfl

/-- Read back, the encoded map binds every key as the map did. -/
theorem unmarshalStringMap_marshalStringMap (m : GoMap) (hascii : AsciiEntries m.entries) :
    ∃ m', unmarshalStringMap (marshalStringMap m) = .ok (some m') ∧ ∀ k, m'.lookup k = m.lookup k :=
  ⟨_, unmarshalStringMap_marshalMembers (hascii.mergeSort _), GoMap.lookup_foldl_mergeSort m _⟩

/-- The credentials `{"token":"t"}`. -/
def tokenCredentials : GoMap := ⟨[(lit "token", lit "t")], by decide⟩

theorem unmarshalStringMap_marshalStringMap_token :
    ∃ m', unmarshalStringMap (marshalStringMap tokenCredentials) = .ok (some m') ∧
      ∀ k, m'.lookup k = tokenCredentials.lookup k :=
  unmarshalStringMap_marshalStringMap tokenCredentials (by decide)

end Json

end ProviderOrchard
