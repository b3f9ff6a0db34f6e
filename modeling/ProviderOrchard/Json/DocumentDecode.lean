/-
The decoder over the text, byte by byte.  Each lemma says what the decoder does once
it stands before a known token: whitespace the scanner reads in place is passed over,
and the byte after it is read once.  With the scanner's runs this fixes what
`json.Unmarshal` into the nil map gives for credentials whose value is not an object
(`null`, a bool, a number, a string, an array), which for a document is what
`JsonValue.decodeMap` says, and shows that only an object gives a map, so
`extractToken` finds a token only in an object.
-/
import ProviderOrchard.Json.DocumentScan
import ProviderOrchard.Connect

namespace ProviderOrchard

namespace Json

open Scanner

namespace DecodeState

/-- Whitespace that the scanner reads in place is passed over. -/
theorem scanWhileFrom_space {s : Scanner}
    (hs : ∀ x, isSpace x = true → s.step.apply s x = (s, .scanSkipSpace)) :
    ∀ {ws : Bytes} (d : DecodeState), d.scan = s → (∀ x ∈ ws, isSpace x = true) → ∀ c t,
      scanWhileFrom .scanSkipSpace d (ws ++ c :: t) = scanWhileFrom .scanSkipSpace d (c :: t)
  | [], _, _, _, _, _ => rfl
  | x :: _, d, hd, hws, c, t => by
    subst hd
    rw [List.cons_append, scanWhileFrom, hs x (hws x (List.mem_cons_self _ _)), if_pos rfl]
    exact scanWhileFrom_space hs { d with last := x } rfl
      (fun y hy => hws y (List.mem_cons_of_mem _ hy)) c t

/-- The first byte whose step gives another opcode ends the loop. -/
theorem scanWhileFrom_stop {o : ScanOp} (d : DecodeState) {c : UInt8} {r : Scanner × ScanOp}
    (hr : d.scan.step.apply d.scan c = r) (ho : r.2 ≠ o) (t : Bytes) :
    scanWhileFrom o d (c :: t) = ⟨t, c, r.2, r.1, d.savedError⟩ := by
  rw [scanWhileFrom, hr, if_neg ho]

/-- Where a value or a key is expected, `scanWhile(scanSkipSpace)` passes the
whitespace and stops after the byte that follows it. -/
theorem scanWhile_space {f : StepFn} (hf : f.skipsSpace) {e : Bool} {P : List ParseState}
    {x : Option SyntaxError} {k : Nat} {ws : Bytes} (hws : ∀ y ∈ ws, isSpace y = true) {c : UInt8}
    {r : Scanner × ScanOp} (hr : f.apply ⟨f, e, P, x, k⟩ c = r) (ho : r.2 ≠ .scanSkipSpace)
    (t : Bytes) (l : UInt8) (o : ScanOp) (se : Option JsonError) :
    scanWhile .scanSkipSpace ⟨ws ++ c :: t, l, o, ⟨f, e, P, x, k⟩, se⟩ = ⟨t, c, r.2, r.1, se⟩ :=
  (scanWhileFrom_space (fun _ hy => StepFn.apply_space hf hy e P x k) _ rfl hws c t).trans
    (scanWhileFrom_stop _ hr ho t)

/-- `literalStore` into the map never makes one. -/
theorem literalStoreMap_snd {D d : DecodeState} {c : UInt8} {body : Bytes} {m : Option GoMap}
    (h : literalStoreMap D c body = some (d, m)) : m = none := by
  unfold literalStoreMap at h
  split_ifs at h <;>
    first | (cases h; rfl) | cases h | (obtain ⟨_, -, he⟩ := Option.map_eq_some'.mp h; cases he; rfl)

/-- `value` into the map makes one only from an object. -/
theorem valueMap_snd {d d' : DecodeState} {m : Option GoMap} (ho : d.opcode ≠ .scanBeginObject)
    (h : d.valueMap = some (d', m)) : m = none := by
  unfold valueMap at h
  split at h
  · obtain ⟨_, -, he⟩ := Option.map_eq_some'.mp h
    cases he
    rfl
  · rename_i hob
    exact absurd hob ho
  · exact literalStoreMap_snd h
  · cases h

end DecodeState

open DecodeState

theorem unmarshalStringMap_of_array {data ws rest : Bytes} (hvalid : checkValid data = .ok ())
    (hws : ∀ c ∈ ws, isSpace c = true) (hdata : data = ws ++ 0x5B :: rest) :
    unmarshalStringMap data = .error (.unmarshalType (lit "array") mapType) := by
  have hacc := accepts_of_checkValid hvalid data.length
  unfold unmarshalStringMap
  rw [hvalid]
  dsimp only
  generalize data.length = N at hacc ⊢
  subst hdata
  have hopen := (StepFn.apply_open (f := .stateBeginValue) (e := false) (P := []) (r := none)
    (k := N) (.inl rfl) (by decide)).1
  have hrest : Scanner.Accepts ⟨.stateBeginValueOrEmpty, false, [.parseArrayValue], none, N⟩ rest := by
    have h := ((runsAbove_space (f := .stateBeginValue) (n := 0) (e := false) (P := []) (r := none)
      (k := N) rfl le_rfl hws).accepts_append _).mp hacc
    rw [Scanner.accepts_cons, hopen] at h
    exact h.2
  obtain ⟨d, hskip, -, -, -, -, -, hse⟩ := skipValue_sync
    (d := ⟨rest, 0x5B, .scanBeginArray, ⟨.stateBeginValueOrEmpty, false, [.parseArrayValue], none, N⟩,
      none⟩) rfl (Scanner.topClosed_of_endTop rfl) hrest (lit "array") mapType
  have hscan : scanWhile .scanSkipSpace
      ⟨ws ++ 0x5B :: rest, 0, .scanContinue, { Scanner.init with bytes := N }, none⟩ =
      ⟨rest, 0x5B, .scanBeginArray, ⟨.stateBeginValueOrEmpty, false, [.parseArrayValue], none, N⟩, none⟩ :=
    scanWhile_space (f := .stateBeginValue) rfl hws hopen nofun rest 0 .scanContinue none
  rw [hscan, valueMap]
  dsimp only
  rw [hskip, Option.map_some']
  dsimp only
  rw [scanNext_savedError, hse]
  rfl

/-- Credentials whose first byte after whitespace is `[` are an array: once `checkValid`
accepts them, `skip` passes over the array and the map is refused with the array's
`UnmarshalTypeError`. -/
theorem unmarshalStringMap_array {data ws rest : Bytes} (hvalid : checkValid data = .ok ())
    (hws : ∀ c ∈ ws, isSpace c = true) (hdata : data = ws ++ 0x5B :: rest) :
    unmarshalStringMap data = .error (.unmarshalType (lit "array") mapType) :=
  unmarshalStringMap_of_array hvalid hws hdata

theorem unmarshalStringMap_array_spaced :
    checkValid [0x20, 0x5B, 0x5D] = .ok () ∧ (∀ c ∈ [0x20], isSpace c = true) ∧
      unmarshalStringMap [0x20, 0x5B, 0x5D] = .error (.unmarshalType (lit "array") mapType) :=
  ⟨rfl, by decide, @unmarshalStringMap_array [0x20, 0x5B, 0x5D] [0x20] [0x5D] rfl (by decide) rfl⟩

/-- Credentials whose first byte after whitespace is `n` are `null`: `literalStore` leaves
the map nil and saves no error. -/
theorem unmarshalStringMap_null {data ws rest : Bytes} (hvalid : checkValid data = .ok ())
    (hws : ∀ c ∈ ws, isSpace c = true) (hdata : data = ws ++ 0x6E :: rest) :
    unmarshalStringMap data = .ok none := by
  unfold unmarshalStringMap
  rw [hvalid]
  dsimp only
  generalize data.length = N
  subst hdata
  have hscan : scanWhile .scanSkipSpace
      ⟨ws ++ 0x6E :: rest, 0, .scanContinue, { Scanner.init with bytes := N }, none⟩ =
      ⟨rest, 0x6E, .scanBeginLiteral, ⟨.stateN, false, [], none, N⟩, none⟩ :=
    scanWhile_space (f := .stateBeginValue) (e := false) (P := []) (x := none) (k := N) (c := 0x6E)
      (r := (⟨.stateN, false, [], none, N⟩, .scanBeginLiteral)) rfl hws rfl nofun rest 0 .scanContinue none
  rw [hscan, valueMap]
  dsimp only
  rw [literalStoreMap, if_pos rfl]
  dsimp only
  rw [rescanLiteral_savedError]

/-- Credentials that are `null` hold no token: `extractToken` refuses them with the bare
`errParseToken`, not with an error of `json.Unmarshal`. -/
theorem extractToken_null {data ws rest : Bytes} (hvalid : checkValid data = .ok ())
    (hws : ∀ c ∈ ws, isSpace c = true) (hdata : data = ws ++ 0x6E :: rest) :
    extractToken data = .error (.new errParseToken) := by
  unfold extractToken
  rw [unmarshalStringMap_null hvalid hws hdata]
  rfl

example :
    checkValid [0x20, 0x6E, 0x75, 0x6C, 0x6C] = .ok () ∧ (∀ c ∈ [0x20], isSpace c = true) ∧
      extractToken [0x20, 0x6E, 0x75, 0x6C, 0x6C] = .error (.new errParseToken) :=
  ⟨rfl, by decide, @extractToken_null [0x20, 0x6E, 0x75, 0x6C, 0x6C] [0x20] [0x75, 0x6C, 0x6C] rfl
    (by decide) rfl⟩

theorem saveError_savedError_of_none {d : DecodeState} (h : d.savedError = none) (err : JsonError) :
    (d.saveError err).savedError = some err := by
  rw [saveError, if_pos h]

theorem unmarshalStringMap_of_scalar {data ws rest kind : Bytes} {c : UInt8}
    (hvalid : checkValid data = .ok ()) (hws : ∀ y ∈ ws, isSpace y = true)
    (hdata : data = ws ++ c :: rest)
    (hkind : (c = 0x74 ∨ c = 0x66) ∧ kind = lit "bool" ∨ (c = 0x2D ∨ isDigit c) ∧ kind = lit "number" ∨
      c = 0x22 ∧ kind = lit "string") :
    unmarshalStringMap data = .error (.unmarshalType kind mapType) := by
  have hacc := accepts_of_checkValid hvalid data.length
  unfold unmarshalStringMap
  rw [hvalid]
  dsimp only
  generalize data.length = N at hacc ⊢
  subst hdata
  have hspaces := runsAbove_space (f := .stateBeginValue) (n := 0) (e := false) (P := []) (r := none)
    (k := N) rfl le_rfl hws
  have hrun := (Scanner.accepts_cons _ _ _).mp ((hspaces.accepts_append _).mp hacc)
  have hne : c ≠ 0x6E ∧ c ≠ 0x7B ∧ c ≠ 0x5B ∧ isSpace c = false := by
    rcases hkind with ⟨rfl | rfl, -⟩ | ⟨rfl | hd, -⟩ | ⟨rfl, -⟩ <;>
      first
      | exact ⟨by decide, by decide, by decide, rfl⟩
      | exact ⟨ne_of_isDigit hd rfl, ne_of_isDigit hd rfl, ne_of_isDigit hd rfl, isSpace_of_isDigit hd⟩
  obtain ⟨hn, hob, har, hc⟩ := hne
  rcases stateBeginValue_cases (s := ⟨.stateBeginValue, false, [], none, N⟩) hc hrun.1 with
    ⟨h, -⟩ | ⟨h, -⟩ | ⟨q, hq, hr⟩
  · exact absurd h hob
  · exact absurd h har
  have hscan : scanWhile .scanSkipSpace
      ⟨ws ++ c :: rest, 0, .scanContinue, { Scanner.init with bytes := N }, none⟩ = _ :=
    scanWhile_space (f := .stateBeginValue) rfl hws hr nofun rest 0 .scanContinue none
  have hsave := saveError_savedError_of_none (rescanLiteral_savedError
    ⟨rest, c, .scanBeginLiteral, { (⟨.stateBeginValue, false, [], none, N⟩ : Scanner) with step := q },
      none⟩)
  rw [hscan, valueMap]
  dsimp only
  rw [literalStoreMap, if_neg hn]
  rcases hkind with ⟨hb, rfl⟩ | ⟨hnum, rfl⟩ | ⟨rfl, rfl⟩
  · rw [if_pos hb]
    dsimp only
    rw [hsave]
  · have hnt : ¬(c = 0x74 ∨ c = 0x66) ∧ c ≠ 0x22 := by
      rcases hnum with rfl | hd
      · exact ⟨by decide, by decide⟩
      · exact ⟨not_or.mpr ⟨ne_of_isDigit hd rfl, ne_of_isDigit hd rfl⟩, ne_of_isDigit hd rfl⟩
    rw [if_neg hnt.1, if_neg hnt.2, if_pos hnum]
    dsimp only
    rw [hsave]
  · have hstr : (stateBeginValue ⟨.stateBeginValue, false, [], none, N⟩ 0x22).1.Accepts rest := hrun.2
    rw [hr] at hstr
    obtain ⟨body, hbody, hlit⟩ := rescanLiteral_strBody
      (d := ⟨rest, 0x22, .scanBeginLiteral, { (⟨.stateBeginValue, false, [], none, N⟩ : Scanner) with step := q },
        none⟩) hq rfl rfl hstr rfl
    obtain ⟨v, hv⟩ := Option.isSome_iff_exists.mp (unquoteBytes_strBody hbody)
    rw [if_neg (by decide), if_pos rfl, hlit, hv, Option.map_some']
    dsimp only
    rw [hsave]

/-- Credentials whose first value is a bool, a number or a string: `literalStore` saves
the `UnmarshalTypeError` naming the literal's kind, and the map stays nil. -/
theorem unmarshalStringMap_scalar {data ws rest kind : Bytes} {c : UInt8}
    (hvalid : checkValid data = .ok ()) (hws : ∀ y ∈ ws, isSpace y = true)
    (hdata : data = ws ++ c :: rest)
    (hkind : (c = 0x74 ∨ c = 0x66) ∧ kind = lit "bool" ∨ (c = 0x2D ∨ isDigit c) ∧ kind = lit "number" ∨
      c = 0x22 ∧ kind = lit "string") :
    unmarshalStringMap data = .error (.unmarshalType kind mapType) :=
  unmarshalStringMap_of_scalar hvalid hws hdata hkind

theorem unmarshalStringMap_scalar_true :
    checkValid (lit "true") = .ok () ∧ (∀ y ∈ ([] : Bytes), isSpace y = true) ∧
      ((0x74 : UInt8) = 0x74 ∨ (0x74 : UInt8) = 0x66) ∧ lit "bool" = lit "bool" ∧
      unmarshalStringMap (lit "true") = .error (.unmarshalType (lit "bool") mapType) :=
  ⟨rfl, fun _ h => absurd h (List.not_mem_nil _), .inl rfl, rfl,
    @unmarshalStringMap_scalar (lit "true") [] (lit "rue") (lit "bool") 0x74 rfl
      (fun _ h => absurd h (List.not_mem_nil _)) rfl (.inl ⟨.inl rfl, rfl⟩)⟩

/-- Objects, the one kind of value that `json.Unmarshal` stores into the map. -/
def JsonText.isObject : JsonText → Bool
  | .emptyObject _ | .object _ _ => true
  | _ => false

/-- A number's text begins with its sign or its first digit. -/
theorem JsonNumber.bytes_cons (num : JsonNumber) :
    ∃ c rest, (c = 0x2D ∨ isDigit c = true) ∧ num.bytes = c :: rest := by
  obtain ⟨d, ds, hds⟩ := List.exists_cons_of_ne_nil num.int.nonempty
  have hd : isDigit d = true := num.int.digit d (by rw [hds]; exact List.mem_cons_self _ _)
  unfold JsonNumber.bytes
  cases num.neg
  · rw [if_neg Bool.false_ne_true, List.nil_append, hds]
    exact ⟨d, _, .inr hd, rfl⟩
  · rw [if_pos rfl]
    exact ⟨0x2D, _, .inl rfl, rfl⟩

/-- A document whose value is not an object: `json.Unmarshal` into the nil map gives
what `decodeMap` says the value means. -/
theorem unmarshalStringMap_document_of_not_object (doc : Padded JsonText)
    (hd : doc.val.value.depth ≤ maxNestingDepth) (ho : doc.val.isObject = false) :
    unmarshalStringMap (paddedBytes doc) = doc.val.value.decodeMap := by
  obtain ⟨b, t, a⟩ := doc
  have hvalid := checkValid_of_accepts (Scanner.accepts_document ⟨b, t, a⟩ hd)
  have hpad : paddedBytes ⟨b, t, a⟩ = b.bytes ++ (t.bytes ++ a.bytes) := List.append_assoc _ _ _
  rw [hpad] at hvalid ⊢
  cases t with
  | null => exact unmarshalStringMap_null hvalid b.space rfl
  | bool bb =>
    cases bb
    · exact unmarshalStringMap_of_scalar hvalid b.space rfl (.inl ⟨.inr rfl, rfl⟩)
    · exact unmarshalStringMap_of_scalar hvalid b.space rfl (.inl ⟨.inl rfl, rfl⟩)
  | number num =>
    obtain ⟨c, rest, hc, hnum⟩ := num.bytes_cons
    have hdata : b.bytes ++ ((JsonText.number num).bytes ++ a.bytes) = b.bytes ++ c :: (rest ++ a.bytes) := by
      show b.bytes ++ (num.bytes ++ a.bytes) = _
      rw [hnum]
      rfl
    exact unmarshalStringMap_of_scalar hvalid b.space hdata (.inr (.inl ⟨hc, rfl⟩))
  | string s => exact unmarshalStringMap_of_scalar hvalid b.space rfl (.inr (.inr ⟨rfl, rfl⟩))
  | emptyArray _ => exact unmarshalStringMap_of_array hvalid b.space rfl
  | array _ _ => exact unmarshalStringMap_of_array hvalid b.space rfl
  | emptyObject _ => cases ho
  | object _ _ => cases ho

theorem unmarshalStringMap_document_of_not_object_array :
    (JsonText.array ⟨Ws.none, .null, Ws.none⟩ []).value.depth ≤ maxNestingDepth ∧
      (JsonText.array ⟨Ws.none, .null, Ws.none⟩ []).isObject = false ∧
      unmarshalStringMap (paddedBytes ⟨Ws.none, .array ⟨Ws.none, .null, Ws.none⟩ [], Ws.none⟩) =
        (JsonText.array ⟨Ws.none, .null, Ws.none⟩ []).value.decodeMap :=
  ⟨by decide, rfl, unmarshalStringMap_document_of_not_object _ (by decide) rfl⟩

/-- Only an object gives a map: credentials whose first value is anything else leave
the map nil or fail. -/
theorem unmarshalStringMap_object_of_some {data : Bytes} {m : GoMap}
    (h : unmarshalStringMap data = .ok (some m)) :
    ∃ ws rest, (∀ c ∈ ws, isSpace c = true) ∧ data = ws ++ 0x7B :: rest := by
  unfold unmarshalStringMap at h
  split at h
  · cases h
  rename_i hvalid
  have hacc := accepts_of_checkValid hvalid data.length
  dsimp only at h
  split at h
  · cases h
  rename_i d' m' hvm
  split at h
  · cases h
  cases h
  generalize data.length = N at hacc hvm
  have hws : ∀ c ∈ data.takeWhile isSpace, isSpace c = true := fun _ hc => List.mem_takeWhile_imp hc
  have hsplit := (List.takeWhile_append_dropWhile isSpace data).symm
  have hspaces := runsAbove_space (f := .stateBeginValue) (n := 0) (e := false) (P := []) (r := none)
    (k := N) rfl le_rfl hws
  generalize hL : data.dropWhile isSpace = L at hsplit
  cases L with
  | nil =>
    rw [List.append_nil] at hsplit
    rw [hsplit] at hacc
    exact absurd ((hspaces.accepts_append []).mp (by rw [List.append_nil]; exact hacc))
      (Scanner.not_accepts_nil_of_space rfl rfl)
  | cons c rest =>
    have hc : isSpace c = false := by
      have := List.head_dropWhile_not isSpace data (by rw [hL]; exact List.cons_ne_nil _ _)
      simpa only [hL, List.head_cons] using this
    generalize data.takeWhile isSpace = ws at hws hsplit hspaces
    subst hsplit
    have hop := ((Scanner.accepts_cons _ _ _).mp ((hspaces.accepts_append _).mp hacc)).1
    rcases stateBeginValue_cases (s := ⟨.stateBeginValue, false, [], none, N⟩) hc hop with
      ⟨rfl, -⟩ | ⟨-, hr⟩ | ⟨q, -, hr⟩
    · exact ⟨ws, rest, hws, rfl⟩
    all_goals
      have hscan : scanWhile .scanSkipSpace
          ⟨ws ++ c :: rest, 0, .scanContinue, { Scanner.init with bytes := N }, none⟩ = _ :=
        scanWhile_space (f := .stateBeginValue) rfl hws hr nofun rest 0 .scanContinue none
      rw [hscan] at hvm
      exact absurd (valueMap_snd (by exact nofun) hvm) nofun

/-- `extractToken` finds a token only in credentials that are a JSON object: their first
byte after whitespace opens an object. -/
theorem extractToken_ok_object {data token : Bytes} (h : extractToken data = .ok token) :
    ∃ ws rest, (∀ c ∈ ws, isSpace c = true) ∧ data = ws ++ 0x7B :: rest := by
  unfold extractToken at h
  split at h
  · cases h
  rename_i creds hm
  cases creds with
  | none => cases h
  | some m => exact unmarshalStringMap_object_of_some hm

theorem extractToken_ok_object_token :
    extractToken (0x7B :: marshalMembers [(lit "token", lit "t")] ++ [0x7D]) = .ok (lit "t") ∧
      ∃ ws rest, (∀ c ∈ ws, isSpace c = true) ∧
        0x7B :: marshalMembers [(lit "token", lit "t")] ++ [0x7D] = ws ++ 0x7B :: rest :=
  have h : extractToken (0x7B :: marshalMembers [(lit "token", lit "t")] ++ [0x7D]) = .ok (lit "t") :=
    (extractToken_marshalMembers (by decide)).trans rfl
  ⟨h, extractToken_ok_object h⟩

end Json

end ProviderOrchard
