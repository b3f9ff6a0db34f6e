/-
The string codecs of encoding/json (Go 1.22): `unquoteBytes` (decode.go), which
turns a string literal into the bytes it denotes, and `appendString`
(encode.go), which writes bytes as a literal, with the parts of unicode/utf8 and
unicode/utf16 they call.  Runes are numbers; Go's masks and shifts are written as
`%`, `/` and `*` by powers of two.  For ASCII text the two codecs are inverse.
-/
import ProviderOrchard.Json.Scanner
import ProviderOrchard.Truncate

namespace ProviderOrchard

namespace Json

/-- `utf8.RuneError`, U+FFFD. -/
def runeError : Nat := 0xFFFD

/-- `utf8.DecodeRune`: the rune at the front of `p` and the count of its bytes;
`(RuneError, 1)` where `p` starts with no valid encoding, `(RuneError, 0)` when
`p` is empty. -/
def decodeRune : Bytes → Nat × Nat
  | [] => (runeError, 0)
  | b0 :: rest =>
    if b0 < 0x80 then (b0.toNat, 1)
    else if b0 < 0xC2 ∨ 0xF4 < b0 then (runeError, 1)
    else
      let lo : UInt8 := if b0 = 0xE0 then 0xA0 else if b0 = 0xF0 then 0x90 else 0x80
      let hi : UInt8 := if b0 = 0xED then 0x9F else if b0 = 0xF4 then 0x8F else 0xBF
      match rest with
      | [] => (runeError, 1)
      | b1 :: rest =>
        if b1 < lo ∨ hi < b1 then (runeError, 1)
        else if b0 < 0xE0 then (b0.toNat % 32 * 64 + b1.toNat % 64, 2)
        else
          match rest with
          | [] => (runeError, 1)
          | b2 :: rest =>
            if b2 < 0x80 ∨ 0xBF < b2 then (runeError, 1)
            else if b0 < 0xF0 then
              (b0.toNat % 16 * 4096 + b1.toNat % 64 * 64 + b2.toNat % 64, 3)
            else
              match rest with
              | [] => (runeError, 1)
              | b3 :: _ =>
                if b3 < 0x80 ∨ 0xBF < b3 then (runeError, 1)
                else (b0.toNat % 8 * 262144 + b1.toNat % 64 * 4096 + b2.toNat % 64 * 64 +
                  b3.toNat % 64, 4)

/-- `utf8.EncodeRune`: the UTF-8 bytes of a rune; a surrogate or a value past
U+10FFFF is written as `RuneError`. -/
def encodeRune (r : Nat) : Bytes :=
  if r ≤ 0x7F then [r.toUInt8]
  else if r ≤ 0x7FF then [(0xC0 + r / 64).toUInt8, (0x80 + r % 64).toUInt8]
  else
    let r := if 0x10FFFF < r ∨ (0xD800 ≤ r ∧ r ≤ 0xDFFF) then runeError else r
    if r ≤ 0xFFFF then
      [(0xE0 + r / 4096).toUInt8, (0x80 + r / 64 % 64).toUInt8, (0x80 + r % 64).toUInt8]
    else
      [(0xF0 + r / 262144).toUInt8, (0x80 + r / 4096 % 64).toUInt8,
        (0x80 + r / 64 % 64).toUInt8, (0x80 + r % 64).toUInt8]

/-- `utf16.IsSurrogate`. -/
def isSurrogate (r : Int) : Bool := 0xD800 ≤ r && r < 0xE000

/-- `utf16.DecodeRune`: the rune of a surrogate pair, or U+FFFD. -/
def utf16DecodeRune (r1 r2 : Int) : Int :=
  if 0xD800 ≤ r1 ∧ r1 < 0xDC00 ∧ 0xDC00 ≤ r2 ∧ r2 < 0xE000 then
    (r1 - 0xD800) * 1024 + (r2 - 0xDC00) + 0x10000
  else runeError

/-- `getu4`: the value of the `\uXXXX` escape at the front of `s`, or -1. -/
def getu4 : Bytes → Int
  | 0x5C :: 0x75 :: h1 :: h2 :: h3 :: h4 :: _ =>
    if Url.ishex h1 && Url.ishex h2 && Url.ishex h3 && Url.ishex h4 then
      ((Url.unhex h1 * 16 + Url.unhex h2) * 16 + Url.unhex h3) * 16 + Url.unhex h4
    else -1
  | _ => -1

/-- The general loop of `unquoteBytes` over the bytes between the quotes: escapes
are decoded, and bytes that start no valid UTF-8 encoding become U+FFFD. -/
def unquoteLoop : Bytes → Option Bytes
  | [] => some []
  | [0x5C] => none
  | 0x5C :: e :: rest =>
    if e = 0x22 ∨ e = 0x5C ∨ e = 0x2F ∨ e = 0x27 then (unquoteLoop rest).map (e :: ·)
    else if e = 0x62 then (unquoteLoop rest).map (0x08 :: ·)
    else if e = 0x66 then (unquoteLoop rest).map (0x0C :: ·)
    else if e = 0x6E then (unquoteLoop rest).map (0x0A :: ·)
    else if e = 0x72 then (unquoteLoop rest).map (0x0D :: ·)
    else if e = 0x74 then (unquoteLoop rest).map (0x09 :: ·)
    else if e = 0x75 then
      let rr := getu4 (0x5C :: e :: rest)
      if rr < 0 then none
      else if isSurrogate rr then
        let dec := utf16DecodeRune rr (getu4 (rest.drop 4))
        if dec ≠ runeError then (unquoteLoop ((rest.drop 4).drop 6)).map (encodeRune dec.toNat ++ ·)
        else (unquoteLoop (rest.drop 4)).map (encodeRune runeError ++ ·)
      else (unquoteLoop (rest.drop 4)).map (encodeRune rr.toNat ++ ·)
    else none
  | c :: rest =>
    if c = 0x22 ∨ c < 0x20 then none
    else if c < 0x80 then (unquoteLoop rest).map (c :: ·)
    else
      let r := decodeRune (c :: rest)
      (unquoteLoop (rest.drop (r.2 - 1))).map (encodeRune r.1 ++ ·)
termination_by l => l.length
decreasing_by
  all_goals simp_wf
  all_goals omega

/-- The prefix `unquoteBytes` scans before it decides to copy: ASCII other than
`\`, `"` and control bytes, and valid UTF-8 encodings. -/
def plainPrefixLength : Bytes → Nat
  | [] => 0
  | c :: rest =>
    if c = 0x5C ∨ c = 0x22 ∨ c < 0x20 then 0
    else if c < 0x80 then plainPrefixLength rest + 1
    else
      let r := decodeRune (c :: rest)
      if r.1 = runeError ∧ r.2 = 1 then 0
      else plainPrefixLength (rest.drop (r.2 - 1)) + r.2
termination_by l => l.length
decreasing_by
  simp_wf
  simp only [List.length_drop, List.length_cons]
  omega

/-- `unquoteBytes`: a string literal, quotes included, as the bytes it denotes,
or `none` where it is malformed.  When the whole body is plain it is returned as
it is; otherwise the plain prefix is copied and the loop takes the rest. -/
def unquoteBytes (s : Bytes) : Option Bytes :=
  if s.length < 2 ∨ s.head? ≠ some 0x22 ∨ s.getLast? ≠ some 0x22 then none
  else
    let body := (s.drop 1).dropLast
    let r := plainPrefixLength body
    if r = body.length then some body
    else (unquoteLoop (body.drop r)).map (body.take r ++ ·)

/-- `htmlSafeSet`: the ASCII bytes `appendString` copies as they are when it
escapes HTML, as `json.Marshal` has it. -/
def htmlSafe (b : UInt8) : Bool :=
  0x20 ≤ b && b < 0x80 && b != 0x22 && b != 0x5C && b != 0x3C && b != 0x3E && b != 0x26

/-- The escape `appendString` writes for an ASCII byte outside `htmlSafeSet`. -/
def escapeAscii (b : UInt8) : Bytes :=
  if b = 0x5C ∨ b = 0x22 then [0x5C, b]
  else if b = 0x08 then lit "\\b"
  else if b = 0x0C then lit "\\f"
  else if b = 0x0A then lit "\\n"
  else if b = 0x0D then lit "\\r"
  else if b = 0x09 then lit "\\t"
  else lit "\\u00" ++ [lowerhex (b / 16), lowerhex (b % 16)]

/-- What `appendString` writes for an ASCII byte. -/
def appendByte (b : UInt8) : Bytes := if htmlSafe b then [b] else escapeAscii b

/-- `appendString` between its quotes, with `escapeHTML` set: safe ASCII is
copied, other ASCII escaped, a byte that starts no valid UTF-8 encoding becomes
`�`, U+2028 and U+2029 are escaped, other valid encodings are copied. -/
def appendStringBody : Bytes → Bytes
  | [] => []
  | b :: rest =>
    if b < 0x80 then appendByte b ++ appendStringBody rest
    else
      let r := decodeRune (b :: rest)
      if r.1 = runeError ∧ r.2 = 1 then lit "\\ufffd" ++ appendStringBody rest
      else if r.1 = 0x2028 ∨ r.1 = 0x2029 then
        lit "\\u202" ++ [lowerhex (r.1 % 16).toUInt8] ++ appendStringBody (rest.drop (r.2 - 1))
      else (b :: rest).take r.2 ++ appendStringBody (rest.drop (r.2 - 1))
termination_by l => l.length
decreasing_by
  all_goals simp_wf
  all_goals omega

/-- `appendString`: a Go string as a JSON string literal. -/
def appendString (s : Bytes) : Bytes := 0x22 :: appendStringBody s ++ [0x22]

/-! ### ASCII text -/

theorem lt_0x80_of_le_0x7F {b : UInt8} (h : b ≤ 0x7F) : b < 0x80 := by
  rw [Url.toNat_le_iff] at h
  rw [Url.toNat_lt_iff]
  simp only [UInt8.reduceToNat] at h ⊢
  omega

theorem lowerhex_digits : ∀ k : Fin 16, Url.ishex ((lit "0123456789abcdef").getD k 0) = true ∧
    Url.unhex ((lit "0123456789abcdef").getD k 0) = k ∧ (lit "0123456789abcdef").getD k 0 ≤ 0x7F ∧
    (lit "0123456789abcdef").getD k 0 ≠ 0x22 ∧ (lit "0123456789abcdef").getD k 0 ≠ 0x5C := by
  decide

/-- The lower-case hex digit of a nibble is a hex digit of that value, ASCII, and
neither a quote nor a backslash. -/
theorem lowerhex_spec {n : UInt8} (h : n.toNat < 16) :
    Url.ishex (lowerhex n) = true ∧ Url.unhex (lowerhex n) = n.toNat ∧ lowerhex n ≤ 0x7F ∧
      lowerhex n ≠ 0x22 ∧ lowerhex n ≠ 0x5C :=
  lowerhex_digits ⟨n.toNat, h⟩

theorem toNat_div_16_lt (b : UInt8) : (b / 16).toNat < 16 := by
  have := b.toNat_lt_size
  rw [UInt8.toNat_div]
  unfold UInt8.size at this
  simp only [UInt8.reduceToNat]
  omega

theorem toNat_mod_16_lt (b : UInt8) : (b % 16).toNat < 16 := by
  rw [UInt8.toNat_mod]
  simp only [UInt8.reduceToNat]
  omega

theorem appendStringBody_of_isAscii {s : Bytes} (hs : IsAscii s) :
    appendStringBody s = s.flatMap appendByte := by
  induction s with
  | nil => rw [appendStringBody.eq_1]; rfl
  | cons b rest ih =>
    rw [appendStringBody.eq_2, if_pos (lt_0x80_of_le_0x7F (hs b (List.mem_cons_self b rest))),
      ih fun c hc => hs c (List.mem_cons_of_mem b hc)]
    rfl

theorem encodeRune_of_le {r : Nat} (h : r ≤ 0x7F) : encodeRune r = [r.toUInt8] := by
  rw [encodeRune, if_pos h]

/-- The `\u00XX` escape `appendString` writes for an ASCII byte reads back as it. -/
theorem getu4_escape (b : UInt8) (rest : Bytes) :
    getu4 (0x5C :: 0x75 :: 0x30 :: 0x30 :: lowerhex (b / 16) :: lowerhex (b % 16) :: rest) =
      b.toNat := by
  obtain ⟨hhi, hhi', -⟩ := lowerhex_spec (toNat_div_16_lt b)
  obtain ⟨hlo, hlo', -⟩ := lowerhex_spec (toNat_mod_16_lt b)
  have h30 : Url.ishex 0x30 = true ∧ Url.unhex 0x30 = 0 := by decide
  simp only [getu4, hhi, hlo, hhi', hlo', h30.1, h30.2, Bool.and_self, ite_true,
    UInt8.toNat_div, UInt8.toNat_mod, UInt8.reduceToNat]
  omega

/-- A byte both the fast path of `unquoteBytes` and its loop copy as it is. -/
def PlainAscii (c : UInt8) : Prop := 0x20 ≤ c ∧ c < 0x80 ∧ c ≠ 0x22 ∧ c ≠ 0x5C

theorem unquoteLoop_cons_plain {c : UInt8} (hc : PlainAscii c) (rest : Bytes) :
    unquoteLoop (c :: rest) = (unquoteLoop rest).map (c :: ·) := by
  obtain ⟨hsp, hlt, hq, hbs⟩ := hc
  have hcopy : ¬(c = 0x22 ∨ c < 0x20) := by
    rintro (h | h)
    · exact hq h
    · simp only [Url.toNat_lt_iff, Url.toNat_le_iff, UInt8.reduceToNat] at h hsp
      omega
  have hlone : c = 0x5C → rest = [] → False := fun h => absurd h hbs
  have hesc : ∀ e r, c = 0x5C → rest = e :: r → False := fun _ _ h => absurd h hbs
  rw [unquoteLoop.eq_4 c rest hlone hesc, if_neg hcopy, if_pos hlt]

theorem unquoteLoop_plain_append {p : Bytes} (hp : ∀ c ∈ p, PlainAscii c) (rest : Bytes) :
    unquoteLoop (p ++ rest) = (unquoteLoop rest).map (p ++ ·) := by
  induction p with
  | nil => simp
  | cons c p ih =>
    rw [List.cons_append, unquoteLoop_cons_plain (hp c (List.mem_cons_self c p)),
      ih fun d hd => hp d (List.mem_cons_of_mem c hd), Option.map_map]
    rfl

/-- The escapes `appendString` writes for control bytes: the byte and the
letter after the backslash. -/
def controlEscapes : List (UInt8 × UInt8) :=
  [(0x08, 0x62), (0x0C, 0x66), (0x0A, 0x6E), (0x0D, 0x72), (0x09, 0x74)]

/-- What `escapeAscii` writes, branch by branch. -/
theorem escapeAscii_cases (b : UInt8) :
    ((b = 0x5C ∨ b = 0x22) ∧ escapeAscii b = [0x5C, b]) ∨
    (∃ e, (b, e) ∈ controlEscapes ∧ escapeAscii b = [0x5C, e]) ∨
    escapeAscii b = [0x5C, 0x75, 0x30, 0x30, lowerhex (b / 16), lowerhex (b % 16)] := by
  unfold escapeAscii
  by_cases h1 : b = 0x5C ∨ b = 0x22
  · exact .inl ⟨h1, if_pos h1⟩
  rw [if_neg h1]
  by_cases h2 : b = 0x08
  · exact .inr (.inl ⟨0x62, by subst h2; decide, if_pos h2⟩)
  rw [if_neg h2]
  by_cases h3 : b = 0x0C
  · exact .inr (.inl ⟨0x66, by subst h3; decide, if_pos h3⟩)
  rw [if_neg h3]
  by_cases h4 : b = 0x0A
  · exact .inr (.inl ⟨0x6E, by subst h4; decide, if_pos h4⟩)
  rw [if_neg h4]
  by_cases h5 : b = 0x0D
  · exact .inr (.inl ⟨0x72, by subst h5; decide, if_pos h5⟩)
  rw [if_neg h5]
  by_cases h6 : b = 0x09
  · exact .inr (.inl ⟨0x74, by subst h6; decide, if_pos h6⟩)
  rw [if_neg h6]
  exact .inr (.inr rfl)

theorem mem_controlEscapes {b e : UInt8} (h : (b, e) ∈ controlEscapes) :
    (b = 0x08 ∧ e = 0x62) ∨ (b = 0x0C ∧ e = 0x66) ∨ (b = 0x0A ∧ e = 0x6E) ∨
      (b = 0x0D ∧ e = 0x72) ∨ (b = 0x09 ∧ e = 0x74) := by
  simpa [controlEscapes] using h

/-- A byte of `htmlSafeSet` is one both codecs copy. -/
theorem plainAscii_of_htmlSafe {b : UInt8} (h : htmlSafe b = true) : PlainAscii b := by
  simp only [htmlSafe, Bool.and_eq_true, decide_eq_true_eq, bne_iff_ne, ne_eq] at h
  exact ⟨h.1.1.1.1.1.1, h.1.1.1.1.1.2, h.1.1.1.1.2, h.1.1.1.2⟩

/-- The loop reads back one byte as `appendString` writes it. -/
theorem unquoteLoop_appendByte {b : UInt8} (hb : b ≤ 0x7F) (rest : Bytes) :
    unquoteLoop (appendByte b ++ rest) = (unquoteLoop rest).map (b :: ·) := by
  unfold appendByte
  split
  case isTrue hsafe =>
    exact unquoteLoop_plain_append (by simpa using plainAscii_of_htmlSafe hsafe) rest
  rcases escapeAscii_cases b with ⟨h1, he⟩ | ⟨e, hmem, he⟩ | he <;> rw [he]
  · rw [List.cons_append, List.singleton_append, unquoteLoop.eq_3,
      if_pos (by rcases h1 with h | h <;> simp [h])]
  · rcases mem_controlEscapes hmem with ⟨rfl, rfl⟩ | ⟨rfl, rfl⟩ | ⟨rfl, rfl⟩ | ⟨rfl, rfl⟩ |
        ⟨rfl, rfl⟩ <;>
      rw [List.cons_append, List.singleton_append, unquoteLoop.eq_3] <;> rfl
  · have hlt : b.toNat ≤ 0x7F := by rw [Url.toNat_le_iff] at hb; simpa using hb
    show unquoteLoop (0x5C :: 0x75 :: 0x30 :: 0x30 :: lowerhex (b / 16) :: lowerhex (b % 16) :: rest) = _
    rw [unquoteLoop.eq_3, if_neg (by decide), if_neg (by decide), if_neg (by decide),
      if_neg (by decide), if_neg (by decide), if_neg (by decide), if_pos rfl]
    simp only [getu4_escape, isSurrogate, Int.toNat_ofNat, encodeRune_of_le hlt]
    rw [if_neg (by omega), if_neg (by simp only [Bool.and_eq_true, decide_eq_true_eq]; omega),
      show b.toNat.toUInt8 = b from Url.ofNat_toNat b]
    rfl

theorem unquoteLoop_flatMap_appendByte {s : Bytes} (hs : IsAscii s) :
    unquoteLoop (s.flatMap appendByte) = some s := by
  induction s with
  | nil => rw [List.flatMap_nil, unquoteLoop.eq_1]
  | cons b rest ih =>
    rw [List.flatMap_cons, unquoteLoop_appendByte (hs b (List.mem_cons_self b rest)),
      ih fun c hc => hs c (List.mem_cons_of_mem b hc)]
    rfl

theorem isAscii_appendByte {b : UInt8} (hb : b ≤ 0x7F) : IsAscii (appendByte b) := by
  unfold appendByte
  split
  · simpa [IsAscii] using hb
  have hhi := (lowerhex_spec (toNat_div_16_lt b)).2.2.1
  have hlo := (lowerhex_spec (toNat_mod_16_lt b)).2.2.1
  rcases escapeAscii_cases b with ⟨-, he⟩ | ⟨e, hmem, he⟩ | he <;> rw [he] <;> intro c hc <;>
    simp only [List.mem_cons, List.not_mem_nil, or_false] at hc
  · rcases hc with rfl | rfl
    · decide
    · exact hb
  · rcases mem_controlEscapes hmem with ⟨-, rfl⟩ | ⟨-, rfl⟩ | ⟨-, rfl⟩ | ⟨-, rfl⟩ | ⟨-, rfl⟩ <;>
      rcases hc with rfl | rfl <;> decide
  · rcases hc with rfl | rfl | rfl | rfl | rfl | rfl <;> first | decide | assumption

/-- The bytes the fast path of `unquoteBytes` passes over in an ASCII body are
ones the loop copies. -/
theorem plainAscii_of_mem_take_plainPrefixLength {body : Bytes} (h : IsAscii body) :
    ∀ c ∈ body.take (plainPrefixLength body), PlainAscii c := by
  induction body with
  | nil => simp
  | cons c rest ih =>
    have hc := lt_0x80_of_le_0x7F (h c (List.mem_cons_self c rest))
    rw [plainPrefixLength.eq_2]
    split_ifs with hspecial
    · simp
    · rw [List.take_succ_cons]
      intro d hd
      rcases List.mem_cons.mp hd with rfl | hd
      · simp only [not_or] at hspecial
        obtain ⟨hbs, hq, hsp⟩ := hspecial
        refine ⟨?_, hc, hq, hbs⟩
        simp only [Url.toNat_lt_iff, Url.toNat_le_iff, UInt8.reduceToNat] at hsp ⊢
        omega
      · exact ih (fun e he => h e (List.mem_cons_of_mem c he)) d hd

/-- For an ASCII body, `unquoteBytes` of the quoted body is the general loop over
it: the fast path is an optimisation of the loop. -/
theorem unquoteBytes_quote_of_isAscii {body : Bytes} (h : IsAscii body) :
    unquoteBytes (0x22 :: body ++ [0x22]) = unquoteLoop body := by
  have hbody : ((0x22 :: body ++ [0x22]).drop 1).dropLast = body := by
    rw [List.cons_append, List.drop_one, List.tail_cons, List.dropLast_concat]
  have hplain := plainAscii_of_mem_take_plainPrefixLength h
  rw [unquoteBytes, if_neg (by rw [List.getLast?_concat]; simp), hbody]
  dsimp only
  split_ifs with hall
  · rw [List.take_of_length_le (Nat.le_of_eq hall.symm)] at hplain
    simpa [unquoteLoop.eq_1] using (unquoteLoop_plain_append hplain []).symm
  · conv_rhs => rw [← List.take_append_drop (plainPrefixLength body) body]
    rw [unquoteLoop_plain_append hplain]

/-- `unquoteBytes` reads back what `appendString` writes, for every ASCII text. -/
theorem unquoteBytes_appendString {s : Bytes} (hs : IsAscii s) :
    unquoteBytes (appendString s) = some s := by
  have hbody : IsAscii (s.flatMap appendByte) := fun c hc => by
    obtain ⟨b, hb, hcb⟩ := List.mem_flatMap.mp hc
    exact isAscii_appendByte (hs b hb) c hcb
  rw [appendString, appendStringBody_of_isAscii hs, unquoteBytes_quote_of_isAscii hbody,
    unquoteLoop_flatMap_appendByte hs]

/-! ### The scanner over a written string -/

/-- Inside a string literal the scanner passes over one byte as `appendString`
writes it and stays inside the literal. -/
theorem scanBytes_appendByte (endTop : Bool) (ps : List ParseState) (err : Option SyntaxError)
    (n : Nat) {b : UInt8} (hb : b ≤ 0x7F) :
    Scanner.scanBytes ⟨.stateInString, endTop, ps, err, n⟩ (appendByte b) =
      .ok ⟨.stateInString, endTop, ps, err, n + (appendByte b).length⟩ := by
  unfold appendByte
  split
  case isTrue hsafe =>
    obtain ⟨hsp, -, hq, hbs⟩ := plainAscii_of_htmlSafe hsafe
    have hctl : ¬b < 0x20 := fun h => absurd hsp (by
      simp only [Url.toNat_lt_iff, Url.toNat_le_iff, UInt8.reduceToNat] at h ⊢; omega)
    simp only [Scanner.scanBytes, StepFn.apply, stateInString, hq, hbs, hctl, if_false,
      reduceCtorEq, List.length_singleton]
  obtain ⟨hhi, -, -, -, -⟩ := lowerhex_spec (toNat_div_16_lt b)
  obtain ⟨hlo, -, -, -, -⟩ := lowerhex_spec (toNat_mod_16_lt b)
  rcases escapeAscii_cases b with ⟨h1 | h1, he⟩ | ⟨e, hmem, he⟩ | he <;> rw [he]
  · subst h1; rfl
  · subst h1; rfl
  · rcases mem_controlEscapes hmem with ⟨rfl, rfl⟩ | ⟨rfl, rfl⟩ | ⟨rfl, rfl⟩ | ⟨rfl, rfl⟩ |
      ⟨rfl, rfl⟩ <;> rfl
  · have hu00 : Scanner.scanBytes ⟨.stateInString, endTop, ps, err, n⟩ [0x5C, 0x75, 0x30, 0x30] =
        .ok ⟨.stateInStringEscU12, endTop, ps, err, n + 4⟩ := rfl
    rw [show [0x5C, 0x75, 0x30, 0x30, lowerhex (b / 16), lowerhex (b % 16)] =
        [0x5C, 0x75, 0x30, 0x30] ++ [lowerhex (b / 16), lowerhex (b % 16)] from rfl,
      Scanner.scanBytes_append_of_ok hu00]
    simp only [Scanner.scanBytes, StepFn.apply, stateInStringEscU12, stateInStringEscU123,
      stateEscHex, hhi, hlo, ite_true, reduceCtorEq, ite_false]
    rfl

/-- The scanner passes over the body `appendString` writes for an ASCII text and
stays inside the literal. -/
theorem scanBytes_flatMap_appendByte (endTop : Bool) (ps : List ParseState)
    (err : Option SyntaxError) {s : Bytes} (hs : IsAscii s) (n : Nat) :
    Scanner.scanBytes ⟨.stateInString, endTop, ps, err, n⟩ (s.flatMap appendByte) =
      .ok ⟨.stateInString, endTop, ps, err, n + (s.flatMap appendByte).length⟩ := by
  induction s generalizing n with
  | nil => rfl
  | cons b rest ih =>
    rw [List.flatMap_cons, Scanner.scanBytes_append,
      scanBytes_appendByte endTop ps err n (hs b (List.mem_cons_self b rest))]
    show Scanner.scanBytes _ _ = _
    rw [ih (fun c hc => hs c (List.mem_cons_of_mem b hc)), List.length_append, Nat.add_assoc]

/-- From a step that expects a value or a key, the scanner reads `appendString`'s
output for an ASCII text as one string literal and then expects what follows a
value. -/
theorem scanBytes_appendString {step : StepFn}
    (hstep : step = .stateBeginValue ∨ step = .stateBeginString ∨ step = .stateBeginStringOrEmpty)
    (endTop : Bool) (ps : List ParseState) (err : Option SyntaxError) {s : Bytes} (hs : IsAscii s)
    (n : Nat) :
    Scanner.scanBytes ⟨step, endTop, ps, err, n⟩ (appendString s) =
      .ok ⟨.stateEndValue, endTop, ps, err, n + (appendString s).length⟩ := by
  have hopen : step.apply ⟨step, endTop, ps, err, n + 1⟩ 0x22 =
      (⟨.stateInString, endTop, ps, err, n + 1⟩, .scanBeginLiteral) := by
    rcases hstep with rfl | rfl | rfl <;> rfl
  rw [appendString, appendStringBody_of_isAscii hs, List.cons_append, Scanner.scanBytes, hopen,
    if_neg (by simp), Scanner.scanBytes_append, scanBytes_flatMap_appendByte endTop ps err hs]
  show Scanner.scanBytes ⟨.stateInString, endTop, ps, err, n + 1 + (s.flatMap appendByte).length⟩
    [0x22] = _
  simp only [Scanner.scanBytes, StepFn.apply, stateInString, ite_true, reduceCtorEq, ite_false,
    List.length_cons, List.length_append, List.length_singleton, List.length_nil]
  congr 2
  omega

end Json

end ProviderOrchard
