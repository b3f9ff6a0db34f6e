/-
The scanner of Go's encoding/json (scanner.go, Go 1.22), which `json.Unmarshal`
runs over the whole input before it decodes anything, and which the decoder runs
again as it walks the bytes.  It is a state machine: one step function per
position in the grammar, and a stack of the objects and arrays still open, kept
here as a list with the innermost entry first.  `checkValid` accepts the input or
returns the first byte that breaks the grammar as a `SyntaxError`.
-/
import ProviderOrchard.HierarchicalUrl

namespace ProviderOrchard

namespace Json

/-- `isSpace`: the four whitespace bytes of JSON. -/
def isSpace (c : UInt8) : Bool := c == 0x20 || c == 0x09 || c == 0x0D || c == 0x0A

/-- A decimal digit. -/
def isDigit (c : UInt8) : Bool := 0x30 ≤ c && c ≤ 0x39

/-- The lower-case hex digit of a nibble. -/
def lowerhex (n : UInt8) : UInt8 := (lit "0123456789abcdef").getD n.toNat 0

/-- `strconv.Quote(string(rune(c)))` without its quotes: ASCII as `strconvQuote`
writes it, a printable Latin-1 rune as its two UTF-8 bytes, any other as `\u00XX`. -/
def quoteRune (c : UInt8) : Bytes :=
  if c < 0x80 then ((strconvQuote [c]).drop 1).dropLast
  else if 0xA1 ≤ c ∧ c ≠ 0xAD then [0xC0 + c / 64, 0x80 + c % 64]
  else lit "\\u00" ++ [lowerhex (c / 16), lowerhex (c % 16)]

/-- `quoteChar`: a byte as the scanner's error messages show it. -/
def quoteChar (c : UInt8) : Bytes :=
  if c = 0x27 then lit "'\\''"
  else if c = 0x22 then lit "'\"'"
  else lit "'" ++ quoteRune c ++ lit "'"

/-- The entries of the scanner's `parseState` stack. -/
inductive ParseState
  | parseObjectKey
  | parseObjectValue
  | parseArrayValue
  deriving DecidableEq, Repr

/-- The opcodes a step returns. -/
inductive ScanOp
  | scanContinue
  | scanBeginLiteral
  | scanBeginObject
  | scanObjectKey
  | scanObjectValue
  | scanEndObject
  | scanBeginArray
  | scanArrayValue
  | scanEndArray
  | scanSkipSpace
  | scanEnd
  | scanError
  deriving DecidableEq, Repr

/-- The scanner's step functions, one per `state...` function of scanner.go. -/
inductive StepFn
  | stateBeginValueOrEmpty
  | stateBeginValue
  | stateBeginStringOrEmpty
  | stateBeginString
  | stateEndValue
  | stateEndTop
  | stateInString
  | stateInStringEsc
  | stateInStringEscU
  | stateInStringEscU1
  | stateInStringEscU12
  | stateInStringEscU123
  | stateNeg
  | state1
  | state0
  | stateDot
  | stateDot0
  | stateE
  | stateESign
  | stateE0
  | stateT
  | stateTr
  | stateTru
  | stateF
  | stateFa
  | stateFal
  | stateFals
  | stateN
  | stateNu
  | stateNul
  | stateError
  deriving DecidableEq, Repr

/-- `SyntaxError`: its message and the count of bytes read when it was found. -/
structure SyntaxError where
  msg : Bytes
  offset : Nat
  deriving DecidableEq, Repr

/-- `scanner`. -/
structure Scanner where
  step : StepFn
  endTop : Bool
  parseState : List ParseState
  err : Option SyntaxError
  bytes : Nat
  deriving DecidableEq, Repr

/-- `maxNestingDepth`. -/
def maxNestingDepth : Nat := 10000

namespace Scanner

/-- A scanner after `reset`, with no byte read yet. -/
def init : Scanner := ⟨.stateBeginValue, false, [], none, 0⟩

/-- `s.error(c, context)`. -/
def error (s : Scanner) (c : UInt8) (context : Bytes) : Scanner × ScanOp :=
  ({ s with
      step := .stateError
      err := some ⟨lit "invalid character " ++ quoteChar c ++ lit " " ++ context, s.bytes⟩ },
    .scanError)

/-- `pushParseState`. -/
def pushParseState (s : Scanner) (c : UInt8) (newParseState : ParseState)
    (successState : ScanOp) : Scanner × ScanOp :=
  let s := { s with parseState := newParseState :: s.parseState }
  if s.parseState.length ≤ maxNestingDepth then (s, successState)
  else s.error c (lit "exceeded max depth")

/-- `popParseState`: closing the outermost value ends the top level. -/
def popParseState (s : Scanner) : Scanner :=
  if s.parseState.tail = [] then { s with parseState := [], step := .stateEndTop, endTop := true }
  else { s with parseState := s.parseState.tail, step := .stateEndValue }

end Scanner

open Scanner

/-- `stateEndTop`: only whitespace may follow the top-level value; any other byte
is reported by the next step. -/
def stateEndTop (s : Scanner) (c : UInt8) : Scanner × ScanOp :=
  if isSpace c then (s, .scanEnd) else ((s.error c (lit "after top-level value")).1, .scanEnd)

/-- `stateEndValue`: after a value, what the innermost open object or array allows. -/
def stateEndValue (s : Scanner) (c : UInt8) : Scanner × ScanOp :=
  match s.parseState with
  | [] => stateEndTop { s with step := .stateEndTop, endTop := true } c
  | ps :: rest =>
    if isSpace c then ({ s with step := .stateEndValue }, .scanSkipSpace)
    else
      match ps with
      | .parseObjectKey =>
        if c = 0x3A then
          ({ s with parseState := .parseObjectValue :: rest, step := .stateBeginValue }, .scanObjectKey)
        else s.error c (lit "after object key")
      | .parseObjectValue =>
        if c = 0x2C then
          ({ s with parseState := .parseObjectKey :: rest, step := .stateBeginString }, .scanObjectValue)
        else if c = 0x7D then (s.popParseState, .scanEndObject)
        else s.error c (lit "after object key:value pair")
      | .parseArrayValue =>
        if c = 0x2C then ({ s with step := .stateBeginValue }, .scanArrayValue)
        else if c = 0x5D then (s.popParseState, .scanEndArray)
        else s.error c (lit "after array element")

/-- `stateBeginValue`: the first byte of a value. -/
def stateBeginValue (s : Scanner) (c : UInt8) : Scanner × ScanOp :=
  if isSpace c then (s, .scanSkipSpace)
  else if c = 0x7B then
    pushParseState { s with step := .stateBeginStringOrEmpty } c .parseObjectKey .scanBeginObject
  else if c = 0x5B then
    pushParseState { s with step := .stateBeginValueOrEmpty } c .parseArrayValue .scanBeginArray
  else if c = 0x22 then ({ s with step := .stateInString }, .scanBeginLiteral)
  else if c = 0x2D then ({ s with step := .stateNeg }, .scanBeginLiteral)
  else if c = 0x30 then ({ s with step := .state0 }, .scanBeginLiteral)
  else if c = 0x74 then ({ s with step := .stateT }, .scanBeginLiteral)
  else if c = 0x66 then ({ s with step := .stateF }, .scanBeginLiteral)
  else if c = 0x6E then ({ s with step := .stateN }, .scanBeginLiteral)
  else if 0x31 ≤ c ∧ c ≤ 0x39 then ({ s with step := .state1 }, .scanBeginLiteral)
  else s.error c (lit "looking for beginning of value")

/-- `stateBeginValueOrEmpty`: after `[`. -/
def stateBeginValueOrEmpty (s : Scanner) (c : UInt8) : Scanner × ScanOp :=
  if isSpace c then (s, .scanSkipSpace)
  else if c = 0x5D then stateEndValue s c
  else stateBeginValue s c

/-- `stateBeginString`: the opening quote of an object key. -/
def stateBeginString (s : Scanner) (c : UInt8) : Scanner × ScanOp :=
  if isSpace c then (s, .scanSkipSpace)
  else if c = 0x22 then ({ s with step := .stateInString }, .scanBeginLiteral)
  else s.error c (lit "looking for beginning of object key string")

/-- `stateBeginStringOrEmpty`: after `{`. -/
def stateBeginStringOrEmpty (s : Scanner) (c : UInt8) : Scanner × ScanOp :=
  if isSpace c then (s, .scanSkipSpace)
  else if c = 0x7D then stateEndValue { s with parseState := .parseObjectValue :: s.parseState.tail } c
  else stateBeginString s c

/-- `stateInString`: inside a string literal. -/
def stateInString (s : Scanner) (c : UInt8) : Scanner × ScanOp :=
  if c = 0x22 then ({ s with step := .stateEndValue }, .scanContinue)
  else if c = 0x5C then ({ s with step := .stateInStringEsc }, .scanContinue)
  else if c < 0x20 then s.error c (lit "in string literal")
  else (s, .scanContinue)

/-- `stateInStringEsc`: after a backslash in a string literal. -/
def stateInStringEsc (s : Scanner) (c : UInt8) : Scanner × ScanOp :=
  if (lit "bfnrt\\/\"").contains c then ({ s with step := .stateInString }, .scanContinue)
  else if c = 0x75 then ({ s with step := .stateInStringEscU }, .scanContinue)
  else s.error c (lit "in string escape code")

/-- One hex digit of a `\uXXXX` escape, then `next`. -/
def stateEscHex (next : StepFn) (s : Scanner) (c : UInt8) : Scanner × ScanOp :=
  if Url.ishex c then ({ s with step := next }, .scanContinue)
  else s.error c (lit "in \\u hexadecimal character escape")

/-- `stateInStringEscU`. -/
def stateInStringEscU : Scanner → UInt8 → Scanner × ScanOp := stateEscHex .stateInStringEscU1
/-- `stateInStringEscU1`. -/
def stateInStringEscU1 : Scanner → UInt8 → Scanner × ScanOp := stateEscHex .stateInStringEscU12
/-- `stateInStringEscU12`. -/
def stateInStringEscU12 : Scanner → UInt8 → Scanner × ScanOp := stateEscHex .stateInStringEscU123
/-- `stateInStringEscU123`. -/
def stateInStringEscU123 : Scanner → UInt8 → Scanner × ScanOp := stateEscHex .stateInString

/-- `stateNeg`: after the minus sign of a number. -/
def stateNeg (s : Scanner) (c : UInt8) : Scanner × ScanOp :=
  if c = 0x30 then ({ s with step := .state0 }, .scanContinue)
  else if 0x31 ≤ c ∧ c ≤ 0x39 then ({ s with step := .state1 }, .scanContinue)
  else s.error c (lit "in numeric literal")

/-- `state0`: after a zero, or after the integer part of a number. -/
def state0 (s : Scanner) (c : UInt8) : Scanner × ScanOp :=
  if c = 0x2E then ({ s with step := .stateDot }, .scanContinue)
  else if c = 0x65 ∨ c = 0x45 then ({ s with step := .stateE }, .scanContinue)
  else stateEndValue s c

/-- `state1`: in the integer part of a number. -/
def state1 (s : Scanner) (c : UInt8) : Scanner × ScanOp :=
  if isDigit c then (s, .scanContinue) else state0 s c

/-- `stateDot`: after the decimal point. -/
def stateDot (s : Scanner) (c : UInt8) : Scanner × ScanOp :=
  if isDigit c then ({ s with step := .stateDot0 }, .scanContinue)
  else s.error c (lit "after decimal point in numeric literal")

/-- `stateDot0`: in the fraction. -/
def stateDot0 (s : Scanner) (c : UInt8) : Scanner × ScanOp :=
  if isDigit c then (s, .scanContinue)
  else if c = 0x65 ∨ c = 0x45 then ({ s with step := .stateE }, .scanContinue)
  else stateEndValue s c

/-- `stateESign`: after the exponent's sign. -/
def stateESign (s : Scanner) (c : UInt8) : Scanner × ScanOp :=
  if isDigit c then ({ s with step := .stateE0 }, .scanContinue)
  else s.error c (lit "in exponent of numeric literal")

/-- `stateE`: after the `e` of an exponent. -/
def stateE (s : Scanner) (c : UInt8) : Scanner × ScanOp :=
  if c = 0x2B ∨ c = 0x2D then ({ s with step := .stateESign }, .scanContinue)
  else stateESign s c

/-- `stateE0`: in the exponent. -/
def stateE0 (s : Scanner) (c : UInt8) : Scanner × ScanOp :=
  if isDigit c then (s, .scanContinue) else stateEndValue s c

/-- One byte of `true`, `false` or `null`: the expected byte moves on to `next`. -/
def stateLiteralByte (expected : UInt8) (next : StepFn) (context : Bytes) (s : Scanner)
    (c : UInt8) : Scanner × ScanOp :=
  if c = expected then ({ s with step := next }, .scanContinue) else s.error c context

/-- `stateT`. -/
def stateT := stateLiteralByte 0x72 .stateTr (lit "in literal true (expecting 'r')")
/-- `stateTr`. -/
def stateTr := stateLiteralByte 0x75 .stateTru (lit "in literal true (expecting 'u')")
/-- `stateTru`. -/
def stateTru := stateLiteralByte 0x65 .stateEndValue (lit "in literal true (expecting 'e')")
/-- `stateF`. -/
def stateF := stateLiteralByte 0x61 .stateFa (lit "in literal false (expecting 'a')")
/-- `stateFa`. -/
def stateFa := stateLiteralByte 0x6C .stateFal (lit "in literal false (expecting 'l')")
/-- `stateFal`. -/
def stateFal := stateLiteralByte 0x73 .stateFals (lit "in literal false (expecting 's')")
/-- `stateFals`. -/
def stateFals := stateLiteralByte 0x65 .stateEndValue (lit "in literal false (expecting 'e')")
/-- `stateN`. -/
def stateN := stateLiteralByte 0x75 .stateNu (lit "in literal null (expecting 'u')")
/-- `stateNu`. -/
def stateNu := stateLiteralByte 0x6C .stateNul (lit "in literal null (expecting 'l')")
/-- `stateNul`. -/
def stateNul := stateLiteralByte 0x6C .stateEndValue (lit "in literal null (expecting 'l')")

/-- `stateError`: once an error is found, every byte is an error. -/
def stateError (s : Scanner) (_ : UInt8) : Scanner × ScanOp := (s, .scanError)

/-- `s.step(s, c)`: the step function the scanner holds, applied to one byte. -/
def StepFn.apply : StepFn → Scanner → UInt8 → Scanner × ScanOp
  | .stateBeginValueOrEmpty => Json.stateBeginValueOrEmpty
  | .stateBeginValue => Json.stateBeginValue
  | .stateBeginStringOrEmpty => Json.stateBeginStringOrEmpty
  | .stateBeginString => Json.stateBeginString
  | .stateEndValue => Json.stateEndValue
  | .stateEndTop => Json.stateEndTop
  | .stateInString => Json.stateInString
  | .stateInStringEsc => Json.stateInStringEsc
  | .stateInStringEscU => Json.stateInStringEscU
  | .stateInStringEscU1 => Json.stateInStringEscU1
  | .stateInStringEscU12 => Json.stateInStringEscU12
  | .stateInStringEscU123 => Json.stateInStringEscU123
  | .stateNeg => Json.stateNeg
  | .state1 => Json.state1
  | .state0 => Json.state0
  | .stateDot => Json.stateDot
  | .stateDot0 => Json.stateDot0
  | .stateE => Json.stateE
  | .stateESign => Json.stateESign
  | .stateE0 => Json.stateE0
  | .stateT => Json.stateT
  | .stateTr => Json.stateTr
  | .stateTru => Json.stateTru
  | .stateF => Json.stateF
  | .stateFa => Json.stateFa
  | .stateFal => Json.stateFal
  | .stateFals => Json.stateFals
  | .stateN => Json.stateN
  | .stateNu => Json.stateNu
  | .stateNul => Json.stateNul
  | .stateError => Json.stateError

/-- `eof`: the end of the input, accepted only once the top-level value is complete. -/
def Scanner.eof (s : Scanner) : Scanner × ScanOp :=
  if s.err.isSome then (s, .scanError)
  else if s.endTop then (s, .scanEnd)
  else
    let s := (s.step.apply s 0x20).1
    if s.endTop then (s, .scanEnd)
    else ({ s with err := s.err.or (some ⟨lit "unexpected end of JSON input", s.bytes⟩) }, .scanError)

/-- `checkValid`'s loop: each byte is counted, then stepped. -/
def Scanner.scanBytes (s : Scanner) : Bytes → Except SyntaxError Scanner
  | [] => .ok s
  | c :: rest =>
    let r := s.step.apply { s with bytes := s.bytes + 1 } c
    if r.2 = .scanError then .error (r.1.err.getD ⟨[], r.1.bytes⟩) else r.1.scanBytes rest

/-- `checkValid`: the scanner's verdict on a whole input. -/
def checkValid (data : Bytes) : Except SyntaxError Unit :=
  match Scanner.init.scanBytes data with
  | .error e => .error e
  | .ok s =>
    let r := s.eof
    if r.2 = .scanError then .error (r.1.err.getD ⟨[], r.1.bytes⟩) else .ok ()

theorem Scanner.scanBytes_append (s : Scanner) (a b : Bytes) :
    s.scanBytes (a ++ b) = s.scanBytes a >>= fun s' => s'.scanBytes b := by
  induction a generalizing s with
  | nil => rfl
  | cons c a ih =>
    simp only [List.cons_append, Scanner.scanBytes]
    split_ifs
    · rfl
    · exact ih _

/-- Scanning on after a part that scanned without error. -/
theorem Scanner.scanBytes_append_of_ok {s s' : Scanner} {a : Bytes} (h : s.scanBytes a = .ok s')
    (b : Bytes) : s.scanBytes (a ++ b) = s'.scanBytes b := by
  rw [Scanner.scanBytes_append, h]
  rfl

example : checkValid (lit "\x7b\"token\": \"abc\"\x7d") = .ok () := rfl
example : checkValid (lit "\x7b\"token\" \"abc\"\x7d") =
    .error ⟨lit "invalid character '\"' after object key", 10⟩ := rfl

end Json

end ProviderOrchard
