/-
The part of Go's net/url the tunnel code relies on: `url.Parse` (RFC 3986 as
net/url reads it, with `viaRequest` false), the percent-decoding `unescape` with
its encoding modes, `escape` and `url.PathEscape`.  Errors are values of their
kind; their texts follow net/url, with `strconv.Quote` as modelled below.
-/
import Mathlib.Data.List.Infix
import ProviderOrchard.GoString

namespace ProviderOrchard

/-- `strconv.Quote`: ASCII as Go writes it (`\"`, `\\`, the C escapes, `\xNN`
for other control bytes); bytes from 0x80 up are copied, which is what Go does
for valid printable UTF-8. -/
def strconvQuote (s : Bytes) : Bytes :=
  lit "\"" ++ s.flatMap (fun b =>
    if b = 0x22 then lit "\\\"" else if b = 0x5C then lit "\\\\"
    else if b = 0x07 then lit "\\a" else if b = 0x08 then lit "\\b"
    else if b = 0x0C then lit "\\f" else if b = 0x0A then lit "\\n"
    else if b = 0x0D then lit "\\r" else if b = 0x09 then lit "\\t"
    else if b = 0x0B then lit "\\v"
    else if b < 0x20 ∨ b = 0x7F then
      lit "\\x" ++ [(lit "0123456789abcdef").getD (b.toNat / 16) 0,
        (lit "0123456789abcdef").getD (b.toNat % 16) 0]
    else [b]) ++ lit "\""

namespace Url

/-- The encoding modes of net/url. -/
inductive EncodeMode
  | path
  | pathSegment
  | host
  | zone
  | userPassword
  | queryComponent
  | fragment
  deriving DecidableEq, Repr

/-- `ishex`. -/
def ishex (c : UInt8) : Bool :=
  (0x30 ≤ c && c ≤ 0x39) || (0x61 ≤ c && c ≤ 0x66) || (0x41 ≤ c && c ≤ 0x46)

/-- `unhex`, as a number. -/
def unhex (c : UInt8) : Nat :=
  if 0x30 ≤ c ∧ c ≤ 0x39 then c.toNat - 0x30
  else if 0x61 ≤ c ∧ c ≤ 0x66 then c.toNat - 0x61 + 10
  else if 0x41 ≤ c ∧ c ≤ 0x46 then c.toNat - 0x41 + 10
  else 0

/-- `upperhex[n]` for a nibble. -/
def upperhex (n : Nat) : UInt8 := (lit "0123456789ABCDEF").getD n 0

/-- `shouldEscape`: whether a byte must be percent-encoded in a URL component. -/
def shouldEscape (c : UInt8) (mode : EncodeMode) : Bool :=
  if (0x61 ≤ c && c ≤ 0x7A) || (0x41 ≤ c && c ≤ 0x5A) || (0x30 ≤ c && c ≤ 0x39) then false
  else if (mode = .host || mode = .zone) && (lit "!$&'()*+,;=:[]<>\"").contains c then false
  else if (lit "-_.~").contains c then false
  else if (lit "$&+,/:;=?@").contains c then
    match mode with
    | .path => c = 0x3F
    | .pathSegment => c = 0x2F || c = 0x3B || c = 0x2C || c = 0x3F
    | .userPassword => c = 0x40 || c = 0x2F || c = 0x3F || c = 0x3A
    | .queryComponent => true
    | .fragment => false
    | .host | .zone => true
  else if mode = .fragment && (lit "!()*").contains c then false
  else true

/-- The errors net/url's parser reports. -/
inductive UrlError
  | escape (s : Bytes)
  | invalidHost (s : Bytes)
  | controlCharacter
  | missingScheme
  | firstSegmentColon
  | invalidUserinfo
  | missingBracket
  | invalidPort (colonPort : Bytes)
  deriving DecidableEq, Repr

def UrlError.text : UrlError → Bytes
  | .escape s => lit "invalid URL escape " ++ strconvQuote s
  | .invalidHost s => lit "invalid character " ++ strconvQuote s ++ lit " in host name"
  | .controlCharacter => lit "net/url: invalid control character in URL"
  | .missingScheme => lit "missing protocol scheme"
  | .firstSegmentColon => lit "first path segment in URL cannot contain colon"
  | .invalidUserinfo => lit "net/url: invalid userinfo"
  | .missingBracket => lit "missing ']' in host"
  | .invalidPort colonPort => lit "invalid port " ++ strconvQuote colonPort ++ lit " after host"

/-- The first pass of `unescape`: the first malformed escape or forbidden byte. -/
def unescapeCheck (mode : EncodeMode) : Bytes → Option UrlError
  | [] => none
  | 0x25 :: rest =>
      match rest with
      | a :: b :: rest' =>
          if !(ishex a && ishex b) then some (.escape ([0x25, a, b]))
          else if mode = .host && unhex a < 8 && [a, b] ≠ [0x32, 0x35] then
            some (.escape [0x25, a, b])
          else if mode = .zone && [a, b] ≠ [0x32, 0x35] && unhex a * 16 + unhex b ≠ 0x20 &&
              shouldEscape (UInt8.ofNat (unhex a * 16 + unhex b)) .host then
            some (.escape [0x25, a, b])
          else unescapeCheck mode rest'
      | _ => some (.escape (0x25 :: rest))
  | c :: rest =>
      if (mode = .host || mode = .zone) && c < 0x80 && shouldEscape c mode then
        some (.invalidHost [c])
      else unescapeCheck mode rest

/-- The second pass of `unescape`: decode `%XX`, and `+` in a query component. -/
def unescapeDecode (mode : EncodeMode) : Bytes → Bytes
  | [] => []
  | 0x25 :: a :: b :: rest => UInt8.ofNat (unhex a * 16 + unhex b) :: unescapeDecode mode rest
  | c :: rest => (if c = 0x2B && mode = .queryComponent then 0x20 else c) :: unescapeDecode mode rest

/-- `unescape`. -/
def unescape (s : Bytes) (mode : EncodeMode) : Except UrlError Bytes :=
  match unescapeCheck mode s with
  | some err => .error err
  | none => .ok (unescapeDecode mode s)

/-- `escape`. -/
def escape (s : Bytes) (mode : EncodeMode) : Bytes :=
  s.flatMap fun c =>
    if c = 0x20 ∧ mode = .queryComponent then [0x2B]
    else if shouldEscape c mode then [0x25, upperhex (c.toNat / 16), upperhex (c.toNat % 16)]
    else [c]

/-- `url.PathEscape`. -/
def pathEscape (s : Bytes) : Bytes := escape s .pathSegment

/-! ### Escaping round trip

`escape` writes `%` only to start an escape, so decoding gives back the escaped
bytes in any mode that neither checks host bytes nor decodes `+`. -/

theorem shouldEscape_percent (mode : EncodeMode) : shouldEscape 0x25 mode = true := by
  cases mode <;> rfl

theorem ishex_upperhex : ∀ n : Fin 16, ishex (upperhex n) = true := by decide

theorem unhex_upperhex : ∀ n : Fin 16, unhex (upperhex n) = n := by decide

theorem toNat_div_sixteen_lt (c : UInt8) : c.toNat / 16 < 16 := by
  have := c.toNat_lt_size
  unfold UInt8.size at this
  omega

theorem ofNat_toNat (c : UInt8) : UInt8.ofNat c.toNat = c :=
  UInt8.toNat.inj (UInt8.toNat_ofNat_of_lt c.toNat_lt_size)

theorem escape_cons (c : UInt8) (s : Bytes) (mode : EncodeMode) :
    escape (c :: s) mode =
      (if c = 0x20 ∧ mode = .queryComponent then [0x2B]
        else if shouldEscape c mode then [0x25, upperhex (c.toNat / 16), upperhex (c.toNat % 16)]
        else [c]) ++ escape s mode := rfl

theorem unescapeCheck_cons_of_ne {c : UInt8} (h : c ≠ 0x25) (mode : EncodeMode) (rest : Bytes) :
    unescapeCheck mode (c :: rest) =
      if (mode = .host || mode = .zone) && c < 0x80 && shouldEscape c mode then
        some (.invalidHost [c])
      else unescapeCheck mode rest := by
  rw [unescapeCheck]
  exact h

theorem unescapeDecode_cons_of_ne {c : UInt8} (h : c ≠ 0x25) (mode : EncodeMode) (rest : Bytes) :
    unescapeDecode mode (c :: rest) =
      (if c = 0x2B && mode = .queryComponent then 0x20 else c) :: unescapeDecode mode rest := by
  rw [unescapeDecode]
  exact fun _ _ _ hc => absurd hc h

theorem unescapeCheck_escaped (c : UInt8) {mode : EncodeMode} (hhost : mode ≠ .host)
    (hzone : mode ≠ .zone) (rest : Bytes) :
    unescapeCheck mode (0x25 :: upperhex (c.toNat / 16) :: upperhex (c.toNat % 16) :: rest) =
      unescapeCheck mode rest := by
  have h1 := ishex_upperhex ⟨c.toNat / 16, toNat_div_sixteen_lt c⟩
  have h2 := ishex_upperhex ⟨c.toNat % 16, Nat.mod_lt _ (by decide)⟩
  simp [unescapeCheck, h1, h2, hhost, hzone]

theorem unescapeDecode_escaped (c : UInt8) (mode : EncodeMode) (rest : Bytes) :
    unescapeDecode mode (0x25 :: upperhex (c.toNat / 16) :: upperhex (c.toNat % 16) :: rest) =
      c :: unescapeDecode mode rest := by
  have h1 := unhex_upperhex ⟨c.toNat / 16, toNat_div_sixteen_lt c⟩
  have h2 := unhex_upperhex ⟨c.toNat % 16, Nat.mod_lt _ (by decide)⟩
  rw [unescapeDecode, h1, h2, Nat.div_add_mod', ofNat_toNat]

section RoundTrip

variable {em mode : EncodeMode}

theorem unescapeCheck_escape_append (hem : em ≠ .queryComponent) (hhost : mode ≠ .host)
    (hzone : mode ≠ .zone) (s rest : Bytes) :
    unescapeCheck mode (escape s em ++ rest) = unescapeCheck mode rest := by
  induction s with
  | nil => rfl
  | cons c s ih =>
    rw [escape_cons, if_neg (fun h => hem h.2), List.append_assoc]
    split
    · exact (unescapeCheck_escaped c hhost hzone _).trans ih
    · next hc =>
      have hne : c ≠ 0x25 := fun h => by simp [h, shouldEscape_percent] at hc
      rw [List.singleton_append, unescapeCheck_cons_of_ne hne]
      simp [hhost, hzone, ih]

theorem unescapeDecode_escape_append (hem : em ≠ .queryComponent)
    (hquery : mode ≠ .queryComponent) (s rest : Bytes) :
    unescapeDecode mode (escape s em ++ rest) = s ++ unescapeDecode mode rest := by
  induction s with
  | nil => rfl
  | cons c s ih =>
    rw [escape_cons, if_neg (fun h => hem h.2), List.append_assoc]
    split
    · exact (unescapeDecode_escaped c mode _).trans (congrArg _ ih)
    · next hc =>
      have hne : c ≠ 0x25 := fun h => by simp [h, shouldEscape_percent] at hc
      rw [List.singleton_append, unescapeDecode_cons_of_ne hne]
      simp [hquery, ih]

theorem unescape_escape (hem : em ≠ .queryComponent) (hhost : mode ≠ .host)
    (hzone : mode ≠ .zone) (hquery : mode ≠ .queryComponent) (s : Bytes) :
    unescape (escape s em) mode = .ok s := by
  have hcheck := unescapeCheck_escape_append hem hhost hzone s []
  have hdecode := unescapeDecode_escape_append hem hquery s []
  rw [List.append_nil] at hcheck hdecode
  rw [unescape, hcheck, hdecode]
  exact congrArg Except.ok (List.append_nil s)

end RoundTrip

/-- Every byte `url.PathEscape` writes is `%`, a hex digit, or a byte a path
segment keeps as it is. -/
theorem mem_pathEscape {b : UInt8} {s : Bytes} (h : b ∈ pathEscape s) :
    shouldEscape b .pathSegment = false ∨ b = 0x25 ∨ ishex b = true := by
  obtain ⟨c, -, hb⟩ := List.mem_flatMap.mp h
  rw [if_neg (fun hq => absurd hq.2 (by decide))] at hb
  split at hb
  · simp only [List.mem_cons, List.mem_singleton, List.not_mem_nil, or_false] at hb
    rcases hb with rfl | rfl | rfl
    · exact .inr (.inl rfl)
    · exact .inr (.inr (ishex_upperhex ⟨c.toNat / 16, toNat_div_sixteen_lt c⟩))
    · exact .inr (.inr (ishex_upperhex ⟨c.toNat % 16, Nat.mod_lt _ (by decide)⟩))
  · next hc =>
    rw [List.mem_singleton.mp hb]
    exact .inl (Bool.eq_false_iff.mpr hc)

/-- A name passed through `url.PathEscape` stays one path segment: no `/`,
`?` or `#` in it, and decoding the path gives the name back. -/
theorem pathEscape_one_segment (s : Bytes) :
    0x2F ∉ pathEscape s ∧ 0x3F ∉ pathEscape s ∧ 0x23 ∉ pathEscape s ∧
      unescape (pathEscape s) .path = .ok s :=
  ⟨fun h => absurd (mem_pathEscape h) (by decide), fun h => absurd (mem_pathEscape h) (by decide),
    fun h => absurd (mem_pathEscape h) (by decide),
    unescape_escape (by decide) (by decide) (by decide) (by decide) s⟩

/-- `strings.Cut` on one byte: before the first `sep`, after it, and whether it occurs. -/
def cut (sep : UInt8) : Bytes → Bytes × Bytes × Bool
  | [] => ([], [], false)
  | b :: s => if b = sep then ([], s, true) else ((b :: (cut sep s).1), (cut sep s).2.1, (cut sep s).2.2)

/-- Around the last `sep` (`strings.LastIndex`): before and after it. -/
def cutLast (sep : UInt8) (s : Bytes) : Option (Bytes × Bytes) :=
  match cut sep s.reverse with
  | (after, before, true) => some (before.reverse, after.reverse)
  | _ => none

/-- Around the first occurrence of `pat` (`strings.Index`): before it, and from it on. -/
def splitAt (pat : Bytes) : Bytes → Option (Bytes × Bytes)
  | [] => if pat = [] then some ([], []) else none
  | b :: s =>
      if pat <+: b :: s then some ([], b :: s)
      else (splitAt pat s).map fun p => (b :: p.1, p.2)

/-- `stringContainsCTLByte`. -/
def stringContainsCTLByte (s : Bytes) : Bool := s.any fun b => b < 0x20 || b = 0x7F

/-- `getScheme`: the scheme before the first `:`, when what precedes it is one. -/
def getScheme (rawURL : Bytes) : Except UrlError (Bytes × Bytes) :=
  go [] rawURL
where
  go (acc : Bytes) : Bytes → Except UrlError (Bytes × Bytes)
    | [] => .ok ([], rawURL)
    | c :: rest =>
        if (0x61 ≤ c && c ≤ 0x7A) || (0x41 ≤ c && c ≤ 0x5A) then go (acc ++ [c]) rest
        else if (0x30 ≤ c && c ≤ 0x39) || c = 0x2B || c = 0x2D || c = 0x2E then
          if acc = [] then .ok ([], rawURL) else go (acc ++ [c]) rest
        else if c = 0x3A then
          if acc = [] then .error .missingScheme else .ok (acc, rest)
        else .ok ([], rawURL)

/-- `strings.ToLower` on ASCII. -/
def asciiLower (s : Bytes) : Bytes := s.map fun c => if 0x41 ≤ c ∧ c ≤ 0x5A then c + 0x20 else c

/-- `validUserinfo`. -/
def validUserinfo (s : Bytes) : Bool :=
  s.all fun c => (0x61 ≤ c && c ≤ 0x7A) || (0x41 ≤ c && c ≤ 0x5A) || (0x30 ≤ c && c ≤ 0x39) ||
    (lit "-._:~!$&'()*+,;=%@").contains c

/-- `validOptionalPort`. -/
def validOptionalPort : Bytes → Bool
  | [] => true
  | c :: port => c = 0x3A && port.all fun b => 0x30 ≤ b && b ≤ 0x39

/-- `parseHost`. -/
def parseHost (host : Bytes) : Except UrlError Bytes :=
  if [0x5B] <+: host then
    match cutLast 0x5D host with
    | none => .error .missingBracket
    | some (inside, colonPort) =>
        if !validOptionalPort colonPort then .error (.invalidPort colonPort)
        else
          match splitAt (lit "%25") inside with
          | some (pre, zone) => do
              let host1 ← unescape pre .host
              let host2 ← unescape zone .zone
              let host3 ← unescape (0x5D :: colonPort) .host
              return host1 ++ host2 ++ host3
          | none => unescape host .host
  else
    match cutLast 0x3A host with
    | some (_, port) =>
        if !validOptionalPort (0x3A :: port) then .error (.invalidPort (0x3A :: port))
        else unescape host .host
    | none => unescape host .host

/-- `url.Userinfo`. -/
structure Userinfo where
  username : Bytes
  password : Option Bytes
  deriving DecidableEq, Repr

/-- `parseAuthority`. -/
def parseAuthority (authority : Bytes) : Except UrlError (Option Userinfo × Bytes) :=
  match cutLast 0x40 authority with
  | none => do
      let host ← parseHost authority
      return (none, host)
  | some (userinfo, hostPart) => do
      let host ← parseHost hostPart
      if !validUserinfo userinfo then throw .invalidUserinfo
      match cut 0x3A userinfo with
      | (username, password, true) =>
          let username ← unescape username .userPassword
          let password ← unescape password .userPassword
          return (some ⟨username, some password⟩, host)
      | (_, _, false) =>
          let username ← unescape userinfo .userPassword
          return (some ⟨username, none⟩, host)

/-- `url.URL`. -/
structure URL where
  scheme : Bytes
  opaquePart : Bytes
  user : Option Userinfo
  host : Bytes
  path : Bytes
  rawPath : Bytes
  omitHost : Bool
  forceQuery : Bool
  rawQuery : Bytes
  fragment : Bytes
  rawFragment : Bytes
  deriving DecidableEq, Repr

/-- `setPath`: the decoded path, and the raw one when it is not the default encoding. -/
def setPath (p : Bytes) : Except UrlError (Bytes × Bytes) := do
  let path ← unescape p .path
  return (path, if escape path .path = p then [] else p)

/-- The query split of `parse`: a lone trailing `?` forces an empty query. -/
def cutQuery (rest : Bytes) : Bytes × Bool × Bytes :=
  if rest.getLast? = some 0x3F ∧ rest.count 0x3F = 1 then (rest.dropLast, true, [])
  else ((cut 0x3F rest).1, false, (cut 0x3F rest).2.1)

/-- `parse` with `viaRequest` false: everything but the fragment. -/
def parseNoFragment (rawURL : Bytes) : Except UrlError URL :=
  if stringContainsCTLByte rawURL then .error .controlCharacter
  else if rawURL = lit "*" then .ok ⟨[], [], none, [], lit "*", [], false, false, [], [], []⟩
  else do
    let (scheme, rest) ← getScheme rawURL
    let scheme := asciiLower scheme
    let (rest, forceQuery, rawQuery) := cutQuery rest
    if ¬ [0x2F] <+: rest ∧ scheme ≠ [] then
      return ⟨scheme, rest, none, [], [], [], false, forceQuery, rawQuery, [], []⟩
    if ¬ [0x2F] <+: rest ∧ (cut 0x2F rest).1.contains 0x3A then throw .firstSegmentColon
    if (scheme ≠ [] ∨ ¬ lit "///" <+: rest) ∧ lit "//" <+: rest then
      let authority := (cut 0x2F (rest.drop 2)).1
      let rest := (rest.drop 2).drop authority.length
      let (user, host) ← parseAuthority authority
      let (path, rawPath) ← setPath rest
      return ⟨scheme, [], user, host, path, rawPath, false, forceQuery, rawQuery, [], []⟩
    else
      let (path, rawPath) ← setPath rest
      return ⟨scheme, [], none, [], path, rawPath, scheme ≠ [] ∧ [0x2F] <+: rest, forceQuery,
        rawQuery, [], []⟩

/-- `url.Error` for the parse operation. -/
structure ParseError where
  url : Bytes
  err : UrlError
  deriving DecidableEq, Repr

def ParseError.text (e : ParseError) : Bytes :=
  lit "parse " ++ strconvQuote e.url ++ lit ": " ++ e.err.text

/-- `url.Parse`: cut the fragment off, parse the rest, then decode the fragment. -/
def parse (rawURL : Bytes) : Except ParseError URL :=
  let (u, frag, _) := cut 0x23 rawURL
  match parseNoFragment u with
  | .error err => .error ⟨u, err⟩
  | .ok url =>
      if frag = [] then .ok url
      else
        match unescape frag .fragment with
        | .error err => .error ⟨rawURL, err⟩
        | .ok f => .ok { url with fragment := f, rawFragment := if escape f .fragment = frag then [] else frag }

end Url

end ProviderOrchard
