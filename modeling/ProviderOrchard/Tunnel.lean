/-
`buildWebSocketURL` and `dialWebSocket`: the URL of Orchard's port-forward
endpoint for a VM, the headers of the WebSocket handshake, and how a failed
handshake is classified.  What the dial answers is an oracle.
-/
import ProviderOrchard.HierarchicalUrl
import ProviderOrchard.Options

namespace ProviderOrchard

/-- The error of `buildWebSocketURL`: `invalid Orchard base URL %q: %w`. -/
def invalidBaseURL (base : Bytes) (err : Url.ParseError) : GoError :=
  .new (lit "invalid Orchard base URL " ++ strconvQuote base ++ lit ": " ++ err.text)

/-- `buildWebSocketURL`. -/
def buildWebSocketURL (config : TunnelConfig) : Except GoError Bytes :=
  match Url.parse config.orchardBaseURL with
  | .error err => .error (invalidBaseURL config.orchardBaseURL err)
  | .ok baseURL =>
      let scheme := if baseURL.scheme = lit "https" then lit "wss" else lit "ws"
      let wsURL := scheme ++ lit "://" ++ baseURL.host ++ baseURL.path ++ lit "/vms/" ++
        Url.pathEscape config.vmName ++ lit "/port-forward?port=" ++ fmtInt config.sshPort
      .ok (if config.waitSeconds > 0 then wsURL ++ lit "&wait=" ++ fmtInt config.waitSeconds
        else wsURL)

/-- The test configuration whose VM name holds a blank and a slash. -/
def specialNameConfig : TunnelConfig :=
  ⟨lit "http://localhost:6120/v1", [], lit "test vm/special", 22, 30, [], [], 0⟩

/-- The URL the test expects for `specialNameConfig`. -/
def specialNameURL : Bytes :=
  lit "ws://localhost:6120/v1/vms/test%20vm%2Fspecial/port-forward?port=22&wait=30"

example : buildWebSocketURL specialNameConfig = .ok specialNameURL := rfl

/-- A base URL whose path holds an escaped `?`. -/
def escapedQueryConfig : TunnelConfig :=
  ⟨lit "http://h/a%3Fb", [], lit "x", 22, 30, lit "admin", lit "admin", 60 * second⟩

/-- The base path is written decoded: the `%3F` of the base becomes a `?` that
starts the query, and the URL parses with path `/a`. -/
theorem buildWebSocketURL_decoded_base_path_splits :
    (Url.parse escapedQueryConfig.orchardBaseURL).toOption.map Url.URL.path = some (lit "/a?b") ∧
      buildWebSocketURL escapedQueryConfig = .ok (lit "ws://h/a?b/vms/x/port-forward?port=22&wait=30") ∧
      (Url.parse (lit "ws://h/a?b/vms/x/port-forward?port=22&wait=30")).toOption.map
          (fun u => (u.host, u.path, u.rawQuery)) =
        some (lit "h", lit "/a", lit "b/vms/x/port-forward?port=22&wait=30") := by
  refine ⟨by decide, rfl, by decide⟩

/-- What the WebSocket handshake answers: success, or an error with the HTTP
status of the response when there was one. -/
inductive DialOutcome
  | connected
  | failed (status : Option Nat) (err : GoError)

/-- A WebSocket handshake request: the URL and the headers. -/
structure DialRequest where
  url : Bytes
  headers : List (Bytes × Bytes)
  deriving DecidableEq, Repr

/-- The handshake headers: the `User-Agent` Orchard keys the message type on, and
the bearer token when there is one. -/
def dialHeaders (config : TunnelConfig) : List (Bytes × Bytes) :=
  [(lit "User-Agent", lit "provider-orchard/1.0")] ++
    if config.bearerToken ≠ [] then [(lit "Authorization", lit "Bearer " ++ config.bearerToken)]
    else []

/-- `dialWebSocket`: the request it makes (the connection it returns), or the
error, classified by the HTTP status of a refused handshake. -/
def dialWebSocket (config : TunnelConfig) (dial : DialRequest → DialOutcome) :
    Except GoError DialRequest :=
  match buildWebSocketURL config with
  | .error err => .error (err.wrap (lit "failed to build WebSocket URL"))
  | .ok wsURL =>
      match dial ⟨wsURL, dialHeaders config⟩ with
      | .connected => .ok ⟨wsURL, dialHeaders config⟩
      | .failed (some status) err =>
          if status = 404 then
            .error ((Sentinel.err .vmNotReady).wrap (lit "VM " ++ strconvQuote config.vmName ++
              lit " not found (HTTP " ++ fmtInt status ++ lit ")"))
          else if status = 503 then
            .error ((Sentinel.err .connectionFailed).wrap (lit "failed to connect to VM " ++
              strconvQuote config.vmName ++ lit " worker (HTTP " ++ fmtInt status ++ lit ")"))
          else if status = 400 then
            .error ((Sentinel.err .connectionFailed).wrap
              (lit "invalid port specified (HTTP " ++ fmtInt status ++ lit ")"))
          else
            .error ((Sentinel.err .connectionFailed).wrap
              (lit "WebSocket dial failed with status " ++ fmtInt status ++ lit ": " ++ err.text))
      | .failed none err => .error ((Sentinel.err .connectionFailed).wrap err.text)

/-- A handshake Orchard refuses is reported as `ErrVMNotReady` when the VM is not
found (404) and as `ErrConnectionFailed` otherwise, with or without a response;
an accepted one returns the connection to the URL built from the config. -/
theorem dialWebSocket_sentinel (config : TunnelConfig) (dial : DialRequest → DialOutcome)
    {url : Bytes} (hurl : buildWebSocketURL config = .ok url) :
    (dial ⟨url, dialHeaders config⟩ = .connected →
        dialWebSocket config dial = .ok ⟨url, dialHeaders config⟩) ∧
      ∀ status err, dial ⟨url, dialHeaders config⟩ = .failed status err →
        ∃ e, dialWebSocket config dial = .error e ∧
          e.sentinel = some (if status = some 404 then .vmNotReady else .connectionFailed) := by
  refine ⟨fun h => by simp only [dialWebSocket, hurl, h], fun status err h => ?_⟩
  rcases status with _ | status <;> simp only [dialWebSocket, hurl, h]
  · exact ⟨_, rfl, rfl⟩
  · split_ifs <;> simp_all [GoError.wrap, Sentinel.err]

/-- Orchard refusing the handshake: the VM is not found. -/
def notFoundDial : DialRequest → DialOutcome :=
  fun _ => .failed (some 404) (.new (lit "expected handshake response status code 101 but got 404"))

/-! ### Bases whose path needs no escaping -/

section PlainBase

open Url

/-- A base path `buildWebSocketURL` can extend: empty or absolute, with no
control byte, `?`, `#` or `%`. -/
def PlainPath (path : Bytes) : Prop :=
  (path = [] ∨ [0x2F] <+: path) ∧ ∀ b ∈ path, Url.OrdinaryByte b ∧ b.toNat ≠ 0x25

instance (path : Bytes) : Decidable (PlainPath path) :=
  inferInstanceAs (Decidable (_ ∧ ∀ b ∈ path, _))

/-- A `%`-free path is its own decoding. -/
theorem unescape_plain_path {path : Bytes} (h : 0x25 ∉ path) : unescape path .path = .ok path := by
  have hcheck : unescapeCheck .path (path ++ []) = unescapeCheck .path [] :=
    unescapeCheck_plain_append h (by decide) (by decide) []
  have hdecode : unescapeDecode .path (path ++ []) = path ++ unescapeDecode .path [] :=
    unescapeDecode_plain_append h (by decide) []
  rw [List.append_nil] at hcheck hdecode
  rw [unescape, hcheck, hdecode]
  exact congrArg Except.ok (List.append_nil path)

/-- The path `buildWebSocketURL` writes decodes to the base path, the VM name and
the endpoint, the name decoded from its escaped form. -/
theorem unescape_portForwardPath {path : Bytes} (h : 0x25 ∉ path) (name : Bytes) :
    unescape (path ++ lit "/vms/" ++ pathEscape name ++ lit "/port-forward") .path =
      .ok (path ++ lit "/vms/" ++ name ++ lit "/port-forward") := by
  have hcheck : unescapeCheck .path (path ++ (lit "/vms/" ++ (pathEscape name ++ lit "/port-forward"))) = none := by
    rw [unescapeCheck_plain_append h (by decide) (by decide),
      unescapeCheck_plain_append (by decide) (by decide) (by decide), pathEscape,
      unescapeCheck_escape_append (by decide) (by decide) (by decide)]
    rfl
  have hdecode : unescapeDecode .path (path ++ (lit "/vms/" ++ (pathEscape name ++ lit "/port-forward"))) =
      path ++ (lit "/vms/" ++ (name ++ lit "/port-forward")) := by
    rw [unescapeDecode_plain_append h (by decide), unescapeDecode_plain_append (by decide) (by decide),
      pathEscape, unescapeDecode_escape_append (by decide) (by decide)]
    rfl
  simp only [List.append_assoc]
  rw [unescape, hcheck, hdecode]

/-- `buildWebSocketURL` on a base `url.Parse` accepts: scheme, `://`, the base
host, the port-forward path and, after a `?`, the query. -/
theorem buildWebSocketURL_of_parse {config : TunnelConfig} {base : Url.URL}
    (h : Url.parse config.orchardBaseURL = .ok base) :
    buildWebSocketURL config =
      .ok ((if base.scheme = lit "https" then lit "wss" else lit "ws") ++ lit "://" ++ base.host ++
        (base.path ++ lit "/vms/" ++ Url.pathEscape config.vmName ++ lit "/port-forward") ++
        0x3F :: (lit "port=" ++ fmtInt config.sshPort ++
          (if config.waitSeconds > 0 then lit "&wait=" ++ fmtInt config.waitSeconds else []))) := by
  have hlit : lit "/port-forward?port=" = lit "/port-forward" ++ 0x3F :: lit "port=" := rfl
  rw [buildWebSocketURL, h]
  dsimp only
  rw [hlit]
  by_cases hw : config.waitSeconds > 0 <;>
    simp only [hw, ↓reduceIte, List.append_assoc, List.cons_append, List.append_nil]

theorem ordinaryByte_of_mem_fmtInt {b : UInt8} {n : Int} (h : b ∈ fmtInt n) : OrdinaryByte b :=
  (by decide : ∀ x ∈ lit "-0123456789", OrdinaryByte x) b (mem_fmtInt h)

/-- The query holds no control byte, `?` or `#`. -/
theorem ordinaryByte_of_mem_query (config : TunnelConfig) :
    ∀ b ∈ lit "port=" ++ fmtInt config.sshPort ++
      (if config.waitSeconds > 0 then lit "&wait=" ++ fmtInt config.waitSeconds else []),
      OrdinaryByte b := by
  intro b hb
  rcases List.mem_append.mp hb with hb | hb
  · rcases List.mem_append.mp hb with hb | hb
    · exact (by decide : ∀ x ∈ lit "port=", OrdinaryByte x) b hb
    · exact ordinaryByte_of_mem_fmtInt hb
  · split at hb
    · rcases List.mem_append.mp hb with hb | hb
      · exact (by decide : ∀ x ∈ lit "&wait=", OrdinaryByte x) b hb
      · exact ordinaryByte_of_mem_fmtInt hb
    · exact absurd hb (List.not_mem_nil _)

/-- The port-forward path of a plain base is absolute and holds no control byte,
`?` or `#`. -/
theorem portForwardPath_ordinary {path : Bytes} (hpath : PlainPath path) (name : Bytes) :
    [0x2F] <+: path ++ lit "/vms/" ++ pathEscape name ++ lit "/port-forward" ∧
      ∀ b ∈ path ++ lit "/vms/" ++ pathEscape name ++ lit "/port-forward", OrdinaryByte b := by
  refine ⟨?_, fun b hb => ?_⟩
  · simp only [List.append_assoc]
    rcases hpath.1 with rfl | hp
    · exact (show [0x2F] <+: lit "/vms/" by decide).trans (List.prefix_append _ _)
    · exact hp.trans (List.prefix_append _ _)
  · simp only [List.mem_append] at hb
    rcases hb with ((hb | hb) | hb) | hb
    · exact (hpath.2 b hb).1
    · exact (by decide : ∀ x ∈ lit "/vms/", OrdinaryByte x) b hb
    · exact ordinaryByte_of_mem_pathEscape hb
    · exact (by decide : ∀ x ∈ lit "/port-forward", OrdinaryByte x) b hb

/-- For a base `scheme://host path` whose host `url.Parse` returns unchanged and
holds no `%`, and whose path is plain, the URL `buildWebSocketURL` returns parses
back to the base's host, the base path followed by `/vms/`, the VM name (whatever
its bytes) and `/port-forward`, and the query `port=...`, with `&wait=...` exactly
when the wait is positive. -/
theorem buildWebSocketURL_parses (config : TunnelConfig) (scheme host path : Bytes)
    (hbase : config.orchardBaseURL = scheme ++ lit "://" ++ host ++ path)
    (hscheme : SchemeName scheme) (hhost : parseHost host = .ok host) (hpct : 0x25 ∉ host)
    (hpath : PlainPath path) :
    ∃ base url u, parse config.orchardBaseURL = .ok base ∧ base.host = host ∧ base.path = path ∧
      buildWebSocketURL config = .ok url ∧ parse url = .ok u ∧
      u.scheme = (if base.scheme = lit "https" then lit "wss" else lit "ws") ∧
      u.user = none ∧ u.host = base.host ∧
      u.path = base.path ++ lit "/vms/" ++ config.vmName ++ lit "/port-forward" ∧
      u.rawQuery = lit "port=" ++ fmtInt config.sshPort ++
        (if config.waitSeconds > 0 then lit "&wait=" ++ fmtInt config.waitSeconds else []) ∧
      u.fragment = [] := by
  have hpathPct : 0x25 ∉ path := fun h => (hpath.2 _ h).2 rfl
  have hbaseParse : parse config.orchardBaseURL = .ok ⟨asciiLower scheme, [], none, host, path,
      if escape path .path = path then [] else path, false, false, [], [], []⟩ := by
    have := parse_authority_path (q := []) hscheme hhost hpct hpath.1 (fun b hb => (hpath.2 b hb).1)
      (fun _ h => absurd h (List.not_mem_nil _)) (unescape_plain_path hpathPct)
    rwa [if_pos rfl, List.append_nil, ← hbase] at this
  have hws : SchemeName (if asciiLower scheme = lit "https" then lit "wss" else lit "ws") := by
    split <;> decide
  have hquery := ordinaryByte_of_mem_query config
  have hparse := parse_authority_path hws hhost hpct (.inr (portForwardPath_ordinary hpath _).1)
    (portForwardPath_ordinary hpath _).2 hquery (unescape_portForwardPath hpathPct config.vmName)
  rw [if_neg (List.append_ne_nil_of_left_ne_nil
    (List.append_ne_nil_of_left_ne_nil (by decide) _) _)] at hparse
  refine ⟨_, _, _, hbaseParse, rfl, rfl, buildWebSocketURL_of_parse hbaseParse, hparse, ?_,
    rfl, rfl, rfl, rfl, rfl⟩
  split <;> rfl

end PlainBase

theorem buildWebSocketURL_parses_special_name :
    specialNameConfig.orchardBaseURL = lit "http" ++ lit "://" ++ lit "localhost:6120" ++ lit "/v1" ∧
      Url.SchemeName (lit "http") ∧
      Url.parseHost (lit "localhost:6120") = .ok (lit "localhost:6120") ∧
      0x25 ∉ lit "localhost:6120" ∧ PlainPath (lit "/v1") ∧
      ∃ base url u, Url.parse specialNameConfig.orchardBaseURL = .ok base ∧
        base.host = lit "localhost:6120" ∧ base.path = lit "/v1" ∧
        buildWebSocketURL specialNameConfig = .ok url ∧ Url.parse url = .ok u ∧
        u.scheme = (if base.scheme = lit "https" then lit "wss" else lit "ws") ∧
        u.user = none ∧ u.host = base.host ∧
        u.path = base.path ++ lit "/vms/" ++ specialNameConfig.vmName ++ lit "/port-forward" ∧
        u.rawQuery = lit "port=" ++ fmtInt specialNameConfig.sshPort ++
          (if specialNameConfig.waitSeconds > 0 then
            lit "&wait=" ++ fmtInt specialNameConfig.waitSeconds else []) ∧
        u.fragment = [] :=
  ⟨rfl, by decide, rfl, by decide, by decide,
    buildWebSocketURL_parses specialNameConfig (lit "http") (lit "localhost:6120") (lit "/v1") rfl
      (by decide) rfl (by decide) (by decide)⟩

end ProviderOrchard
