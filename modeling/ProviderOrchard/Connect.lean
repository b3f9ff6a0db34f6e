/-
`connector.Connect` of the VM controller and the Orchard client it builds: the
provider config the resource names, the credentials it points at, the token
`extractToken` reads from them, and `NewOrchardClient` with the `authTransport`
every REST request goes through.  The Kubernetes reads, the usage tracker, the
credential extractor and the generated client's constructor are oracles.  The
base URL and the token reach the SSH tunnel too, through `external`; the
theorems compare what the two transports make of them.
-/
import ProviderOrchard.Json.RoundTrip
import ProviderOrchard.Tunnel
import ProviderOrchard.VmResource

namespace ProviderOrchard

def errNotVM : Bytes := lit "managed resource is not a VM custom resource"
def errTrackPCUsage : Bytes := lit "cannot track ProviderConfig usage"
def errGetPC : Bytes := lit "cannot get ProviderConfig"
def errGetCPC : Bytes := lit "cannot get ClusterProviderConfig"
def errGetCreds : Bytes := lit "cannot get credentials"
def errNewClient : Bytes := lit "cannot create new Orchard client"
def errParseToken : Bytes := lit "cannot parse token from credentials"

/-- `extractToken`: the credentials are a JSON object of strings, and the token is
its member `token`. -/
def extractToken (data : Bytes) : Except GoError Bytes :=
  match Json.unmarshalStringMap data with
  | .error err => .error ((GoError.new err.text).wrap errParseToken)
  | .ok creds =>
    match creds.bind fun m => m.lookup (lit "token") with
    | some token => .ok token
    | none => .error (.new errParseToken)

/-- `ProviderCredentials`: where `CommonCredentialExtractor` finds the credentials. -/
structure ProviderCredentials where
  source : Bytes
  deriving DecidableEq, Repr

/-- The spec of a `ProviderConfig` or a `ClusterProviderConfig`: what `Connect` reads. -/
structure ProviderConfigSpec where
  credentials : ProviderCredentials
  baseURL : Bytes
  deriving DecidableEq, Repr

/-- The resource's provider config reference. -/
structure ProviderConfigReference where
  kind : Bytes
  name : Bytes
  deriving DecidableEq, Repr

/-- A managed resource as `Connect` receives it: a VM, with the provider config
reference `resource.ModernManaged` gives, or a resource of another kind. -/
inductive Managed
  | vm (cr : VM) (ref : ProviderConfigReference)
  | other

/-- What the world answers during one `Connect`: the usage tracker, the two
Kubernetes reads (by name and namespace, by name), `CommonCredentialExtractor`,
and `NewClientWithResponses` for a server URL. -/
structure ConnectEnv where
  track : Except GoError Unit
  getProviderConfig : Bytes → Bytes → Except GoError ProviderConfigSpec
  getClusterProviderConfig : Bytes → Except GoError ProviderConfigSpec
  extractCredentials : ProviderCredentials → Except GoError Bytes
  newClient : Bytes → Except GoError Unit

/-- `getProviderConfigAndBaseURL`. -/
def getProviderConfigAndBaseURL (env : ConnectEnv) (ref : ProviderConfigReference)
    (ns : Bytes) : Except GoError (ProviderCredentials × Bytes) :=
  if ref.kind = lit "ProviderConfig" then
    match env.getProviderConfig ref.name ns with
    | .error err => .error (err.wrap errGetPC)
    | .ok pc => .ok (pc.credentials, pc.baseURL)
  else if ref.kind = lit "ClusterProviderConfig" then
    match env.getClusterProviderConfig ref.name with
    | .error err => .error (err.wrap errGetCPC)
    | .ok cpc => .ok (cpc.credentials, cpc.baseURL)
  else .error (.new (lit "unsupported provider config kind: " ++ ref.kind))

/-- `OrchardConfig`. -/
structure OrchardConfig where
  baseURL : Bytes
  token : Bytes
  deriving DecidableEq, Repr

/-- `authTransport`: the token it adds; its base is `http.DefaultTransport`. -/
structure AuthTransport where
  token : Bytes
  deriving DecidableEq, Repr

/-- `authTransport.RoundTrip`: the headers of the request it hands to the base
transport.  `Header.Set` replaces the key's values. -/
def AuthTransport.roundTrip (t : AuthTransport) (header : GoMap) : GoMap :=
  if t.token ≠ [] then header.set (lit "Authorization") (lit "Bearer " ++ t.token) else header

/-- `OrchardClient`: the server of the generated client, the transport of its
HTTP client, and the configuration `GetBaseURL` reads. -/
structure OrchardClient where
  server : Bytes
  transport : AuthTransport
  config : OrchardConfig
  deriving DecidableEq, Repr

/-- The server an empty base URL stands for. -/
def defaultBaseURL : Bytes := lit "http://localhost:6120"

/-- `NewOrchardClient`. -/
def newOrchardClient (newClient : Bytes → Except GoError Unit) (config : OrchardConfig) :
    Except GoError OrchardClient :=
  let config := if config.baseURL = [] then { config with baseURL := defaultBaseURL } else config
  match newClient config.baseURL with
  | .error err => .error (err.wrap (lit "failed to create orchard client"))
  | .ok () => .ok ⟨config.baseURL, ⟨config.token⟩, config⟩

/-- `OrchardClient.GetBaseURL`. -/
def OrchardClient.getBaseURL (c : OrchardClient) : Bytes := c.config.baseURL

/-- `connector.Connect`: the Orchard client and the `external` it returns. -/
def connect (env : ConnectEnv) : Managed → Except GoError (OrchardClient × External)
  | .other => .error (.new errNotVM)
  | .vm cr ref =>
    match env.track with
    | .error err => .error (err.wrap errTrackPCUsage)
    | .ok () =>
      match getProviderConfigAndBaseURL env ref cr.metadata.namespace with
      | .error err => .error err
      | .ok (cd, baseURL) =>
        match env.extractCredentials cd with
        | .error err => .error (err.wrap errGetCreds)
        | .ok data =>
          match extractToken data with
          | .error err => .error err
          | .ok token =>
            match newOrchardClient env.newClient ⟨baseURL, token⟩ with
            | .error err => .error (err.wrap errNewClient)
            | .ok client => .ok (client, ⟨baseURL, token⟩)

/-! ### The token in the credentials -/

theorem extractToken_marshalMembers {es : List (Bytes × Bytes)} (hascii : Json.AsciiEntries es) :
    extractToken (0x7B :: Json.marshalMembers es ++ [0x7D]) =
      match (es.foldl (fun m e => m.set e.1 e.2) GoMap.empty).lookup (lit "token") with
      | some token => .ok token
      | none => .error (.new errParseToken) := by
  rw [extractToken, Json.unmarshalStringMap_marshalMembers hascii]
  rfl

/-- Credentials that `json.Marshal` wrote from a map of ASCII strings: the token is
the map's `token`, and a map without one is refused with `errParseToken`. -/
theorem extractToken_marshalStringMap (m : GoMap) (hascii : Json.AsciiEntries m.entries) :
    extractToken (Json.marshalStringMap m) =
      match m.lookup (lit "token") with
      | some token => .ok token
      | none => .error (.new errParseToken) := by
  rw [Json.marshalStringMap, extractToken_marshalMembers (hascii.mergeSort _), GoMap.lookup_foldl_mergeSort]

theorem extractToken_marshalStringMap_token :
    extractToken (Json.marshalStringMap Json.tokenCredentials) = .ok (lit "t") :=
  (extractToken_marshalStringMap Json.tokenCredentials (by decide)).trans rfl

/-! ### What a successful `Connect` builds -/

theorem newOrchardClient_eq_ok {newClient : Bytes → Except GoError Unit} {config : OrchardConfig}
    {client : OrchardClient} (h : newOrchardClient newClient config = .ok client) :
    client.server = (if config.baseURL = [] then defaultBaseURL else config.baseURL) ∧
      client.getBaseURL = client.server ∧ client.transport.token = config.token := by
  unfold newOrchardClient at h
  by_cases hb : config.baseURL = [] <;> simp only [hb, if_true, if_false] at h ⊢ <;> split at h <;>
    cases h <;> exact ⟨rfl, rfl, rfl⟩

/-- Each step a successful `Connect` went through. -/
theorem connect_eq_ok {env : ConnectEnv} {mg : Managed} {client : OrchardClient} {ext : External}
    (h : connect env mg = .ok (client, ext)) :
    ∃ cr ref cd data, mg = .vm cr ref ∧ env.track = .ok () ∧
      getProviderConfigAndBaseURL env ref cr.metadata.namespace = .ok (cd, ext.baseURL) ∧
      env.extractCredentials cd = .ok data ∧ extractToken data = .ok ext.token ∧
      newOrchardClient env.newClient ⟨ext.baseURL, ext.token⟩ = .ok client := by
  cases mg with
  | other => cases h
  | vm cr ref =>
    rw [connect] at h
    split at h <;> rename_i htrack
    · cases h
    split at h <;> rename_i hpc
    · cases h
    split at h <;> rename_i hcreds
    · cases h
    split at h <;> rename_i htoken
    · cases h
    split at h <;> rename_i hclient
    · cases h
    cases h
    exact ⟨cr, ref, _, _, rfl, htrack, hpc, hcreds, htoken, hclient⟩

/-- A provider config with no base URL, whose credentials are `{"token":"t"}`. -/
def emptyBaseURLEnv : ConnectEnv :=
  ⟨.ok (), fun _ _ => .ok ⟨⟨lit "Secret"⟩, []⟩, fun _ => .error (.new errGetCPC),
    fun _ => .ok (0x7B :: Json.marshalMembers [(lit "token", lit "t")] ++ [0x7D]), fun _ => .ok ()⟩

/-- A VM in the namespace `default`. -/
def defaultConfigVM : VM :=
  VM.new ⟨lit "vm", lit "default", lit "vm", none⟩ ⟨lit "image", none, none, none, none, none⟩

theorem connect_emptyBaseURLEnv :
    connect emptyBaseURLEnv (.vm defaultConfigVM ⟨lit "ProviderConfig", lit "default"⟩) =
      .ok (⟨defaultBaseURL, ⟨lit "t"⟩, ⟨defaultBaseURL, lit "t"⟩⟩, ⟨[], lit "t"⟩) := by
  have htoken : extractToken (0x7B :: Json.marshalMembers [(lit "token", lit "t")] ++ [0x7D]) =
      .ok (lit "t") := by
    rw [extractToken_marshalMembers (by decide)]
    rfl
  rw [connect]
  simp only [emptyBaseURLEnv, getProviderConfigAndBaseURL, if_pos, htoken]
  rfl

theorem prefix_wrap (err : GoError) (msg : Bytes) : msg <+: (err.wrap msg).text := by
  rw [GoError.wrap, List.append_assoc]
  exact List.prefix_append _ _

theorem getProviderConfigAndBaseURL_error {env : ConnectEnv} {ref : ProviderConfigReference}
    {ns : Bytes} {err : GoError} (h : getProviderConfigAndBaseURL env ref ns = .error err) :
    errGetPC <+: err.text ∨ errGetCPC <+: err.text ∨
      lit "unsupported provider config kind: " <+: err.text := by
  unfold getProviderConfigAndBaseURL at h
  split_ifs at h
  · split at h <;> cases h
    exact .inl (prefix_wrap _ _)
  · split at h <;> cases h
    exact .inr (.inl (prefix_wrap _ _))
  · cases h
    exact .inr (.inr (List.prefix_append _ _))

theorem extractToken_error {data : Bytes} {err : GoError} (h : extractToken data = .error err) :
    errParseToken <+: err.text := by
  unfold extractToken at h
  split at h
  · cases h
    exact prefix_wrap _ _
  · split at h <;> cases h
    exact List.prefix_refl _

/-- Every error of `Connect` names the step that failed. -/
theorem connect_error_names_step {env : ConnectEnv} {mg : Managed} {err : GoError}
    (h : connect env mg = .error err) :
    err = .new errNotVM ∨ errTrackPCUsage <+: err.text ∨ errGetPC <+: err.text ∨
      errGetCPC <+: err.text ∨ lit "unsupported provider config kind: " <+: err.text ∨
      errGetCreds <+: err.text ∨ errParseToken <+: err.text ∨ errNewClient <+: err.text := by
  cases mg with
  | other => cases h; exact .inl rfl
  | vm cr ref =>
    rw [connect] at h
    split at h
    · cases h; exact .inr (.inl (prefix_wrap _ _))
    split at h
    · cases h
      rcases getProviderConfigAndBaseURL_error ‹_› with h | h | h
      · exact .inr (.inr (.inl h))
      · exact .inr (.inr (.inr (.inl h)))
      · exact .inr (.inr (.inr (.inr (.inl h))))
    split at h
    · cases h; exact .inr (.inr (.inr (.inr (.inr (.inl (prefix_wrap _ _))))))
    split at h
    · cases h; exact .inr (.inr (.inr (.inr (.inr (.inr (.inl (extractToken_error ‹_›)))))))
    split at h
    · cases h; exact .inr (.inr (.inr (.inr (.inr (.inr (.inr (prefix_wrap _ _)))))))
    · cases h

/-- After a successful `Connect`, a REST request the client sends and the tunnel's
WebSocket handshake carry the same `Authorization` header: `Bearer` and the token,
or none when the token is empty. -/
theorem connect_authorization_agrees {env : ConnectEnv} {mg : Managed} {client : OrchardClient}
    {ext : External} (h : connect env mg = .ok (client, ext)) (cr : VM) (header : GoMap)
    (hheader : header.lookup (lit "Authorization") = none) :
    (client.transport.roundTrip header).lookup (lit "Authorization") =
      (dialHeaders (ext.buildTunnelConfig cr)).lookup (lit "Authorization") := by
  obtain ⟨-, -, -, -, -, -, -, -, -, hclient⟩ := connect_eq_ok h
  obtain ⟨-, -, htoken⟩ := newOrchardClient_eq_ok hclient
  have hua : (lit "Authorization" == lit "User-Agent") = false := by decide
  simp only [AuthTransport.roundTrip, dialHeaders, External.buildTunnelConfig, htoken]
  by_cases ht : ext.token = []
  · simp [ht, hheader, List.lookup_cons, hua]
  · simp [ht, List.lookup_cons, hua]

theorem connect_authorization_agrees_empty_header :
    ((⟨defaultBaseURL, ⟨lit "t"⟩, ⟨defaultBaseURL, lit "t"⟩⟩ : OrchardClient).transport.roundTrip
        GoMap.empty).lookup (lit "Authorization") =
      (dialHeaders ((⟨[], lit "t"⟩ : External).buildTunnelConfig defaultConfigVM)).lookup
        (lit "Authorization") :=
  connect_authorization_agrees connect_emptyBaseURLEnv defaultConfigVM GoMap.empty rfl

/-- After a successful `Connect` from a provider config with an empty base URL, the
REST client talks to `http://localhost:6120`, while the tunnel is built from the
empty URL: its WebSocket URL has no host. -/
theorem connect_empty_baseURL {env : ConnectEnv} {mg : Managed} {client : OrchardClient}
    {ext : External} (h : connect env mg = .ok (client, ext)) (hbase : ext.baseURL = []) (cr : VM) :
    client.getBaseURL = defaultBaseURL ∧
      buildWebSocketURL (ext.buildTunnelConfig cr) =
        .ok (lit "ws:///vms/" ++ Url.pathEscape cr.metadata.externalName ++
          lit "/port-forward?port=22&wait=30") := by
  obtain ⟨-, -, -, -, -, -, -, -, -, hclient⟩ := connect_eq_ok h
  obtain ⟨hserver, hbaseURL, -⟩ := newOrchardClient_eq_ok hclient
  have hparse : Url.parse [] = .ok ⟨[], [], none, [], [], [], false, false, [], [], []⟩ := rfl
  refine ⟨by rw [hbaseURL, hserver, hbase, if_pos rfl], ?_⟩
  rw [External.buildTunnelConfig, hbase, buildWebSocketURL, hparse]
  simp only [List.append_assoc, List.append_nil]
  rfl

example :
    (⟨defaultBaseURL, ⟨lit "t"⟩, ⟨defaultBaseURL, lit "t"⟩⟩ : OrchardClient).getBaseURL = defaultBaseURL ∧
      buildWebSocketURL ((⟨[], lit "t"⟩ : External).buildTunnelConfig defaultConfigVM) =
        .ok (lit "ws:///vms/" ++ Url.pathEscape defaultConfigVM.metadata.externalName ++
          lit "/port-forward?port=22&wait=30") :=
  connect_empty_baseURL connect_emptyBaseURLEnv rfl defaultConfigVM

end ProviderOrchard
