/-
`external.Observe` of the VM controller with everything it calls: the Orchard
GETs, `handleCloudInit` and `executeCloudInit`.  What the outside world answers
is an `ObserveEnv`; each function returns its value, the resource as it left it
and the external calls it made, in order.
-/
import ProviderOrchard.VmResource

namespace ProviderOrchard

def errGetVM : Bytes := lit "cannot get VM"
def errExecuteCloudInit : Bytes := lit "cannot execute cloud-init script"
def errSSHNotReady : Bytes := lit "SSH not ready"

/-- What the outside world answers during one `Observe`: Orchard's `GET /vms/{name}`
and `GET /vms/{name}/ip`, whether `isSSHReady`'s probe session runs `ls -al` with
exit code 0, and what `ssh.UploadAndRunScript` returns. -/
structure ObserveEnv where
  getVm : Except GoError (HttpResponse OrchardVM)
  getIp : Except GoError (HttpResponse OrchardIP)
  sshReady : Bool
  runScript : Except GoError CommandResult

/-- A call a reconcile makes outside the process. -/
inductive ExternalCall
  | getVmsName (name : Bytes)
  | getVmsNameIp (name : Bytes)
  | sshProbe (config : TunnelConfig)
  | uploadAndRunScript (config : TunnelConfig) (script : Bytes) (env : GoMap)
  | postVms (name : Bytes)
  | putVmsName (name : Bytes)
  | deleteVmsName (name : Bytes)
  deriving DecidableEq

/-- Whether a call is `ssh.UploadAndRunScript`. -/
def ExternalCall.isUpload : ExternalCall → Bool
  | .uploadAndRunScript .. => true
  | _ => false

/-- Whether a call opens an SSH session (the readiness probe or the script run). -/
def ExternalCall.opensSSH : ExternalCall → Bool
  | .sshProbe _ | .uploadAndRunScript .. => true
  | _ => false

/-- What a function of the controller leaves: its result, the resource as it
updated it, and the external calls it made. -/
structure Reconciled (α : Type) where
  value : α
  vm : VM
  calls : List ExternalCall

/-- `managed.ExternalObservation`. -/
structure ExternalObservation where
  resourceExists : Bool
  resourceUpToDate : Bool
  deriving DecidableEq, Repr

/-- The statuses from which `handleCloudInit` starts a run: all but the three it
has a case for. -/
def AsksForRun (status : Bytes) : Prop :=
  status ≠ CloudInitStatusCompleted ∧ status ≠ CloudInitStatusFailed ∧
    status ≠ CloudInitStatusRunning

/-- The message `executeCloudInit` records for a script run that failed: an error
of the SSH layer, or a non-zero exit code with the script's stderr. -/
def failureMessage : Except GoError CommandResult → Option Bytes
  | .error err => some (lit "cloud-init failed: " ++ err.text)
  | .ok result =>
      if result.exitCode ≠ 0 then
        some (lit "exit code " ++ fmtInt result.exitCode ++ lit ": " ++ result.stderr)
      else none

/-- `executeCloudInit`, for the startup script `handleCloudInit` found set: probe
SSH, then run the script and record its outcome. -/
def executeCloudInit (c : External) (env : ObserveEnv) (cr : VM) (script : VMStartupScript) :
    Reconciled (Option GoError) :=
  let cr := cr.setCloudInitStatus CloudInitStatusRunning []
  let probe := ExternalCall.sshProbe (c.buildTunnelConfig cr)
  if !env.sshReady then
    ⟨some (.new errSSHNotReady),
      cr.setCloudInitStatus CloudInitStatusPending (lit "waiting for SSH"), [probe]⟩
  else
    let calls := [probe,
      .uploadAndRunScript (c.buildTunnelConfig cr) script.scriptContent script.env]
    match env.runScript with
    | .error err =>
        let message := lit "cloud-init failed: " ++ err.text
        ⟨none, (cr.setCloudInitStatus CloudInitStatusFailed message).setConditions
          ⟨.unavailable, truncateMessage message⟩, calls⟩
    | .ok result =>
        if result.exitCode ≠ 0 then
          let message := lit "exit code " ++ fmtInt result.exitCode ++ lit ": " ++ result.stderr
          ⟨none, (cr.setCloudInitStatus CloudInitStatusFailed message).setConditions
            ⟨.unavailable, truncateMessage message⟩, calls⟩
        else
          ⟨none, (cr.setCloudInitStatus CloudInitStatusCompleted []).setConditions
            (.ofReason .available), calls⟩

@[simp] theorem External.buildTunnelConfig_setCloudInitStatus (c : External) (cr : VM)
    (status message : Bytes) :
    c.buildTunnelConfig (cr.setCloudInitStatus status message) = c.buildTunnelConfig cr := rfl

/-- Everything `executeCloudInit` can do: find SSH not ready and record `pending`
with an error, or run the script once and record its outcome, returning no error. -/
theorem executeCloudInit_cases (c : External) (env : ObserveEnv) (cr : VM)
    (script : VMStartupScript) :
    let cr₁ := cr.setCloudInitStatus CloudInitStatusRunning []
    let probe := ExternalCall.sshProbe (c.buildTunnelConfig cr)
    let r := executeCloudInit c env cr script
    (env.sshReady = false ∧ r = ⟨some (.new errSSHNotReady),
      cr₁.setCloudInitStatus CloudInitStatusPending (lit "waiting for SSH"), [probe]⟩) ∨
    (env.sshReady = true ∧ r.value = none ∧
      r.calls = [probe,
        .uploadAndRunScript (c.buildTunnelConfig cr) script.scriptContent script.env] ∧
      r.vm = match failureMessage env.runScript with
        | some msg => (cr₁.setCloudInitStatus CloudInitStatusFailed msg).setConditions
            ⟨.unavailable, truncateMessage msg⟩
        | none => (cr₁.setCloudInitStatus CloudInitStatusCompleted []).setConditions
            (.ofReason .available)) := by
  unfold executeCloudInit
  cases hready : env.sshReady
  · exact .inl ⟨rfl, rfl⟩
  · refine .inr ⟨rfl, ?_⟩
    cases env.runScript with
    | error err => exact ⟨rfl, rfl, rfl⟩
    | ok result =>
        by_cases hexit : result.exitCode = 0 <;> simp [failureMessage, hexit]

/-- `handleCloudInit`: with no startup script the VM is available; otherwise act on
the recorded cloud-init status. -/
def handleCloudInit (c : External) (env : ObserveEnv) (cr : VM) : Reconciled (Option GoError) :=
  match cr.forProvider.startupScript with
  | none => ⟨none, cr.setConditions (.ofReason .available), []⟩
  | some script =>
      if script.scriptContent = [] then ⟨none, cr.setConditions (.ofReason .available), []⟩
      else if cr.getCloudInitStatus = CloudInitStatusCompleted then
        ⟨none, cr.setConditions (.ofReason .available), []⟩
      else if cr.getCloudInitStatus = CloudInitStatusFailed then
        ⟨none, cr.setConditions ⟨.unavailable, truncateMessage cr.atProvider.cloudInitMessage⟩,
          []⟩
      else if cr.getCloudInitStatus = CloudInitStatusRunning then
        ⟨none, cr.setConditions (.ofReason .creating), []⟩
      else executeCloudInit c env cr script

/-- Everything `handleCloudInit` can do: settle the `Ready` condition from the
recorded status without any call, or run `executeCloudInit` when a non-empty
startup script asks for a run. -/
theorem handleCloudInit_cases (c : External) (env : ObserveEnv) (cr : VM) :
    let r := handleCloudInit c env cr
    ((∀ script, cr.forProvider.startupScript = some script → script.scriptContent = []) ∧
        r = ⟨none, cr.setConditions (.ofReason .available), []⟩) ∨
    (cr.getCloudInitStatus = CloudInitStatusCompleted ∧
        r = ⟨none, cr.setConditions (.ofReason .available), []⟩) ∨
    (cr.getCloudInitStatus = CloudInitStatusFailed ∧
        r = ⟨none, cr.setConditions
          ⟨.unavailable, truncateMessage cr.atProvider.cloudInitMessage⟩, []⟩) ∨
    (cr.getCloudInitStatus = CloudInitStatusRunning ∧
        r = ⟨none, cr.setConditions (.ofReason .creating), []⟩) ∨
    (∃ script, cr.forProvider.startupScript = some script ∧ script.scriptContent ≠ [] ∧
        AsksForRun cr.atProvider.cloudInitStatus ∧ r = executeCloudInit c env cr script) := by
  unfold handleCloudInit
  split
  · rename_i hnone
    exact .inl ⟨(fun script h => by simp [hnone] at h), rfl⟩
  · rename_i script hsome
    split_ifs with hempty hcompleted hfailed hrunning
    · exact .inl ⟨(fun s h => by rw [hsome] at h; cases h; exact hempty), rfl⟩
    · exact .inr (.inl ⟨hcompleted, rfl⟩)
    · exact .inr (.inr (.inl ⟨hfailed, rfl⟩))
    · exact .inr (.inr (.inr (.inl ⟨hrunning, rfl⟩)))
    · exact .inr (.inr (.inr (.inr ⟨script, hsome, hempty, ⟨hcompleted, hfailed, hrunning⟩, rfl⟩)))

/-- The IP address a `GET /vms/{name}/ip` yields, when it succeeds with 200, decodes
and carries one. -/
def fetchedIp : Except GoError (HttpResponse OrchardIP) → Option Bytes
  | .ok ⟨200, .ok ⟨some ip⟩⟩ => some ip
  | _ => none

/-- The part of `handleObserveResponse` for a running VM: fetch its IP, then
handle cloud-init once it has one. -/
def observeRunning (c : External) (env : ObserveEnv) (cr : VM) (vmName : Bytes)
    (vm : OrchardVM) : Reconciled (ExternalObservation × Option GoError) :=
  let ipCall := ExternalCall.getVmsNameIp vmName
  let cr := { cr with atProvider := { cr.atProvider with
    ipAddress := (fetchedIp env.getIp).getD cr.atProvider.ipAddress } }
  if cr.atProvider.ipAddress ≠ [] then
    let r := handleCloudInit c env cr
    match r.value with
    | some err => ⟨(⟨true, true⟩, some (err.wrap errExecuteCloudInit)), r.vm, ipCall :: r.calls⟩
    | none => ⟨(⟨true, isVMUpToDate r.vm.forProvider vm⟩, none), r.vm, ipCall :: r.calls⟩
  else
    ⟨(⟨true, isVMUpToDate cr.forProvider vm⟩, none), cr.setConditions (.ofReason .creating),
      [ipCall]⟩

/-- The resource once the IP fetch of a running VM has been applied. -/
def VM.withFetchedIp (cr : VM) (getIp : Except GoError (HttpResponse OrchardIP)) : VM :=
  { cr with atProvider := { cr.atProvider with
      ipAddress := (fetchedIp getIp).getD cr.atProvider.ipAddress } }

theorem observeRunning_cases (c : External) (env : ObserveEnv) (cr : VM) (vmName : Bytes)
    (vm : OrchardVM) :
    let cr₁ := cr.withFetchedIp env.getIp
    let r := observeRunning c env cr vmName vm
    (cr₁.atProvider.ipAddress = [] ∧ r = ⟨(⟨true, isVMUpToDate cr.forProvider vm⟩, none),
      cr₁.setConditions (.ofReason .creating), [.getVmsNameIp vmName]⟩) ∨
    (cr₁.atProvider.ipAddress ≠ [] ∧ r.value.1.resourceExists = true ∧
      r.value.2 = (handleCloudInit c env cr₁).value.map (·.wrap errExecuteCloudInit) ∧
      r.vm = (handleCloudInit c env cr₁).vm ∧
      r.calls = .getVmsNameIp vmName :: (handleCloudInit c env cr₁).calls) := by
  unfold observeRunning
  dsimp only
  split
  · rename_i hip
    refine .inr ⟨hip, ?_⟩
    split <;> rename_i hvalue <;> simp [hvalue, VM.withFetchedIp]
  · rename_i hip
    exact .inl ⟨not_not.mp hip, rfl⟩

theorem observeRunning_eq (c : External) (env : ObserveEnv) (cr : VM) (vmName : Bytes)
    (vm : OrchardVM) :
    observeRunning c env cr vmName vm =
      if (cr.withFetchedIp env.getIp).atProvider.ipAddress ≠ [] then
        match (handleCloudInit c env (cr.withFetchedIp env.getIp)).value with
        | some err => ⟨(⟨true, true⟩, some (err.wrap errExecuteCloudInit)),
            (handleCloudInit c env (cr.withFetchedIp env.getIp)).vm,
            .getVmsNameIp vmName :: (handleCloudInit c env (cr.withFetchedIp env.getIp)).calls⟩
        | none => ⟨(⟨true, isVMUpToDate
              (handleCloudInit c env (cr.withFetchedIp env.getIp)).vm.forProvider vm⟩, none),
            (handleCloudInit c env (cr.withFetchedIp env.getIp)).vm,
            .getVmsNameIp vmName :: (handleCloudInit c env (cr.withFetchedIp env.getIp)).calls⟩
      else
        ⟨(⟨true, isVMUpToDate cr.forProvider vm⟩, none),
          (cr.withFetchedIp env.getIp).setConditions (.ofReason .creating), [.getVmsNameIp vmName]⟩ :=
  rfl

/-- `handleObserveResponse`. -/
def handleObserveResponse (c : External) (env : ObserveEnv) (resp : HttpResponse OrchardVM)
    (cr : VM) (vmName : Bytes) : Reconciled (ExternalObservation × Option GoError) :=
  if resp.statusCode = 404 then ⟨(⟨false, false⟩, none), cr, []⟩
  else if resp.statusCode = 200 then
    match resp.body with
    | .error err => ⟨(⟨false, false⟩, some (err.wrap (lit "cannot decode VM response"))), cr, []⟩
    | .ok vm =>
        let cr := updateVMStatus cr vm
        if stringValue vm.status = lit "running" then observeRunning c env cr vmName vm
        else ⟨(⟨true, isVMUpToDate cr.forProvider vm⟩, none), cr, []⟩
  else
    ⟨(⟨false, false⟩, some (.new (lit "unexpected status code: " ++ fmtInt resp.statusCode))),
      cr, []⟩

theorem handleObserveResponse_cases (c : External) (env : ObserveEnv)
    (resp : HttpResponse OrchardVM) (cr : VM) (vmName : Bytes) :
    let r := handleObserveResponse c env resp cr vmName
    (resp.statusCode = 404 ∧ r = ⟨(⟨false, false⟩, none), cr, []⟩) ∨
    (resp.statusCode = 200 ∧ ∃ err, resp.body = .error err ∧
      r = ⟨(⟨false, false⟩, some (err.wrap (lit "cannot decode VM response"))), cr, []⟩) ∨
    (resp.statusCode = 200 ∧ ∃ vm, resp.body = .ok vm ∧ stringValue vm.status = lit "running" ∧
      r = observeRunning c env (updateVMStatus cr vm) vmName vm) ∨
    (resp.statusCode = 200 ∧ ∃ vm, resp.body = .ok vm ∧ stringValue vm.status ≠ lit "running" ∧
      r = ⟨(⟨true, isVMUpToDate cr.forProvider vm⟩, none), updateVMStatus cr vm, []⟩) ∨
    (resp.statusCode ≠ 200 ∧ resp.statusCode ≠ 404 ∧
      r = ⟨(⟨false, false⟩,
        some (.new (lit "unexpected status code: " ++ fmtInt resp.statusCode))), cr, []⟩) := by
  unfold handleObserveResponse
  split_ifs with h404 h200
  · exact .inl ⟨h404, rfl⟩
  · split
    · rename_i err hbody
      exact .inr (.inl ⟨h200, err, hbody, rfl⟩)
    · rename_i vm hbody
      dsimp only
      split
      · rename_i hrunning
        exact .inr (.inr (.inl ⟨h200, vm, hbody, hrunning, rfl⟩))
      · rename_i hrunning
        exact .inr (.inr (.inr (.inl ⟨h200, vm, hbody, hrunning,
          by rw [(updateVMStatus_frame cr vm).2.1]⟩)))
  · exact .inr (.inr (.inr (.inr ⟨h200, h404, rfl⟩)))

/-- `external.Observe`. -/
def observe (c : External) (env : ObserveEnv) (cr : VM) :
    Reconciled (ExternalObservation × Option GoError) :=
  let vmName := cr.metadata.externalName
  if vmName = [] then ⟨(⟨false, false⟩, none), cr, []⟩
  else
    match env.getVm with
    | .error err => ⟨(⟨false, false⟩, some (err.wrap errGetVM)), cr, [.getVmsName vmName]⟩
    | .ok resp =>
        let r := handleObserveResponse c env resp cr vmName
        ⟨r.value, r.vm, .getVmsName vmName :: r.calls⟩

theorem observe_cases (c : External) (env : ObserveEnv) (cr : VM) :
    let name := cr.metadata.externalName
    let r := observe c env cr
    (name = [] ∧ r = ⟨(⟨false, false⟩, none), cr, []⟩) ∨
    (name ≠ [] ∧ ∃ err, env.getVm = .error err ∧
      r = ⟨(⟨false, false⟩, some (err.wrap errGetVM)), cr, [.getVmsName name]⟩) ∨
    (name ≠ [] ∧ ∃ resp, env.getVm = .ok resp ∧
      r.value = (handleObserveResponse c env resp cr name).value ∧
      r.vm = (handleObserveResponse c env resp cr name).vm ∧
      r.calls = .getVmsName name :: (handleObserveResponse c env resp cr name).calls) := by
  unfold observe
  dsimp only
  split
  · exact .inl ⟨‹_›, rfl⟩
  · split
    · exact .inr (.inl ⟨‹_›, _, ‹_›, rfl⟩)
    · exact .inr (.inr ⟨‹_›, _, ‹_›, rfl, rfl, rfl⟩)

end ProviderOrchard
