/-
What `Observe` does for a resource marked for deletion.  `Observe` never reads
the deletion timestamp: whenever it opens an SSH session it is running
`executeCloudInit`, and then a failed SSH probe is an error of `Observe`.
-/
import ProviderOrchard.CloudInit

namespace ProviderOrchard

theorem attemptOf_skipped_opensSSH {env : ObserveEnv} {calls : List ExternalCall}
    (h : (attemptOf env calls) matches .skipped) : calls.any ExternalCall.opensSSH = false := by
  unfold attemptOf at h
  split_ifs at h with hupload hssh
  simp_all

theorem attemptOf_notReady_opensSSH {env : ObserveEnv} {calls : List ExternalCall}
    (h : (attemptOf env calls) matches .notReady) : calls.any ExternalCall.opensSSH = true := by
  unfold attemptOf at h
  split_ifs at h with hupload hssh
  simp_all

/-- Whenever `Observe` opens an SSH session, Orchard reported the VM running, the
resource had an IP and a non-empty startup script whose status asks for a run, and
`Observe` is `executeCloudInit` on the updated resource. -/
theorem observe_provisioning (c : External) (env : ObserveEnv) (cr : VM)
    (hssh : (observe c env cr).calls.any ExternalCall.opensSSH = true) :
    ∃ resp vm script, env.getVm = .ok resp ∧ resp.statusCode = 200 ∧ resp.body = .ok vm ∧
      stringValue vm.status = lit "running" ∧
      ((updateVMStatus cr vm).withFetchedIp env.getIp).atProvider.ipAddress ≠ [] ∧
      cr.forProvider.startupScript = some script ∧ script.scriptContent ≠ [] ∧
      AsksForRun cr.atProvider.cloudInitStatus ∧
      (observe c env cr).vm =
        (executeCloudInit c env ((updateVMStatus cr vm).withFetchedIp env.getIp) script).vm ∧
      (observe c env cr).value.2 =
        (executeCloudInit c env ((updateVMStatus cr vm).withFetchedIp env.getIp) script).value.map
          (·.wrap errExecuteCloudInit) := by
  rcases observe_cases c env cr with ⟨-, hr⟩ | ⟨-, err, -, hr⟩ | ⟨-, resp, hget, hvalue, hvm, hcalls⟩
  any_goals rw [hr] at hssh; cases hssh
  · rw [hcalls] at hssh
    simp only [List.any_cons, ExternalCall.opensSSH, Bool.false_or] at hssh
    rcases handleObserveResponse_cases c env resp cr _ with
      ⟨-, hr⟩ | ⟨-, err, -, hr⟩ | ⟨h200, vm, hbody, hrunning, hr⟩ | ⟨-, vm, -, -, hr⟩ |
        ⟨-, -, hr⟩ <;> rw [hr] at hssh hvalue hvm
    any_goals cases hssh
    have hframe := updateVMStatus_frame cr vm
    rcases observeRunning_cases c env (updateVMStatus cr vm) _ vm with
      ⟨-, hr'⟩ | ⟨hip, -, hvalue', hvm', hcalls'⟩
    · rw [hr'] at hssh
      cases hssh
    · rw [hcalls'] at hssh
      simp only [List.any_cons, ExternalCall.opensSSH, Bool.false_or] at hssh
      rcases handleCloudInit_cases c env ((updateVMStatus cr vm).withFetchedIp env.getIp) with
        ⟨-, hr''⟩ | ⟨-, hr''⟩ | ⟨-, hr''⟩ | ⟨-, hr''⟩ | ⟨script, hsome, hne, hask, hr''⟩ <;>
        rw [hr''] at hssh hvalue' hvm'
      any_goals cases hssh
      refine ⟨resp, vm, script, hget, h200, hbody, hrunning, hip, ?_, hne, ?_, ?_, ?_⟩
      · simpa [VM.withFetchedIp, hframe.2.1] using hsome
      · simpa [AsksForRun, VM.withFetchedIp, VM.getCloudInitStatus, hframe.2.2] using hask
      · rw [hvm, hvm']
      · rw [hvalue, hvalue']

/-! ### The deletion timestamp is never read -/

/-- The resource with its deletion timestamp set to `ts`. -/
def VM.withDeletion (cr : VM) (ts : Option Nat) : VM :=
  { cr with metadata := { cr.metadata with deletionTimestamp := ts } }

/-- A result with its resource's deletion timestamp set to `ts`. -/
def Reconciled.withDeletion {α : Type} (r : Reconciled α) (ts : Option Nat) : Reconciled α :=
  { r with vm := r.vm.withDeletion ts }

@[simp] theorem VM.withDeletion_atProvider (cr : VM) (ts : Option Nat) :
    (cr.withDeletion ts).atProvider = cr.atProvider := rfl

@[simp] theorem VM.withDeletion_externalName (cr : VM) (ts : Option Nat) :
    (cr.withDeletion ts).metadata.externalName = cr.metadata.externalName := rfl

@[simp] theorem VM.withDeletion_forProvider (cr : VM) (ts : Option Nat) :
    (cr.withDeletion ts).forProvider = cr.forProvider := rfl

@[simp] theorem Reconciled.withDeletion_value {α : Type} (r : Reconciled α) (ts : Option Nat) :
    (r.withDeletion ts).value = r.value := rfl

@[simp] theorem Reconciled.withDeletion_vm {α : Type} (r : Reconciled α) (ts : Option Nat) :
    (r.withDeletion ts).vm = r.vm.withDeletion ts := rfl

@[simp] theorem Reconciled.withDeletion_calls {α : Type} (r : Reconciled α) (ts : Option Nat) :
    (r.withDeletion ts).calls = r.calls := rfl

section Deletion

variable (c : External) (env : ObserveEnv) (cr : VM) (ts : Option Nat)

theorem updateVMStatus_withDeletion (vm : OrchardVM) :
    updateVMStatus (cr.withDeletion ts) vm = (updateVMStatus cr vm).withDeletion ts := by
  unfold updateVMStatus
  split <;> rfl

theorem executeCloudInit_withDeletion (script : VMStartupScript) :
    executeCloudInit c env (cr.withDeletion ts) script =
      (executeCloudInit c env cr script).withDeletion ts := by
  unfold executeCloudInit
  split
  · rfl
  · cases env.runScript with
    | error err => rfl
    | ok result => dsimp only; split <;> rfl

theorem handleCloudInit_withDeletion :
    handleCloudInit c env (cr.withDeletion ts) = (handleCloudInit c env cr).withDeletion ts := by
  unfold handleCloudInit
  dsimp only [VM.withDeletion, VM.getCloudInitStatus]
  split
  · rfl
  · split_ifs
    all_goals first | rfl | exact executeCloudInit_withDeletion c env cr ts _

theorem observeRunning_withDeletion (vmName : Bytes) (vm : OrchardVM) :
    observeRunning c env (cr.withDeletion ts) vmName vm =
      (observeRunning c env cr vmName vm).withDeletion ts := by
  rw [observeRunning_eq, observeRunning_eq,
    show (cr.withDeletion ts).withFetchedIp env.getIp = (cr.withFetchedIp env.getIp).withDeletion ts
      from rfl, handleCloudInit_withDeletion]
  simp only [VM.withDeletion_atProvider, VM.withDeletion_forProvider, Reconciled.withDeletion_value,
    Reconciled.withDeletion_calls, Reconciled.withDeletion_vm]
  split_ifs
  · split <;> rfl
  · rfl

theorem handleObserveResponse_withDeletion (resp : HttpResponse OrchardVM) (vmName : Bytes) :
    handleObserveResponse c env resp (cr.withDeletion ts) vmName =
      (handleObserveResponse c env resp cr vmName).withDeletion ts := by
  unfold handleObserveResponse
  split_ifs
  · rfl
  · split
    · rfl
    · dsimp only
      rw [updateVMStatus_withDeletion]
      split
      · exact observeRunning_withDeletion c env _ ts vmName _
      · rfl
  · rfl

/-- `Observe` never reads the deletion timestamp: with any other timestamp it makes
the same calls, returns the same observation and error, and leaves the same
resource but for the timestamp. -/
theorem observe_withDeletion :
    observe c env (cr.withDeletion ts) = (observe c env cr).withDeletion ts := by
  unfold observe
  simp only [VM.withDeletion_externalName]
  split_ifs
  · rfl
  · split
    · rfl
    · rw [handleObserveResponse_withDeletion]
      rfl

end Deletion

end ProviderOrchard
