/-
The `Ready` condition across reconciles.  `Available` is set only by
`handleCloudInit`, for a running VM with an IP whose provisioning is done or not
asked for.  `updateVMStatus` replaces the condition for the statuses its switch
names and leaves it as it was for every other one, a missing status included,
so an `Available` condition from an earlier reconcile can outlive the running
VM it was set for.
-/
import ProviderOrchard.CloudInit

namespace ProviderOrchard

/-- The spec asks for no provisioning, or the recorded run completed. -/
def Provisioned (cr : VM) : Prop :=
  (∀ script, cr.forProvider.startupScript = some script → script.scriptContent = []) ∨
    cr.atProvider.cloudInitStatus = CloudInitStatusCompleted

/-- What an `Available` condition stands for: the VM runs, has an IP, and its
provisioning is done or not asked for. -/
def AvailableJustified (cr : VM) : Prop :=
  cr.atProvider.status = lit "running" ∧ cr.atProvider.ipAddress ≠ [] ∧ Provisioned cr

theorem readyForStatus_ne_available (status : Bytes) :
    readyForStatus status ≠ some (.ofReason .available) := by
  unfold readyForStatus
  split_ifs <;> simp [Condition.ofReason]

/-- An `Available` condition after `updateVMStatus` is the one it found. -/
theorem updateVMStatus_ready_available {cr : VM} {vm : OrchardVM}
    (h : (updateVMStatus cr vm).ready = some (.ofReason .available)) :
    readyForStatus (stringValue vm.status) = none ∧ cr.ready = some (.ofReason .available) := by
  rw [updateVMStatus_ready] at h
  cases hstatus : readyForStatus (stringValue vm.status) with
  | none => exact ⟨rfl, by simpa [hstatus] using h⟩
  | some c =>
      rw [hstatus] at h
      exact absurd (hstatus.trans h) (readyForStatus_ne_available _)

theorem executeCloudInit_frame (c : External) (env : ObserveEnv) (cr : VM)
    (script : VMStartupScript) :
    (executeCloudInit c env cr script).vm.forProvider = cr.forProvider ∧
      (executeCloudInit c env cr script).vm.atProvider.status = cr.atProvider.status ∧
      (executeCloudInit c env cr script).vm.atProvider.ipAddress = cr.atProvider.ipAddress ∧
      (executeCloudInit c env cr script).vm.metadata = cr.metadata := by
  rcases executeCloudInit_cases c env cr script with ⟨-, hr⟩ | ⟨-, -, -, hvm⟩
  · rw [hr]
    exact ⟨rfl, rfl, rfl, rfl⟩
  · rw [hvm]
    cases failureMessage env.runScript <;> exact ⟨rfl, rfl, rfl, rfl⟩

/-- `handleCloudInit` writes only the cloud-init fields and the condition. -/
theorem handleCloudInit_frame (c : External) (env : ObserveEnv) (cr : VM) :
    (handleCloudInit c env cr).vm.forProvider = cr.forProvider ∧
      (handleCloudInit c env cr).vm.atProvider.status = cr.atProvider.status ∧
      (handleCloudInit c env cr).vm.atProvider.ipAddress = cr.atProvider.ipAddress ∧
      (handleCloudInit c env cr).vm.metadata = cr.metadata := by
  rcases handleCloudInit_cases c env cr with
    ⟨-, hr⟩ | ⟨-, hr⟩ | ⟨-, hr⟩ | ⟨-, hr⟩ | ⟨script, -, -, -, hr⟩ <;> rw [hr]
  all_goals first
    | exact ⟨rfl, rfl, rfl, rfl⟩
    | exact executeCloudInit_frame c env cr script

/-- `handleCloudInit` leaves `Available` only when provisioning is done or not
asked for, or when it found `Available` and SSH was not ready. -/
theorem handleCloudInit_available {c : External} {env : ObserveEnv} {cr : VM}
    (h : (handleCloudInit c env cr).vm.ready = some (.ofReason .available)) :
    Provisioned (handleCloudInit c env cr).vm ∨ cr.ready = some (.ofReason .available) := by
  rcases handleCloudInit_cases c env cr with
    ⟨hnone, hr⟩ | ⟨hcompleted, hr⟩ | ⟨-, hr⟩ | ⟨-, hr⟩ | ⟨script, -, -, -, hr⟩ <;>
    rw [hr] at h ⊢
  · exact .inl (.inl hnone)
  · exact .inl (.inr hcompleted)
  · simp [Condition.ofReason] at h
  · simp [Condition.ofReason] at h
  · rcases executeCloudInit_cases c env cr script with ⟨-, hr'⟩ | ⟨-, -, -, hvm⟩
    · rw [hr'] at h
      exact .inr h
    · rw [hvm] at h ⊢
      revert h
      cases failureMessage env.runScript
      · exact fun _ => .inl (.inr rfl)
      · simp [Condition.ofReason]

/-- What an `Available` condition after one `Observe` rests on: this reconcile
found the VM running with an IP and provisioned, or the condition was already
there, on the same IP, and (when the VM was found) under a status
`updateVMStatus`'s switch has no case for. -/
theorem observe_available (c : External) (env : ObserveEnv) (cr : VM)
    (h : (observe c env cr).vm.ready = some (.ofReason .available)) :
    AvailableJustified (observe c env cr).vm ∨
      (cr.ready = some (.ofReason .available) ∧
        (observe c env cr).vm.atProvider.ipAddress = cr.atProvider.ipAddress ∧
        ((observe c env cr).value.1.resourceExists = true →
          readyForStatus (observe c env cr).vm.atProvider.status = none)) := by
  rcases observe_cases c env cr with ⟨-, hr⟩ | ⟨-, err, -, hr⟩ | ⟨-, resp, -, hvalue, hvm, -⟩
  any_goals rw [hr] at h ⊢; exact .inr ⟨h, rfl, fun hexists => nomatch hexists⟩
  rw [hvalue, hvm]
  rw [hvm] at h
  rcases handleObserveResponse_cases c env resp cr cr.metadata.externalName with
    ⟨-, hr⟩ | ⟨-, err, -, hr⟩ | ⟨-, vm, -, hrunning, hr⟩ | ⟨-, vm, -, -, hr⟩ | ⟨-, -, hr⟩ <;>
    rw [hr] at h ⊢
  · exact .inr ⟨h, rfl, fun hexists => nomatch hexists⟩
  · exact .inr ⟨h, rfl, fun hexists => nomatch hexists⟩
  · have hcreating : (updateVMStatus cr vm).ready = some (.ofReason .creating) := by
      rw [updateVMStatus_ready, hrunning]
      rfl
    have hstatus : (updateVMStatus cr vm).atProvider.status = lit "running" := by
      rw [(updateVMStatus_frame cr vm).2.2, VMObservation.update_status, hrunning]
    rcases observeRunning_cases c env (updateVMStatus cr vm) cr.metadata.externalName vm with
      ⟨-, hr'⟩ | ⟨hip, -, -, hvm', -⟩
    · rw [hr'] at h
      simp [Condition.ofReason] at h
    · rw [hvm'] at h ⊢
      have hframe := handleCloudInit_frame c env ((updateVMStatus cr vm).withFetchedIp env.getIp)
      refine .inl ⟨hframe.2.1.trans hstatus, hframe.2.2.1 ▸ hip, ?_⟩
      rcases handleCloudInit_available h with hprovisioned | hready
      · exact hprovisioned
      · rw [VM.withFetchedIp, hcreating] at hready
        simp [Condition.ofReason] at hready
  · obtain ⟨hunhandled, hready⟩ := updateVMStatus_ready_available h
    have hstatus : (updateVMStatus cr vm).atProvider.status = stringValue vm.status := by
      rw [(updateVMStatus_frame cr vm).2.2, VMObservation.update_status]
    refine .inr ⟨hready, ?_, fun _ => hstatus ▸ hunhandled⟩
    rw [(updateVMStatus_frame cr vm).2.2, VMObservation.update_ipAddress]
  · exact .inr ⟨h, rfl, fun hexists => nomatch hexists⟩

/-- After an `Observe` that found the VM and returned no error, `Available`
stands for a running, provisioned VM with an IP, unless the VM's status is one
`updateVMStatus`'s switch has no case for. -/
theorem observe_available_justified_of_handled_status (c : External) (env : ObserveEnv) (cr : VM)
    (hexists : (observe c env cr).value.1.resourceExists = true)
    (hhandled : readyForStatus (observe c env cr).vm.atProvider.status ≠ none)
    (hready : (observe c env cr).vm.ready = some (.ofReason .available)) :
    AvailableJustified (observe c env cr).vm := by
  rcases observe_available c env cr hready with hjustified | ⟨-, -, hunhandled⟩
  · exact hjustified
  · exact absurd (hunhandled hexists) hhandled

/-- A VM with no startup script. -/
def scriptlessVM : VM :=
  VM.new ⟨lit "vm", lit "default", lit "vm", none⟩ ⟨lit "image", none, none, none, none, none⟩

theorem observe_available_justified_scriptless_vm :
    (observe exampleExternal (provisioningEnv true (.ok ⟨0, [], []⟩)) scriptlessVM).value.1.resourceExists =
        true ∧
      readyForStatus (observe exampleExternal (provisioningEnv true (.ok ⟨0, [], []⟩))
        scriptlessVM).vm.atProvider.status ≠ none ∧
      (observe exampleExternal (provisioningEnv true (.ok ⟨0, [], []⟩)) scriptlessVM).vm.ready =
        some (.ofReason .available) ∧
      AvailableJustified (observe exampleExternal (provisioningEnv true (.ok ⟨0, [], []⟩))
        scriptlessVM).vm :=
  have hexists : (observe exampleExternal (provisioningEnv true (.ok ⟨0, [], []⟩))
      scriptlessVM).value.1.resourceExists = true := by decide
  have hhandled : readyForStatus (observe exampleExternal (provisioningEnv true (.ok ⟨0, [], []⟩))
      scriptlessVM).vm.atProvider.status ≠ none := by decide
  have hready : (observe exampleExternal (provisioningEnv true (.ok ⟨0, [], []⟩))
      scriptlessVM).vm.ready = some (.ofReason .available) := by decide
  ⟨hexists, hhandled, hready,
    observe_available_justified_of_handled_status _ _ _ hexists hhandled hready⟩

/-- An `Available` condition always comes with an IP address. -/
def AvailableHasIp (cr : VM) : Prop :=
  cr.ready = some (.ofReason .available) → cr.atProvider.ipAddress ≠ []

theorem ReconcileStep.apply_availableHasIp (c : External) (cr : VM) (s : ReconcileStep)
    (h : AvailableHasIp cr) : AvailableHasIp (s.apply c cr).1 := by
  cases s with
  | reconcile env =>
      intro hready
      rcases observe_available c env cr hready with hjustified | ⟨hbefore, hip, -⟩
      · exact hjustified.2.1
      · exact hip ▸ h hbefore
  | editSpec params => exact h

/-- Along every run of reconciles and spec edits from a resource with no
unfounded `Available` (a new one has no condition), an `Available` condition
never stands on an empty IP address. -/
theorem runSteps_available_has_ip (c : External) (cr : VM) (steps : List ReconcileStep)
    (h : AvailableHasIp cr) : AvailableHasIp (runSteps c cr steps) := by
  induction steps generalizing cr with
  | nil => exact h
  | cons s steps ih => exact ih _ (ReconcileStep.apply_availableHasIp c cr s h)

theorem runSteps_available_has_ip_new_vm :
    AvailableHasIp scriptlessVM ∧
      AvailableHasIp (runSteps exampleExternal scriptlessVM
        [.reconcile (provisioningEnv true (.ok ⟨0, [], []⟩))]) :=
  ⟨(fun h => nomatch h), runSteps_available_has_ip exampleExternal scriptlessVM
    [.reconcile (provisioningEnv true (.ok ⟨0, [], []⟩))] (fun h => nomatch h)⟩

/-- Orchard answers the GET with 200 and a VM whose status is left out. -/
def statuslessEnv : ObserveEnv :=
  { provisioningEnv true (.ok ⟨0, [], []⟩) with
    getVm := .ok ⟨200, .ok ⟨none, none, none, none, none, none, none, none⟩⟩ }

/-- A running VM with an IP and no startup script is made `Available`; when the
next GET reports no status, `Observe` finds the VM, returns no error, and leaves
`Available` standing on a VM that is no longer running. -/
theorem observe_keeps_available_when_status_unhandled :
    (observe exampleExternal (provisioningEnv true (.ok ⟨0, [], []⟩)) scriptlessVM).vm.ready =
        some (.ofReason .available) ∧
      (observe exampleExternal statuslessEnv
          (observe exampleExternal (provisioningEnv true (.ok ⟨0, [], []⟩)) scriptlessVM).vm).value =
        (⟨true, true⟩, none) ∧
      (observe exampleExternal statuslessEnv
          (observe exampleExternal (provisioningEnv true (.ok ⟨0, [], []⟩)) scriptlessVM).vm).vm.ready =
        some (.ofReason .available) ∧
      (observe exampleExternal statuslessEnv
          (observe exampleExternal (provisioningEnv true (.ok ⟨0, [], []⟩))
            scriptlessVM).vm).vm.atProvider.status = [] := by
  decide

end ProviderOrchard
