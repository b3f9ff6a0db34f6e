/-
The variant of the VM controller in part_000, which has no cloud-init: its
`updateVMStatus` copies Orchard's fields and sets no condition, and its
`handleObserveResponse` neither fetches the IP nor opens an SSH session.  vm.go's
`Observe` is compared with it stage by stage: both see a resource through
`VM.withoutProvisioning`, which forgets the IP, the cloud-init record and the
`Ready` condition that only vm.go writes.  `isVMUpToDate` and `stringValue` are
the same in both files and are shared.
-/
import ProviderOrchard.Observe

namespace ProviderOrchard

/-- A resource without what only vm.go's `Observe` writes: the IP, the cloud-init
record and the `Ready` condition. -/
def VM.withoutProvisioning (cr : VM) : VM :=
  { cr with
    atProvider := { cr.atProvider with ipAddress := [], cloudInitStatus := [], cloudInitMessage := [] }
    ready := none }

@[simp] theorem VM.withoutProvisioning_setConditions (cr : VM) (c : Condition) :
    (cr.setConditions c).withoutProvisioning = cr.withoutProvisioning := rfl

@[simp] theorem VM.withoutProvisioning_setCloudInitStatus (cr : VM) (status message : Bytes) :
    (cr.setCloudInitStatus status message).withoutProvisioning = cr.withoutProvisioning := rfl

@[simp] theorem VM.withoutProvisioning_withFetchedIp (cr : VM)
    (getIp : Except GoError (HttpResponse OrchardIP)) :
    (cr.withFetchedIp getIp).withoutProvisioning = cr.withoutProvisioning := rfl

theorem VM.forProvider_eq_of_withoutProvisioning {cr cr' : VM}
    (h : cr'.withoutProvisioning = cr.withoutProvisioning) : cr'.forProvider = cr.forProvider := by
  have h' := congrArg VM.forProvider h
  exact h'

namespace Part000

/-- `updateVMStatus` of part_000: Orchard's fields into `status.atProvider`, and no
condition. -/
def updateVMStatus (cr : VM) (vm : OrchardVM) : VM :=
  { cr with atProvider := cr.atProvider.update vm }

/-- `handleObserveResponse` of part_000. -/
def handleObserveResponse (resp : HttpResponse OrchardVM) (cr : VM) :
    (ExternalObservation × Option GoError) × VM :=
  if resp.statusCode = 404 then ((⟨false, false⟩, none), cr)
  else if resp.statusCode = 200 then
    match resp.body with
    | .error err => ((⟨false, false⟩, some (err.wrap (lit "cannot decode VM response"))), cr)
    | .ok vm => ((⟨true, isVMUpToDate cr.forProvider vm⟩, none), updateVMStatus cr vm)
  else
    ((⟨false, false⟩, some (.new (lit "unexpected status code: " ++ fmtInt resp.statusCode))), cr)

/-- `external.Observe` of part_000, against the same answers as vm.go's; it reads
only Orchard's `GET /vms/{name}`. -/
def observe (env : ObserveEnv) (cr : VM) : Reconciled (ExternalObservation × Option GoError) :=
  let vmName := cr.metadata.externalName
  if vmName = [] then ⟨(⟨false, false⟩, none), cr, []⟩
  else
    match env.getVm with
    | .error err => ⟨(⟨false, false⟩, some (err.wrap errGetVM)), cr, [.getVmsName vmName]⟩
    | .ok resp =>
        let r := handleObserveResponse resp cr
        ⟨r.1, r.2, [.getVmsName vmName]⟩

end Part000

theorem updateVMStatus_withoutProvisioning (cr : VM) (vm : OrchardVM) :
    (updateVMStatus cr vm).withoutProvisioning = (Part000.updateVMStatus cr vm).withoutProvisioning := by
  unfold updateVMStatus
  split <;> rfl

/-- `handleCloudInit` writes only what part_000 does not have. -/
theorem handleCloudInit_withoutProvisioning (c : External) (env : ObserveEnv) (cr : VM) :
    (handleCloudInit c env cr).vm.withoutProvisioning = cr.withoutProvisioning := by
  rcases handleCloudInit_cases c env cr with
    ⟨-, hr⟩ | ⟨-, hr⟩ | ⟨-, hr⟩ | ⟨-, hr⟩ | ⟨script, -, -, -, hr⟩ <;> rw [hr]
  any_goals rfl
  rcases executeCloudInit_cases c env cr script with ⟨-, hr⟩ | ⟨-, -, -, hvm⟩
  · rw [hr]
    rfl
  · rw [hvm]
    cases failureMessage env.runScript <;> rfl

/-- `handleCloudInit` fails only when its probe found SSH not ready. -/
theorem handleCloudInit_value_cases (c : External) (env : ObserveEnv) (cr : VM) :
    (handleCloudInit c env cr).value = none ∨
      ((handleCloudInit c env cr).value = some (.new errSSHNotReady) ∧ env.sshReady = false ∧
        (handleCloudInit c env cr).calls.any ExternalCall.opensSSH = true) := by
  rcases handleCloudInit_cases c env cr with
    ⟨-, hr⟩ | ⟨-, hr⟩ | ⟨-, hr⟩ | ⟨-, hr⟩ | ⟨script, -, -, -, hr⟩ <;> rw [hr]
  any_goals (left; rfl)
  rcases executeCloudInit_cases c env cr script with ⟨hready, hr⟩ | ⟨-, hvalue, -, -⟩
  · rw [hr]
    exact .inr ⟨rfl, hready, rfl⟩
  · exact .inl hvalue

/-- The observation part_000 returns for a VM Orchard reports, with its IP
fetched or not and cloud-init handled or not, unless the SSH probe failed. -/
theorem observeRunning_agrees (c : External) (env : ObserveEnv) (cr : VM) (vmName : Bytes)
    (vm : OrchardVM) :
    (observeRunning c env cr vmName vm).vm.withoutProvisioning = cr.withoutProvisioning ∧
      ((observeRunning c env cr vmName vm).value = (⟨true, isVMUpToDate cr.forProvider vm⟩, none) ∨
        (env.sshReady = false ∧
          (observeRunning c env cr vmName vm).calls.any ExternalCall.opensSSH = true ∧
          (observeRunning c env cr vmName vm).value =
            (⟨true, true⟩, some ((GoError.new errSSHNotReady).wrap errExecuteCloudInit)))) := by
  have hframe := handleCloudInit_withoutProvisioning c env (cr.withFetchedIp env.getIp)
  rw [VM.withoutProvisioning_withFetchedIp] at hframe
  rw [observeRunning_eq]
  split_ifs
  · rcases handleCloudInit_value_cases c env (cr.withFetchedIp env.getIp) with
      hv | ⟨hv, hready, hssh⟩ <;> rw [hv]
    · exact ⟨hframe, .inl (by rw [VM.forProvider_eq_of_withoutProvisioning hframe])⟩
    · exact ⟨hframe, .inr ⟨hready, by simp [hssh], rfl⟩⟩
  · exact ⟨rfl, .inl rfl⟩

/-- vm.go's `handleObserveResponse` against part_000's, for one answer of Orchard. -/
theorem handleObserveResponse_agrees (c : External) (env : ObserveEnv)
    (resp : HttpResponse OrchardVM) (cr : VM) (vmName : Bytes) :
    (handleObserveResponse c env resp cr vmName).vm.withoutProvisioning =
        (Part000.handleObserveResponse resp cr).2.withoutProvisioning ∧
      ((handleObserveResponse c env resp cr vmName).value = (Part000.handleObserveResponse resp cr).1 ∨
        (env.sshReady = false ∧
          (handleObserveResponse c env resp cr vmName).calls.any ExternalCall.opensSSH = true ∧
          (handleObserveResponse c env resp cr vmName).value =
            (⟨true, true⟩, some ((GoError.new errSSHNotReady).wrap errExecuteCloudInit)) ∧
          (Part000.handleObserveResponse resp cr).1.2 = none ∧
          (Part000.handleObserveResponse resp cr).1.1.resourceExists = true)) := by
  unfold handleObserveResponse Part000.handleObserveResponse
  split_ifs
  · exact ⟨rfl, .inl rfl⟩
  · cases resp.body with
    | error err => exact ⟨rfl, .inl rfl⟩
    | ok vm =>
      have hfor := (updateVMStatus_frame cr vm).2.1
      dsimp only
      split
      · obtain ⟨hframe, hvalue⟩ := observeRunning_agrees c env (updateVMStatus cr vm) vmName vm
        rw [hfor] at hvalue
        refine ⟨hframe.trans (updateVMStatus_withoutProvisioning cr vm), ?_⟩
        rcases hvalue with hvalue | ⟨hready, hssh, hvalue⟩
        · exact .inl hvalue
        · exact .inr ⟨hready, hssh, hvalue, rfl, rfl⟩
      · exact ⟨updateVMStatus_withoutProvisioning cr vm, .inl (by rw [hfor])⟩
  · exact ⟨rfl, .inl rfl⟩

/-- part_000's `handleObserveResponse` writes no condition, no IP and no
cloud-init record. -/
theorem Part000.handleObserveResponse_keeps (resp : HttpResponse OrchardVM) (cr : VM) :
    (Part000.handleObserveResponse resp cr).2.ready = cr.ready ∧
      (Part000.handleObserveResponse resp cr).2.atProvider.ipAddress = cr.atProvider.ipAddress ∧
      (Part000.handleObserveResponse resp cr).2.atProvider.cloudInitStatus =
        cr.atProvider.cloudInitStatus ∧
      (Part000.handleObserveResponse resp cr).2.atProvider.cloudInitMessage =
        cr.atProvider.cloudInitMessage := by
  unfold Part000.handleObserveResponse
  split_ifs
  · exact ⟨rfl, rfl, rfl, rfl⟩
  · cases resp.body <;> exact ⟨rfl, rfl, rfl, rfl⟩
  · exact ⟨rfl, rfl, rfl, rfl⟩

/-- vm.go's `Observe` extends part_000's, for every resource and every answer of
Orchard and the SSH layer: it starts with the same `GET /vms/{name}`, writes the
same Orchard fields into the resource, and returns the same observation and
error, except that a reconcile whose SSH probe failed reports the VM existing and
up to date with the probe's error where part_000 reports no error.  part_000's
never writes a condition, an IP or a cloud-init record. -/
theorem observe_extends_part000 (c : External) (env : ObserveEnv) (cr : VM) :
    (observe c env cr).vm.withoutProvisioning = (Part000.observe env cr).vm.withoutProvisioning ∧
      (Part000.observe env cr).calls <+: (observe c env cr).calls ∧
      ((observe c env cr).value = (Part000.observe env cr).value ∨
        (env.sshReady = false ∧ (observe c env cr).calls.any ExternalCall.opensSSH = true ∧
          (observe c env cr).value =
            (⟨true, true⟩, some ((GoError.new errSSHNotReady).wrap errExecuteCloudInit)) ∧
          (Part000.observe env cr).value.2 = none ∧
          (Part000.observe env cr).value.1.resourceExists = true)) ∧
      (Part000.observe env cr).vm.ready = cr.ready ∧
      (Part000.observe env cr).vm.atProvider.ipAddress = cr.atProvider.ipAddress ∧
      (Part000.observe env cr).vm.atProvider.cloudInitStatus = cr.atProvider.cloudInitStatus ∧
      (Part000.observe env cr).vm.atProvider.cloudInitMessage = cr.atProvider.cloudInitMessage := by
  unfold observe Part000.observe
  dsimp only
  split_ifs
  · exact ⟨rfl, ⟨[], rfl⟩, .inl rfl, rfl, rfl, rfl, rfl⟩
  · cases env.getVm with
    | error err => exact ⟨rfl, ⟨[], rfl⟩, .inl rfl, rfl, rfl, rfl, rfl⟩
    | ok resp =>
        obtain ⟨hvm, hvalue⟩ := handleObserveResponse_agrees c env resp cr cr.metadata.externalName
        refine ⟨hvm, ⟨_, rfl⟩, ?_, Part000.handleObserveResponse_keeps resp cr⟩
        rcases hvalue with h | ⟨hready, hssh, h, h₀, h₁⟩
        · exact .inl (by rw [h])
        · exact .inr ⟨hready, by simp [hssh], h, h₀, h₁⟩

end ProviderOrchard
