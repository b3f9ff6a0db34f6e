/-
The cloud-init record (`cloudInitStatus`, `cloudInitMessage`) as a state machine.
A reconcile either leaves the record alone, finds SSH not ready, or runs the
startup script once; `Attempt.record` says what each of these records.  The
first half shows that `Observe` moves the record exactly so; the second half
follows the record along whole runs of reconciles.
-/
import ProviderOrchard.Observe

namespace ProviderOrchard

/-- What one reconcile did about provisioning. -/
inductive Attempt
  | skipped
  | notReady
  | ran (outcome : Except GoError CommandResult)

/-- The attempt a reconcile made, read off its calls: a script run when it called
`UploadAndRunScript`, a failed probe when it only opened the probe session. -/
def attemptOf (env : ObserveEnv) (calls : List ExternalCall) : Attempt :=
  if calls.any ExternalCall.isUpload then .ran env.runScript
  else if calls.any ExternalCall.opensSSH then .notReady
  else .skipped

/-- The cloud-init record an attempt leaves behind, from `(status, message)`. -/
def Attempt.record (status message : Bytes) : Attempt → Bytes × Bytes
  | .skipped => (status, message)
  | .notReady => (CloudInitStatusPending, lit "waiting for SSH")
  | .ran outcome =>
      match failureMessage outcome with
      | some msg => (CloudInitStatusFailed, msg)
      | none => (CloudInitStatusCompleted, [])

/-- One step moved the cloud-init record from `(status, message)` as the machine
allows: to what its attempt records, attempting only from a status that asks for
a run. -/
def Provisions {α : Type} (env : ObserveEnv) (status message : Bytes) (r : Reconciled α) : Prop :=
  (r.vm.atProvider.cloudInitStatus, r.vm.atProvider.cloudInitMessage) =
      (attemptOf env r.calls).record status message ∧
    ((attemptOf env r.calls) matches .skipped ∨ AsksForRun status)

theorem attemptOf_of_upload {env : ObserveEnv} {calls : List ExternalCall}
    (hupload : calls.any ExternalCall.isUpload = true) : attemptOf env calls = .ran env.runScript :=
  if_pos hupload

theorem attemptOf_nil (env : ObserveEnv) : attemptOf env [] = .skipped := rfl

theorem attemptOf_getVmsName (env : ObserveEnv) (name : Bytes) (calls : List ExternalCall) :
    attemptOf env (.getVmsName name :: calls) = attemptOf env calls := by
  simp [attemptOf, ExternalCall.isUpload, ExternalCall.opensSSH]

theorem attemptOf_getVmsNameIp (env : ObserveEnv) (name : Bytes) (calls : List ExternalCall) :
    attemptOf env (.getVmsNameIp name :: calls) = attemptOf env calls := by
  simp [attemptOf, ExternalCall.isUpload, ExternalCall.opensSSH]

theorem attemptOf_probe_upload (env : ObserveEnv) (config : TunnelConfig) (script : Bytes)
    (scriptEnv : GoMap) :
    attemptOf env [.sshProbe config, .uploadAndRunScript config script scriptEnv] =
      .ran env.runScript := rfl

theorem executeCloudInit_record (c : External) (env : ObserveEnv) (cr : VM)
    (script : VMStartupScript) (status message : Bytes) :
    let r := executeCloudInit c env cr script
    (r.vm.atProvider.cloudInitStatus, r.vm.atProvider.cloudInitMessage) =
        (attemptOf env r.calls).record status message ∧
      ¬ (attemptOf env r.calls) matches .skipped := by
  dsimp only
  rcases executeCloudInit_cases c env cr script with ⟨-, hr⟩ | ⟨-, -, hcalls, hvm⟩
  · rw [hr]
    exact ⟨rfl, by simp [attemptOf, ExternalCall.isUpload, ExternalCall.opensSSH]⟩
  · rw [hcalls, hvm, attemptOf_probe_upload]
    refine ⟨?_, by simp⟩
    simp only [Attempt.record]
    cases failureMessage env.runScript <;> rfl

/-- A step that made no provisioning call and left the record alone. -/
theorem Provisions.skip {α : Type} (env : ObserveEnv) (value : α) (cr : VM) (cr' : VM)
    (hstatus : cr'.atProvider.cloudInitStatus = cr.atProvider.cloudInitStatus)
    (hmessage : cr'.atProvider.cloudInitMessage = cr.atProvider.cloudInitMessage) :
    Provisions env cr.atProvider.cloudInitStatus cr.atProvider.cloudInitMessage
      ⟨value, cr', []⟩ :=
  ⟨by rw [hstatus, hmessage]; rfl, .inl rfl⟩

theorem handleCloudInit_provisions (c : External) (env : ObserveEnv) (cr : VM) :
    Provisions env cr.atProvider.cloudInitStatus cr.atProvider.cloudInitMessage
      (handleCloudInit c env cr) := by
  rcases handleCloudInit_cases c env cr with
    ⟨-, hr⟩ | ⟨-, hr⟩ | ⟨-, hr⟩ | ⟨-, hr⟩ | ⟨script, -, -, hask, hr⟩ <;> rw [hr]
  any_goals exact .skip env _ cr _ rfl rfl
  exact ⟨(executeCloudInit_record c env cr script _ _).1, .inr hask⟩

theorem observeRunning_provisions (c : External) (env : ObserveEnv) (cr : VM) (vmName : Bytes)
    (vm : OrchardVM) :
    Provisions env cr.atProvider.cloudInitStatus cr.atProvider.cloudInitMessage
      (observeRunning c env cr vmName vm) := by
  rcases observeRunning_cases c env cr vmName vm with ⟨-, hr⟩ | ⟨-, -, -, hvm, hcalls⟩
  · rw [hr]
    exact ⟨rfl, .inl rfl⟩
  · simp only [Provisions, hvm, hcalls, attemptOf_getVmsNameIp]
    exact handleCloudInit_provisions c env (cr.withFetchedIp env.getIp)

theorem handleObserveResponse_provisions (c : External) (env : ObserveEnv)
    (resp : HttpResponse OrchardVM) (cr : VM) (vmName : Bytes) :
    Provisions env cr.atProvider.cloudInitStatus cr.atProvider.cloudInitMessage
      (handleObserveResponse c env resp cr vmName) := by
  rcases handleObserveResponse_cases c env resp cr vmName with
    ⟨-, hr⟩ | ⟨-, err, -, hr⟩ | ⟨-, vm, -, -, hr⟩ | ⟨-, vm, -, -, hr⟩ | ⟨-, -, hr⟩ <;> rw [hr]
  · exact .skip env _ cr _ rfl rfl
  · exact .skip env _ cr _ rfl rfl
  · have hframe := (updateVMStatus_frame cr vm).2.2
    simpa only [hframe, VMObservation.update_cloudInitStatus,
      VMObservation.update_cloudInitMessage] using
      observeRunning_provisions c env (updateVMStatus cr vm) vmName vm
  · have hframe := (updateVMStatus_frame cr vm).2.2
    exact .skip env _ cr _ (by simp [hframe]) (by simp [hframe])
  · exact .skip env _ cr _ rfl rfl

/-- `Observe` moves the cloud-init record exactly as the provisioning machine
allows. -/
theorem observe_provisions (c : External) (env : ObserveEnv) (cr : VM) :
    Provisions env cr.atProvider.cloudInitStatus cr.atProvider.cloudInitMessage
      (observe c env cr) := by
  rcases observe_cases c env cr with ⟨-, hr⟩ | ⟨-, err, -, hr⟩ | ⟨-, resp, -, -, hvm, hcalls⟩
  · rw [hr]
    exact .skip env _ cr _ rfl rfl
  · rw [hr]
    exact ⟨rfl, .inl rfl⟩
  · simp only [Provisions, hvm, hcalls, attemptOf_getVmsName]
    exact handleObserveResponse_provisions c env resp cr _

/-- The error a provisioning attempt makes its reconcile return: only a failed
SSH probe is one. -/
def Attempt.error : Attempt → Option GoError
  | .notReady => some (.new errSSHNotReady)
  | _ => none

theorem executeCloudInit_value (c : External) (env : ObserveEnv) (cr : VM)
    (script : VMStartupScript) :
    (executeCloudInit c env cr script).value =
      (attemptOf env (executeCloudInit c env cr script).calls).error := by
  rcases executeCloudInit_cases c env cr script with ⟨-, hr⟩ | ⟨-, hvalue, hcalls, -⟩
  · rw [hr]
    rfl
  · rw [hvalue, hcalls, attemptOf_probe_upload]
    rfl

theorem handleCloudInit_value (c : External) (env : ObserveEnv) (cr : VM) :
    (handleCloudInit c env cr).value = (attemptOf env (handleCloudInit c env cr).calls).error := by
  rcases handleCloudInit_cases c env cr with
    ⟨-, hr⟩ | ⟨-, hr⟩ | ⟨-, hr⟩ | ⟨-, hr⟩ | ⟨script, -, -, -, hr⟩ <;> rw [hr]
  any_goals rfl
  exact executeCloudInit_value c env cr script

/-- The errors `Observe` returns from the Orchard GET itself: the request fails,
answers with a status code other than 200 and 404, or with a body that does not
decode. -/
def GetFailed (getVm : Except GoError (HttpResponse OrchardVM)) : Prop :=
  (∃ err, getVm = .error err) ∨
    (∃ resp, getVm = .ok resp ∧ resp.statusCode ≠ 200 ∧ resp.statusCode ≠ 404) ∨
    (∃ resp err, getVm = .ok resp ∧ resp.statusCode = 200 ∧ resp.body = .error err)

theorem observeRunning_value_error (c : External) (env : ObserveEnv) (cr : VM) (vmName : Bytes)
    (vm : OrchardVM) :
    (observeRunning c env cr vmName vm).value.2 =
      ((attemptOf env (observeRunning c env cr vmName vm).calls).error).map
        (·.wrap errExecuteCloudInit) := by
  rcases observeRunning_cases c env cr vmName vm with ⟨-, hr⟩ | ⟨-, -, hvalue, -, hcalls⟩
  · rw [hr]
    rfl
  · rw [hvalue, hcalls, attemptOf_getVmsNameIp, handleCloudInit_value]

/-- `Observe` fails for the Orchard GET, or for a failed SSH probe, and for
nothing else; a reconcile that ran the script returns no error. -/
theorem observe_value_error (c : External) (env : ObserveEnv) (cr : VM) (e : GoError)
    (he : (observe c env cr).value.2 = some e) :
    (GetFailed env.getVm ∧ (attemptOf env (observe c env cr).calls) matches .skipped) ∨
      (e = (GoError.new errSSHNotReady).wrap errExecuteCloudInit ∧
        (attemptOf env (observe c env cr).calls) matches .notReady) := by
  rcases observe_cases c env cr with ⟨-, hr⟩ | ⟨-, err, hget, hr⟩ | ⟨-, resp, hget, hvalue, -, hcalls⟩
  · rw [hr] at he
    cases he
  · rw [hr]
    exact .inl ⟨.inl ⟨err, hget⟩, rfl⟩
  · rw [hvalue] at he
    rw [hcalls, attemptOf_getVmsName]
    rcases handleObserveResponse_cases c env resp cr _ with
      ⟨-, hr⟩ | ⟨h200, err, hbody, hr⟩ | ⟨-, vm, -, -, hr⟩ | ⟨-, vm, -, -, hr⟩ |
        ⟨h200, h404, hr⟩ <;> rw [hr] at he ⊢
    · cases he
    · exact .inl ⟨.inr (.inr ⟨resp, err, hget, h200, hbody⟩), rfl⟩
    · rw [observeRunning_value_error] at he
      revert he
      cases attemptOf env (observeRunning c env (updateVMStatus cr vm) _ vm).calls <;>
        simp [Attempt.error, eq_comm]
    · cases he
    · exact .inl ⟨.inr (.inl ⟨resp, hget, h200, h404⟩), rfl⟩

/-! Runs of reconciles. -/

/-- One step of a resource's life between persisted states: an `Observe`
reconcile against what the world answers, or an edit of `spec.forProvider`. -/
inductive ReconcileStep
  | reconcile (env : ObserveEnv)
  | editSpec (params : VMParameters)

/-- The resource a step leaves, and the external calls it made. -/
def ReconcileStep.apply (c : External) (cr : VM) : ReconcileStep → VM × List ExternalCall
  | .reconcile env => ((observe c env cr).vm, (observe c env cr).calls)
  | .editSpec params => ({ cr with forProvider := params }, [])

/-- The provisioning attempt a step made. -/
def ReconcileStep.attempt (c : External) (cr : VM) : ReconcileStep → Attempt
  | .reconcile env => attemptOf env (observe c env cr).calls
  | .editSpec _ => .skipped

/-- The resource after a run of steps, its status persisted between them. -/
def runSteps (c : External) (cr : VM) : List ReconcileStep → VM
  | [] => cr
  | s :: steps => runSteps c (s.apply c cr).1 steps

theorem runSteps_append (c : External) (cr : VM) (pre post : List ReconcileStep) :
    runSteps c cr (pre ++ post) = runSteps c (runSteps c cr pre) post := by
  induction pre generalizing cr with
  | nil => rfl
  | cons s pre ih => exact ih _

theorem runSteps_snoc (c : External) (cr : VM) (pre : List ReconcileStep) (s : ReconcileStep) :
    runSteps c cr (pre ++ [s]) = (s.apply c (runSteps c cr pre)).1 := by
  rw [runSteps_append]
  rfl

/-- The cloud-init record of a resource. -/
def VM.cloudInitRecord (cr : VM) : Bytes × Bytes :=
  (cr.atProvider.cloudInitStatus, cr.atProvider.cloudInitMessage)

/-- Every step moves the record as the provisioning machine allows, and calls
`UploadAndRunScript` only as a script-running attempt. -/
theorem ReconcileStep.apply_provisions (c : External) (cr : VM) (s : ReconcileStep) :
    (s.apply c cr).1.cloudInitRecord =
        (s.attempt c cr).record cr.atProvider.cloudInitStatus cr.atProvider.cloudInitMessage ∧
      ((s.attempt c cr) matches .skipped ∨ AsksForRun cr.atProvider.cloudInitStatus) ∧
      ((s.apply c cr).2.any ExternalCall.isUpload = true → ¬ (s.attempt c cr) matches .skipped) := by
  cases s with
  | reconcile env =>
      obtain ⟨hrecord, hguard⟩ := observe_provisions c env cr
      refine ⟨hrecord, hguard, fun hupload => ?_⟩
      simp only [ReconcileStep.attempt, attemptOf_of_upload
        (show (observe c env cr).calls.any ExternalCall.isUpload = true from hupload)]
      simp
  | editSpec params => exact ⟨rfl, .inl rfl, fun h => absurd h (by simp [apply])⟩

/-- The statuses the controller ever records: none yet, or one it writes at the
end of a reconcile. -/
def KnownCloudInitStatus (status : Bytes) : Prop :=
  status = [] ∨ status = CloudInitStatusPending ∨ status = CloudInitStatusCompleted ∨
    status = CloudInitStatusFailed

/-- A final outcome: the script ran and its result is recorded. -/
def Settled (status : Bytes) : Prop :=
  status = CloudInitStatusCompleted ∨ status = CloudInitStatusFailed

theorem Attempt.record_known (status message : Bytes) (a : Attempt)
    (hstatus : KnownCloudInitStatus status) : KnownCloudInitStatus (a.record status message).1 := by
  cases a with
  | skipped => exact hstatus
  | notReady => exact .inr (.inl rfl)
  | ran outcome =>
      simp only [record]
      split
      · exact .inr (.inr (.inr rfl))
      · exact .inr (.inr (.inl rfl))

theorem ReconcileStep.apply_known (c : External) (cr : VM) (s : ReconcileStep)
    (hcr : KnownCloudInitStatus cr.atProvider.cloudInitStatus) :
    KnownCloudInitStatus (s.apply c cr).1.atProvider.cloudInitStatus := by
  have h := congrArg Prod.fst (s.apply_provisions c cr).1
  simp only [VM.cloudInitRecord] at h
  rw [h]
  exact Attempt.record_known _ _ _ hcr

theorem runSteps_known (c : External) (cr : VM) (steps : List ReconcileStep)
    (hcr : KnownCloudInitStatus cr.atProvider.cloudInitStatus) :
    KnownCloudInitStatus (runSteps c cr steps).atProvider.cloudInitStatus := by
  induction steps generalizing cr with
  | nil => exact hcr
  | cons s steps ih => exact ih _ (s.apply_known c cr hcr)

/-- From a settled record a step changes nothing and runs no script. -/
theorem ReconcileStep.apply_settled (c : External) (cr : VM) (s : ReconcileStep)
    (hsettled : Settled cr.atProvider.cloudInitStatus) :
    (s.apply c cr).1.cloudInitRecord = cr.cloudInitRecord ∧
      (s.apply c cr).2.any ExternalCall.isUpload = false := by
  obtain ⟨hrecord, hguard, hupload⟩ := s.apply_provisions c cr
  have hskipped : (s.attempt c cr) matches .skipped := by
    rcases hguard with hskip | ⟨hcompleted, hfailed, -⟩
    · exact hskip
    · rcases hsettled with h | h
      · exact absurd h hcompleted
      · exact absurd h hfailed
  refine ⟨?_, ?_⟩
  · rw [hrecord]
    revert hskipped
    cases s.attempt c cr <;> simp [Attempt.record, VM.cloudInitRecord]
  · cases hany : (s.apply c cr).2.any ExternalCall.isUpload
    · rfl
    · exact absurd hskipped (hupload hany)

theorem runSteps_settled (c : External) (cr : VM) (steps : List ReconcileStep)
    (hsettled : Settled cr.atProvider.cloudInitStatus) :
    (runSteps c cr steps).cloudInitRecord = cr.cloudInitRecord := by
  induction steps generalizing cr with
  | nil => rfl
  | cons s steps ih =>
      have hstep := s.apply_settled c cr hsettled
      have hsettled' : Settled (s.apply c cr).1.atProvider.cloudInitStatus := by
        have := congrArg Prod.fst hstep.1
        simp only [VM.cloudInitRecord] at this
        rwa [this]
      exact (ih _ hsettled').trans hstep.1

theorem KnownCloudInitStatus.ne_running {status : Bytes} (h : KnownCloudInitStatus status) :
    status ≠ CloudInitStatusRunning := by
  rcases h with rfl | rfl | rfl | rfl <;> decide

theorem Settled.of_record_eq {cr cr' : VM} (hrecord : cr'.cloudInitRecord = cr.cloudInitRecord)
    (hsettled : Settled cr.atProvider.cloudInitStatus) :
    Settled cr'.atProvider.cloudInitStatus := by
  have h := congrArg Prod.fst hrecord
  simp only [VM.cloudInitRecord] at h
  rwa [h]

/-- Whatever Orchard, the SSH layer and spec edits do along a run that starts from
a status the controller could have recorded: a reconcile runs the startup script
only from an empty or pending status, none ends with `running`, and once the
outcome is recorded as `completed` or `failed` the record never changes and the
script never runs again. -/
theorem cloudInit_outcome_recorded_once (c : External) (cr : VM)
    (hcr : KnownCloudInitStatus cr.atProvider.cloudInitStatus) (pre : List ReconcileStep)
    (s : ReconcileStep) :
    ((s.apply c (runSteps c cr pre)).2.any ExternalCall.isUpload = true →
        (runSteps c cr pre).atProvider.cloudInitStatus = [] ∨
          (runSteps c cr pre).atProvider.cloudInitStatus = CloudInitStatusPending) ∧
      (runSteps c cr (pre ++ [s])).atProvider.cloudInitStatus ≠ CloudInitStatusRunning ∧
      (Settled (runSteps c cr pre).atProvider.cloudInitStatus → ∀ mid : List ReconcileStep,
        (runSteps c cr (pre ++ mid)).cloudInitRecord = (runSteps c cr pre).cloudInitRecord ∧
          (s.apply c (runSteps c cr (pre ++ mid))).2.any ExternalCall.isUpload = false) := by
  have hknown := runSteps_known c cr pre hcr
  refine ⟨fun hupload => ?_, ?_, fun hsettled mid => ?_⟩
  · obtain ⟨-, hguard, hran⟩ := s.apply_provisions c (runSteps c cr pre)
    rcases hguard with hskip | ⟨hcompleted, hfailed, -⟩
    · exact absurd hskip (hran hupload)
    · rcases hknown with h | h | h | h
      · exact .inl h
      · exact .inr h
      · exact absurd h hcompleted
      · exact absurd h hfailed
  · rw [runSteps_snoc]
    exact (s.apply_known c _ hknown).ne_running
  · have hrecord : (runSteps c cr (pre ++ mid)).cloudInitRecord =
        (runSteps c cr pre).cloudInitRecord := by
      rw [runSteps_append]
      exact runSteps_settled c _ mid hsettled
    exact ⟨hrecord, (s.apply_settled c _ (Settled.of_record_eq hrecord hsettled)).2⟩

/-- A resource just created, with a startup script; `deletion` is its deletion
timestamp. -/
def provisioningVM (deletion : Option Nat) : VM :=
  VM.new ⟨lit "vm", lit "default", lit "vm", deletion⟩
    ⟨lit "image", none, none, some ⟨lit "echo ok", ⟨[], List.nodup_nil⟩⟩, none, none⟩

/-- Orchard reports the VM running with an IP; the SSH probe answers `ready`, and
the script run returns `outcome`. -/
def provisioningEnv (ready : Bool) (outcome : Except GoError CommandResult) : ObserveEnv :=
  ⟨.ok ⟨200, .ok ⟨some (lit "running"), none, none, none, none, none, none, none⟩⟩,
    .ok ⟨200, .ok ⟨some (lit "10.0.0.2")⟩⟩, ready, outcome⟩

/-- The Orchard endpoint the examples use. -/
def exampleExternal : External := ⟨lit "http://localhost:6120/v1", lit "token"⟩

/-- A reconcile of the running VM whose script exits 0. -/
def completedRun : ReconcileStep := .reconcile (provisioningEnv true (.ok ⟨0, [], []⟩))

/-- After a first reconcile has recorded `completed`, the status is settled, and a
second reconcile neither changes the record nor uploads the script again. -/
theorem cloudInit_outcome_recorded_once_after_completed :
    KnownCloudInitStatus (provisioningVM none).atProvider.cloudInitStatus ∧
      Settled (runSteps exampleExternal (provisioningVM none) [completedRun]).atProvider.cloudInitStatus ∧
      ((completedRun.apply exampleExternal
          (runSteps exampleExternal (provisioningVM none) [completedRun])).2.any ExternalCall.isUpload = true →
        (runSteps exampleExternal (provisioningVM none) [completedRun]).atProvider.cloudInitStatus = [] ∨
          (runSteps exampleExternal (provisioningVM none) [completedRun]).atProvider.cloudInitStatus =
            CloudInitStatusPending) ∧
      (runSteps exampleExternal (provisioningVM none)
          ([completedRun] ++ [completedRun])).atProvider.cloudInitStatus ≠ CloudInitStatusRunning ∧
      (Settled (runSteps exampleExternal (provisioningVM none) [completedRun]).atProvider.cloudInitStatus →
        ∀ mid : List ReconcileStep,
          (runSteps exampleExternal (provisioningVM none) ([completedRun] ++ mid)).cloudInitRecord =
            (runSteps exampleExternal (provisioningVM none) [completedRun]).cloudInitRecord ∧
          (completedRun.apply exampleExternal
            (runSteps exampleExternal (provisioningVM none) ([completedRun] ++ mid))).2.any
              ExternalCall.isUpload = false) :=
  ⟨.inl rfl, .inl rfl, cloudInit_outcome_recorded_once exampleExternal (provisioningVM none) (.inl rfl)
    [completedRun] completedRun⟩

/-- The statuses from which a later reconcile still runs the script. -/
def Retryable (status : Bytes) : Prop := status = [] ∨ status = CloudInitStatusPending

theorem Retryable.not_settled {status : Bytes} (h : Retryable status) : ¬ Settled status := by
  unfold Settled
  rcases h with rfl | rfl <;> decide

theorem ReconcileStep.attempt_eq_ran {c : External} {cr : VM} {s : ReconcileStep}
    {outcome : Except GoError CommandResult} (h : s.attempt c cr = .ran outcome) :
    ∃ env, s = .reconcile env ∧ (observe c env cr).calls.any ExternalCall.isUpload = true ∧
      outcome = env.runScript := by
  cases s with
  | reconcile env =>
      simp only [attempt, attemptOf] at h
      split at h
      · exact ⟨env, rfl, ‹_›, (Attempt.ran.inj h).symm⟩
      · split at h <;> cases h
  | editSpec params => cases h

/-- A settled record at the end of a run from a retryable status was written by
the one step that ran the script, from that run's outcome. -/
theorem runSteps_settled_origin (c : External) (cr : VM)
    (hcr : Retryable cr.atProvider.cloudInitStatus) (steps : List ReconcileStep)
    (hfinal : Settled (runSteps c cr steps).atProvider.cloudInitStatus) :
    ∃ pre env post, steps = pre ++ .reconcile env :: post ∧
      (observe c env (runSteps c cr pre)).calls.any ExternalCall.isUpload = true ∧
      (runSteps c cr steps).cloudInitRecord = (Attempt.ran env.runScript).record
        (runSteps c cr pre).atProvider.cloudInitStatus
        (runSteps c cr pre).atProvider.cloudInitMessage := by
  induction steps generalizing cr with
  | nil => exact absurd hfinal hcr.not_settled
  | cons s steps ih =>
      have hrecord := (s.apply_provisions c cr).1
      cases hattempt : s.attempt c cr with
      | ran outcome =>
          obtain ⟨env, rfl, hupload, rfl⟩ := ReconcileStep.attempt_eq_ran hattempt
          rw [hattempt] at hrecord
          have hsettled : Settled (ReconcileStep.apply c cr (.reconcile env)).1.atProvider.cloudInitStatus := by
            have := congrArg Prod.fst hrecord
            simp only [VM.cloudInitRecord, Attempt.record] at this
            rw [this, Settled]
            split <;> simp
          exact ⟨[], env, steps, rfl, hupload,
            (runSteps_settled c _ steps hsettled).trans hrecord⟩
      | skipped | notReady =>
          rw [hattempt] at hrecord
          have hretry : Retryable (s.apply c cr).1.atProvider.cloudInitStatus := by
            have := congrArg Prod.fst hrecord
            simp only [VM.cloudInitRecord, Attempt.record] at this
            first | rwa [this] | exact .inr this
          obtain ⟨pre, env, post, hsteps, hupload, hfinal'⟩ := ih _ hretry hfinal
          exact ⟨s :: pre, env, post, by rw [hsteps]; rfl, hupload, hfinal'⟩

theorem failureMessage_eq_none_iff (outcome : Except GoError CommandResult) :
    failureMessage outcome = none ↔ ∃ result, outcome = .ok result ∧ result.exitCode = 0 := by
  cases outcome with
  | error err => simp [failureMessage]
  | ok result => by_cases h : result.exitCode = 0 <;> simp [failureMessage, h]

theorem Attempt.record_ran (status message : Bytes) (outcome : Except GoError CommandResult) :
    (Attempt.ran outcome).record status message =
      match failureMessage outcome with
      | some msg => (CloudInitStatusFailed, msg)
      | none => (CloudInitStatusCompleted, []) := rfl

/-- What a script-running attempt records is read off its outcome: `completed`
only for a clean run, `failed` with the outcome's failure message. -/
theorem Attempt.record_ran_eq {status message st msg : Bytes}
    {outcome : Except GoError CommandResult}
    (h : (Attempt.ran outcome).record status message = (st, msg)) :
    (st = CloudInitStatusCompleted → failureMessage outcome = none) ∧
      (st = CloudInitStatusFailed → failureMessage outcome = some msg) := by
  rw [Attempt.record_ran] at h
  cases hf : failureMessage outcome with
  | none =>
      rw [hf, Prod.mk.injEq] at h
      exact ⟨fun _ => rfl, fun hst => absurd (h.1.trans hst) (by decide)⟩
  | some m =>
      rw [hf, Prod.mk.injEq] at h
      exact ⟨fun hst => absurd (h.1.trans hst) (by decide), fun _ => congrArg some h.2⟩

/-- Along any run from a status that still asks for provisioning, `completed` is
recorded only after a script run that returned exit code 0, and `failed` only
after one that returned an error of the SSH layer or a non-zero exit code, whose
message is the one recorded.  A reconcile that runs the script returns no error
whatever the outcome, and records an SSH-layer error as `failed`. -/
theorem cloudInit_status_from_script_outcome (c : External) (cr : VM)
    (hcr : Retryable cr.atProvider.cloudInitStatus) (steps : List ReconcileStep) :
    ((runSteps c cr steps).atProvider.cloudInitStatus = CloudInitStatusCompleted →
      ∃ pre env post, steps = pre ++ .reconcile env :: post ∧
        (observe c env (runSteps c cr pre)).calls.any ExternalCall.isUpload = true ∧
        ∃ result, env.runScript = .ok result ∧ result.exitCode = 0) ∧
    ((runSteps c cr steps).atProvider.cloudInitStatus = CloudInitStatusFailed →
      ∃ pre env post, steps = pre ++ .reconcile env :: post ∧
        (observe c env (runSteps c cr pre)).calls.any ExternalCall.isUpload = true ∧
        failureMessage env.runScript = some (runSteps c cr steps).atProvider.cloudInitMessage) ∧
    (∀ env cr', (observe c env cr').calls.any ExternalCall.isUpload = true →
      (observe c env cr').value.2 = none ∧
      ∀ err, env.runScript = .error err →
        (observe c env cr').vm.cloudInitRecord =
          (CloudInitStatusFailed, lit "cloud-init failed: " ++ err.text)) := by
  refine ⟨fun hcompleted => ?_, fun hfailed => ?_, fun env cr' hupload => ⟨?_, fun err herr => ?_⟩⟩
  · obtain ⟨pre, env, post, hsteps, hupload, hrecord⟩ :=
      runSteps_settled_origin c cr hcr steps (.inl hcompleted)
    exact ⟨pre, env, post, hsteps, hupload,
      (failureMessage_eq_none_iff _).mp ((Attempt.record_ran_eq hrecord.symm).1 hcompleted)⟩
  · obtain ⟨pre, env, post, hsteps, hupload, hrecord⟩ :=
      runSteps_settled_origin c cr hcr steps (.inr hfailed)
    exact ⟨pre, env, post, hsteps, hupload, (Attempt.record_ran_eq hrecord.symm).2 hfailed⟩
  · cases he : (observe c env cr').value.2 with
    | none => rfl
    | some e =>
        rcases observe_value_error c env cr' e he with ⟨-, hattempt⟩ | ⟨-, hattempt⟩ <;>
          simp [attemptOf_of_upload hupload] at hattempt
  · have hrecord := (observe_provisions c env cr').1
    rw [attemptOf_of_upload hupload, herr, Attempt.record_ran] at hrecord
    exact hrecord

theorem cloudInit_status_from_script_outcome_new_vm :
    Retryable (provisioningVM none).atProvider.cloudInitStatus ∧
      ((runSteps exampleExternal (provisioningVM none)
          [.reconcile (provisioningEnv true (.ok ⟨0, [], []⟩))]).atProvider.cloudInitStatus =
          CloudInitStatusCompleted →
        ∃ pre env post, [ReconcileStep.reconcile (provisioningEnv true (.ok ⟨0, [], []⟩))] =
            pre ++ .reconcile env :: post ∧
          (observe exampleExternal env (runSteps exampleExternal (provisioningVM none) pre)).calls.any
            ExternalCall.isUpload = true ∧
          ∃ result, env.runScript = .ok result ∧ result.exitCode = 0) :=
  ⟨.inl rfl, (cloudInit_status_from_script_outcome exampleExternal (provisioningVM none) (.inl rfl)
    [.reconcile (provisioningEnv true (.ok ⟨0, [], []⟩))]).1⟩

/-- An SSH-layer error from the script run is recorded as a final `failed`, and the
reconcile returns no error for it. -/
theorem observe_records_script_transport_error_as_failed :
    (observe exampleExternal (provisioningEnv true (.error (.new (lit "dial failed"))))
        (provisioningVM none)).calls.any ExternalCall.isUpload = true ∧
      (observe exampleExternal (provisioningEnv true (.error (.new (lit "dial failed"))))
        (provisioningVM none)).value.2 = none ∧
      (observe exampleExternal (provisioningEnv true (.error (.new (lit "dial failed"))))
        (provisioningVM none)).vm.atProvider.cloudInitStatus = CloudInitStatusFailed := by
  decide

end ProviderOrchard

