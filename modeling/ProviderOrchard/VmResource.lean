/-
The VM managed resource as the controller reads and writes it, the Orchard API's
view of a VM, and the controller's helpers that read or update one of them.
Only the fields some modelled function reads or writes are kept.
-/
import Mathlib.Algebra.Group.Nat.Basic
import ProviderOrchard.Options
import ProviderOrchard.Truncate

namespace ProviderOrchard

/-- `VMStartupScript`. -/
structure VMStartupScript where
  scriptContent : Bytes
  env : GoMap
  deriving DecidableEq

/-- The fields of `VMParameters` (`spec.forProvider`) the modelled functions read. -/
structure VMParameters where
  image : Bytes
  cpu : Option Int
  memory : Option Int
  startupScript : Option VMStartupScript
  username : Option Bytes
  password : Option Bytes
  deriving DecidableEq

/-- `VMObservation` (`status.atProvider`). -/
structure VMObservation where
  status : Bytes
  statusMessage : Bytes
  worker : Bytes
  generation : Option Int
  observedGeneration : Option Int
  ipAddress : Bytes
  cloudInitStatus : Bytes
  cloudInitMessage : Bytes
  deriving DecidableEq, Repr

/-- The reasons of the `Ready` condition the controller sets. -/
inductive ReadyReason
  | available
  | creating
  | deleting
  | unavailable
  deriving DecidableEq, Repr

/-- A `Ready` condition: its reason and message. -/
structure Condition where
  reason : ReadyReason
  message : Bytes
  deriving DecidableEq, Repr

/-- `xpv1.Available()`, `xpv1.Creating()`, `xpv1.Deleting()`, `xpv1.Unavailable()`. -/
def Condition.ofReason (reason : ReadyReason) : Condition := ⟨reason, []⟩

/-- The object metadata the controller reads; `externalName` is the
`crossplane.io/external-name` annotation, empty when unset. -/
structure ObjectMeta where
  name : Bytes
  «namespace» : Bytes
  externalName : Bytes
  deletionTimestamp : Option Nat
  deriving DecidableEq, Repr

/-- A VM managed resource; `ready` is its `Ready` condition, `none` before one is set. -/
structure VM where
  metadata : ObjectMeta
  forProvider : VMParameters
  atProvider : VMObservation
  ready : Option Condition
  deriving DecidableEq

/-- `orchardclient.VM`, the body of `GET /vms/{name}`.  Orchard sends `cpu` and
`memory` as JSON integers, which the client decodes into `float32`: the model keeps
the integers sent, and `toFloat32` gives the values decoded. -/
structure OrchardVM where
  status : Option Bytes
  statusMessage : Option Bytes
  worker : Option Bytes
  generation : Option Int
  observedGeneration : Option Int
  image : Option Bytes
  cpu : Option Int
  memory : Option Int
  deriving DecidableEq, Repr

/-- `orchardclient.IP`, the body of `GET /vms/{name}/ip`. -/
structure OrchardIP where
  ip : Option Bytes
  deriving DecidableEq, Repr

/-- An HTTP response: its status code and its body as the JSON decoder reads it. -/
structure HttpResponse (α : Type) where
  statusCode : Nat
  body : Except GoError α

namespace VM

/-- A resource as it is created: an empty `status` and no condition yet. -/
def new (metadata : ObjectMeta) (forProvider : VMParameters) : VM :=
  ⟨metadata, forProvider, ⟨[], [], [], none, none, [], [], []⟩, none⟩

/-- `cr.SetConditions(c)` for a `Ready` condition. -/
def setConditions (cr : VM) (c : Condition) : VM := { cr with ready := some c }

/-- `getCloudInitStatus`. -/
def getCloudInitStatus (cr : VM) : Bytes := cr.atProvider.cloudInitStatus

/-- `setCloudInitStatus`. -/
def setCloudInitStatus (cr : VM) (status message : Bytes) : VM :=
  { cr with atProvider := { cr.atProvider with
      cloudInitStatus := status, cloudInitMessage := message } }

@[simp] theorem setConditions_atProvider (cr : VM) (c : Condition) :
    (cr.setConditions c).atProvider = cr.atProvider := rfl

@[simp] theorem setConditions_ready (cr : VM) (c : Condition) :
    (cr.setConditions c).ready = some c := rfl

@[simp] theorem setConditions_metadata (cr : VM) (c : Condition) :
    (cr.setConditions c).metadata = cr.metadata := rfl

@[simp] theorem setConditions_forProvider (cr : VM) (c : Condition) :
    (cr.setConditions c).forProvider = cr.forProvider := rfl

@[simp] theorem setCloudInitStatus_cloudInitStatus (cr : VM) (status message : Bytes) :
    (cr.setCloudInitStatus status message).atProvider.cloudInitStatus = status := rfl

@[simp] theorem setCloudInitStatus_cloudInitMessage (cr : VM) (status message : Bytes) :
    (cr.setCloudInitStatus status message).atProvider.cloudInitMessage = message := rfl

@[simp] theorem setCloudInitStatus_ipAddress (cr : VM) (status message : Bytes) :
    (cr.setCloudInitStatus status message).atProvider.ipAddress = cr.atProvider.ipAddress := rfl

@[simp] theorem setCloudInitStatus_status (cr : VM) (status message : Bytes) :
    (cr.setCloudInitStatus status message).atProvider.status = cr.atProvider.status := rfl

@[simp] theorem setCloudInitStatus_ready (cr : VM) (status message : Bytes) :
    (cr.setCloudInitStatus status message).ready = cr.ready := rfl

@[simp] theorem setCloudInitStatus_metadata (cr : VM) (status message : Bytes) :
    (cr.setCloudInitStatus status message).metadata = cr.metadata := rfl

@[simp] theorem setCloudInitStatus_forProvider (cr : VM) (status message : Bytes) :
    (cr.setCloudInitStatus status message).forProvider = cr.forProvider := rfl

end VM

/-- The cloud-init status values. -/
def CloudInitStatusPending : Bytes := lit "pending"
def CloudInitStatusRunning : Bytes := lit "running"
def CloudInitStatusCompleted : Bytes := lit "completed"
def CloudInitStatusFailed : Bytes := lit "failed"

def DefaultSSHUsername : Bytes := lit "admin"
def DefaultSSHPassword : Bytes := lit "admin"

/-- `stringValue`: a missing status reads as the empty string. -/
def stringValue (s : Option Bytes) : Bytes := s.getD []

/-- Go's `int32(x)`: the low 32 bits, as a two's complement value. -/
def toInt32 (x : Int) : Int := (x + 2147483648) % 4294967296 - 2147483648

/-- How many low bits `float32` drops from `n`: none below 2^24, and one more for
each halving it takes to get there (`fuel` bounds the halvings). -/
def droppedBits (n : Nat) : Nat → Nat
  | 0 => 0
  | fuel + 1 => if n < 2 ^ 24 then 0 else droppedBits (n / 2) fuel + 1

/-- `n` rounded to the nearest multiple of `2 ^ e`, ties to the even multiple. -/
def roundToMultiple (n e : Nat) : Nat :=
  if 2 ^ e < 2 * (n % 2 ^ e) ∨ (2 * (n % 2 ^ e) = 2 ^ e ∧ n / 2 ^ e % 2 = 1) then
    (n / 2 ^ e + 1) * 2 ^ e
  else n / 2 ^ e * 2 ^ e

/-- Go's `float32(x)` of an integer, which is also what an integral JSON number
decodes to as a `float32`: the nearest value with 24 significant bits, ties to
even. -/
def toFloat32 (x : Int) : Int :=
  if x < 0 then -(roundToMultiple x.natAbs (droppedBits x.natAbs x.natAbs) : Nat)
  else (roundToMultiple x.natAbs (droppedBits x.natAbs x.natAbs) : Nat)

theorem roundToMultiple_zero (n : Nat) : roundToMultiple n 0 = n := by
  rw [roundToMultiple, pow_zero, Nat.mod_one, if_neg (by omega), Nat.div_one, Nat.mul_one]

theorem droppedBits_of_lt {n : Nat} (h : n < 2 ^ 24) (fuel : Nat) : droppedBits n fuel = 0 := by
  cases fuel with
  | zero => rfl
  | succ fuel => rw [droppedBits, if_pos h]

/-- Below 2^24 in magnitude an integer is a `float32` as it is. -/
theorem toFloat32_of_natAbs_lt {x : Int} (h : x.natAbs < 2 ^ 24) : toFloat32 x = x := by
  simp only [toFloat32, droppedBits_of_lt h, roundToMultiple_zero]
  omega

/-- The `Ready` condition `updateVMStatus`'s switch sets for a VM status; `none`
for the statuses it has no case for. -/
def readyForStatus (status : Bytes) : Option Condition :=
  if status = lit "running" then some (.ofReason .creating)
  else if status = lit "creating" ∨ status = lit "starting" ∨ status = lit "pending" then
    some (.ofReason .creating)
  else if status = lit "stopping" ∨ status = lit "deleting" then some (.ofReason .deleting)
  else if status = lit "failed" ∨ status = lit "error" then some (.ofReason .unavailable)
  else none

/-- The `status.atProvider` fields `updateVMStatus` copies from Orchard; a
pointer field Orchard leaves out keeps its value. -/
def VMObservation.update (obs : VMObservation) (vm : OrchardVM) : VMObservation :=
  { obs with
    status := stringValue vm.status
    statusMessage := vm.statusMessage.getD obs.statusMessage
    worker := vm.worker.getD obs.worker
    generation := (vm.generation.map toInt32).or obs.generation
    observedGeneration := (vm.observedGeneration.map toInt32).or obs.observedGeneration }

@[simp] theorem VMObservation.update_status (obs : VMObservation) (vm : OrchardVM) :
    (obs.update vm).status = stringValue vm.status := rfl

@[simp] theorem VMObservation.update_ipAddress (obs : VMObservation) (vm : OrchardVM) :
    (obs.update vm).ipAddress = obs.ipAddress := rfl

@[simp] theorem VMObservation.update_cloudInitStatus (obs : VMObservation) (vm : OrchardVM) :
    (obs.update vm).cloudInitStatus = obs.cloudInitStatus := rfl

@[simp] theorem VMObservation.update_cloudInitMessage (obs : VMObservation) (vm : OrchardVM) :
    (obs.update vm).cloudInitMessage = obs.cloudInitMessage := rfl

/-- `updateVMStatus`: copy Orchard's fields into `status.atProvider`, then set the
`Ready` condition by the VM status. -/
def updateVMStatus (cr : VM) (vm : OrchardVM) : VM :=
  let cr := { cr with atProvider := cr.atProvider.update vm }
  match readyForStatus (stringValue vm.status) with
  | some c => cr.setConditions c
  | none => cr

/-- `isVMUpToDate`: image, CPU and memory agree wherever both sides give them,
CPU and memory as `float32` values. -/
def isVMUpToDate (params : VMParameters) (vm : OrchardVM) : Bool :=
  if vm.image.any (· ≠ params.image) then false
  else if (params.cpu.bind fun p => vm.cpu.map (toFloat32 · != toFloat32 p)) = some true then false
  else if (params.memory.bind fun p => vm.memory.map (toFloat32 · != toFloat32 p)) = some true then
    false
  else true

/-- A VM is up to date exactly when its image is the spec's (or unset) and its CPU
and memory round to the same `float32` as the spec's wherever both are set; below
2^24 that is equality (`toFloat32_of_natAbs_lt`), above it counts that round
together compare equal. -/
theorem isVMUpToDate_eq_true_iff (params : VMParameters) (vm : OrchardVM) :
    isVMUpToDate params vm = true ↔
      (∀ i ∈ vm.image, i = params.image) ∧
        (∀ p ∈ params.cpu, ∀ v ∈ vm.cpu, toFloat32 v = toFloat32 p) ∧
        ∀ p ∈ params.memory, ∀ v ∈ vm.memory, toFloat32 v = toFloat32 p := by
  obtain ⟨-, -, -, -, -, image, vcpu, vmem⟩ := vm
  obtain ⟨pimage, pcpu, pmem, -, -, -⟩ := params
  unfold isVMUpToDate
  cases image <;> cases vcpu <;> cases vmem <;> cases pcpu <;> cases pmem <;> simp

example : isVMUpToDate ⟨lit "img", some 16777217, none, none, none, none⟩
    ⟨none, none, none, none, none, none, some 16777216, none⟩ = true := by
  decide

/-- `getSSHCredentials`: the spec's username and password, or the defaults when
unset or empty. -/
def getSSHCredentials (params : VMParameters) : Bytes × Bytes :=
  (match params.username with
    | some u => if u ≠ [] then u else DefaultSSHUsername
    | none => DefaultSSHUsername,
   match params.password with
    | some p => if p ≠ [] then p else DefaultSSHPassword
    | none => DefaultSSHPassword)

/-- The `external` client: the Orchard base URL and token the SSH tunnel uses. -/
structure External where
  baseURL : Bytes
  token : Bytes
  deriving DecidableEq, Repr

/-- `buildTunnelConfig`. -/
def External.buildTunnelConfig (c : External) (cr : VM) : TunnelConfig :=
  { orchardBaseURL := c.baseURL
    bearerToken := c.token
    vmName := cr.metadata.externalName
    sshUsername := (getSSHCredentials cr.forProvider).1
    sshPassword := (getSSHCredentials cr.forProvider).2
    sshPort := 22
    waitSeconds := 30
    timeout := 60 * second }

/-- `updateVMStatus` touches `status.atProvider`'s Orchard fields and the `Ready`
condition only. -/
theorem updateVMStatus_frame (cr : VM) (vm : OrchardVM) :
    (updateVMStatus cr vm).metadata = cr.metadata ∧
      (updateVMStatus cr vm).forProvider = cr.forProvider ∧
      (updateVMStatus cr vm).atProvider = cr.atProvider.update vm := by
  unfold updateVMStatus
  split <;> exact ⟨rfl, rfl, rfl⟩

theorem updateVMStatus_ready (cr : VM) (vm : OrchardVM) :
    (updateVMStatus cr vm).ready = (readyForStatus (stringValue vm.status)).or cr.ready := by
  unfold updateVMStatus
  split <;> simp_all

end ProviderOrchard
