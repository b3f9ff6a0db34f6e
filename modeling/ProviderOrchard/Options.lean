/-
The configuration and result records of the ssh package: `TunnelConfig` with
its defaulting step, `CommandResult` and `FileUploadOptions`.
-/
import ProviderOrchard.GoString

namespace ProviderOrchard

/-- One `time.Second`, as the nanoseconds of a `time.Duration`. -/
def second : Int := 1000000000

/-- `TunnelConfig`: one attempt to reach a VM's SSH port through Orchard's
port-forward endpoint.  `timeout` is a `time.Duration` in nanoseconds. -/
structure TunnelConfig where
  orchardBaseURL : Bytes
  bearerToken : Bytes
  vmName : Bytes
  sshPort : Int
  waitSeconds : Int
  sshUsername : Bytes
  sshPassword : Bytes
  timeout : Int
  deriving DecidableEq, Repr

namespace TunnelConfig

/-- `SetDefaults`: an unset (zero) port, wait budget or timeout gets its default. -/
def setDefaults (c : TunnelConfig) : TunnelConfig :=
  { c with
    sshPort := if c.sshPort = 0 then 22 else c.sshPort
    waitSeconds := if c.waitSeconds = 0 then 30 else c.waitSeconds
    timeout := if c.timeout = 0 then 30 * second else c.timeout }

/-- The fields `SetDefaults` fills in are all set. -/
def Defaulted (c : TunnelConfig) : Prop :=
  c.sshPort ≠ 0 ∧ c.waitSeconds ≠ 0 ∧ c.timeout ≠ 0

instance (c : TunnelConfig) : Decidable c.Defaulted :=
  inferInstanceAs (Decidable (_ ∧ _ ∧ _))

theorem setDefaults_defaulted (c : TunnelConfig) : c.setDefaults.Defaulted := by
  refine ⟨?_, ?_, ?_⟩ <;> simp only [setDefaults] <;> split <;> simp_all [second]

/-- Defaulting never clobbers a value that is already set. -/
theorem setDefaults_of_defaulted {c : TunnelConfig} (hc : c.Defaulted) :
    c.setDefaults = c := by
  obtain ⟨hport, hwait, htimeout⟩ := hc
  simp [setDefaults, hport, hwait, htimeout]

theorem setDefaults_setDefaults (c : TunnelConfig) : c.setDefaults.setDefaults = c.setDefaults :=
  setDefaults_of_defaulted (setDefaults_defaulted c)

end TunnelConfig

/-- `CommandResult`: a non-zero exit code is a result, not an error. -/
structure CommandResult where
  exitCode : Int
  stdout : Bytes
  stderr : Bytes
  deriving DecidableEq, Repr

/-- `FileUploadOptions`; `permissions` is the source's `uint32`. -/
structure FileUploadOptions where
  remotePath : Bytes
  permissions : Nat
  createDirs : Bool
  deriving DecidableEq, Repr

end ProviderOrchard
