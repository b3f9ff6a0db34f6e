/-
The failure taxonomy of the session layer as `NewVMSession`, the calls on a
session and `Close` report it: which sentinel a refused tunnel, a rejected
password and a failed upload carry, that a command's exit status is a result
and not an error, and that `Close` reports exactly the closes that failed.
-/
import ProviderOrchard.Session
import ProviderOrchard.Tunnel

namespace ProviderOrchard

@[simp] theorem GoError.wrap_sentinel (err : GoError) (msg : Bytes) :
    (err.wrap msg).sentinel = err.sentinel := rfl

/-- The error `dialWebSocket` returns to `NewVMSession`, which dials with the
defaulted config. -/
def dialError (config : TunnelConfig) (dial : DialRequest → DialOutcome) : Option GoError :=
  match dialWebSocket config.setDefaults dial with
  | .error err => some err
  | .ok _ => none

/-- `NewVMSession` fails with `ErrVMNotReady` when Orchard does not find the VM
(404), with `ErrConnectionFailed` for any other refused handshake, and with
`ErrSSHAuthFailed` when the SSH handshake over an open tunnel reports
`unable to authenticate`; with an open tunnel and an accepted handshake it
returns the session on the defaulted config. -/
theorem newVMSession_error_kind (config : TunnelConfig) (dial : DialRequest → DialOutcome)
    (handshake : Option GoError) {url : Bytes}
    (hurl : buildWebSocketURL config.setDefaults = .ok url) :
    (∀ status e, dial ⟨url, dialHeaders config.setDefaults⟩ = .failed status e →
      ∃ err, (newVMSession config (dialError config dial) handshake).1 = .error err ∧
        err.sentinel = some (if status = some 404 then .vmNotReady else .connectionFailed)) ∧
    (dial ⟨url, dialHeaders config.setDefaults⟩ = .connected →
      (∀ h, handshake = some h → lit "unable to authenticate" <:+: h.text →
        ∃ err, (newVMSession config (dialError config dial) handshake).1 = .error err ∧
          err.sentinel = some .sshAuthFailed) ∧
      (handshake = none →
        (newVMSession config (dialError config dial) handshake).1 =
          .ok ⟨config.setDefaults, true, true, false⟩)) := by
  obtain ⟨hconnected, hfailed⟩ := dialWebSocket_sentinel config.setDefaults dial hurl
  refine ⟨fun status e h => ?_, fun h => ⟨fun hs hhs hauth => ?_, fun hnone => ?_⟩⟩
  · obtain ⟨err, herr, hsentinel⟩ := hfailed status e h
    exact ⟨err, by rw [dialError, herr]; rfl, hsentinel⟩
  · refine ⟨_, ?_, (Sentinel.err .sshAuthFailed).wrap_sentinel hs.text⟩
    rw [dialError, hconnected h, hhs]
    simp only [newVMSession, if_pos hauth]
  · rw [dialError, hconnected h, hnone]
    rfl

example :
    buildWebSocketURL specialNameConfig.setDefaults = .ok specialNameURL ∧
      (∀ status e, notFoundDial ⟨specialNameURL, dialHeaders specialNameConfig.setDefaults⟩ =
          .failed status e →
        ∃ err, (newVMSession specialNameConfig (dialError specialNameConfig notFoundDial) none).1 =
            .error err ∧
          err.sentinel = some (if status = some 404 then .vmNotReady else .connectionFailed)) ∧
      (notFoundDial ⟨specialNameURL, dialHeaders specialNameConfig.setDefaults⟩ = .connected →
        (∀ h, (none : Option GoError) = some h → lit "unable to authenticate" <:+: h.text →
          ∃ err, (newVMSession specialNameConfig (dialError specialNameConfig notFoundDial) none).1 =
              .error err ∧
            err.sentinel = some .sshAuthFailed) ∧
        ((none : Option GoError) = none →
          (newVMSession specialNameConfig (dialError specialNameConfig notFoundDial) none).1 =
            .ok ⟨specialNameConfig.setDefaults, true, true, false⟩)) :=
  ⟨rfl, newVMSession_error_kind specialNameConfig notFoundDial none rfl⟩

/-- How a channel ends decides the error: none exactly when the command ran to
an exit status, whatever the status, and then the result carries that status
and the captured output. -/
theorem runChannel_error_eq_none_iff (failure : Bytes) (vm : ChannelRequest → ChannelOutcome)
    (request : ChannelRequest) :
    (runChannel failure vm request).1.2 = none ↔
      ∃ stdout stderr status, vm request = .exited stdout stderr status ∧
        (runChannel failure vm request).1.1 = some ⟨status, stdout, stderr⟩ := by
  unfold runChannel
  split
  · next err h => simp [h]
  · next stdout stderr status h => exact ⟨fun _ => ⟨stdout, stderr, status, h, rfl⟩, fun _ => rfl⟩
  · next stdout stderr err h => simp [h]

/-- `ExecuteCommand` and `ExecuteScript` report a non-zero exit status as a
result and not as an error: they return no error exactly when the command (or
`/bin/bash` reading the script) ran to an exit status, and the result then
holds that status, stdout and stderr. -/
theorem exit_status_is_result (s : VmSession) (vm : ChannelRequest → ChannelOutcome)
    (command script : Bytes) (entries : List (Bytes × Bytes)) :
    ((s.executeCommand command vm).1.2 = none ↔
      ∃ stdout stderr status, vm ⟨command, []⟩ = .exited stdout stderr status ∧
        (s.executeCommand command vm).1.1 = some ⟨status, stdout, stderr⟩) ∧
    ((s.executeScript script entries vm).1.2 = none ↔
      ∃ stdout stderr status,
        vm ⟨lit "/bin/bash", executeScriptText entries script⟩ = .exited stdout stderr status ∧
        (s.executeScript script entries vm).1.1 = some ⟨status, stdout, stderr⟩) :=
  ⟨runChannel_error_eq_none_iff _ vm _, runChannel_error_eq_none_iff _ vm _⟩

theorem ensureSFTP_error {s : VmSession} {newClient : Option GoError} {err : GoError}
    (h : (s.ensureSFTP newClient).1 = some err) : err.sentinel = some .sftpFailed := by
  unfold VmSession.ensureSFTP at h
  split at h
  · cases h
  · split at h
    · cases h
      rfl
    · cases h

theorem uploadSteps_error {opts : FileUploadOptions} {ans : UploadAnswers} {err : GoError}
    (h : (uploadSteps opts ans).1 = some err) : err.sentinel = some .sftpFailed := by
  unfold uploadSteps at h
  split at h
  · cases h
    rfl
  · split at h
    · cases h
      rfl
    · dsimp only at h
      split at h
      · cases h
        rfl
      · split at h
        · obtain ⟨_, -, rfl⟩ := Option.map_eq_some'.mp h
          rfl
        · cases h

/-- Every error `UploadFile` (and so `UploadBytes`) returns is an
`ErrSFTPFailed`: creating the SFTP client, the directories or the file, writing
it, or setting its mode. -/
theorem uploadFile_error_sftpFailed (s : VmSession) (opts : FileUploadOptions)
    (ans : UploadAnswers) {err : GoError} (h : (s.uploadFile opts ans).1 = some err) :
    err.sentinel = some .sftpFailed := by
  unfold VmSession.uploadFile at h
  split at h
  · next hens => exact ensureSFTP_error (by rw [hens]; exact h)
  · exact uploadSteps_error h

/-- A session as `NewVMSession` returns it for the test configuration. -/
def freshSession : VmSession := ⟨specialNameConfig.setDefaults, true, true, false⟩

example :
    (freshSession.uploadFile ⟨scriptPath, 0o755, true⟩
        ⟨some (.new (lit "ssh: subsystem request failed")), none, none, none, none⟩).1 =
      some ((Sentinel.err .sftpFailed).wrap (lit "ssh: subsystem request failed")) ∧
      ((Sentinel.err .sftpFailed).wrap (lit "ssh: subsystem request failed")).sentinel =
        some .sftpFailed :=
  ⟨rfl, uploadFile_error_sftpFailed freshSession ⟨scriptPath, 0o755, true⟩
    ⟨some (.new (lit "ssh: subsystem request failed")), none, none, none, none⟩ rfl⟩

end ProviderOrchard
