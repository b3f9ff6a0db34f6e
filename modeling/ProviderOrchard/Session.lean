/-
The life of a `vmSession`.  `NewVMSession` opens the WebSocket tunnel and the
SSH client over it; `ExecuteCommand` and `ExecuteScript` open an SSH channel per
call; uploads open the SFTP client on first use and a remote file per upload;
`Close` closes the SFTP client, then the SSH client, whose `Close` closes the
tunnel it runs on, then the tunnel once more.  What the network
and the VM answer is an oracle, one answer per call, so every combination of
failures is a run of the model.  Each function also returns the resources it
opened and closed, in order.
-/
import Mathlib.Data.List.Infix
import ProviderOrchard.Script
import ProviderOrchard.VmResource

namespace ProviderOrchard

/-- A resource the session code opens and closes. -/
inductive Resource
  | tunnel
  | sshClient
  | sftpClient
  | channel
  | remoteFile
  deriving DecidableEq, Repr

/-- A resource coming into existence, or the code calling its `Close`. -/
inductive SessionEvent
  | opened (r : Resource)
  | closed (r : Resource)
  deriving DecidableEq, Repr

/-- `vmSession`; the pointer fields are given by whether they are set. -/
structure VmSession where
  config : TunnelConfig
  wsConn : Bool
  sshClient : Bool
  sftpClient : Bool
  deriving DecidableEq, Repr

/-- `NewVMSession`, given the error `dialWebSocket` returns, if any, and the error
of the SSH handshake over the tunnel, if any.  When the handshake fails,
`ssh.NewClientConn` closes the tunnel and `NewVMSession` closes it again. -/
def newVMSession (config : TunnelConfig) (dial handshake : Option GoError) :
    Except GoError VmSession × List SessionEvent :=
  let config := config.setDefaults
  match dial with
  | some err => (.error err, [])
  | none =>
      match handshake with
      | some err =>
          (.error (if lit "unable to authenticate" <:+: err.text then
              (Sentinel.err .sshAuthFailed).wrap err.text
            else err.wrap (lit "failed to establish SSH connection")),
            [.opened .tunnel, .closed .tunnel, .closed .tunnel])
      | none => (.ok ⟨config, true, true, false⟩, [.opened .tunnel, .opened .sshClient])

/-- What one SSH channel runs: the command, and what is written to its stdin. -/
structure ChannelRequest where
  command : Bytes
  stdin : Bytes
  deriving DecidableEq, Repr

/-- How a channel ends: `NewSession` fails; the command exits with a status
(`Run` returns nil or an `*ssh.ExitError`); or `Run` fails otherwise. -/
inductive ChannelOutcome
  | sessionFailed (err : GoError)
  | exited (stdout stderr : Bytes) (status : Int)
  | failed (stdout stderr : Bytes) (err : GoError)

/-- The body `ExecuteCommand` and `ExecuteScript` share: open a channel, run the
request, close the channel; `failure` is the text a non-exit error is wrapped with. -/
def runChannel (failure : Bytes) (vm : ChannelRequest → ChannelOutcome)
    (request : ChannelRequest) : (Option CommandResult × Option GoError) × List SessionEvent :=
  match vm request with
  | .sessionFailed err => ((none, some (err.wrap (lit "failed to create SSH session"))), [])
  | .exited stdout stderr status =>
      ((some ⟨status, stdout, stderr⟩, none), [.opened .channel, .closed .channel])
  | .failed stdout stderr err =>
      ((some ⟨0, stdout, stderr⟩, some (err.wrap failure)), [.opened .channel, .closed .channel])

/-- `vmSession.ExecuteCommand`. -/
def VmSession.executeCommand (_s : VmSession) (command : Bytes)
    (vm : ChannelRequest → ChannelOutcome) :
    (Option CommandResult × Option GoError) × List SessionEvent :=
  runChannel (lit "command execution failed") vm ⟨command, []⟩

/-- `vmSession.ExecuteScript`: `/bin/bash` reading `executeScriptText`. -/
def VmSession.executeScript (_s : VmSession) (script : Bytes) (entries : List (Bytes × Bytes))
    (vm : ChannelRequest → ChannelOutcome) :
    (Option CommandResult × Option GoError) × List SessionEvent :=
  runChannel (lit "script execution failed") vm ⟨lit "/bin/bash", executeScriptText entries script⟩

/-- `vmSession.ensureSFTP`, given what `sftp.NewClient` returns if it is called. -/
def VmSession.ensureSFTP (s : VmSession) (newClient : Option GoError) :
    Option GoError × VmSession × List SessionEvent :=
  if s.sftpClient then (none, s, [])
  else
    match newClient with
    | some err => (some ((Sentinel.err .sftpFailed).wrap err.text), s, [])
    | none => (none, { s with sftpClient := true }, [.opened .sftpClient])

/-- `filepath.Dir` for a clean path (no empty, `.` or `..` element and no
trailing slash): all before the last slash, `/` for a file in the root, `.` for
a bare name. -/
def pathDir (path : Bytes) : Bytes :=
  match (path.reverse.dropWhile (· ≠ 0x2F)).reverse with
  | [] => lit "."
  | upTo => if upTo.dropLast = [] then lit "/" else upTo.dropLast

/-- What the SFTP server answers during one upload: `sftp.NewClient` (if called),
`MkdirAll`, `Create`, the copy and `Chmod`. -/
structure UploadAnswers where
  newClient : Option GoError
  mkdirAll : Option GoError
  create : Option GoError
  copy : Option GoError
  chmod : Option GoError

/-- The part of `UploadFile` after `ensureSFTP`; a created file is closed on return. -/
def uploadSteps (opts : FileUploadOptions) (ans : UploadAnswers) :
    Option GoError × List SessionEvent :=
  match (if opts.createDirs then ans.mkdirAll else none) with
  | some err =>
      (some ((Sentinel.err .sftpFailed).wrap
        (lit "failed to create directory " ++ pathDir opts.remotePath ++ lit ": " ++ err.text)), [])
  | none =>
      match ans.create with
      | some err =>
          (some ((Sentinel.err .sftpFailed).wrap
            (lit "failed to create file " ++ opts.remotePath ++ lit ": " ++ err.text)), [])
      | none =>
          (match ans.copy with
            | some _ => some ((Sentinel.err .sftpFailed).wrap (lit "failed to write file content"))
            | none =>
                if opts.permissions ≠ 0 then
                  ans.chmod.map fun _ => (Sentinel.err .sftpFailed).wrap (lit "failed to set file permissions")
                else none,
            [.opened .remoteFile, .closed .remoteFile])

/-- `vmSession.UploadFile`. -/
def VmSession.uploadFile (s : VmSession) (opts : FileUploadOptions) (ans : UploadAnswers) :
    Option GoError × VmSession × List SessionEvent :=
  match s.ensureSFTP ans.newClient with
  | (some err, s', events) => (some err, s', events)
  | (none, s', events) => ((uploadSteps opts ans).1, s', events ++ (uploadSteps opts ans).2)

/-- `vmSession.UploadBytes`: `UploadFile` of a reader over the bytes. -/
def VmSession.uploadBytes (s : VmSession) (_data : Bytes) (opts : FileUploadOptions)
    (ans : UploadAnswers) : Option GoError × VmSession × List SessionEvent :=
  s.uploadFile opts ans

/-- A call on an open session, with the answers it gets. -/
inductive SessionOp
  | executeCommand (command : Bytes) (vm : ChannelRequest → ChannelOutcome)
  | executeScript (script : Bytes) (entries : List (Bytes × Bytes))
      (vm : ChannelRequest → ChannelOutcome)
  | uploadFile (opts : FileUploadOptions) (ans : UploadAnswers)
  | uploadBytes (data : Bytes) (opts : FileUploadOptions) (ans : UploadAnswers)

/-- What the `Close` calls of a session return: the SFTP client's, the tunnel's
first, and the error of a later `Close` of the tunnel, which the WebSocket
library answers with an error, the connection being closed already. -/
structure CloseAnswers where
  sftpClient : Option GoError
  tunnel : Option GoError
  tunnelAgain : GoError

namespace VmSession

/-- The session after a call, and what the call opened and closed. -/
def apply (s : VmSession) : SessionOp → VmSession × List SessionEvent
  | .executeCommand command vm => (s, (s.executeCommand command vm).2)
  | .executeScript script entries vm => (s, (s.executeScript script entries vm).2)
  | .uploadFile opts ans => ((s.uploadFile opts ans).2.1, (s.uploadFile opts ans).2.2)
  | .uploadBytes data opts ans => ((s.uploadBytes data opts ans).2.1, (s.uploadBytes data opts ans).2.2)

/-- A sequence of calls. -/
def runOps (s : VmSession) : List SessionOp → VmSession × List SessionEvent
  | [] => (s, [])
  | op :: ops => (((s.apply op).1.runOps ops).1, (s.apply op).2 ++ ((s.apply op).1.runOps ops).2)

/-- The resources whose `Close` the session code calls, in its order. -/
def closeOrder (s : VmSession) : List Resource :=
  (if s.sftpClient then [.sftpClient] else []) ++ (if s.sshClient then [.sshClient] else []) ++
    (if s.wsConn then [.tunnel] else [])

/-- Go's `%v` of a slice of errors: their texts between brackets, space-separated. -/
def errorsText : List GoError → Bytes
  | [] => []
  | [e] => e.text
  | e :: es => e.text ++ lit " " ++ errorsText es

/-- `vmSession.Close`, given what each close returns.  `ssh.Client.Close` closes
the connection the client runs on, the tunnel, and returns what that returns; the
session's own `Close` of the tunnel then comes second, and fails. -/
def close (s : VmSession) (a : CloseAnswers) : Option GoError × List SessionEvent :=
  let sftp := if s.sftpClient then (a.sftpClient.toList, [SessionEvent.closed .sftpClient])
    else ([], [])
  let ssh := if s.sshClient then (a.tunnel.toList, [SessionEvent.closed .sshClient, .closed .tunnel])
    else ([], [])
  let ws := if s.wsConn then
      ((if s.sshClient then [a.tunnelAgain] else a.tunnel.toList), [SessionEvent.closed .tunnel])
    else ([], [])
  let errs := sftp.1 ++ ssh.1 ++ ws.1
  (if errs = [] then none
    else some (.new (lit "errors during close: [" ++ errorsText errs ++ lit "]")),
    sftp.2 ++ ssh.2 ++ ws.2)

/-- What closing a resource closes: `ssh.Client.Close` closes the tunnel too. -/
def closesOf : Resource → List Resource
  | .sshClient => [.sshClient, .tunnel]
  | r => [r]

/-- What the session code's `Close` of a resource returns in `Close`. -/
def closeResult (s : VmSession) (a : CloseAnswers) : Resource → Option GoError
  | .sftpClient => a.sftpClient
  | .sshClient => a.tunnel
  | .tunnel => if s.sshClient then some a.tunnelAgain else a.tunnel
  | _ => none

end VmSession

/-- A session's whole life: `NewVMSession`, the calls, and `Close`; the error of
`NewVMSession` or the result of `Close`, and every resource event. -/
def sessionLife (config : TunnelConfig) (dial handshake : Option GoError) (ops : List SessionOp)
    (closeAns : CloseAnswers) : Option GoError × List SessionEvent :=
  match newVMSession config dial handshake with
  | (.error err, events) => (some err, events)
  | (.ok s, events) =>
      ((s.runOps ops).1.close closeAns |>.1,
        events ++ (s.runOps ops).2 ++ ((s.runOps ops).1.close closeAns).2)

/-- `RunCloudInit`: a session, `ExecuteScript`, and the deferred `Close`. -/
def runCloudInit (config : TunnelConfig) (dial handshake : Option GoError) (script : Bytes)
    (entries : List (Bytes × Bytes)) (vm : ChannelRequest → ChannelOutcome)
    (closeAns : CloseAnswers) :
    (Option CommandResult × Option GoError) × List SessionEvent :=
  match newVMSession config dial handshake with
  | (.error err, events) => ((none, some err), events)
  | (.ok s, events) =>
      ((s.executeScript script entries vm).1,
        events ++ (s.executeScript script entries vm).2 ++ (s.close closeAns).2)

/-- `UploadAndRunScript`: a session, the upload to `scriptPath` (mode 0755, parent
directories created), the command line that runs it, and the deferred `Close`. -/
def uploadAndRunScript (config : TunnelConfig) (dial handshake : Option GoError) (script : Bytes)
    (entries : List (Bytes × Bytes)) (upload : UploadAnswers) (vm : ChannelRequest → ChannelOutcome)
    (closeAns : CloseAnswers) :
    (Option CommandResult × Option GoError) × List SessionEvent :=
  match newVMSession config dial handshake with
  | (.error err, events) => ((none, some err), events)
  | (.ok s, events) =>
      let u := s.uploadBytes script ⟨scriptPath, 0o755, true⟩ upload
      match u.1 with
      | some err =>
          ((none, some (err.wrap (lit "failed to upload script"))),
            events ++ u.2.2 ++ (u.2.1.close closeAns).2)
      | none =>
          ((u.2.1.executeCommand (uploadAndRunScriptCommand entries) vm).1,
            events ++ u.2.2 ++ (u.2.1.executeCommand (uploadAndRunScriptCommand entries) vm).2 ++
              (u.2.1.close closeAns).2)

/-- `external.isSSHReady`: a session, `ls -al`, and the deferred `Close`. -/
def isSSHReady (c : External) (cr : VM) (dial handshake : Option GoError)
    (vm : ChannelRequest → ChannelOutcome) (closeAns : CloseAnswers) :
    Bool × List SessionEvent :=
  match newVMSession (c.buildTunnelConfig cr) dial handshake with
  | (.error _, events) => (false, events)
  | (.ok s, events) =>
      ((s.executeCommand (lit "ls -al") vm).1.2.isNone &&
          (s.executeCommand (lit "ls -al") vm).1.1.any (·.exitCode == 0),
        events ++ (s.executeCommand (lit "ls -al") vm).2 ++ (s.close closeAns).2)

/-- Every resource opened is closed as often as it was opened, except the tunnel:
the SSH library closes it and the session code closes it again, so it is closed
twice for each opening. -/
def AllClosed (events : List SessionEvent) : Prop :=
  ∀ x, events.count (.closed x) = (if x = .tunnel then 2 else 1) * events.count (.opened x)

/-- What one call opens and closes besides the SFTP client: nothing, a channel it
closes, or a remote file it closes. -/
def ScopedUse (events : List SessionEvent) : Prop :=
  events = [] ∨ events = [.opened .channel, .closed .channel] ∨
    events = [.opened .remoteFile, .closed .remoteFile]

theorem ScopedUse.count {events : List SessionEvent} (h : ScopedUse events) (x : Resource) :
    events.count (.closed x) = events.count (.opened x) ∧
      (x ≠ .channel → x ≠ .remoteFile → events.count (.opened x) = 0) := by
  rcases h with rfl | rfl | rfl <;> cases x <;> decide

theorem runChannel_scoped (failure : Bytes) (vm : ChannelRequest → ChannelOutcome)
    (request : ChannelRequest) : ScopedUse (runChannel failure vm request).2 := by
  unfold runChannel
  split
  · exact .inl rfl
  · exact .inr (.inl rfl)
  · exact .inr (.inl rfl)

theorem uploadSteps_scoped (opts : FileUploadOptions) (ans : UploadAnswers) :
    ScopedUse (uploadSteps opts ans).2 := by
  unfold uploadSteps
  split
  · exact .inl rfl
  · split
    · exact .inl rfl
    · exact .inr (.inr rfl)

namespace VmSession

/-- Once the SFTP client exists, `ensureSFTP` reuses it and calls nothing. -/
theorem ensureSFTP_of_sftpClient {s : VmSession} (h : s.sftpClient = true)
    (newClient : Option GoError) : s.ensureSFTP newClient = (none, s, []) := by
  simp [ensureSFTP, h]

theorem uploadFile_shape (s : VmSession) (opts : FileUploadOptions) (ans : UploadAnswers) :
    (s.uploadFile opts ans).2.1 = { s with sftpClient := (s.uploadFile opts ans).2.1.sftpClient } ∧
      (s.sftpClient = true → (s.uploadFile opts ans).2.1.sftpClient = true) ∧
      ∃ use, ScopedUse use ∧ (s.uploadFile opts ans).2.2 =
        (if (s.uploadFile opts ans).2.1.sftpClient = true ∧ s.sftpClient = false then
          [.opened .sftpClient] else []) ++ use := by
  obtain ⟨config, ws, ssh, sftp⟩ := s
  obtain ⟨newClient, mkdirAll, create, copy, chmod⟩ := ans
  cases sftp
  · cases newClient
    · exact ⟨rfl, nofun, _, uploadSteps_scoped _ _, rfl⟩
    · exact ⟨rfl, nofun, [], .inl rfl, rfl⟩
  · exact ⟨rfl, fun _ => rfl, _, uploadSteps_scoped _ _, rfl⟩

/-- What a call can do to the session: set the SFTP client, opening it, and use a
channel or a remote file it closes again. -/
theorem apply_shape (s : VmSession) (op : SessionOp) :
    (s.apply op).1 = { s with sftpClient := (s.apply op).1.sftpClient } ∧
      (s.sftpClient = true → (s.apply op).1.sftpClient = true) ∧
      ∃ use, ScopedUse use ∧ (s.apply op).2 =
        (if (s.apply op).1.sftpClient = true ∧ s.sftpClient = false then [.opened .sftpClient]
          else []) ++ use := by
  cases op with
  | executeCommand command vm =>
      exact ⟨rfl, id, _, runChannel_scoped (lit "command execution failed") vm ⟨command, []⟩,
        by simp [apply, executeCommand]⟩
  | executeScript script entries vm =>
      exact ⟨rfl, id, _, runChannel_scoped (lit "script execution failed") vm
        ⟨lit "/bin/bash", executeScriptText entries script⟩, by simp [apply, executeScript]⟩
  | uploadFile opts ans => exact uploadFile_shape s opts ans
  | uploadBytes _ opts ans => exact uploadFile_shape s opts ans

/-- Over any calls, the session keeps its tunnel and SSH client, opens the SFTP
client at most once (exactly when it was missing and is there at the end), and
closes every channel and remote file it opens and nothing else. -/
theorem runOps_counts (s : VmSession) (ops : List SessionOp) :
    (s.runOps ops).1 = { s with sftpClient := (s.runOps ops).1.sftpClient } ∧
      (s.sftpClient = true → (s.runOps ops).1.sftpClient = true) ∧
      (s.runOps ops).2.count (.opened .sftpClient) =
        (if (s.runOps ops).1.sftpClient = true ∧ s.sftpClient = false then 1 else 0) ∧
      ∀ x, (s.runOps ops).2.count (.closed x) =
          (if x = .channel ∨ x = .remoteFile then (s.runOps ops).2.count (.opened x) else 0) ∧
        (x ≠ .channel → x ≠ .remoteFile → x ≠ .sftpClient → (s.runOps ops).2.count (.opened x) = 0) := by
  induction ops generalizing s with
  | nil => exact ⟨rfl, id, by simp [runOps], fun x => by simp [runOps]⟩
  | cons op ops ih =>
      obtain ⟨hs₁, hmono₁, use, huse, hev₁⟩ := s.apply_shape op
      obtain ⟨hs₂, hmono₂, hopen₂, hrest₂⟩ := ih (s.apply op).1
      have hstate : (s.runOps (op :: ops)).1 = ((s.apply op).1.runOps ops).1 := rfl
      have hevents : (s.runOps (op :: ops)).2 = (s.apply op).2 ++ ((s.apply op).1.runOps ops).2 := rfl
      rw [hstate, hevents, hev₁]
      refine ⟨?_, fun h => hmono₂ (hmono₁ h), ?_, fun x => ?_⟩
      · rw [hs₂, hs₁]
      · rw [List.count_append, List.count_append, hopen₂, (huse.count .sftpClient).2 nofun nofun]
        revert hmono₁ hmono₂
        cases s.sftpClient <;> cases (s.apply op).1.sftpClient <;>
          cases ((s.apply op).1.runOps ops).1.sftpClient <;> decide
      · obtain ⟨hclosed, hopened⟩ := hrest₂ x
        have hpre : ((if (s.apply op).1.sftpClient = true ∧ s.sftpClient = false then
            [SessionEvent.opened .sftpClient] else []).count (.closed x)) = 0 := by
          split <;> simp
        have hpre' : x ≠ .sftpClient → ((if (s.apply op).1.sftpClient = true ∧ s.sftpClient = false then
            [SessionEvent.opened .sftpClient] else []).count (.opened x)) = 0 := by
          intro hx
          split <;> simp [hx]
        obtain ⟨huseClosed, huseOpened⟩ := huse.count x
        simp only [List.count_append, hpre, hclosed, huseClosed]
        refine ⟨?_, fun h1 h2 h3 => ?_⟩
        · by_cases hx : x = .channel ∨ x = .remoteFile
          · have hx' : x ≠ .sftpClient := by rcases hx with rfl | rfl <;> decide
            simp [hx, hpre' hx']
          · simp only [hx, if_false]
            rw [huseOpened (fun h => hx (.inl h)) (fun h => hx (.inr h))]
        · rw [hpre' h3, huseOpened h1 h2, hopened h1 h2 h3]

/-- `Close` closes, in its order, what closing each resource it holds closes. -/
theorem close_events (s : VmSession) (closeAns : CloseAnswers) :
    (s.close closeAns).2 = (s.closeOrder.flatMap closesOf).map .closed := by
  obtain ⟨config, ws, ssh, sftp⟩ := s
  cases ws <;> cases ssh <;> cases sftp <;> rfl

/-- `Close` reports exactly the closes that failed, in its order, or nil when
none did. -/
theorem close_result (s : VmSession) (closeAns : CloseAnswers) :
    (s.close closeAns).1 =
      if s.closeOrder.filterMap (s.closeResult closeAns) = [] then none
      else some (.new (lit "errors during close: [" ++
        errorsText (s.closeOrder.filterMap (s.closeResult closeAns)) ++ lit "]")) := by
  obtain ⟨config, ws, ssh, sftp⟩ := s
  obtain ⟨sftpErr, tunnelErr, again⟩ := closeAns
  cases ws <;> cases ssh <;> cases sftp <;> cases sftpErr <;> cases tunnelErr <;> rfl

/-- For a session holding the tunnel and the SSH client, as `NewVMSession` returns
it, `Close` closes the tunnel twice and always fails: after the SSH client's
`Close`, the tunnel's own `Close` reports an error. -/
theorem close_of_connected {s : VmSession} (hws : s.wsConn = true) (hssh : s.sshClient = true)
    (closeAns : CloseAnswers) :
    (s.close closeAns).2 = (if s.sftpClient then [.closed .sftpClient] else []) ++
        [.closed .sshClient, .closed .tunnel, .closed .tunnel] ∧
      (s.close closeAns).1 = some (.new (lit "errors during close: [" ++
        errorsText ((if s.sftpClient then closeAns.sftpClient.toList else []) ++
          closeAns.tunnel.toList ++ [closeAns.tunnelAgain]) ++ lit "]")) := by
  obtain ⟨config, ws, ssh, sftp⟩ := s
  subst hws hssh
  refine ⟨by cases sftp <;> rfl, ?_⟩
  have herrs : ((if sftp then closeAns.sftpClient.toList else []) ++ closeAns.tunnel.toList ++
      [closeAns.tunnelAgain]) ≠ [] := by simp
  cases sftp <;> exact if_neg herrs

end VmSession

theorem newVMSession_cases (config : TunnelConfig) (dial handshake : Option GoError) :
    ((∃ err, (newVMSession config dial handshake).1 = .error err) ∧
        ((newVMSession config dial handshake).2 = [] ∨
          (newVMSession config dial handshake).2 = [.opened .tunnel, .closed .tunnel, .closed .tunnel])) ∨
      (newVMSession config dial handshake =
        (.ok ⟨config.setDefaults, true, true, false⟩, [.opened .tunnel, .opened .sshClient])) := by
  unfold newVMSession
  cases dial with
  | some err => exact .inl ⟨⟨err, rfl⟩, .inl rfl⟩
  | none =>
      cases handshake with
      | some err => exact .inl ⟨⟨_, rfl⟩, .inr rfl⟩
      | none => exact .inr rfl

/-- A session's whole life closes everything it opens, the tunnel twice, and
opens the tunnel, the SSH client and the SFTP client at most once each. -/
theorem sessionLife_allClosed (config : TunnelConfig) (dial handshake : Option GoError)
    (ops : List SessionOp) (closeAns : CloseAnswers) :
    AllClosed (sessionLife config dial handshake ops closeAns).2 ∧
      ∀ x, x ≠ .channel → x ≠ .remoteFile →
        (sessionLife config dial handshake ops closeAns).2.count (.opened x) ≤ 1 := by
  rcases newVMSession_cases config dial handshake with ⟨⟨err, herr⟩, hev⟩ | hok
  · have hlife : (sessionLife config dial handshake ops closeAns).2 =
        (newVMSession config dial handshake).2 := by
      rw [sessionLife, show newVMSession config dial handshake =
        (.error err, (newVMSession config dial handshake).2) from Prod.ext herr rfl]
    rw [hlife]
    rcases hev with hev | hev <;> rw [hev] <;>
      exact ⟨fun x => by cases x <;> decide, fun x _ _ => by cases x <;> decide⟩
  · obtain ⟨hfinal, -, hsftp, hrest⟩ :=
      VmSession.runOps_counts ⟨config.setDefaults, true, true, false⟩ ops
    rw [sessionLife, hok]
    dsimp only
    rw [(VmSession.close_of_connected (by rw [hfinal]) (by rw [hfinal]) closeAns).1]
    clear hfinal
    generalize (VmSession.runOps ⟨config.setDefaults, true, true, false⟩ ops).2 = ev at hsftp hrest ⊢
    generalize (VmSession.runOps ⟨config.setDefaults, true, true, false⟩ ops).1.sftpClient = f at hsftp ⊢
    clear hok
    refine ⟨fun x => ?_, fun x hx₁ hx₂ => ?_⟩ <;>
      obtain ⟨hclosed, hopened⟩ := hrest x <;> clear hrest <;>
      cases x <;> cases f <;> simp [List.count_append] at * <;> omega

theorem runCloudInit_events (config : TunnelConfig) (dial handshake : Option GoError)
    (script : Bytes) (entries : List (Bytes × Bytes)) (vm : ChannelRequest → ChannelOutcome)
    (closeAns : CloseAnswers) :
    (runCloudInit config dial handshake script entries vm closeAns).2 =
      (sessionLife config dial handshake [.executeScript script entries vm] closeAns).2 := by
  unfold runCloudInit sessionLife
  cases newVMSession config dial handshake with
  | mk r events =>
      cases r with
      | error err => rfl
      | ok s => simp [VmSession.runOps, VmSession.apply]

theorem uploadAndRunScript_events (config : TunnelConfig) (dial handshake : Option GoError)
    (script : Bytes) (entries : List (Bytes × Bytes)) (upload : UploadAnswers)
    (vm : ChannelRequest → ChannelOutcome) (closeAns : CloseAnswers) :
    ∃ ops, (uploadAndRunScript config dial handshake script entries upload vm closeAns).2 =
      (sessionLife config dial handshake ops closeAns).2 := by
  unfold uploadAndRunScript sessionLife
  cases newVMSession config dial handshake with
  | mk r events =>
      cases r with
      | error err => exact ⟨[], rfl⟩
      | ok s =>
          dsimp only
          cases hu : (s.uploadBytes script ⟨scriptPath, 0o755, true⟩ upload).1 with
          | some err =>
              exact ⟨[.uploadBytes script ⟨scriptPath, 0o755, true⟩ upload],
                by simp [VmSession.runOps, VmSession.apply]⟩
          | none =>
              exact ⟨[.uploadBytes script ⟨scriptPath, 0o755, true⟩ upload,
                .executeCommand (uploadAndRunScriptCommand entries) vm],
                by simp [VmSession.runOps, VmSession.apply]⟩

theorem isSSHReady_events (c : External) (cr : VM) (dial handshake : Option GoError)
    (vm : ChannelRequest → ChannelOutcome) (closeAns : CloseAnswers) :
    (isSSHReady c cr dial handshake vm closeAns).2 =
      (sessionLife (c.buildTunnelConfig cr) dial handshake [.executeCommand (lit "ls -al") vm]
        closeAns).2 := by
  unfold isSSHReady sessionLife
  cases newVMSession (c.buildTunnelConfig cr) dial handshake with
  | mk r events =>
      cases r with
      | error err => rfl
      | ok s => simp [VmSession.runOps, VmSession.apply]

end ProviderOrchard
