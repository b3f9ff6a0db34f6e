/-
The VM's files as the SFTP server serves them, and what the requests of
`UploadFile` do to them.  The server's answers stay the oracle `UploadAnswers`;
`uploadEffect` applies each request the source makes, in its order, when the
server accepted it: `Create` empties the file (a new file gets the server's
creation mode, an existing one keeps its mode), the copy writes the content, and
`Chmod` sets the permission bits.  A copy the server fails leaves the bytes it had written.
Directories are not kept: whether `Create` finds its directory is the server's
answer to it.
-/
import ProviderOrchard.Session

namespace ProviderOrchard

/-- A file on the VM: its bytes and permission bits. -/
structure RemoteFile where
  content : Bytes
  mode : Nat
  deriving DecidableEq, Repr

/-- The VM's files as the SFTP server serves them: the files by path (a path's
first entry is its file), and the mode `Create` gives a new file (0666 less the
server's umask). -/
structure RemoteFS where
  files : List (Bytes × RemoteFile)
  createMode : Nat
  deriving DecidableEq, Repr

namespace RemoteFS

/-- The file at `path`, if there is one. -/
def lookup (fs : RemoteFS) (path : Bytes) : Option RemoteFile :=
  (fs.files.find? fun e => e.1 = path).map Prod.snd

/-- Put `f` at `path`. -/
def setFile (fs : RemoteFS) (path : Bytes) (f : RemoteFile) : RemoteFS :=
  { fs with files := (path, f) :: fs.files }

/-- The mode of the file at `path`, or the creation mode when there is none. -/
def modeAt (fs : RemoteFS) (path : Bytes) : Nat :=
  match fs.lookup path with
  | some f => f.mode
  | none => fs.createMode

/-- `Create(path)`, accepted: `O_RDWR|O_CREATE|O_TRUNC`. -/
def create (fs : RemoteFS) (path : Bytes) : RemoteFS := fs.setFile path ⟨[], fs.modeAt path⟩

/-- The bytes `data` written to the file `Create` opened. -/
def write (fs : RemoteFS) (path data : Bytes) : RemoteFS := fs.setFile path ⟨data, fs.modeAt path⟩

/-- `Chmod(path, mode)`, accepted: the server's `chmod` keeps the permission bits
0o7777 of the mode and drops the file-type bits. -/
def chmod (fs : RemoteFS) (path : Bytes) (mode : Nat) : RemoteFS :=
  match fs.lookup path with
  | some f => fs.setFile path { f with mode := mode &&& 0o7777 }
  | none => fs

@[simp] theorem lookup_setFile (fs : RemoteFS) (path : Bytes) (f : RemoteFile) :
    (fs.setFile path f).lookup path = some f := by
  simp [lookup, setFile]

@[simp] theorem modeAt_setFile (fs : RemoteFS) (path : Bytes) (f : RemoteFile) :
    (fs.setFile path f).modeAt path = f.mode := by
  simp [modeAt]

end RemoteFS

/-- What the requests of `uploadSteps` do to the files: `data` is what the copy
reads, and `copied` how many of its bytes a failed copy had written. -/
def uploadStepsEffect (fs : RemoteFS) (opts : FileUploadOptions) (data : Bytes)
    (ans : UploadAnswers) (copied : Nat) : RemoteFS :=
  match (if opts.createDirs then ans.mkdirAll else none) with
  | some _ => fs
  | none =>
      match ans.create with
      | some _ => fs
      | none =>
          let fs := fs.create opts.remotePath
          match ans.copy with
          | some _ => fs.write opts.remotePath (data.take copied)
          | none =>
              let fs := fs.write opts.remotePath data
              if opts.permissions ≠ 0 ∧ ans.chmod = none then
                fs.chmod opts.remotePath opts.permissions
              else fs

/-- What `UploadFile` (and `UploadBytes` of `data`) does to the files. -/
def VmSession.uploadEffect (s : VmSession) (fs : RemoteFS) (opts : FileUploadOptions)
    (data : Bytes) (ans : UploadAnswers) (copied : Nat) : RemoteFS :=
  match s.ensureSFTP ans.newClient with
  | (some _, _, _) => fs
  | (none, _, _) => uploadStepsEffect fs opts data ans copied

theorem uploadSteps_eq_none_iff (opts : FileUploadOptions) (ans : UploadAnswers) :
    (uploadSteps opts ans).1 = none ↔
      (opts.createDirs = true → ans.mkdirAll = none) ∧ ans.create = none ∧ ans.copy = none ∧
        (opts.permissions ≠ 0 → ans.chmod = none) := by
  rcases ans with ⟨-, mk, create, copy, chmod⟩
  cases hdirs : opts.createDirs <;> cases mk <;> cases create <;> cases copy <;> cases chmod <;>
    by_cases hperm : opts.permissions = 0 <;> simp [uploadSteps, hdirs, hperm]

theorem mkdirAll_answer_eq_none {opts : FileUploadOptions} {ans : UploadAnswers}
    (hmk : opts.createDirs = true → ans.mkdirAll = none) :
    (if opts.createDirs then ans.mkdirAll else none) = none := by
  cases h : opts.createDirs
  · rfl
  · exact hmk h

theorem uploadStepsEffect_of_ok {fs : RemoteFS} {opts : FileUploadOptions} {ans : UploadAnswers}
    (h : (uploadSteps opts ans).1 = none) (data : Bytes) (copied : Nat) :
    (uploadStepsEffect fs opts data ans copied).lookup opts.remotePath =
      some ⟨data, if opts.permissions ≠ 0 then opts.permissions &&& 0o7777 else fs.modeAt opts.remotePath⟩ := by
  obtain ⟨hmk, hcreate, hcopy, hchmod⟩ := (uploadSteps_eq_none_iff opts ans).mp h
  simp only [uploadStepsEffect, mkdirAll_answer_eq_none hmk, hcreate, hcopy]
  by_cases hperm : opts.permissions = 0
  · simp [hperm, RemoteFS.write, RemoteFS.create]
  · simp [hperm, hchmod hperm, RemoteFS.chmod, RemoteFS.write, RemoteFS.create]

theorem uploadSteps_copy_failed {opts : FileUploadOptions} {ans : UploadAnswers}
    (hmk : opts.createDirs = true → ans.mkdirAll = none) (hcreate : ans.create = none)
    (hcopy : ans.copy ≠ none) (fs : RemoteFS) (data : Bytes) (copied : Nat) :
    (uploadSteps opts ans).1 =
        some ((Sentinel.err .sftpFailed).wrap (lit "failed to write file content")) ∧
      (uploadStepsEffect fs opts data ans copied).lookup opts.remotePath =
        some ⟨data.take copied, fs.modeAt opts.remotePath⟩ := by
  obtain ⟨e, he⟩ := Option.ne_none_iff_exists'.mp hcopy
  simp [uploadSteps, uploadStepsEffect, mkdirAll_answer_eq_none hmk, hcreate, he, RemoteFS.write,
    RemoteFS.create]

theorem VmSession.uploadFile_ok {s : VmSession} {opts : FileUploadOptions} {ans : UploadAnswers}
    (h : (s.uploadFile opts ans).1 = none) (fs : RemoteFS) (data : Bytes) (copied : Nat) :
    (uploadSteps opts ans).1 = none ∧
      s.uploadEffect fs opts data ans copied = uploadStepsEffect fs opts data ans copied := by
  unfold uploadFile at h
  unfold uploadEffect
  rcases hens : s.ensureSFTP ans.newClient with ⟨_ | e, s', events⟩ <;> rw [hens] at h
  · exact ⟨h, rfl⟩
  · cases h

theorem VmSession.ensureSFTP_ok {s : VmSession} {newClient : Option GoError}
    (h : s.sftpClient = true ∨ newClient = none) : (s.ensureSFTP newClient).1 = none := by
  rcases h with h | rfl
  · simp [ensureSFTP, h]
  · unfold ensureSFTP
    split <;> rfl

/-- What the upload of `UploadAndRunScript` does to the files. -/
def uploadAndRunScriptEffect (fs : RemoteFS) (config : TunnelConfig)
    (dial handshake : Option GoError) (script : Bytes) (upload : UploadAnswers) (copied : Nat) :
    RemoteFS :=
  match newVMSession config dial handshake with
  | (.error _, _) => fs
  | (.ok s, _) => s.uploadEffect fs ⟨scriptPath, 0o755, true⟩ script upload copied

/-- `UploadAndRunScript` returns a command result only from running its command
line, and runs it only once the file at `scriptPath` holds exactly the script,
with mode 0755. -/
theorem uploadAndRunScript_runs_uploaded_script (config : TunnelConfig)
    (dial handshake : Option GoError) (script : Bytes) (entries : List (Bytes × Bytes))
    (upload : UploadAnswers) (vm : ChannelRequest → ChannelOutcome)
    (closeAns : CloseAnswers) (fs : RemoteFS) (copied : Nat)
    (hresult : (uploadAndRunScript config dial handshake script entries upload vm closeAns).1.1 ≠ none) :
    (uploadAndRunScript config dial handshake script entries upload vm closeAns).1 =
        (runChannel (lit "command execution failed") vm ⟨uploadAndRunScriptCommand entries, []⟩).1 ∧
      (uploadAndRunScriptEffect fs config dial handshake script upload copied).lookup scriptPath =
        some ⟨script, 0o755⟩ := by
  unfold uploadAndRunScript at hresult ⊢
  unfold uploadAndRunScriptEffect
  rcases hs : newVMSession config dial handshake with ⟨err | s, events⟩ <;> rw [hs] at hresult
  · exact absurd rfl hresult
  · dsimp only at hresult ⊢
    rcases hu : (s.uploadBytes script ⟨scriptPath, 0o755, true⟩ upload).1 with _ | err <;>
      rw [hu] at hresult
    · obtain ⟨hsteps, heffect⟩ := VmSession.uploadFile_ok hu fs script copied
      refine ⟨rfl, ?_⟩
      rw [heffect, uploadStepsEffect_of_ok hsteps]
      rfl
    · exact absurd rfl hresult

/-- A VM with no file yet, whose SFTP server creates files with mode 0644. -/
def emptyRemoteFS : RemoteFS := ⟨[], 0o644⟩

example :
    (uploadAndRunScript ⟨lit "http://localhost:6120/v1", [], lit "vm", 22, 30, [], [], 0⟩ none none
        (lit "echo ok") [] ⟨none, none, none, none, none⟩ (fun _ => .exited [] [] 0)
        ⟨none, none, .new []⟩).1.1 ≠ none ∧
      ((uploadAndRunScript ⟨lit "http://localhost:6120/v1", [], lit "vm", 22, 30, [], [], 0⟩ none none
          (lit "echo ok") [] ⟨none, none, none, none, none⟩ (fun _ => .exited [] [] 0)
          ⟨none, none, .new []⟩).1 =
          (runChannel (lit "command execution failed") (fun _ => .exited [] [] 0)
            ⟨uploadAndRunScriptCommand [], []⟩).1 ∧
        (uploadAndRunScriptEffect emptyRemoteFS ⟨lit "http://localhost:6120/v1", [], lit "vm", 22, 30,
            [], [], 0⟩ none none (lit "echo ok") ⟨none, none, none, none, none⟩ 0).lookup scriptPath =
          some ⟨lit "echo ok", 0o755⟩) :=
  ⟨by decide, uploadAndRunScript_runs_uploaded_script _ none none (lit "echo ok") []
    ⟨none, none, none, none, none⟩ (fun _ => .exited [] [] 0) ⟨none, none, .new []⟩ emptyRemoteFS 0
    (by decide)⟩

end ProviderOrchard
