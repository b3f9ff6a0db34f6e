/-
The text `vmSession.ExecuteScript` pipes to `/bin/bash` and the command line
`UploadAndRunScript` runs, both built from a startup script's environment map,
and what a shell reads in them.  Go iterates a map in no fixed order: the
builders take the entries in the order one iteration yields them, which is any
permutation of the map's entries.
-/
import ProviderOrchard.ShellLexer

namespace ProviderOrchard

/-- `strings.ReplaceAll(value, "'", "'\"'\"'")`: each single quote closes the
quoted value, is written double-quoted, and reopens it. -/
def escapeValue (value : Bytes) : Bytes :=
  value.flatMap fun b => if b = 0x27 then lit "'\"'\"'" else [b]

/-- `fmt.Sprintf("export %s='%s'...", key, escapedValue)`, the statement both builders
write per entry: `ExecuteScript` ends it with a newline, `UploadAndRunScript`
with `"; "`. -/
def exportStatement (terminator key value : Bytes) : Bytes :=
  lit "export " ++ key ++ lit "='" ++ escapeValue value ++ lit "'" ++ terminator

/-- The script `vmSession.ExecuteScript` writes to the session's stdin. -/
def executeScriptText (entries : List (Bytes × Bytes)) (script : Bytes) : Bytes :=
  lit "#!/bin/bash\nset -e\n" ++ entries.flatMap (fun e => exportStatement (lit "\n") e.1 e.2) ++
    script

/-- `scriptPath`, where `UploadAndRunScript` uploads the script. -/
def scriptPath : Bytes := lit "/tmp/cloudinit-script.sh"

/-- The command `UploadAndRunScript` runs once the script is uploaded. -/
def uploadAndRunScriptCommand (entries : List (Bytes × Bytes)) : Bytes :=
  entries.flatMap (fun e => exportStatement (lit "; ") e.1 e.2) ++ scriptPath

/-- The command an entry should become: `export key=value`, as one word. -/
def exportWords (e : Bytes × Bytes) : List Bytes := [lit "export", e.1 ++ lit "=" ++ e.2]

/-- Letters, digits and underscore. -/
def nameBytes : Bytes := lit "ABCDEFGHIJKLMNOPQRSTUVWXYZabcdefghijklmnopqrstuvwxyz0123456789_"

/-- A POSIX name (XBD 3.235), what `export` accepts as a variable: name bytes,
the first not a digit. -/
def IsShellName : Bytes → Prop
  | [] => False
  | b :: rest => b ∉ lit "0123456789" ∧ ∀ c ∈ b :: rest, c ∈ nameBytes

instance : DecidablePred IsShellName
  | [] => isFalse id
  | _ :: _ => inferInstanceAs (Decidable (_ ∧ _))

/-- Name bytes are letters, digits and `_`; no shell special byte is one of them. -/
theorem wordByte_of_mem_nameBytes : ∀ b ∈ nameBytes, WordByte b := by
  have hrange : ∀ b ∈ nameBytes, (0x30 ≤ b.toNat ∧ b.toNat ≤ 0x39) ∨ (0x41 ≤ b.toNat ∧ b.toNat ≤ 0x5A) ∨
      (0x61 ≤ b.toNat ∧ b.toNat ≤ 0x7A) ∨ b.toNat = 0x5F := by decide
  intro b hb hspecial
  have hb := hrange b hb
  simp only [shellSpecialBytes, List.mem_cons, List.not_mem_nil, or_false] at hspecial
  rcases hspecial with rfl | rfl | rfl | rfl | rfl | rfl | rfl | rfl | rfl | rfl | rfl <;>
    simp only [UInt8.reduceToNat] at hb <;> omega

theorem ne_equals_of_mem_nameBytes : ∀ b ∈ nameBytes, b ≠ 0x3D := by decide

/-- `run` over a first part that ends nothing, then over the rest. -/
theorem LexState.run_append_quiet {st st' : LexState} {s t : Bytes}
    {r : LexState × List (List Bytes)} (h : st.run s = (st', [])) (h' : st'.run t = r) :
    st.run (s ++ t) = r := by
  rw [run_append_of_run h, h', List.nil_append]

/-- Inside single quotes, an escaped value without NUL adds exactly the value to
the word. -/
theorem run_escapeValue {value : Bytes} (hvalue : (0 : UInt8) ∉ value) (w : Bytes)
    (words : List Bytes) :
    LexState.run ⟨.single, some w, words⟩ (escapeValue value) =
      (⟨.single, some (w ++ value), words⟩, []) := by
  induction value generalizing w with
  | nil => simp [escapeValue]
  | cons b value ih =>
      have hb0 : b ≠ 0 := fun h => hvalue (h ▸ List.mem_cons_self b value)
      have ih := ih fun h => hvalue (List.mem_cons_of_mem b h)
      rw [escapeValue, List.flatMap_cons, ← escapeValue]
      by_cases hb : b = 0x27
      · have hquote : LexState.run ⟨.single, some w, words⟩ (lit "'\"'\"'") =
            (⟨.single, some (w ++ [0x27]), words⟩, []) := rfl
        rw [if_pos hb, LexState.run_append_quiet hquote (ih _), hb]
        simp
      · have hstep : LexState.run ⟨.single, some w, words⟩ [b] =
            (⟨.single, some (w ++ [b]), words⟩, []) := by
          simp [LexState.run, LexState.step, LexState.push, hb, hb0]
        rw [if_neg hb, LexState.run_append_quiet hstep (ih _)]
        simp

/-- An export statement for a name and a value without NUL is read as the one
command `export name=value`, ending at a command boundary. -/
theorem run_exportStatement {terminator : Bytes}
    (hterminator : terminator = lit "\n" ∨ terminator = lit "; ") {key : Bytes}
    (hkey : IsShellName key) {value : Bytes} (hvalue : (0 : UInt8) ∉ value) :
    LexState.init.run (exportStatement terminator key value) =
      (.init, [exportWords (key, value)]) := by
  obtain ⟨b, rest, rfl⟩ : ∃ b rest, key = b :: rest := by
    cases key with
    | nil => exact absurd hkey id
    | cons b rest => exact ⟨b, rest, rfl⟩
  have hword : ∀ c ∈ b :: rest, WordByte c := fun c hc =>
    wordByte_of_mem_nameBytes c (hkey.2 c hc)
  have hexport : LexState.init.run (lit "export ") = (⟨.plain, none, [lit "export"]⟩, []) := rfl
  have hkeyRun := LexState.run_wordBytes_start hword [lit "export"]
  have hopen : LexState.run ⟨.plain, some (b :: rest), [lit "export"]⟩ (lit "='") =
      (⟨.single, some (b :: rest ++ lit "="), [lit "export"]⟩, []) := rfl
  have hvalueRun := run_escapeValue hvalue (b :: rest ++ lit "=") [lit "export"]
  have hclose : LexState.run ⟨.single, some (b :: rest ++ lit "=" ++ value), [lit "export"]⟩
      (lit "'") = (⟨.plain, some (b :: rest ++ lit "=" ++ value), [lit "export"]⟩, []) := rfl
  unfold exportStatement
  refine LexState.run_append_quiet (LexState.run_append_quiet (LexState.run_append_quiet
    (LexState.run_append_quiet (LexState.run_append_quiet hexport hkeyRun) hopen) hvalueRun) hclose) ?_
  rcases hterminator with rfl | rfl <;> rfl

/-- The export statements of all entries are read as one `export` command each,
in the order written. -/
theorem run_exportStatements {terminator : Bytes}
    (hterminator : terminator = lit "\n" ∨ terminator = lit "; ")
    (entries : List (Bytes × Bytes)) (hkeys : ∀ e ∈ entries, IsShellName e.1)
    (hvalues : ∀ e ∈ entries, (0 : UInt8) ∉ e.2) :
    LexState.init.run (entries.flatMap fun e => exportStatement terminator e.1 e.2) =
      (.init, entries.map exportWords) := by
  induction entries with
  | nil => rfl
  | cons e entries ih =>
      rw [List.flatMap_cons, LexState.run_append_of_run
        (run_exportStatement hterminator (hkeys e (List.mem_cons_self e entries))
          (hvalues e (List.mem_cons_self e entries))),
        ih (fun e' he' => hkeys e' (List.mem_cons_of_mem e he'))
          (fun e' he' => hvalues e' (List.mem_cons_of_mem e he'))]
      rfl

/-- The assignment an `export` argument makes: the name before its first `=` and
the value after it; `none` when it has no `=`. -/
def splitAssignment : Bytes → Option (Bytes × Bytes)
  | [] => none
  | b :: w => if b = 0x3D then some ([], w) else (splitAssignment w).map fun p => (b :: p.1, p.2)

/-- The assignments the `export` commands among `cmds` make, in order. -/
def exportedAssignments (cmds : List (List Bytes)) : List (Bytes × Bytes) :=
  cmds.flatMap fun
    | w :: args => if w = lit "export" then args.filterMap splitAssignment else []
    | [] => []

/-- The variables bash keeps for itself: the readonly ones, whose `export` fails
with "readonly variable" and, under `set -e`, ends the script; those whose
assignment bash refuses or ignores; and those whose value bash computes each time
it is read, whatever was assigned. -/
def bashSpecialVars : List Bytes :=
  [lit "BASHOPTS", lit "BASH_VERSINFO", lit "EUID", lit "PPID", lit "SHELLOPTS", lit "UID",
    lit "BASH_ALIASES", lit "BASH_CMDS", lit "BASH_COMPAT", lit "BASHPID", lit "BASH_ARGC",
    lit "BASH_ARGV", lit "BASH_COMMAND", lit "BASH_LINENO", lit "BASH_REMATCH", lit "BASH_SOURCE",
    lit "BASH_SUBSHELL", lit "DIRSTACK", lit "EPOCHREALTIME", lit "EPOCHSECONDS", lit "FUNCNAME",
    lit "GROUPS", lit "HISTCMD", lit "LINENO", lit "PIPESTATUS", lit "RANDOM", lit "SECONDS",
    lit "SRANDOM", lit "_"]

/-- The value a script reads for `name` once `cmds` ran, the last assignment
winning; `none` for one of bash's own variables, which the exports do not decide. -/
def exportedValue (cmds : List (List Bytes)) (name : Bytes) : Option Bytes :=
  if name ∈ bashSpecialVars then none
  else ((exportedAssignments cmds).reverse.find? fun a => a.1 = name).map Prod.snd

/-- `m[k]` for a key present in the map. -/
def GoMap.lookup (m : GoMap) (k : Bytes) : Option Bytes :=
  (m.entries.find? fun e => e.1 = k).map Prod.snd

theorem splitAssignment_name {key : Bytes} (hkey : ∀ b ∈ key, b ≠ 0x3D) (value : Bytes) :
    splitAssignment (key ++ lit "=" ++ value) = some (key, value) := by
  induction key with
  | nil => rfl
  | cons b key ih =>
      have hb := hkey b (List.mem_cons_self b key)
      show splitAssignment (b :: (key ++ lit "=" ++ value)) = _
      rw [splitAssignment, if_neg hb, ih fun c hc => hkey c (List.mem_cons_of_mem b hc)]
      rfl

theorem exportedAssignments_exportWords (entries : List (Bytes × Bytes))
    (hkeys : ∀ e ∈ entries, IsShellName e.1) :
    exportedAssignments (entries.map exportWords) = entries := by
  induction entries with
  | nil => rfl
  | cons e entries ih =>
      have hname : ∀ b ∈ e.1, b ≠ 0x3D := fun b hb =>
        match e with
        | ⟨[], _⟩ => absurd (hkeys _ (List.mem_cons_self _ _)) id
        | ⟨_ :: _, _⟩ => ne_equals_of_mem_nameBytes b ((hkeys _ (List.mem_cons_self _ _)).2 b hb)
      have htail := ih fun e' he' => hkeys e' (List.mem_cons_of_mem e he')
      simp only [exportedAssignments, List.map_cons, List.flatMap_cons] at htail ⊢
      rw [htail]
      show (if lit "export" = lit "export" then
        [e.1 ++ lit "=" ++ e.2].filterMap splitAssignment else []) ++ entries = e :: entries
      rw [if_pos rfl, List.filterMap_cons, splitAssignment_name hname]
      rfl

/-- With distinct keys, the entry found for a key does not depend on the order. -/
theorem find?_key_perm {l l' : List (Bytes × Bytes)} (hperm : l.Perm l')
    (hkeys : (l.map Prod.fst).Nodup) (k : Bytes) :
    l.find? (fun e => e.1 = k) = l'.find? (fun e => e.1 = k) := by
  induction hperm with
  | nil => rfl
  | cons x _ ih =>
      rw [List.map_cons, List.nodup_cons] at hkeys
      simp only [List.find?_cons, ih hkeys.2]
  | swap x y l =>
      simp only [List.map_cons, List.nodup_cons, List.mem_cons, not_or] at hkeys
      simp only [List.find?_cons]
      by_cases hx : x.1 = k <;> by_cases hy : y.1 = k
      · exact absurd (hy.trans hx.symm) hkeys.1.1
      all_goals simp [hx, hy]
  | trans h₁ _ ih₁ ih₂ => exact (ih₁ hkeys).trans (ih₂ ((h₁.map Prod.fst).nodup_iff.mp hkeys))

/-- Whatever order the map iteration takes, the exports bind every key that is not
one of bash's own variables to its value, and nothing else. -/
theorem exportedValue_exportWords (env : GoMap) {order : List (Bytes × Bytes)}
    (horder : order.Perm env.entries) (hkeys : ∀ e ∈ order, IsShellName e.1)
    (hspecial : ∀ e ∈ order, e.1 ∉ bashSpecialVars) (k : Bytes) :
    exportedValue (order.map exportWords) k = env.lookup k := by
  have hnodup : (order.map Prod.fst).Nodup := (horder.map Prod.fst).nodup_iff.mpr env.keys_nodup
  unfold exportedValue
  split
  · next hk =>
      symm
      simp only [GoMap.lookup, Option.map_eq_none', List.find?_eq_none, decide_eq_true_eq]
      rintro e he rfl
      exact hspecial e (horder.mem_iff.mpr he) hk
  · rw [exportedAssignments_exportWords order hkeys, GoMap.lookup,
      find?_key_perm (List.reverse_perm order) ((List.reverse_perm order).map Prod.fst |>.nodup_iff.mpr hnodup),
      find?_key_perm horder hnodup]

/-- An environment whose one value holds a single quote. -/
def quotedEnv : GoMap := ⟨[(lit "MY_VAR", lit "it's")], by decide⟩

end ProviderOrchard
