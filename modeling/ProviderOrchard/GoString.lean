/-
Go strings as the byte sequences the source manipulates.  Every text the
provider builds (URLs, shell scripts, condition messages) is a Go `string`, a
sequence of bytes with no encoding guarantee, so the model works on
`List UInt8` and writes the source's ASCII literals through `lit`.
-/
import Mathlib.Data.List.Basic

namespace ProviderOrchard

/-- A Go `string`, as its bytes. -/
abbrev Bytes := List UInt8

/-- An ASCII literal of the source, as bytes. -/
def lit (s : String) : Bytes := s.toList.map Char.toUInt8

/-- `fmt.Sprintf("%d", n)` for a Go `int`. -/
def fmtInt (n : Int) : Bytes := lit (toString n)

@[simp] theorem lit_append (s t : String) : lit (s ++ t) = lit s ++ lit t := by
  simp [lit]

/-- The decimal digits `Nat.toDigits` writes. -/
theorem toDigitsCore_mem_digits (fuel n : Nat) {ds : List Char}
    (hds : ∀ c ∈ ds, c ∈ "0123456789".toList) :
    ∀ c ∈ Nat.toDigitsCore 10 fuel n ds, c ∈ "0123456789".toList := by
  induction fuel generalizing n ds with
  | zero => exact hds
  | succ fuel ih =>
    have hd : ∀ k : Fin 10, Nat.digitChar k ∈ "0123456789".toList := by decide
    have hds' := List.forall_mem_cons.mpr ⟨hd ⟨n % 10, Nat.mod_lt _ (by decide)⟩, hds⟩
    show ∀ c ∈ (if n / 10 = 0 then Nat.digitChar (n % 10) :: ds
      else Nat.toDigitsCore 10 fuel (n / 10) (Nat.digitChar (n % 10) :: ds)), _
    split
    · exact hds'
    · exact ih _ hds'

theorem mem_lit_repr {b : UInt8} {m : Nat} (h : b ∈ lit (Nat.repr m)) : b ∈ lit "0123456789" := by
  obtain ⟨c, hc, rfl⟩ := List.mem_map.mp h
  exact List.mem_map_of_mem _
    (toDigitsCore_mem_digits _ _ (fun _ h => absurd h (List.not_mem_nil _)) c hc)

/-- `%d` writes a sign and decimal digits. -/
theorem mem_fmtInt {b : UInt8} {n : Int} (h : b ∈ fmtInt n) : b ∈ lit "-0123456789" := by
  cases n with
  | ofNat m => exact List.mem_cons_of_mem _ (mem_lit_repr h)
  | negSucc m =>
    change b ∈ lit ("-" ++ Nat.repr (m + 1)) at h
    rw [lit_append, List.mem_append] at h
    rcases h with h | h
    · rw [show lit "-" = [0x2D] from rfl, List.mem_singleton] at h
      rw [h]
      decide
    · exact List.mem_cons_of_mem _ (mem_lit_repr h)

/-- A Go `map[string]string`: its entries in one iteration order, keys distinct.
Ranging over the map may visit them in any order, that is any permutation of
`entries`. -/
structure GoMap where
  entries : List (Bytes × Bytes)
  keys_nodup : (entries.map Prod.fst).Nodup

instance : DecidableEq GoMap := fun m n =>
  decidable_of_iff (m.entries = n.entries) (by cases m; cases n; simp)

/-- The sentinel errors of the ssh package, which callers tell apart with
`errors.Is`. -/
inductive Sentinel
  | connectionFailed
  | sshAuthFailed
  | vmNotReady
  | timeout
  | sftpFailed
  deriving DecidableEq, Repr

/-- The text each sentinel was created with. -/
def Sentinel.text : Sentinel → Bytes
  | .connectionFailed => lit "failed to connect to Orchard controller"
  | .sshAuthFailed => lit "SSH authentication failed"
  | .vmNotReady => lit "VM is not ready"
  | .timeout => lit "operation timed out"
  | .sftpFailed => lit "SFTP operation failed"

/-- A Go `error` value: its `Error()` text, and the sentinel it wraps, if any. -/
structure GoError where
  sentinel : Option Sentinel
  text : Bytes
  deriving DecidableEq, Repr

/-- `errors.New(msg)`. -/
def GoError.new (msg : Bytes) : GoError := ⟨none, msg⟩

/-- A sentinel as an error value. -/
def Sentinel.err (s : Sentinel) : GoError := ⟨some s, s.text⟩

/-- `errors.Wrap(err, msg)` of github.com/pkg/errors: the text `msg: err`, the same cause. -/
def GoError.wrap (err : GoError) (msg : Bytes) : GoError :=
  ⟨err.sentinel, msg ++ lit ": " ++ err.text⟩

example : fmtInt (-42) = lit "-42" := by decide

end ProviderOrchard
