/-
`truncateMessage`, which caps the Ready condition's message, and the UTF-8
validity of a Go string (RFC 3629, as `utf8.ValidString` checks it), needed
to say what a byte-wise cut does to a message.
-/
import ProviderOrchard.GoString

namespace ProviderOrchard

/-- Where a UTF-8 decoder stands between bytes: at a character boundary, or owing
`count` continuation bytes, the next of which must lie in `lo ..= hi`. -/
inductive Utf8State
  | boundary
  | owe (count : Nat) (lo hi : UInt8)
  deriving DecidableEq, Repr

/-- One byte of the RFC 3629 grammar. -/
def Utf8State.step : Utf8State → UInt8 → Option Utf8State
  | .boundary, b =>
      if b ≤ 0x7F then some .boundary
      else if 0xC2 ≤ b ∧ b ≤ 0xDF then some (.owe 1 0x80 0xBF)
      else if b = 0xE0 then some (.owe 2 0xA0 0xBF)
      else if 0xE1 ≤ b ∧ b ≤ 0xEC then some (.owe 2 0x80 0xBF)
      else if b = 0xED then some (.owe 2 0x80 0x9F)
      else if 0xEE ≤ b ∧ b ≤ 0xEF then some (.owe 2 0x80 0xBF)
      else if b = 0xF0 then some (.owe 3 0x90 0xBF)
      else if 0xF1 ≤ b ∧ b ≤ 0xF3 then some (.owe 3 0x80 0xBF)
      else if b = 0xF4 then some (.owe 3 0x80 0x8F)
      else none
  | .owe count lo hi, b =>
      if lo ≤ b ∧ b ≤ hi then
        some (if count ≤ 1 then .boundary else .owe (count - 1) 0x80 0xBF)
      else none

/-- The decoder's state after every byte, or `none` at the first refused one. -/
def Utf8State.run : Utf8State → Bytes → Option Utf8State
  | q, [] => some q
  | q, b :: rest =>
      match q.step b with
      | some q' => q'.run rest
      | none => none

/-- `utf8.ValidString`: the bytes decode to whole characters. -/
def utf8Valid (s : Bytes) : Bool := Utf8State.boundary.run s == some .boundary

/-- Bytes below `0x80` are characters of their own. -/
def IsAscii (s : Bytes) : Prop := ∀ b ∈ s, b ≤ 0x7F

instance (s : Bytes) : Decidable (IsAscii s) := inferInstanceAs (Decidable (∀ b ∈ s, b ≤ 0x7F))

theorem run_boundary_ascii_append {s : Bytes} (hs : IsAscii s) (rest : Bytes) :
    Utf8State.boundary.run (s ++ rest) = Utf8State.boundary.run rest := by
  induction s with
  | nil => rfl
  | cons b s ih =>
      have hb : b ≤ 0x7F := hs b (List.mem_cons_self b s)
      simp only [List.cons_append, Utf8State.run, Utf8State.step, hb, ite_true]
      exact ih fun c hc => hs c (List.mem_cons_of_mem b hc)

/-- `maxConditionMessageLen`. -/
def maxConditionMessageLen : Nat := 1024

/-- `truncateMessage`: a message over the limit keeps its first
`maxConditionMessageLen - 3` bytes and gets `...`. -/
def truncateMessage (msg : Bytes) : Bytes :=
  if msg.length ≤ maxConditionMessageLen then msg
  else msg.take (maxConditionMessageLen - 3) ++ lit "..."

theorem truncateMessage_of_length_le {msg : Bytes} (h : msg.length ≤ maxConditionMessageLen) :
    truncateMessage msg = msg := if_pos h

theorem truncateMessage_of_lt {msg : Bytes} (h : maxConditionMessageLen < msg.length) :
    truncateMessage msg = msg.take (maxConditionMessageLen - 3) ++ lit "..." :=
  if_neg (Nat.not_le.mpr h)

/-- What `truncateMessage` guarantees of every message: it fits the limit, is the
message itself when that already fits, and is otherwise a byte prefix of it
followed by `...`. -/
theorem truncateMessage_spec (msg : Bytes) :
    (truncateMessage msg).length ≤ maxConditionMessageLen ∧
      (msg.length ≤ maxConditionMessageLen → truncateMessage msg = msg) ∧
      (maxConditionMessageLen < msg.length →
        ∃ pre, pre <+: msg ∧ truncateMessage msg = pre ++ lit "...") := by
  refine ⟨?_, truncateMessage_of_length_le, fun h => ⟨_, List.take_prefix _ _,
    truncateMessage_of_lt h⟩⟩
  by_cases h : msg.length ≤ maxConditionMessageLen
  · rwa [truncateMessage_of_length_le h]
  · have hdots : (lit "...").length = 3 := rfl
    rw [truncateMessage_of_lt (Nat.lt_of_not_le h), List.length_append, List.length_take, hdots]
    simp only [maxConditionMessageLen]
    omega

end ProviderOrchard
