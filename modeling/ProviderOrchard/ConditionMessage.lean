/-
The messages cloud-init handling records.  The `Ready` condition's message is
always `truncateMessage` of the message stored in `cloudInitMessage`, which
itself is kept whole; the cut is on bytes.
-/
import ProviderOrchard.CloudInit

namespace ProviderOrchard

/-- What `handleCloudInit` leaves in the `Ready` condition: the condition it found
(after a failed SSH probe), `Available` or `Creating` with no message, or
`Unavailable` with the recorded cloud-init message cut by `truncateMessage`. -/
theorem handleCloudInit_ready (c : External) (env : ObserveEnv) (cr : VM) :
    let r := handleCloudInit c env cr
    r.vm.ready = cr.ready ∨ r.vm.ready = some (.ofReason .available) ∨
      r.vm.ready = some (.ofReason .creating) ∨
      r.vm.ready = some ⟨.unavailable, truncateMessage r.vm.atProvider.cloudInitMessage⟩ := by
  dsimp only
  rcases handleCloudInit_cases c env cr with
    ⟨-, hr⟩ | ⟨-, hr⟩ | ⟨-, hr⟩ | ⟨-, hr⟩ | ⟨script, -, -, -, hr⟩ <;> rw [hr]
  · exact .inr (.inl rfl)
  · exact .inr (.inl rfl)
  · exact .inr (.inr (.inr rfl))
  · exact .inr (.inr (.inl rfl))
  · rcases executeCloudInit_cases c env cr script with ⟨-, hr'⟩ | ⟨-, -, -, hvm⟩
    · rw [hr']
      exact .inl rfl
    · rw [hvm]
      cases failureMessage env.runScript
      · exact .inr (.inl rfl)
      · exact .inr (.inr (.inr rfl))

/-- When the script ran and failed, `cloudInitMessage` holds the failure message
whole: the error text or the exit code with all of stderr. -/
theorem handleCloudInit_cloudInitMessage (c : External) (env : ObserveEnv) (cr : VM) {msg : Bytes}
    (hran : (handleCloudInit c env cr).calls.any ExternalCall.isUpload = true)
    (hmsg : failureMessage env.runScript = some msg) :
    (handleCloudInit c env cr).vm.atProvider.cloudInitMessage = msg := by
  rcases handleCloudInit_cases c env cr with
    ⟨-, hr⟩ | ⟨-, hr⟩ | ⟨-, hr⟩ | ⟨-, hr⟩ | ⟨script, -, -, -, hr⟩ <;> rw [hr] at hran ⊢
  all_goals try exact absurd hran Bool.false_ne_true
  rcases executeCloudInit_cases c env cr script with ⟨-, hr'⟩ | ⟨-, -, -, hvm⟩
  · rw [hr'] at hran
    exact absurd hran Bool.false_ne_true
  · rw [hvm, hmsg]
    rfl

/-- Every `Ready` message cloud-init handling records is `truncateMessage` of the
message it keeps in `cloudInitMessage` (or empty), and that message is the failure
message whole: at most `maxConditionMessageLen` bytes, the message itself when that
fits, and otherwise its first `maxConditionMessageLen - 3` bytes followed by `...`. -/
theorem cloudInit_condition_message_truncated (c : External) (env : ObserveEnv) (cr : VM) :
    ((handleCloudInit c env cr).vm.ready = cr.ready ∨
      (handleCloudInit c env cr).vm.ready = some (.ofReason .available) ∨
      (handleCloudInit c env cr).vm.ready = some (.ofReason .creating) ∨
      (handleCloudInit c env cr).vm.ready =
        some ⟨.unavailable, truncateMessage (handleCloudInit c env cr).vm.atProvider.cloudInitMessage⟩) ∧
    (∀ msg, (handleCloudInit c env cr).calls.any ExternalCall.isUpload = true →
      failureMessage env.runScript = some msg →
      (handleCloudInit c env cr).vm.atProvider.cloudInitMessage = msg) ∧
    ∀ msg : Bytes, (truncateMessage msg).length ≤ maxConditionMessageLen ∧
      (msg.length ≤ maxConditionMessageLen → truncateMessage msg = msg) ∧
      (maxConditionMessageLen < msg.length →
        truncateMessage msg = msg.take (maxConditionMessageLen - 3) ++ lit "...") :=
  ⟨handleCloudInit_ready c env cr, fun _ hran hmsg => handleCloudInit_cloudInitMessage c env cr hran hmsg,
    fun msg => ⟨(truncateMessage_spec msg).1, truncateMessage_of_length_le, truncateMessage_of_lt⟩⟩

theorem isAscii_append {s t : Bytes} (hs : IsAscii s) (ht : IsAscii t) : IsAscii (s ++ t) := by
  intro b hb
  rcases List.mem_append.mp hb with h | h
  · exact hs b h
  · exact ht b h

theorem isAscii_replicate (n : Nat) {b : UInt8} (hb : b ≤ 0x7F) : IsAscii (List.replicate n b) :=
  fun _ hx => (List.eq_of_mem_replicate hx) ▸ hb

/-- Standard error of 1007 ASCII bytes, a two-byte `é`, then 20 ASCII bytes. -/
def longStderr : Bytes := List.replicate 1007 97 ++ [0xC3, 0xA9] ++ List.replicate 20 97

/-- The script exited 1 with `longStderr`: the `cloudInitMessage` kept is over the
limit, and the condition's message, valid UTF-8 before the cut, is not after it,
the cut falling inside the `é`. -/
theorem cloudInit_message_kept_whole_and_cut_inside_character :
    maxConditionMessageLen < (handleCloudInit exampleExternal
        (provisioningEnv true (.ok ⟨1, [], longStderr⟩)) (provisioningVM none)).vm.atProvider.cloudInitMessage.length ∧
      utf8Valid (handleCloudInit exampleExternal (provisioningEnv true (.ok ⟨1, [], longStderr⟩))
        (provisioningVM none)).vm.atProvider.cloudInitMessage = true ∧
      (handleCloudInit exampleExternal (provisioningEnv true (.ok ⟨1, [], longStderr⟩))
        (provisioningVM none)).vm.ready = some ⟨.unavailable, truncateMessage
          (lit "exit code 1: " ++ longStderr)⟩ ∧
      utf8Valid (truncateMessage (lit "exit code 1: " ++ longStderr)) = false := by
  have hmsg : (handleCloudInit exampleExternal (provisioningEnv true (.ok ⟨1, [], longStderr⟩))
      (provisioningVM none)).vm.atProvider.cloudInitMessage = lit "exit code 1: " ++ longStderr := rfl
  have hascii : IsAscii (lit "exit code 1: " ++ List.replicate 1007 97) :=
    isAscii_append (by decide) (isAscii_replicate 1007 (by decide))
  have hsplit : lit "exit code 1: " ++ longStderr =
      (lit "exit code 1: " ++ List.replicate 1007 97) ++ ([0xC3, 0xA9] ++ List.replicate 20 97) := by
    simp only [longStderr, List.append_assoc]
  have hlen : (lit "exit code 1: " ++ List.replicate 1007 97).length = 1020 := by
    rw [List.length_append, List.length_replicate]
    rfl
  have hlong : maxConditionMessageLen < (lit "exit code 1: " ++ longStderr).length := by
    rw [hsplit, List.length_append, hlen]
    simp [maxConditionMessageLen]
  have htake : (lit "exit code 1: " ++ longStderr).take (maxConditionMessageLen - 3) =
      (lit "exit code 1: " ++ List.replicate 1007 97) ++ [0xC3] := by
    rw [hsplit, List.take_append_eq_append_take, hlen,
      List.take_of_length_le (hlen.trans_le (by decide))]
    rfl
  refine ⟨hmsg ▸ hlong, ?_, rfl, ?_⟩
  · rw [hmsg, utf8Valid, hsplit, run_boundary_ascii_append hascii]
    decide
  · rw [truncateMessage_of_lt hlong, htake, utf8Valid, List.append_assoc,
      run_boundary_ascii_append hascii]
    decide

end ProviderOrchard
