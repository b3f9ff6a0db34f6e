/-
`wsNetConn`, the adapter that lets the SSH client use a WebSocket connection as a
byte stream.  On the inbound side the messages still to arrive and the partially
consumed message reader (`c.reader`) are explicit state.  How a message reader
splits its bytes is left to a `ReadChoice`, one per call, so that every
behaviour the io.Reader contract allows is a run of the model.  `Write` sends
each buffer as one binary message.  Under the conditions `PlainCalls` names,
`Read` refines a read of an in-memory byte stream (`PipeRead`), and what one
adapter writes the peer adapter reads back whole.
-/
import ProviderOrchard.GoString

namespace ProviderOrchard

/-- The error a `Read` can return: io.EOF from a message reader, or the error of
`ws.Reader` once the connection has no further message. -/
inductive ReadErr
  | eof
  | wsClosed
  deriving DecidableEq, Repr

/-- How one `Read` of a message reader splits the bytes still unread: it hands
back `take` of them, clamped into `1 ≤ n ≤ len(b)`, and `withEof` says whether a
last chunk carries io.EOF along with it. -/
structure ReadChoice where
  take : Nat
  withEof : Bool
  deriving DecidableEq, Repr

/-- What a `Read` returns: the bytes copied into the caller's buffer, and the error. -/
structure ReadResult where
  data : Bytes
  err : Option ReadErr
  deriving DecidableEq, Repr

/-- One `Read(b)` of a WebSocket message reader that has `rest` still unread,
with `len(b) = bufLen`: the result and the bytes left unread. -/
def msgReaderRead (rest : Bytes) (bufLen : Nat) (choice : ReadChoice) :
    ReadResult × Bytes :=
  match rest with
  | [] => (⟨[], some .eof⟩, [])
  | _ :: _ =>
      let n := min (max choice.take 1) (min bufLen rest.length)
      (⟨rest.take n, if choice.withEof && n == rest.length then some .eof else none⟩,
        rest.drop n)

theorem msgReaderRead_data_append (rest : Bytes) (bufLen : Nat) (choice : ReadChoice) :
    (msgReaderRead rest bufLen choice).1.data ++ (msgReaderRead rest bufLen choice).2 =
      rest := by
  cases rest <;> simp [msgReaderRead]

/-- A message reader with bytes left never fails other than by io.EOF, and
reports io.EOF only together with its last byte. -/
theorem msgReaderRead_err_of_ne_nil {rest : Bytes} (hrest : rest ≠ []) (bufLen : Nat)
    (choice : ReadChoice) :
    (msgReaderRead rest bufLen choice).1.err = none ∨
      ((msgReaderRead rest bufLen choice).1.err = some .eof ∧
        (msgReaderRead rest bufLen choice).2 = [] ∧
        0 < (msgReaderRead rest bufLen choice).1.data.length) := by
  obtain ⟨b, rest, rfl⟩ := List.exists_cons_of_ne_nil hrest
  simp only [msgReaderRead]
  split
  · rename_i heof
    simp only [Bool.and_eq_true, beq_iff_eq] at heof
    right
    refine ⟨rfl, ?_, ?_⟩
    · rw [heof.2, List.drop_length]
    · rw [heof.2, List.take_length]
      simp
  · exact .inl rfl

theorem msgReaderRead_rest_eq_nil_of_eof {rest : Bytes} {bufLen : Nat} {choice : ReadChoice}
    (heof : (msgReaderRead rest bufLen choice).1.err = some .eof) :
    (msgReaderRead rest bufLen choice).2 = [] := by
  cases rest with
  | nil => rfl
  | cons b rest =>
      rcases msgReaderRead_err_of_ne_nil (List.cons_ne_nil b rest) bufLen choice with h | h
      · rw [h] at heof
        cases heof
      · exact h.2.1

/-- The choices realise exactly the io.Reader contract: each read of a message
with bytes left returns its next `0 < n ≤ len(b)` bytes, io.EOF only with the
last of them. -/
theorem msgReaderRead_contract {rest : Bytes} (hrest : rest ≠ []) {bufLen : Nat}
    (hbuf : 0 < bufLen) (choice : ReadChoice) :
    ∃ n, 0 < n ∧ n ≤ bufLen ∧ n ≤ rest.length ∧
      (msgReaderRead rest bufLen choice).1.data = rest.take n ∧
      (msgReaderRead rest bufLen choice).2 = rest.drop n := by
  obtain ⟨b, rest, rfl⟩ := List.exists_cons_of_ne_nil hrest
  have hlen : 0 < (b :: rest).length := by simp
  exact ⟨min (max choice.take 1) (min bufLen (b :: rest).length), by omega, by omega,
    by omega, rfl, rfl⟩

theorem msgReaderRead_complete {rest : Bytes} {bufLen n : Nat} (hpos : 0 < n)
    (hbuf : n ≤ bufLen) (hlen : n ≤ rest.length) (withEof : Bool) :
    msgReaderRead rest bufLen ⟨n, withEof⟩ =
      (⟨rest.take n, if withEof && n == rest.length then some .eof else none⟩,
        rest.drop n) := by
  cases rest with
  | nil => simp at hlen; omega
  | cons b rest =>
      have hn : min (max n 1) (min bufLen (b :: rest).length) = n := by
        simp only [List.length_cons] at hlen ⊢
        omega
      simp only [msgReaderRead, hn]

/-- A message reader with bytes left, asked with a non-empty buffer and not
carrying io.EOF along with its last chunk, returns some bytes and no error. -/
theorem msgReaderRead_plain {rest : Bytes} (hrest : rest ≠ []) {bufLen : Nat}
    (hbuf : 0 < bufLen) {choice : ReadChoice} (hchoice : choice.withEof = false) :
    (msgReaderRead rest bufLen choice).1.data ≠ [] ∧
      (msgReaderRead rest bufLen choice).1.err = none := by
  obtain ⟨n, hn, -, hlen, hdata, -⟩ := msgReaderRead_contract hrest hbuf choice
  refine ⟨by rw [hdata]; exact List.ne_nil_of_length_pos (by simp; omega), ?_⟩
  obtain ⟨b, rest, rfl⟩ := List.exists_cons_of_ne_nil hrest
  simp [msgReaderRead, hchoice]

theorem msgReaderRead_data_length_le (rest : Bytes) (bufLen : Nat) (choice : ReadChoice) :
    (msgReaderRead rest bufLen choice).1.data.length ≤ bufLen := by
  cases rest with
  | nil => exact Nat.zero_le _
  | cons b rest =>
      simp only [msgReaderRead, List.length_take]
      omega

/-- The inbound state of a `wsNetConn`: the WebSocket messages not yet handed
out by `ws.Reader`, and `c.reader`, given by the bytes it has not returned. -/
structure WsNetConn where
  inbox : List Bytes
  reader : Option Bytes
  deriving DecidableEq, Repr

/-- `newWSNetConn`: no partial message yet. -/
def newWSNetConn (inbox : List Bytes) : WsNetConn := ⟨inbox, none⟩

namespace WsNetConn

/-- `ws.Reader(c.ctx)` and the first `Read` of the new message reader, which the
source returns as it is. -/
def readNext (c : WsNetConn) (bufLen : Nat) (choice : ReadChoice) :
    ReadResult × WsNetConn :=
  match c.inbox with
  | [] => (⟨[], some .wsClosed⟩, c)
  | msg :: inbox => ((msgReaderRead msg bufLen choice).1,
      ⟨inbox, some (msgReaderRead msg bufLen choice).2⟩)

/-- `wsNetConn.Read`: drain the partial message first; on its io.EOF drop it and,
when it returned nothing, fall through to the next message. -/
def read (c : WsNetConn) (bufLen : Nat) (choice : ReadChoice) : ReadResult × WsNetConn :=
  match c.reader with
  | none => c.readNext bufLen choice
  | some rest =>
      let r := msgReaderRead rest bufLen choice
      match r.1.err with
      | some .eof =>
          if 0 < r.1.data.length then (⟨r.1.data, none⟩, ⟨c.inbox, none⟩)
          else readNext ⟨c.inbox, none⟩ bufLen choice
      | some e => (⟨r.1.data, some e⟩, ⟨c.inbox, some r.2⟩)
      | none => (⟨r.1.data, none⟩, ⟨c.inbox, some r.2⟩)

/-- Successive `Read` calls, each with its buffer length and reader choice. -/
def readAll (c : WsNetConn) : List (Nat × ReadChoice) → List ReadResult × WsNetConn
  | [] => ([], c)
  | (bufLen, choice) :: calls =>
      let step := c.read bufLen choice
      let rest := step.2.readAll calls
      (step.1 :: rest.1, rest.2)

/-- The bytes not yet returned: the partial message, then every message to come. -/
def pending (c : WsNetConn) : Bytes := c.reader.getD [] ++ c.inbox.flatten

theorem readNext_conserves (inbox : List Bytes) (bufLen : Nat) (choice : ReadChoice) :
    (readNext ⟨inbox, none⟩ bufLen choice).1.data ++
      (readNext ⟨inbox, none⟩ bufLen choice).2.pending = inbox.flatten := by
  cases inbox with
  | nil => simp [readNext, pending]
  | cons msg inbox =>
      simp only [readNext, pending, Option.getD_some, List.flatten_cons]
      rw [← List.append_assoc, msgReaderRead_data_append]

/-- One `Read` neither loses, duplicates nor reorders a byte: what it returns,
followed by what is still pending, is what was pending before. -/
theorem read_conserves (c : WsNetConn) (bufLen : Nat) (choice : ReadChoice) :
    (c.read bufLen choice).1.data ++ (c.read bufLen choice).2.pending = c.pending := by
  rcases c with ⟨inbox, _ | rest⟩
  · simpa [pending] using readNext_conserves inbox bufLen choice
  · have hsplit := msgReaderRead_data_append rest bufLen choice
    simp only [read]
    split
    · rename_i heof
      rw [msgReaderRead_rest_eq_nil_of_eof heof, List.append_nil] at hsplit
      split
      · simp only [pending, Option.getD_none, Option.getD_some, List.nil_append, hsplit]
      · rename_i hlen
        have hrest : rest = [] := hsplit ▸ List.eq_nil_of_length_eq_zero (by omega)
        rw [readNext_conserves]
        simp [pending, hrest]
    all_goals
      simp only [pending, Option.getD_some]
      rw [← List.append_assoc, hsplit]

theorem readAll_conserves (c : WsNetConn) (calls : List (Nat × ReadChoice)) :
    (c.readAll calls).1.flatMap ReadResult.data ++ (c.readAll calls).2.pending =
      c.pending := by
  induction calls generalizing c with
  | nil => simp [readAll]
  | cons call calls ih =>
      obtain ⟨bufLen, choice⟩ := call
      simp only [readAll, List.flatMap_cons, List.append_assoc, ih]
      exact read_conserves c bufLen choice

/-- Whatever the buffer sizes and however each message reader splits its bytes,
the bytes a run of `Read` calls returns are a prefix of the messages'
concatenation. -/
theorem readAll_delivered_prefix (msgs : List Bytes) (calls : List (Nat × ReadChoice)) :
    ((newWSNetConn msgs).readAll calls).1.flatMap ReadResult.data <+: msgs.flatten :=
  ⟨_, by simpa [newWSNetConn, pending] using readAll_conserves (newWSNetConn msgs) calls⟩

/-- On the partial-message path the reader's io.EOF becomes a nil error or a
fall-through: a partial message with bytes left never makes `Read` fail. -/
theorem read_partial_err_eq_none {inbox : List Bytes} {rest : Bytes} (hrest : rest ≠ [])
    (bufLen : Nat) (choice : ReadChoice) :
    (read ⟨inbox, some rest⟩ bufLen choice).1.err = none := by
  rcases msgReaderRead_err_of_ne_nil hrest bufLen choice with h | ⟨h, -, hpos⟩
  · simp [read, h]
  · simp [read, h, hpos]

/-- The fresh-message path returns the new reader's first result unchanged: an
empty WebSocket message makes `Read` return `(0, io.EOF)` while a byte is still to
come, and a reader that hands its only chunk with io.EOF makes `Read` fail. -/
theorem read_returns_eof_before_stream_end (choice : ReadChoice) :
    (newWSNetConn [[], [65]]).read 1 choice = (⟨[], some .eof⟩, ⟨[[65]], some []⟩) ∧
      (newWSNetConn [[], [65]]).pending = [65] ∧
      (newWSNetConn [[65]]).read 1 ⟨1, true⟩ = (⟨[65], some .eof⟩, ⟨[], some []⟩) :=
  ⟨rfl, rfl, rfl⟩

@[simp]
theorem pending_newWSNetConn (msgs : List Bytes) :
    (newWSNetConn msgs).pending = msgs.flatten := by
  simp [newWSNetConn, pending]

/-- What one `Read` can do: move on to the next message as `readNext` does, or
return bytes of the partial message and keep the messages to come. -/
theorem read_cases (c : WsNetConn) (bufLen : Nat) (choice : ReadChoice) :
    c.read bufLen choice = readNext ⟨c.inbox, none⟩ bufLen choice ∨
      ∃ rest, (c.read bufLen choice).1.data = (msgReaderRead rest bufLen choice).1.data ∧
        (c.read bufLen choice).2.inbox = c.inbox := by
  rcases c with ⟨inbox, _ | rest⟩
  · exact .inl rfl
  · simp only [read]
    split
    · split
      · exact .inr ⟨rest, rfl, rfl⟩
      · exact .inl rfl
    all_goals exact .inr ⟨rest, rfl, rfl⟩

/-- A `Read` only ever drops messages from the front of those to come. -/
theorem read_inbox_suffix (c : WsNetConn) (bufLen : Nat) (choice : ReadChoice) :
    (c.read bufLen choice).2.inbox <:+ c.inbox := by
  rcases read_cases c bufLen choice with h | ⟨-, -, h⟩
  · rw [h]
    cases c.inbox with
    | nil => exact List.suffix_refl _
    | cons _ inbox => exact List.suffix_cons _ inbox
  · exact h ▸ List.suffix_refl _

theorem readNext_progress {inbox : List Bytes} (hinbox : ∀ m ∈ inbox, m ≠ [])
    (hne : inbox.flatten ≠ []) {bufLen : Nat} (hbuf : 0 < bufLen) {choice : ReadChoice}
    (hchoice : choice.withEof = false) :
    (readNext ⟨inbox, none⟩ bufLen choice).1.data ≠ [] ∧
      (readNext ⟨inbox, none⟩ bufLen choice).1.err = none := by
  cases inbox with
  | nil => exact absurd rfl hne
  | cons msg inbox => exact msgReaderRead_plain (hinbox msg (List.mem_cons_self _ _)) hbuf hchoice

/-- With no empty message and io.EOF only on a read that returns no bytes (how
a message reader ends), a `Read` with a non-empty buffer while bytes are pending
returns at least one of them and no error. -/
theorem read_progress {c : WsNetConn} (hc : ∀ m ∈ c.inbox, m ≠ []) (hpend : c.pending ≠ [])
    {bufLen : Nat} (hbuf : 0 < bufLen) {choice : ReadChoice} (hchoice : choice.withEof = false) :
    (c.read bufLen choice).1.data ≠ [] ∧ (c.read bufLen choice).1.err = none := by
  rcases c with ⟨inbox, _ | rest⟩
  · exact readNext_progress hc (by simpa [pending] using hpend) hbuf hchoice
  · by_cases hrest : rest = []
    · subst hrest
      have hinbox : inbox.flatten ≠ [] := by simpa [pending] using hpend
      simpa [read, msgReaderRead] using readNext_progress hc hinbox hbuf hchoice
    · obtain ⟨hdata, herr⟩ := msgReaderRead_plain hrest hbuf hchoice
      simp only [read, herr]
      exact ⟨hdata, trivial⟩

/-- A `Read` never returns more bytes than the caller's buffer holds. -/
theorem read_data_length_le (c : WsNetConn) (bufLen : Nat) (choice : ReadChoice) :
    (c.read bufLen choice).1.data.length ≤ bufLen := by
  rcases read_cases c bufLen choice with h | ⟨rest, h, -⟩ <;> rw [h]
  · cases c.inbox with
    | nil => exact Nat.zero_le _
    | cons msg _ => exact msgReaderRead_data_length_le msg bufLen choice
  · exact msgReaderRead_data_length_le rest bufLen choice

/-- With no empty message to come, a `Read` once every byte has been returned
fails with the error of `ws.Reader`. -/
theorem read_err_of_pending_nil {c : WsNetConn} (hc : ∀ m ∈ c.inbox, m ≠ [])
    (hpend : c.pending = []) (bufLen : Nat) (choice : ReadChoice) :
    (c.read bufLen choice).1.err = some .wsClosed := by
  obtain ⟨hreader, hflat⟩ := List.append_eq_nil.mp hpend
  rcases c with ⟨_ | ⟨msg, inbox⟩, _ | rest⟩
  · rfl
  · simp only [Option.getD_some] at hreader
    subst hreader
    rfl
  all_goals
    exact absurd (List.append_eq_nil.mp (List.flatten_cons ▸ hflat)).1
      (hc msg (List.mem_cons_self _ _))

/-- A `Read` of an in-memory byte stream that holds `pending`, as the io.Reader
contract allows it with a buffer of `bufLen` bytes: it returns the next bytes, at
most `bufLen` of them; while bytes remain at least one and no error, and once none
remain an error. -/
def PipeRead (bufLen : Nat) (pending : Bytes) (r : ReadResult) (rest : Bytes) : Prop :=
  r.data ++ rest = pending ∧ r.data.length ≤ bufLen ∧
    (pending ≠ [] → r.data ≠ [] ∧ r.err = none) ∧ (pending = [] → r.err ≠ none)

instance (bufLen : Nat) (pending : Bytes) (r : ReadResult) (rest : Bytes) :
    Decidable (PipeRead bufLen pending r rest) :=
  inferInstanceAs (Decidable (_ ∧ _ ∧ _ ∧ _))

/-- With no empty message to come, every `Read` with a non-empty buffer, against
message readers that end with a read returning `(0, io.EOF)`, is a read of an
in-memory byte stream holding the pending bytes, and leaves no empty message to
come. -/
theorem read_refines_pipeRead {c : WsNetConn} (hc : ∀ m ∈ c.inbox, m ≠ []) {bufLen : Nat}
    (hbuf : 0 < bufLen) {choice : ReadChoice} (hchoice : choice.withEof = false) :
    PipeRead bufLen c.pending (c.read bufLen choice).1 (c.read bufLen choice).2.pending ∧
      ∀ m ∈ (c.read bufLen choice).2.inbox, m ≠ [] :=
  ⟨⟨read_conserves c bufLen choice, read_data_length_le c bufLen choice,
      fun hpend => read_progress hc hpend hbuf hchoice,
      fun hpend => by rw [read_err_of_pending_nil hc hpend]; exact Option.some_ne_none _⟩,
    fun m hm => hc m ((read_inbox_suffix c bufLen choice).subset hm)⟩

theorem read_refines_pipeRead_two_messages :
    (∀ m ∈ (newWSNetConn [[65, 66], [67]]).inbox, m ≠ []) ∧ 0 < 1 ∧
      (⟨1, false⟩ : ReadChoice).withEof = false ∧
      (PipeRead 1 (newWSNetConn [[65, 66], [67]]).pending
          ((newWSNetConn [[65, 66], [67]]).read 1 ⟨1, false⟩).1
          ((newWSNetConn [[65, 66], [67]]).read 1 ⟨1, false⟩).2.pending ∧
        ∀ m ∈ ((newWSNetConn [[65, 66], [67]]).read 1 ⟨1, false⟩).2.inbox, m ≠ []) :=
  ⟨by decide, Nat.one_pos, rfl, read_refines_pipeRead (by decide) Nat.one_pos rfl⟩

/-- The calls of a run all use a non-empty buffer, against message readers that
report io.EOF only on a read returning no bytes. -/
def PlainCalls (calls : List (Nat × ReadChoice)) : Prop :=
  ∀ call ∈ calls, 0 < call.1 ∧ call.2.withEof = false

instance (calls : List (Nat × ReadChoice)) : Decidable (PlainCalls calls) :=
  inferInstanceAs (Decidable (∀ call ∈ calls, _))

/-- A run of `Read` calls at least as long as the pending stream drains it. -/
theorem readAll_drains {c : WsNetConn} (hc : ∀ m ∈ c.inbox, m ≠ [])
    {calls : List (Nat × ReadChoice)} (hcalls : PlainCalls calls)
    (hlen : c.pending.length ≤ calls.length) :
    (c.readAll calls).2.pending = [] := by
  induction calls generalizing c with
  | nil => exact List.length_eq_zero.mp (Nat.le_zero.mp hlen)
  | cons call calls ih =>
      obtain ⟨bufLen, choice⟩ := call
      obtain ⟨hbuf, hchoice⟩ : 0 < bufLen ∧ choice.withEof = false :=
        hcalls _ (List.mem_cons_self _ _)
      have hlen' := congrArg List.length (read_conserves c bufLen choice)
      rw [List.length_append] at hlen'
      simp only [List.length_cons] at hlen
      refine ih (fun m hm => hc m ((read_inbox_suffix c bufLen choice).subset hm))
        (fun call h => hcalls call (List.mem_cons_of_mem _ h)) ?_
      rcases eq_or_ne c.pending [] with hpend | hpend
      · rw [hpend, List.length_nil] at hlen'
        omega
      · have := List.length_pos.mpr (read_progress hc hpend hbuf hchoice).1
        omega

/-- In such a run an error comes only once every pending byte has been returned. -/
theorem readAll_err_after_drained {c : WsNetConn} (hc : ∀ m ∈ c.inbox, m ≠ [])
    {calls : List (Nat × ReadChoice)} (hcalls : PlainCalls calls) {i : Nat} {r : ReadResult}
    (hr : (c.readAll calls).1[i]? = some r) (herr : r.err ≠ none) :
    ((c.readAll calls).1.take i).flatMap ReadResult.data = c.pending := by
  induction calls generalizing c i with
  | nil => cases hr
  | cons call calls ih =>
      obtain ⟨bufLen, choice⟩ := call
      obtain ⟨hbuf, hchoice⟩ : 0 < bufLen ∧ choice.withEof = false :=
        hcalls _ (List.mem_cons_self _ _)
      cases i with
      | zero =>
          simp only [readAll, List.getElem?_cons_zero, Option.some.injEq] at hr
          subst hr
          by_contra hpend
          exact herr (read_progress hc (Ne.symm hpend) hbuf hchoice).2
      | succ i =>
          simp only [readAll, List.getElem?_cons_succ] at hr
          simp only [readAll, List.take_succ_cons, List.flatMap_cons]
          rw [ih (fun m hm => hc m ((read_inbox_suffix c bufLen choice).subset hm))
            (fun call h => hcalls call (List.mem_cons_of_mem _ h)) hr, read_conserves]

/-- With no empty message, non-empty buffers, and message readers that end with
a read returning `(0, io.EOF)`, `Read` calls deliver the whole concatenation of
the messages once there are as many calls as bytes, and no call fails before
every byte has been returned. -/
theorem readAll_delivers_stream (msgs : List Bytes) (hmsgs : ∀ m ∈ msgs, m ≠ [])
    (calls : List (Nat × ReadChoice)) (hcalls : PlainCalls calls)
    (hlen : msgs.flatten.length ≤ calls.length) :
    ((newWSNetConn msgs).readAll calls).1.flatMap ReadResult.data = msgs.flatten ∧
      ∀ i r, ((newWSNetConn msgs).readAll calls).1[i]? = some r → r.err ≠ none →
        (((newWSNetConn msgs).readAll calls).1.take i).flatMap ReadResult.data = msgs.flatten := by
  have hconn : ∀ m ∈ (newWSNetConn msgs).inbox, m ≠ [] := hmsgs
  refine ⟨?_, fun i r hr herr => ?_⟩
  · have hdrain := readAll_drains hconn hcalls (by simpa using hlen)
    simpa [hdrain] using readAll_conserves (newWSNetConn msgs) calls
  · simpa using readAll_err_after_drained hconn hcalls hr herr

/-- `n` calls of `Read` with a one-byte buffer. -/
def byteReads (n : Nat) : List (Nat × ReadChoice) := List.replicate n (1, ⟨1, false⟩)

theorem readAll_delivers_stream_byte_reads :
    (∀ m ∈ [[65, 66], [67]], m ≠ ([] : Bytes)) ∧ PlainCalls (byteReads 3) ∧
      [[65, 66], [67]].flatten.length ≤ (byteReads 3).length ∧
      (((newWSNetConn [[65, 66], [67]]).readAll (byteReads 3)).1.flatMap ReadResult.data =
          [[65, 66], [67]].flatten ∧
        ∀ i r, ((newWSNetConn [[65, 66], [67]]).readAll (byteReads 3)).1[i]? = some r →
          r.err ≠ none →
          (((newWSNetConn [[65, 66], [67]]).readAll (byteReads 3)).1.take i).flatMap
            ReadResult.data = [[65, 66], [67]].flatten) :=
  ⟨by decide, by decide, by decide,
    readAll_delivers_stream [[65, 66], [67]] (by decide) _ (by decide) (by decide)⟩

/-- `wsNetConn.Write(b)`, with the error `ws.Write` returns: what the call returns,
and the binary messages sent on the connection, `sent` before it. -/
def write (sent : List Bytes) (b : Bytes) (err : Option GoError) :
    (Nat × Option GoError) × List Bytes :=
  match err with
  | some e => ((0, some e), sent)
  | none => ((b.length, none), sent ++ [b])

/-- Successive `Write` calls, each with its buffer and the error of `ws.Write`. -/
def writeAll (sent : List Bytes) : List (Bytes × Option GoError) →
    List (Nat × Option GoError) × List Bytes
  | [] => ([], sent)
  | (b, err) :: writes =>
      let step := write sent b err
      let rest := writeAll step.2 writes
      (step.1 :: rest.1, rest.2)

/-- The bytes of the `Write` calls that succeeded, in order. -/
def written (writes : List (Bytes × Option GoError)) : Bytes :=
  (writes.filter fun w => w.2.isNone).flatMap Prod.fst

/-- A `Write` returns `len(b)` and sends `b` as one message, or returns its error
and sends nothing. -/
theorem writeAll_eq (sent : List Bytes) (writes : List (Bytes × Option GoError)) :
    writeAll sent writes =
      (writes.map fun w => (if w.2.isNone then w.1.length else 0, w.2),
        sent ++ (writes.filter fun w => w.2.isNone).map Prod.fst) := by
  induction writes generalizing sent with
  | nil => simp [writeAll]
  | cons w writes ih =>
      obtain ⟨b, _ | e⟩ := w <;> simp [writeAll, write, ih]

/-- Writes that all succeed or fail whole, delivered in order to a peer adapter,
come out of its `Read` calls as the bytes of the successful ones. -/
theorem write_read_round_trip (writes : List (Bytes × Option GoError))
    (hwrites : ∀ w ∈ writes, w.2 = none → w.1 ≠ []) (calls : List (Nat × ReadChoice))
    (hcalls : PlainCalls calls) (hlen : (written writes).length ≤ calls.length) :
    (writeAll [] writes).1 = writes.map (fun w => (if w.2.isNone then w.1.length else 0, w.2)) ∧
      ((newWSNetConn (writeAll [] writes).2).readAll calls).1.flatMap ReadResult.data =
        written writes := by
  have hsent : (writeAll [] writes).2.flatten = written writes := by
    rw [writeAll_eq]
    rfl
  have hconn : ∀ m ∈ (newWSNetConn (writeAll [] writes).2).inbox, m ≠ [] := by
    intro m hm
    simp only [newWSNetConn, writeAll_eq, List.nil_append, List.mem_map, List.mem_filter] at hm
    obtain ⟨w, ⟨hw, hnone⟩, rfl⟩ := hm
    exact hwrites w hw (Option.isNone_iff_eq_none.mp hnone)
  have hpend : (newWSNetConn (writeAll [] writes).2).pending = written writes := by
    rw [pending_newWSNetConn, hsent]
  refine ⟨by rw [writeAll_eq], ?_⟩
  have hdrain := readAll_drains hconn hcalls (hpend ▸ hlen)
  simpa [hdrain, hpend] using readAll_conserves (newWSNetConn (writeAll [] writes).2) calls

/-- Two writes that reach the peer around one that `ws.Write` refused. -/
def writesAroundFailure : List (Bytes × Option GoError) :=
  [([65, 66], none), ([67], some (.new (lit "failed to write msg"))), ([68], none)]

theorem write_read_round_trip_around_failure :
    (∀ w ∈ writesAroundFailure, w.2 = none → w.1 ≠ []) ∧ PlainCalls (byteReads 3) ∧
      (written writesAroundFailure).length ≤ (byteReads 3).length ∧
      ((writeAll [] writesAroundFailure).1 = writesAroundFailure.map
          (fun w => (if w.2.isNone then w.1.length else 0, w.2)) ∧
        ((newWSNetConn (writeAll [] writesAroundFailure).2).readAll (byteReads 3)).1.flatMap
          ReadResult.data = written writesAroundFailure) :=
  ⟨by decide, by decide, by decide,
    write_read_round_trip writesAroundFailure (by decide) (byteReads 3) (by decide) (by decide)⟩

end WsNetConn

end ProviderOrchard
