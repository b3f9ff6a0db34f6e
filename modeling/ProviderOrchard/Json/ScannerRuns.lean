/-
Runs of the scanner that never fail.  `checkValid` counts each byte before it
steps it; the decoder steps the same scanner without counting.  The count only
reaches the offsets of errors, so what the scanner answers does not depend on it,
and an input `checkValid` accepts is accepted from the decoder's start as well.
Every step has one of a few shapes (`StepShape`); from them, over an accepted
run, no error is recorded, the top level ends only with the stack empty, and the
stack moves by one push, one pop or one change of its innermost entry at a time.
-/
import ProviderOrchard.Json.Scanner

namespace ProviderOrchard

namespace Json

/-! ### The byte count -/

/-- The scanner with its byte count, and so the offset of a recorded error, set to `n`. -/
def Scanner.setBytes (n : Nat) (s : Scanner) : Scanner :=
  { s with bytes := n, err := s.err.map fun e => { e with offset := n } }

@[simp] theorem Scanner.setBytes_endTop (n : Nat) (s : Scanner) : (s.setBytes n).endTop = s.endTop := rfl

@[simp] theorem Scanner.setBytes_step (n : Nat) (s : Scanner) : (s.setBytes n).step = s.step := rfl

theorem Scanner.setBytes_withStep (n : Nat) (s : Scanner) (x : StepFn) :
    ({ s.setBytes n with step := x } : Scanner) = { s with step := x }.setBytes n := rfl

theorem Scanner.setBytes_withParseState (n : Nat) (s : Scanner) (ps : List ParseState) :
    ({ s.setBytes n with parseState := ps } : Scanner) = { s with parseState := ps }.setBytes n := rfl

theorem Scanner.setBytes_setBytes (m n : Nat) (s : Scanner) : (s.setBytes n).setBytes m = s.setBytes m := by
  cases s with
  | mk step endTop ps err bytes => cases err <;> rfl

theorem Scanner.setBytes_withBytes (n k : Nat) (s : Scanner) :
    ({ s with bytes := k } : Scanner).setBytes n = s.setBytes n := rfl

theorem Scanner.error_setBytes (n : Nat) (s : Scanner) (c : UInt8) (context : Bytes) :
    (s.setBytes n).error c context = Prod.map (Scanner.setBytes n) id (s.error c context) := rfl

theorem Scanner.pushParseState_setBytes (n : Nat) (s : Scanner) (c : UInt8) (p : ParseState)
    (op : ScanOp) :
    (s.setBytes n).pushParseState c p op = Prod.map (Scanner.setBytes n) id (s.pushParseState c p op) := by
  simp only [Scanner.pushParseState, apply_ite (Prod.map (Scanner.setBytes n) id), Scanner.error_setBytes]
  rfl

theorem Scanner.popParseState_setBytes (n : Nat) (s : Scanner) :
    (s.setBytes n).popParseState = s.popParseState.setBytes n := by
  simp only [Scanner.popParseState, apply_ite (Scanner.setBytes n)]
  rfl

theorem stateEndValue_setBytes (n : Nat) (s : Scanner) (c : UInt8) :
    stateEndValue (s.setBytes n) c = Prod.map (Scanner.setBytes n) id (stateEndValue s c) := by
  rcases s with ⟨st, e, _ | ⟨_ | _ | _, ps⟩, err, k⟩ <;>
  simp only [stateEndValue, stateEndTop, Scanner.popParseState_setBytes,
    apply_ite (Prod.map (Scanner.setBytes n) id), Scanner.error_setBytes] <;> rfl

/-- A step answers the same whatever the count; the count of its scanner is kept. -/
theorem StepFn.apply_setBytes (n : Nat) (f : StepFn) (s : Scanner) (c : UInt8) :
    f.apply (s.setBytes n) c = Prod.map (Scanner.setBytes n) id (f.apply s c) := by
  cases f <;>
  simp only [StepFn.apply, Json.stateBeginValueOrEmpty, Json.stateBeginValue,
    Json.stateBeginStringOrEmpty, Json.stateBeginString, Json.stateEndTop, Json.stateInString,
    Json.stateInStringEsc, Json.stateInStringEscU, Json.stateInStringEscU1, Json.stateInStringEscU12,
    Json.stateInStringEscU123, Json.stateEscHex, Json.stateNeg, Json.state1, Json.state0,
    Json.stateDot, Json.stateDot0, Json.stateE, Json.stateESign, Json.stateE0, Json.stateT,
    Json.stateTr, Json.stateTru, Json.stateF, Json.stateFa, Json.stateFal, Json.stateFals,
    Json.stateN, Json.stateNu, Json.stateNul, Json.stateLiteralByte, Json.stateError,
    apply_ite (Prod.map (Scanner.setBytes n) id), Scanner.error_setBytes,
    Scanner.pushParseState_setBytes, stateEndValue_setBytes, Scanner.setBytes_withStep,
    Scanner.setBytes_withParseState] <;> rfl

theorem Scanner.eof_setBytes (n : Nat) (s : Scanner) :
    (s.setBytes n).eof = Prod.map (Scanner.setBytes n) id s.eof := by
  have herr : (s.setBytes n).err.isSome = s.err.isSome := by
    show (s.err.map _).isSome = _
    cases s.err <;> rfl
  have happly : (s.setBytes n).step.apply (s.setBytes n) 0x20 = _ := StepFn.apply_setBytes n s.step s 0x20
  unfold Scanner.eof
  dsimp only
  rw [herr, Scanner.setBytes_endTop, happly, Prod.map_fst, Scanner.setBytes_endTop]
  by_cases h1 : s.err.isSome
  · rw [if_pos h1, if_pos h1]
    rfl
  rw [if_neg h1, if_neg h1]
  by_cases h2 : s.endTop
  · rw [if_pos h2, if_pos h2]
    rfl
  rw [if_neg h2, if_neg h2]
  by_cases h3 : (s.step.apply s 0x20).1.endTop
  · rw [if_pos h3, if_pos h3]
    rfl
  rw [if_neg h3, if_neg h3]
  rcases (s.step.apply s 0x20).1 with ⟨st, e, ps, _ | err, k⟩ <;> rfl

/-! ### Accepted runs -/

/-- The scanner accepts `rest` from `s`: no byte is an error, and the input may end
after it. -/
def Scanner.Accepts (s : Scanner) : Bytes → Prop
  | [] => s.eof.2 ≠ .scanError
  | c :: rest => (s.step.apply s c).2 ≠ .scanError ∧ (s.step.apply s c).1.Accepts rest

instance Scanner.decAccepts : (s : Scanner) → (rest : Bytes) → Decidable (s.Accepts rest)
  | s, [] => inferInstanceAs (Decidable (s.eof.2 ≠ .scanError))
  | s, c :: rest =>
    have := Scanner.decAccepts (s.step.apply s c).1 rest
    inferInstanceAs (Decidable (_ ∧ _))

theorem Scanner.accepts_cons (s : Scanner) (c : UInt8) (rest : Bytes) :
    s.Accepts (c :: rest) ↔ (s.step.apply s c).2 ≠ .scanError ∧ (s.step.apply s c).1.Accepts rest :=
  Iff.rfl

theorem Scanner.accepts_setBytes (n : Nat) (s : Scanner) (rest : Bytes) :
    (s.setBytes n).Accepts rest ↔ s.Accepts rest := by
  induction rest generalizing s with
  | nil =>
    show (s.setBytes n).eof.2 ≠ _ ↔ s.eof.2 ≠ _
    rw [Scanner.eof_setBytes]
    rfl
  | cons c rest ih =>
    show ((s.setBytes n).step.apply (s.setBytes n) c).2 ≠ _ ∧ _ ↔ _
    rw [StepFn.apply_setBytes]
    exact and_congr Iff.rfl (ih _)

/-- Only what the scanner answers matters to acceptance, so two scanners equal up to
the count accept the same inputs. -/
theorem Scanner.accepts_iff_of_setBytes_eq {s t : Scanner} (h : s.setBytes 0 = t.setBytes 0)
    (rest : Bytes) : s.Accepts rest ↔ t.Accepts rest := by
  rw [← Scanner.accepts_setBytes 0 s, h, Scanner.accepts_setBytes]

/-- A counted step answers as the uncounted one, and leaves the same scanner up to
the count. -/
theorem StepFn.apply_withBytes (s : Scanner) (c : UInt8) :
    (s.step.apply { s with bytes := s.bytes + 1 } c).2 = (s.step.apply s c).2 ∧
      (s.step.apply { s with bytes := s.bytes + 1 } c).1.setBytes 0 =
        (s.step.apply s c).1.setBytes 0 := by
  have hstep : Prod.map (Scanner.setBytes 0) id (s.step.apply { s with bytes := s.bytes + 1 } c) =
      Prod.map (Scanner.setBytes 0) id (s.step.apply s c) := by
    rw [← StepFn.apply_setBytes, ← StepFn.apply_setBytes, Scanner.setBytes_withBytes]
  exact ⟨by simpa only [Prod.map_snd, id] using congrArg Prod.snd hstep,
    by simpa only [Prod.map_fst] using congrArg Prod.fst hstep⟩

/-- A counted run that ends without error is an accepted run. -/
theorem Scanner.accepts_of_scanBytes {s s' : Scanner} {data : Bytes} (h : s.scanBytes data = .ok s')
    (heof : s'.eof.2 ≠ .scanError) : s.Accepts data := by
  induction data generalizing s with
  | nil =>
    cases h
    exact heof
  | cons c rest ih =>
    obtain ⟨hop, hnext⟩ := StepFn.apply_withBytes s c
    unfold Scanner.scanBytes at h
    by_cases herr : (s.step.apply { s with bytes := s.bytes + 1 } c).2 = .scanError
    · rw [if_pos herr] at h
      cases h
    rw [if_neg herr] at h
    exact ⟨hop ▸ herr, (Scanner.accepts_iff_of_setBytes_eq hnext rest).mp (ih h)⟩

/-- An accepted run is a counted run that ends without error. -/
theorem Scanner.scanBytes_of_accepts {data : Bytes} {s : Scanner} (h : s.Accepts data) :
    ∃ s', s.scanBytes data = .ok s' ∧ s'.eof.2 ≠ .scanError := by
  induction data generalizing s with
  | nil => exact ⟨s, rfl, h⟩
  | cons c rest ih =>
    obtain ⟨hop, hnext⟩ := StepFn.apply_withBytes s c
    obtain ⟨s', hs', heof⟩ := ih ((Scanner.accepts_iff_of_setBytes_eq hnext rest).mpr h.2)
    refine ⟨s', ?_, heof⟩
    unfold Scanner.scanBytes
    rw [if_neg (hop ▸ h.1)]
    exact hs'

/-- What a fresh scanner accepts, `checkValid` accepts. -/
theorem checkValid_of_accepts {data : Bytes} (h : Scanner.init.Accepts data) : checkValid data = .ok () := by
  obtain ⟨s, hs, heof⟩ := Scanner.scanBytes_of_accepts h
  unfold checkValid
  rw [hs]
  exact if_neg heof

/-- What `checkValid` accepts, the decoder's scanner accepts: it starts as a fresh
scanner whose count is the input's length. -/
theorem accepts_of_checkValid {data : Bytes} (h : checkValid data = .ok ()) (n : Nat) :
    ({ Scanner.init with bytes := n } : Scanner).Accepts data := by
  unfold checkValid at h
  split at h
  · cases h
  rename_i s hs
  have heof : s.eof.2 ≠ .scanError := fun he => by rw [if_pos he] at h; cases h
  exact (Scanner.accepts_iff_of_setBytes_eq (Scanner.setBytes_withBytes 0 n Scanner.init) data).mpr
    (Scanner.accepts_of_scanBytes hs heof)

/-! ### What one step can do -/

@[simp] theorem Scanner.error_endTop (s : Scanner) (c : UInt8) (context : Bytes) :
    (s.error c context).1.endTop = s.endTop := rfl

@[simp] theorem Scanner.error_parseState (s : Scanner) (c : UInt8) (context : Bytes) :
    (s.error c context).1.parseState = s.parseState := rfl

@[simp] theorem Scanner.error_err_isSome (s : Scanner) (c : UInt8) (context : Bytes) :
    (s.error c context).1.err.isSome = true := rfl

@[simp] theorem Scanner.pushParseState_endTop (s : Scanner) (c : UInt8) (p : ParseState) (op : ScanOp) :
    (s.pushParseState c p op).1.endTop = s.endTop := by
  unfold Scanner.pushParseState
  dsimp only
  split <;> rfl

@[simp] theorem Scanner.pushParseState_parseState (s : Scanner) (c : UInt8) (p : ParseState)
    (op : ScanOp) : (s.pushParseState c p op).1.parseState = p :: s.parseState := by
  unfold Scanner.pushParseState
  dsimp only
  split <;> rfl

theorem Scanner.pushParseState_err_isSome (s : Scanner) (c : UInt8) (p : ParseState) (op : ScanOp)
    (h : s.err.isSome) : (s.pushParseState c p op).1.err.isSome := by
  unfold Scanner.pushParseState
  dsimp only
  split
  · exact h
  · rfl

theorem Scanner.popParseState_of_tail_eq {s : Scanner} (h : s.parseState.tail = []) :
    s.popParseState = { s with parseState := [], step := .stateEndTop, endTop := true } := if_pos h

theorem Scanner.popParseState_of_tail_ne {s : Scanner} (h : s.parseState.tail ≠ []) :
    s.popParseState = { s with parseState := s.parseState.tail, step := .stateEndValue } := if_neg h

@[simp] theorem Scanner.popParseState_parseState (s : Scanner) :
    s.popParseState.parseState = s.parseState.tail := by
  by_cases h : s.parseState.tail = []
  · rw [Scanner.popParseState_of_tail_eq h, h]
  · rw [Scanner.popParseState_of_tail_ne h]

@[simp] theorem Scanner.popParseState_err (s : Scanner) : s.popParseState.err = s.err := by
  unfold Scanner.popParseState
  split <;> rfl

/-- The shapes of a step's result, from the scanner `s` it reads and the byte `c`. -/
inductive StepShape (s : Scanner) (c : UInt8) : Scanner × ScanOp → Prop
  /-- Only the step function changes. -/
  | move (x : StepFn) (op : ScanOp) : StepShape s c ({ s with step := x }, op)
  /-- `s.error`: the error is recorded at this byte. -/
  | error (context : Bytes) : StepShape s c (s.error c context)
  /-- `stateEndTop`'s error, answered with `scanEnd`. -/
  | errorEnd (context : Bytes) : StepShape s c ((s.error c context).1, .scanEnd)
  /-- `pushParseState` after a change of step function. -/
  | push (x : StepFn) (p : ParseState) (op : ScanOp) :
      StepShape s c (Scanner.pushParseState { s with step := x } c p op)
  /-- The innermost entry of the stack replaced. -/
  | replace {p : ParseState} {rest : List ParseState} (hps : s.parseState = p :: rest)
      (y : ParseState) (x : StepFn) (op : ScanOp) :
      StepShape s c ({ s with parseState := y :: rest, step := x }, op)
  /-- `popParseState`, at a closing brace or bracket. -/
  | pop (hc : c = 0x7D ∨ c = 0x5D) (op : ScanOp) : StepShape s c (s.popParseState, op)
  /-- The top-level value ends: `stateEndValue` with nothing open. -/
  | endTop (hps : s.parseState = []) :
      StepShape s c (stateEndTop { s with step := .stateEndTop, endTop := true } c)

theorem StepShape.ite {s : Scanner} {c : UInt8} {p : Prop} [Decidable p] {a b : Scanner × ScanOp}
    (ha : p → StepShape s c a) (hb : ¬p → StepShape s c b) : StepShape s c (if p then a else b) := by
  by_cases h : p
  · rw [if_pos h]
    exact ha h
  · rw [if_neg h]
    exact hb h

theorem stateEndTop_shape (s : Scanner) (c : UInt8) : StepShape s c (stateEndTop s c) := by
  unfold stateEndTop
  exact .ite (fun _ => .move s.step _) fun _ => .errorEnd _

theorem stateEndValue_shape (s : Scanner) (c : UInt8) : StepShape s c (stateEndValue s c) := by
  unfold stateEndValue
  split
  · exact .endTop ‹_›
  · rename_i p rest hps
    refine .ite (fun _ => .move _ _) fun _ => ?_
    cases p
    · exact .ite (fun _ => .replace hps _ _ _) fun _ => .error _
    · exact .ite (fun _ => .replace hps _ _ _) fun _ =>
        .ite (fun h => .pop (.inl h) _) fun _ => .error _
    · exact .ite (fun _ => .move _ _) fun _ => .ite (fun h => .pop (.inr h) _) fun _ => .error _

theorem stateBeginValue_shape (s : Scanner) (c : UInt8) : StepShape s c (stateBeginValue s c) := by
  unfold stateBeginValue
  exact .ite (fun _ => .move s.step _) fun _ => .ite (fun _ => .push _ _ _) fun _ =>
    .ite (fun _ => .push _ _ _) fun _ => .ite (fun _ => .move _ _) fun _ =>
    .ite (fun _ => .move _ _) fun _ => .ite (fun _ => .move _ _) fun _ =>
    .ite (fun _ => .move _ _) fun _ => .ite (fun _ => .move _ _) fun _ =>
    .ite (fun _ => .move _ _) fun _ => .ite (fun _ => .move _ _) fun _ => .error _

theorem stateBeginValueOrEmpty_shape (s : Scanner) (c : UInt8) :
    StepShape s c (stateBeginValueOrEmpty s c) := by
  unfold stateBeginValueOrEmpty
  exact .ite (fun _ => .move s.step _) fun _ =>
    .ite (fun _ => stateEndValue_shape s c) fun _ => stateBeginValue_shape s c

theorem stateBeginString_shape (s : Scanner) (c : UInt8) : StepShape s c (stateBeginString s c) := by
  unfold stateBeginString
  exact .ite (fun _ => .move s.step _) fun _ => .ite (fun _ => .move _ _) fun _ => .error _

/-- `}` right after `{` closes the object as `,` then `}` would. -/
theorem stateEndValue_emptyObject (s : Scanner) :
    stateEndValue { s with parseState := .parseObjectValue :: s.parseState.tail } 0x7D =
      (s.popParseState, .scanEndObject) := rfl

theorem stateBeginStringOrEmpty_shape (s : Scanner) (c : UInt8) :
    StepShape s c (stateBeginStringOrEmpty s c) := by
  unfold stateBeginStringOrEmpty
  refine .ite (fun _ => .move s.step _) fun _ => .ite (fun h => ?_) fun _ => stateBeginString_shape s c
  subst h
  rw [stateEndValue_emptyObject]
  exact .pop (.inl rfl) _

theorem stateInString_shape (s : Scanner) (c : UInt8) : StepShape s c (stateInString s c) := by
  unfold stateInString
  exact .ite (fun _ => .move _ _) fun _ => .ite (fun _ => .move _ _) fun _ =>
    .ite (fun _ => .error _) fun _ => .move s.step _

theorem stateInStringEsc_shape (s : Scanner) (c : UInt8) : StepShape s c (stateInStringEsc s c) := by
  unfold stateInStringEsc
  exact .ite (fun _ => .move _ _) fun _ => .ite (fun _ => .move _ _) fun _ => .error _

theorem stateEscHex_shape (next : StepFn) (s : Scanner) (c : UInt8) :
    StepShape s c (stateEscHex next s c) := by
  unfold stateEscHex
  exact .ite (fun _ => .move _ _) fun _ => .error _

theorem stateNeg_shape (s : Scanner) (c : UInt8) : StepShape s c (stateNeg s c) := by
  unfold stateNeg
  exact .ite (fun _ => .move _ _) fun _ => .ite (fun _ => .move _ _) fun _ => .error _

theorem state0_shape (s : Scanner) (c : UInt8) : StepShape s c (state0 s c) := by
  unfold state0
  exact .ite (fun _ => .move _ _) fun _ => .ite (fun _ => .move _ _) fun _ => stateEndValue_shape s c

theorem state1_shape (s : Scanner) (c : UInt8) : StepShape s c (state1 s c) := by
  unfold state1
  exact .ite (fun _ => .move s.step _) fun _ => state0_shape s c

theorem stateDot_shape (s : Scanner) (c : UInt8) : StepShape s c (stateDot s c) := by
  unfold stateDot
  exact .ite (fun _ => .move _ _) fun _ => .error _

theorem stateDot0_shape (s : Scanner) (c : UInt8) : StepShape s c (stateDot0 s c) := by
  unfold stateDot0
  exact .ite (fun _ => .move s.step _) fun _ => .ite (fun _ => .move _ _) fun _ =>
    stateEndValue_shape s c

theorem stateESign_shape (s : Scanner) (c : UInt8) : StepShape s c (stateESign s c) := by
  unfold stateESign
  exact .ite (fun _ => .move _ _) fun _ => .error _

theorem stateE_shape (s : Scanner) (c : UInt8) : StepShape s c (stateE s c) := by
  unfold stateE
  exact .ite (fun _ => .move _ _) fun _ => stateESign_shape s c

theorem stateE0_shape (s : Scanner) (c : UInt8) : StepShape s c (stateE0 s c) := by
  unfold stateE0
  exact .ite (fun _ => .move s.step _) fun _ => stateEndValue_shape s c

theorem stateLiteralByte_shape (expected : UInt8) (next : StepFn) (context : Bytes) (s : Scanner)
    (c : UInt8) : StepShape s c (stateLiteralByte expected next context s c) := by
  unfold stateLiteralByte
  exact .ite (fun _ => .move _ _) fun _ => .error _

/-- Every step has one of the shapes. -/
theorem StepFn.apply_shape : (f : StepFn) → (s : Scanner) → (c : UInt8) → StepShape s c (f.apply s c)
  | .stateBeginValueOrEmpty, s, c => stateBeginValueOrEmpty_shape s c
  | .stateBeginValue, s, c => stateBeginValue_shape s c
  | .stateBeginStringOrEmpty, s, c => stateBeginStringOrEmpty_shape s c
  | .stateBeginString, s, c => stateBeginString_shape s c
  | .stateEndValue, s, c => stateEndValue_shape s c
  | .stateEndTop, s, c => stateEndTop_shape s c
  | .stateInString, s, c => stateInString_shape s c
  | .stateInStringEsc, s, c => stateInStringEsc_shape s c
  | .stateInStringEscU, s, c => stateEscHex_shape _ s c
  | .stateInStringEscU1, s, c => stateEscHex_shape _ s c
  | .stateInStringEscU12, s, c => stateEscHex_shape _ s c
  | .stateInStringEscU123, s, c => stateEscHex_shape _ s c
  | .stateNeg, s, c => stateNeg_shape s c
  | .state1, s, c => state1_shape s c
  | .state0, s, c => state0_shape s c
  | .stateDot, s, c => stateDot_shape s c
  | .stateDot0, s, c => stateDot0_shape s c
  | .stateE, s, c => stateE_shape s c
  | .stateESign, s, c => stateESign_shape s c
  | .stateE0, s, c => stateE0_shape s c
  | .stateT, s, c => stateLiteralByte_shape _ _ _ s c
  | .stateTr, s, c => stateLiteralByte_shape _ _ _ s c
  | .stateTru, s, c => stateLiteralByte_shape _ _ _ s c
  | .stateF, s, c => stateLiteralByte_shape _ _ _ s c
  | .stateFa, s, c => stateLiteralByte_shape _ _ _ s c
  | .stateFal, s, c => stateLiteralByte_shape _ _ _ s c
  | .stateFals, s, c => stateLiteralByte_shape _ _ _ s c
  | .stateN, s, c => stateLiteralByte_shape _ _ _ s c
  | .stateNu, s, c => stateLiteralByte_shape _ _ _ s c
  | .stateNul, s, c => stateLiteralByte_shape _ _ _ s c
  | .stateError, s, _ => .move s.step _

/-! ### What an accepted run keeps -/

theorem StepShape.err_isSome {s : Scanner} {c : UInt8} {r : Scanner × ScanOp} (h : StepShape s c r)
    (herr : s.err.isSome) : r.1.err.isSome := by
  cases h with
  | move | replace => exact herr
  | error | errorEnd => rfl
  | push => exact Scanner.pushParseState_err_isSome _ _ _ _ herr
  | pop => rwa [Scanner.popParseState_err]
  | endTop =>
    unfold stateEndTop
    split
    · exact herr
    · rfl

/-- An accepted run records no error: a recorded error stays, and the input's end
reports it. -/
theorem Scanner.Accepts.err_eq_none {s : Scanner} {rest : Bytes} (h : s.Accepts rest) : s.err = none := by
  induction rest generalizing s with
  | nil =>
    cases herr : s.err with
    | none => rfl
    | some e =>
      refine absurd ?_ h
      unfold Scanner.eof
      rw [if_pos (by rw [herr]; rfl)]
  | cons c rest ih =>
    cases herr : s.err with
    | none => rfl
    | some e =>
      have hsome := (s.step.apply_shape s c).err_isSome (by rw [herr]; rfl)
      rw [ih h.2] at hsome
      cases hsome

/-- The top level has ended only with nothing open, and from then on only
`stateEndTop` or `stateError` steps. -/
def Scanner.TopClosed (s : Scanner) : Prop :=
  s.endTop = true → s.parseState = [] ∧ (s.step = .stateEndTop ∨ s.step = .stateError)

theorem Scanner.topClosed_of_endTop {s : Scanner} (h : s.endTop = false) : s.TopClosed :=
  fun ht => absurd (h ▸ ht) Bool.false_ne_true

theorem Scanner.TopClosed.endTop_eq_false {s : Scanner} (h : s.TopClosed)
    (hps : s.parseState ≠ []) : s.endTop = false :=
  Bool.eq_false_iff.mpr fun ht => hps (h ht).1

theorem StepShape.topClosed {s : Scanner} {c : UInt8} {r : Scanner × ScanOp} (h : StepShape s c r)
    (htop : s.endTop = false) : r.1.TopClosed := by
  intro htop'
  cases h with
  | move | replace | error | errorEnd | push => simp [htop] at htop'
  | pop =>
    by_cases ht : s.parseState.tail = []
    · rw [Scanner.popParseState_of_tail_eq ht]
      exact ⟨rfl, .inl rfl⟩
    · rw [Scanner.popParseState_of_tail_ne ht] at htop'
      simp [htop] at htop'
  | endTop hps =>
    unfold stateEndTop
    split
    · exact ⟨hps, .inl rfl⟩
    · exact ⟨hps, .inr rfl⟩

theorem Scanner.TopClosed.step {s : Scanner} (h : s.TopClosed) (c : UInt8) :
    (s.step.apply s c).1.TopClosed := by
  cases htop : s.endTop
  · exact (s.step.apply_shape s c).topClosed htop
  · obtain ⟨hps, hstep | hstep⟩ := h htop <;> rw [hstep]
    · show (stateEndTop s c).1.TopClosed
      unfold stateEndTop
      split
      · exact h
      · exact fun _ => ⟨hps, .inr rfl⟩
    · exact h

/-- A step leaves the stack as it was, pushes one entry, replaces the innermost one,
or pops it. -/
theorem StepShape.parseState {s : Scanner} {c : UInt8} {r : Scanner × ScanOp} (h : StepShape s c r) :
    r.1.parseState = s.parseState ∨ (∃ p, r.1.parseState = p :: s.parseState) ∨
      (∃ p rest y, s.parseState = p :: rest ∧ r.1.parseState = y :: rest) ∨ r.1 = s.popParseState := by
  cases h with
  | move | error | errorEnd => exact .inl rfl
  | push x p => exact .inr (.inl ⟨p, Scanner.pushParseState_parseState _ _ _ _⟩)
  | replace hps y => exact .inr (.inr (.inl ⟨_, _, y, hps, rfl⟩))
  | pop => exact .inr (.inr (.inr rfl))
  | endTop =>
    left
    unfold stateEndTop
    split <;> rfl

/-- Below the entries a step may touch, the stack is kept: over a suffix `O` under
a non-empty part, the part stays non-empty or the step pops down to `O`. -/
theorem StepShape.parseState_suffix {s : Scanner} {c : UInt8} {r : Scanner × ScanOp}
    (h : StepShape s c r) {P O : List ParseState} (hP : P ≠ []) (hps : s.parseState = P ++ O) :
    (∃ Q, Q ≠ [] ∧ r.1.parseState = Q ++ O) ∨ (r.1 = s.popParseState ∧ s.parseState.tail = O) := by
  rcases h.parseState with heq | ⟨p, heq⟩ | ⟨p, rest, y, hps', heq⟩ | hpop
  · exact .inl ⟨P, hP, heq.trans hps⟩
  · exact .inl ⟨p :: P, List.cons_ne_nil _ _, by rw [heq, hps]; rfl⟩
  · obtain ⟨p', P', rfl⟩ := List.exists_cons_of_ne_nil hP
    rw [hps, List.cons_append, List.cons.injEq] at hps'
    exact .inl ⟨y :: P', List.cons_ne_nil _ _, by rw [heq, ← hps'.2]; rfl⟩
  · by_cases ht : P.tail = []
    · exact .inr ⟨hpop, by rw [hps, List.tail_append_of_ne_nil hP, ht, List.nil_append]⟩
    · exact .inl ⟨P.tail, ht, by rw [hpop, Scanner.popParseState_parseState, hps,
        List.tail_append_of_ne_nil hP]⟩

/-- Whitespace ends the top level only where nothing is open. -/
theorem StepShape.endTop_of_space {s : Scanner} {r : Scanner × ScanOp} (h : StepShape s 0x20 r)
    (htop : s.endTop = false) (hps : s.parseState ≠ []) : r.1.endTop = false := by
  cases h with
  | move | replace | error | errorEnd | push => simpa using htop
  | pop hc => exact absurd hc (by decide)
  | endTop hps' => exact absurd hps' hps

/-- The input cannot end where whitespace would not end the top level. -/
theorem Scanner.not_accepts_nil_of_space {s : Scanner} (htop : s.endTop = false)
    (hspace : (s.step.apply s 0x20).1.endTop = false) : ¬ s.Accepts [] := by
  intro h
  apply h
  unfold Scanner.eof
  dsimp only
  rw [htop, hspace]
  split <;> rfl

/-- The input cannot end while an object or an array is open. -/
theorem Scanner.not_accepts_nil {s : Scanner} (htc : s.TopClosed) (hps : s.parseState ≠ []) :
    ¬ s.Accepts [] :=
  have htop : s.endTop = false := Bool.eq_false_iff.mpr fun ht => hps (htc ht).1
  Scanner.not_accepts_nil_of_space htop ((s.step.apply_shape s 0x20).endTop_of_space htop hps)

/-- `stateEndValue` does not read the step function. -/
theorem stateEndValue_withStep (s : Scanner) (x : StepFn) (c : UInt8) :
    stateEndValue { s with step := x } c = stateEndValue s c := by
  rcases s with ⟨st, e, _ | ⟨_ | _ | _, ps⟩, err, k⟩ <;> rfl

/-! ### Where the grammar branches -/

theorem Scanner.pushParseState_of_ne_error {s : Scanner} {c : UInt8} {p : ParseState} {op : ScanOp}
    (h : (s.pushParseState c p op).2 ≠ .scanError) :
    s.pushParseState c p op = ({ s with parseState := p :: s.parseState }, op) := by
  unfold Scanner.pushParseState at h ⊢
  dsimp only at h ⊢
  split
  · rfl
  · rw [if_neg ‹_›] at h
    exact absurd rfl h

/-- The first byte of a literal and the step function the scanner takes after it. -/
inductive LiteralStart : UInt8 → StepFn → Prop
  | string : LiteralStart 0x22 .stateInString
  | minus : LiteralStart 0x2D .stateNeg
  | zero : LiteralStart 0x30 .state0
  | digit {c : UInt8} (h1 : 0x31 ≤ c) (h9 : c ≤ 0x39) : LiteralStart c .state1
  | trueWord : LiteralStart 0x74 .stateT
  | falseWord : LiteralStart 0x66 .stateF
  | nullWord : LiteralStart 0x6E .stateN

theorem not_isSpace {c : UInt8} (hc : isSpace c = false) : ¬ isSpace c = true := by
  rw [hc]
  decide

/-- Where a value is expected, a byte that is neither whitespace nor an error opens an
object or an array, or begins a literal. -/
theorem stateBeginValue_cases {s : Scanner} {c : UInt8} (hc : isSpace c = false)
    (hop : (stateBeginValue s c).2 ≠ .scanError) :
    (c = 0x7B ∧ stateBeginValue s c =
      ({ s with step := .stateBeginStringOrEmpty, parseState := .parseObjectKey :: s.parseState },
        .scanBeginObject)) ∨
    (c = 0x5B ∧ stateBeginValue s c =
      ({ s with step := .stateBeginValueOrEmpty, parseState := .parseArrayValue :: s.parseState },
        .scanBeginArray)) ∨
    ∃ q, LiteralStart c q ∧ stateBeginValue s c = ({ s with step := q }, .scanBeginLiteral) := by
  unfold stateBeginValue at hop ⊢
  rw [if_neg (not_isSpace hc)] at hop ⊢
  by_cases hobj : c = 0x7B
  · rw [if_pos hobj] at hop ⊢
    exact .inl ⟨hobj, Scanner.pushParseState_of_ne_error hop⟩
  rw [if_neg hobj] at hop ⊢
  by_cases harr : c = 0x5B
  · rw [if_pos harr] at hop ⊢
    exact .inr (.inl ⟨harr, Scanner.pushParseState_of_ne_error hop⟩)
  rw [if_neg harr] at hop ⊢
  refine .inr (.inr ?_)
  by_cases h : c = 0x22
  · rw [if_pos h, h]
    exact ⟨_, .string, rfl⟩
  rw [if_neg h] at hop ⊢
  by_cases h : c = 0x2D
  · rw [if_pos h, h]
    exact ⟨_, .minus, rfl⟩
  rw [if_neg h] at hop ⊢
  by_cases h : c = 0x30
  · rw [if_pos h, h]
    exact ⟨_, .zero, rfl⟩
  rw [if_neg h] at hop ⊢
  by_cases h : c = 0x74
  · rw [if_pos h, h]
    exact ⟨_, .trueWord, rfl⟩
  rw [if_neg h] at hop ⊢
  by_cases h : c = 0x66
  · rw [if_pos h, h]
    exact ⟨_, .falseWord, rfl⟩
  rw [if_neg h] at hop ⊢
  by_cases h : c = 0x6E
  · rw [if_pos h, h]
    exact ⟨_, .nullWord, rfl⟩
  rw [if_neg h] at hop ⊢
  by_cases h : 0x31 ≤ c ∧ c ≤ 0x39
  · rw [if_pos h]
    exact ⟨_, .digit h.1 h.2, rfl⟩
  rw [if_neg h] at hop
  exact absurd rfl hop

/-- Where a key is expected, only its opening quote is no error. -/
theorem stateBeginString_cases {s : Scanner} {c : UInt8} (hc : isSpace c = false)
    (hop : (stateBeginString s c).2 ≠ .scanError) :
    c = 0x22 ∧ stateBeginString s c = ({ s with step := .stateInString }, .scanBeginLiteral) := by
  unfold stateBeginString at hop ⊢
  rw [if_neg (not_isSpace hc)] at hop ⊢
  by_cases h : c = 0x22
  · rw [if_pos h]
    exact ⟨h, rfl⟩
  rw [if_neg h] at hop
  exact absurd rfl hop

theorem stateBeginStringOrEmpty_cases {s : Scanner} {c : UInt8} (hc : isSpace c = false)
    (hop : (stateBeginStringOrEmpty s c).2 ≠ .scanError) :
    (c = 0x7D ∧ stateBeginStringOrEmpty s c = (s.popParseState, .scanEndObject)) ∨
    (c = 0x22 ∧ stateBeginStringOrEmpty s c = ({ s with step := .stateInString }, .scanBeginLiteral)) := by
  unfold stateBeginStringOrEmpty at hop ⊢
  rw [if_neg (not_isSpace hc)] at hop ⊢
  by_cases h : c = 0x7D
  · rw [if_pos h, h]
    exact .inl ⟨rfl, stateEndValue_emptyObject s⟩
  rw [if_neg h] at hop ⊢
  exact .inr (stateBeginString_cases hc hop)

theorem stateEndValue_space {s : Scanner} {c : UInt8} (hps : s.parseState ≠ []) (hc : isSpace c = true) :
    stateEndValue s c = ({ s with step := .stateEndValue }, .scanSkipSpace) := by
  obtain ⟨st, e, _ | ⟨p, ps⟩, err, k⟩ := s
  · exact absurd rfl hps
  · unfold stateEndValue
    dsimp only
    rw [if_pos hc]

/-- After a key, only `:` is no error. -/
theorem stateEndValue_objectKey {s : Scanner} {O : List ParseState} {c : UInt8}
    (hps : s.parseState = .parseObjectKey :: O) (hc : isSpace c = false)
    (hop : (stateEndValue s c).2 ≠ .scanError) :
    c = 0x3A ∧ stateEndValue s c =
      ({ s with parseState := .parseObjectValue :: O, step := .stateBeginValue }, .scanObjectKey) := by
  obtain ⟨st, e, ps, err, k⟩ := s
  dsimp only at hps
  subst hps
  unfold stateEndValue at hop ⊢
  dsimp only at hop ⊢
  rw [if_neg (not_isSpace hc)] at hop ⊢
  by_cases h : c = 0x3A
  · rw [if_pos h]
    exact ⟨h, rfl⟩
  rw [if_neg h] at hop
  exact absurd rfl hop

/-- After a member's value, only `,` and `}` are no error. -/
theorem stateEndValue_objectValue {s : Scanner} {O : List ParseState} {c : UInt8}
    (hps : s.parseState = .parseObjectValue :: O) (hc : isSpace c = false)
    (hop : (stateEndValue s c).2 ≠ .scanError) :
    (c = 0x2C ∧ stateEndValue s c =
      ({ s with parseState := .parseObjectKey :: O, step := .stateBeginString }, .scanObjectValue)) ∨
    (c = 0x7D ∧ stateEndValue s c = (s.popParseState, .scanEndObject)) := by
  obtain ⟨st, e, ps, err, k⟩ := s
  dsimp only at hps
  subst hps
  unfold stateEndValue at hop ⊢
  dsimp only at hop ⊢
  rw [if_neg (not_isSpace hc)] at hop ⊢
  by_cases h : c = 0x2C
  · rw [if_pos h]
    exact .inl ⟨h, rfl⟩
  rw [if_neg h] at hop ⊢
  by_cases h' : c = 0x7D
  · rw [if_pos h']
    exact .inr ⟨h', rfl⟩
  rw [if_neg h'] at hop
  exact absurd rfl hop

theorem stateEndValue_ne_skipSpace {s : Scanner} {c : UInt8} (hps : s.parseState ≠ [])
    (hc : isSpace c = false) : (stateEndValue s c).2 ≠ .scanSkipSpace := by
  obtain ⟨st, e, _ | ⟨_ | _ | _, ps⟩, err, k⟩ := s
  · exact absurd rfl hps
  all_goals
    unfold stateEndValue
    dsimp only
    rw [if_neg (not_isSpace hc)]
    split_ifs <;> nofun

/-! ### Whitespace -/

/-- A scanner that passes over whitespace and answers any other byte: where a value
or a key is expected, or what comes after a value inside an object. -/
structure Scanner.Waiting (s : Scanner) : Prop where
  endTop : s.endTop = false
  space : ∀ c, isSpace c = true → s.step.apply s c = (s, .scanSkipSpace)
  other : ∀ c, isSpace c = false → (s.step.apply s c).2 ≠ .scanSkipSpace

theorem Scanner.Waiting.not_accepts_nil {s : Scanner} (hw : s.Waiting) : ¬ s.Accepts [] :=
  Scanner.not_accepts_nil_of_space hw.endTop (by rw [hw.space 0x20 rfl]; exact hw.endTop)

theorem Scanner.waiting_beginValue {s : Scanner} (hstep : s.step = .stateBeginValue)
    (htop : s.endTop = false) : s.Waiting where
  endTop := htop
  space c hc := by
    rw [hstep]
    exact if_pos hc
  other c hc hskip := by
    rw [hstep] at hskip
    change (stateBeginValue s c).2 = _ at hskip
    have hop : (stateBeginValue s c).2 ≠ .scanError := by
      rw [hskip]
      decide
    rcases stateBeginValue_cases hc hop with ⟨-, h⟩ | ⟨-, h⟩ | ⟨_, -, h⟩ <;> rw [h] at hskip <;>
      cases hskip

theorem Scanner.waiting_beginString {s : Scanner}
    (hstep : s.step = .stateBeginString ∨ s.step = .stateBeginStringOrEmpty)
    (htop : s.endTop = false) : s.Waiting where
  endTop := htop
  space c hc := by
    rcases hstep with hstep | hstep <;> rw [hstep]
    · exact if_pos hc
    · exact if_pos hc
  other c hc hskip := by
    rcases hstep with hstep | hstep <;> rw [hstep] at hskip
    · change (stateBeginString s c).2 = _ at hskip
      have hop : (stateBeginString s c).2 ≠ .scanError := by
        rw [hskip]
        decide
      rw [(stateBeginString_cases hc hop).2] at hskip
      cases hskip
    · change (stateBeginStringOrEmpty s c).2 = _ at hskip
      have hop : (stateBeginStringOrEmpty s c).2 ≠ .scanError := by
        rw [hskip]
        decide
      rcases stateBeginStringOrEmpty_cases hc hop with ⟨-, h⟩ | ⟨-, h⟩ <;> rw [h] at hskip <;>
        cases hskip

theorem Scanner.waiting_endValue {s : Scanner} (hstep : s.step = .stateEndValue)
    (htop : s.endTop = false) (hps : s.parseState ≠ []) : s.Waiting where
  endTop := htop
  space c hc := by
    rw [hstep]
    change stateEndValue s c = _
    rw [stateEndValue_space hps hc, ← hstep]
  other c hc := by
    rw [hstep]
    exact stateEndValue_ne_skipSpace hps hc

/-! ### Inside literals -/

/-- The bytes between the quotes of a string literal the scanner accepts: plain
bytes, two-byte escapes, and `\uXXXX`. -/
inductive StrBody : Bytes → Prop
  | nil : StrBody []
  | plain {c : UInt8} {rest : Bytes} (hsp : 0x20 ≤ c) (hq : c ≠ 0x22) (hbs : c ≠ 0x5C) :
      StrBody rest → StrBody (c :: rest)
  | escape {e : UInt8} {rest : Bytes} (he : (lit "bfnrt\\/\"").contains e = true) :
      StrBody rest → StrBody (0x5C :: e :: rest)
  | escapeU {h1 h2 h3 h4 : UInt8} {rest : Bytes}
      (hh : Url.ishex h1 = true ∧ Url.ishex h2 = true ∧ Url.ishex h3 = true ∧ Url.ishex h4 = true) :
      StrBody rest → StrBody (0x5C :: 0x75 :: h1 :: h2 :: h3 :: h4 :: rest)

/-- One hex digit of a `\uXXXX` escape. -/
theorem Scanner.accepts_escHex {s : Scanner} {next : StepFn} {t : Bytes} (h : s.Accepts t)
    (happly : s.step.apply s = stateEscHex next s) (htop : s.endTop = false) :
    ∃ x t', t = x :: t' ∧ Url.ishex x = true ∧ ({ s with step := next } : Scanner).Accepts t' := by
  cases t with
  | nil =>
    refine absurd h (Scanner.not_accepts_nil_of_space htop ?_)
    rw [happly]
    unfold stateEscHex
    split <;> exact htop
  | cons x t' =>
    rw [Scanner.accepts_cons, happly] at h
    unfold stateEscHex at h
    split at h
    · exact ⟨x, t', rfl, ‹_›, h.2⟩
    · exact absurd rfl h.1

/-- One byte of `true`, `false` or `null`. -/
theorem Scanner.accepts_literalByte {s : Scanner} {expected : UInt8} {next : StepFn} {context : Bytes}
    {t : Bytes} (h : s.Accepts t) (happly : s.step.apply s = stateLiteralByte expected next context s)
    (htop : s.endTop = false) :
    ∃ t', t = expected :: t' ∧ ({ s with step := next } : Scanner).Accepts t' := by
  cases t with
  | nil =>
    refine absurd h (Scanner.not_accepts_nil_of_space htop ?_)
    rw [happly]
    unfold stateLiteralByte
    split <;> exact htop
  | cons x t' =>
    rw [Scanner.accepts_cons, happly] at h
    unfold stateLiteralByte at h
    split at h
    · exact ⟨t', by rw [‹x = expected›], h.2⟩
    · exact absurd rfl h.1

/-- From inside a string literal, the scanner accepts the rest of the input only
after a body it accepts and the closing quote. -/
theorem Scanner.accepts_inString (n : Nat) :
    ∀ {s : Scanner} {t : Bytes}, t.length < n → s.Accepts t → s.step = .stateInString →
      s.endTop = false → ∃ body rest, t = body ++ 0x22 :: rest ∧ StrBody body ∧
        ({ s with step := .stateEndValue } : Scanner).Accepts rest := by
  induction n with
  | zero => exact fun hlen => absurd hlen (Nat.not_lt_zero _)
  | succ n ih =>
    intro s t hlen hacc hstep htop
    cases t with
    | nil => exact absurd hacc (Scanner.not_accepts_nil_of_space htop (by rw [hstep]; exact htop))
    | cons c t =>
      rw [Scanner.accepts_cons, hstep] at hacc
      change (stateInString s c).2 ≠ _ ∧ (stateInString s c).1.Accepts t at hacc
      unfold stateInString at hacc
      by_cases hq : c = 0x22
      · rw [if_pos hq] at hacc
        exact ⟨[], t, by rw [hq]; rfl, .nil, hacc.2⟩
      rw [if_neg hq] at hacc
      by_cases hbs : c = 0x5C
      · rw [if_pos hbs] at hacc
        subst hbs
        cases t with
        | nil => exact absurd hacc.2 (Scanner.not_accepts_nil_of_space htop (by exact htop))
        | cons e t =>
          have hesc := hacc.2
          rw [Scanner.accepts_cons] at hesc
          change (stateInStringEsc _ e).2 ≠ _ ∧ (stateInStringEsc _ e).1.Accepts t at hesc
          unfold stateInStringEsc at hesc
          by_cases he : (lit "bfnrt\\/\"").contains e = true
          · rw [if_pos he] at hesc
            obtain ⟨body, rest, rfl, hbody, hrest⟩ :=
              ih (by simp only [List.length_cons] at hlen; omega) hesc.2 rfl htop
            exact ⟨0x5C :: e :: body, rest, rfl, .escape he hbody, hrest⟩
          rw [if_neg he] at hesc
          by_cases hu : e = 0x75
          · rw [if_pos hu] at hesc
            subst hu
            obtain ⟨h1, t1, rfl, hx1, a1⟩ := Scanner.accepts_escHex hesc.2 rfl htop
            obtain ⟨h2, t2, rfl, hx2, a2⟩ := Scanner.accepts_escHex a1 rfl htop
            obtain ⟨h3, t3, rfl, hx3, a3⟩ := Scanner.accepts_escHex a2 rfl htop
            obtain ⟨h4, t4, rfl, hx4, a4⟩ := Scanner.accepts_escHex a3 rfl htop
            obtain ⟨body, rest, rfl, hbody, hrest⟩ :=
              ih (by simp only [List.length_cons] at hlen; omega) a4 rfl htop
            exact ⟨0x5C :: 0x75 :: h1 :: h2 :: h3 :: h4 :: body, rest, rfl,
              .escapeU ⟨hx1, hx2, hx3, hx4⟩ hbody, hrest⟩
          · rw [if_neg hu] at hesc
            exact absurd rfl hesc.1
      rw [if_neg hbs] at hacc
      by_cases hlt : c < 0x20
      · rw [if_pos hlt] at hacc
        exact absurd rfl hacc.1
      rw [if_neg hlt] at hacc
      obtain ⟨body, rest, rfl, hbody, hrest⟩ :=
        ih (by simp only [List.length_cons] at hlen; omega) hacc.2 hstep htop
      exact ⟨c :: body, rest, rfl, .plain (UInt8.not_lt.mp hlt) hq hbs hbody, hrest⟩

example : (Scanner.init.Accepts (lit "\x7b\"token\": \"abc\"\x7d")) := by decide
example : ¬ (Scanner.init.Accepts (lit "\x7b\"token\" \"abc\"\x7d")) := by decide

end Json

end ProviderOrchard
