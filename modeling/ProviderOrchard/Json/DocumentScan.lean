/-
The scanner over a document's text.  A run that never fails and never pops the
stack below a depth is the unit of the proofs: runs compose, acceptance passes
through them, and `skip` passes over them until the byte that closes its value.
Each kind of token has its run, from the state that expects it to the state after
it; a value ends in a state that reads any byte that is no number byte as
`stateEndValue` does.  From these, by recursion on the text, every document nested
at most `maxNestingDepth` deep is accepted by `checkValid`.
-/
import ProviderOrchard.Json.Documents

namespace ProviderOrchard

namespace Json

/-! ### Runs above a depth -/

/-- A run of the scanner from `s` over the bytes to `s'`, with no step failing and
the stack never below `n` entries after a step. -/
inductive Scanner.RunsAbove (n : Nat) : Scanner → Bytes → Scanner → Prop
  | nil (s : Scanner) : Scanner.RunsAbove n s [] s
  | cons {s s' : Scanner} {c : UInt8} {bs : Bytes} (hop : (s.step.apply s c).2 ≠ .scanError)
      (hdepth : n ≤ (s.step.apply s c).1.parseState.length)
      (h : Scanner.RunsAbove n (s.step.apply s c).1 bs s') : Scanner.RunsAbove n s (c :: bs) s'

namespace Scanner.RunsAbove

variable {n : Nat} {s u s' : Scanner}

theorem step {c : UInt8} {o : ScanOp} {bs : Bytes} (heq : s.step.apply s c = (u, o))
    (hop : o ≠ .scanError) (hdepth : n ≤ u.parseState.length) (h : RunsAbove n u bs s') :
    RunsAbove n s (c :: bs) s' :=
  .cons (by rw [heq]; exact hop) (by rw [heq]; exact hdepth) (by rw [heq]; exact h)

theorem append {a b : Bytes} {s₂ : Scanner} (h₁ : RunsAbove n s a u) (h₂ : RunsAbove n u b s₂) :
    RunsAbove n s (a ++ b) s₂ := by
  induction h₁ with
  | nil => exact h₂
  | cons hop hdepth _ ih => exact .cons hop hdepth (ih h₂)

theorem mono {m : Nat} (hmn : m ≤ n) {a : Bytes} (h : RunsAbove n s a s') : RunsAbove m s a s' := by
  induction h with
  | nil => exact .nil _
  | cons hop hdepth _ ih => exact .cons hop (hmn.trans hdepth) ih

/-- Acceptance passes through a run. -/
theorem accepts_append {a : Bytes} (h : RunsAbove n s a s') (rest : Bytes) :
    s.Accepts (a ++ rest) ↔ s'.Accepts rest := by
  induction h with
  | nil => exact Iff.rfl
  | cons hop _ _ ih => exact (and_iff_right hop).trans ih

end Scanner.RunsAbove

open Scanner DecodeState

/-! ### Bytes at the end of a value -/

/-- The steps after which a value is complete: `stateEndValue`, and the states of a
number that may end there. -/
def StepFn.valueDone : StepFn → Bool
  | .stateEndValue | .state0 | .state1 | .stateDot0 | .stateE0 => true
  | _ => false

/-- The steps that pass over whitespace before a value or a key. -/
def StepFn.skipsSpace : StepFn → Bool
  | .stateBeginValueOrEmpty | .stateBeginValue | .stateBeginStringOrEmpty | .stateBeginString => true
  | _ => false

theorem isNumberByte_of_isSpace {c : UInt8} (hc : isSpace c = true) : isNumberByte c = false :=
  Bool.eq_false_iff.mpr fun h => absurd hc (by rw [(numberByte_not_delimiter h).1]; decide)

theorem stateEndValue_step (f g : StepFn) (e : Bool) (P : List ParseState) (r : Option SyntaxError)
    (k : Nat) (c : UInt8) : stateEndValue ⟨f, e, P, r, k⟩ c = stateEndValue ⟨g, e, P, r, k⟩ c :=
  (stateEndValue_withStep ⟨g, e, P, r, k⟩ f c).symm.trans (stateEndValue_withStep _ g c)

/-- Where a value is complete, a byte that is no number byte is read as the byte
after the value. -/
theorem StepFn.apply_valueDone {f : StepFn} (hf : f.valueDone) {c : UInt8}
    (hc : isNumberByte c = false) (e : Bool) (P : List ParseState) (r : Option SyntaxError)
    (k : Nat) : f.apply ⟨f, e, P, r, k⟩ c = Json.stateEndValue ⟨.stateEndValue, e, P, r, k⟩ c := by
  simp only [isNumberByte, Bool.or_eq_false_iff, beq_eq_false_iff_ne] at hc
  obtain ⟨⟨⟨⟨⟨hd, hdot⟩, he⟩, hE⟩, -⟩, -⟩ := hc
  have hd' : ¬ isDigit c = true := by rw [hd]; decide
  have hexp : ¬ (c = 0x65 ∨ c = 0x45) := by rintro (h | h) <;> contradiction
  rw [stateEndValue_step .stateEndValue f]
  cases f <;> try exact absurd hf (by decide)
  · rfl
  · show Json.state1 _ c = _
    unfold Json.state1 Json.state0
    rw [if_neg hd', if_neg hdot, if_neg hexp]
  · show Json.state0 _ c = _
    unfold Json.state0
    rw [if_neg hdot, if_neg hexp]
  · show Json.stateDot0 _ c = _
    unfold Json.stateDot0
    rw [if_neg hd', if_neg hexp]
  · show Json.stateE0 _ c = _
    unfold Json.stateE0
    rw [if_neg hd']

theorem StepFn.apply_space {f : StepFn} (hf : f.skipsSpace) {c : UInt8} (hc : isSpace c = true)
    (e : Bool) (P : List ParseState) (r : Option SyntaxError) (k : Nat) :
    f.apply ⟨f, e, P, r, k⟩ c = (⟨f, e, P, r, k⟩, .scanSkipSpace) := by
  cases f <;> try exact absurd hf (by decide)
  all_goals exact if_pos hc

section Runs

variable {n : Nat} {e : Bool} {P : List ParseState} {r : Option SyntaxError} {k : Nat}

/-- Whitespace before a value or a key leaves the scanner as it was. -/
theorem runsAbove_space {f : StepFn} (hf : f.skipsSpace) (hn : n ≤ P.length) :
    ∀ {ws : Bytes}, (∀ c ∈ ws, isSpace c = true) →
      RunsAbove n ⟨f, e, P, r, k⟩ ws ⟨f, e, P, r, k⟩
  | [], _ => .nil _
  | c :: _, h =>
    .step (StepFn.apply_space hf (h c (List.mem_cons_self _ _)) e P r k) (by decide) hn
      (runsAbove_space hf hn fun x hx => h x (List.mem_cons_of_mem _ hx))

/-- Whitespace after a value inside an object or array: the value stays complete. -/
theorem runsAbove_space_valueDone {p : ParseState} (hn : n ≤ P.length + 1) :
    ∀ {ws : Bytes} {f : StepFn}, f.valueDone → (∀ c ∈ ws, isSpace c = true) →
      ∃ g : StepFn, g.valueDone ∧ RunsAbove n ⟨f, e, p :: P, r, k⟩ ws ⟨g, e, p :: P, r, k⟩
  | [], f, hf, _ => ⟨f, hf, .nil _⟩
  | c :: _, f, hf, h => by
    have hc := h c (List.mem_cons_self _ _)
    obtain ⟨g, hg, hrun⟩ :=
      runsAbove_space_valueDone hn (f := .stateEndValue) rfl fun x hx => h x (List.mem_cons_of_mem _ hx)
    refine ⟨g, hg, .step (u := ⟨.stateEndValue, e, p :: P, r, k⟩) (o := .scanSkipSpace) ?_
      (by decide) hn hrun⟩
    rw [StepFn.apply_valueDone hf (isNumberByte_of_isSpace hc)]
    exact stateEndValue_space (s := ⟨.stateEndValue, e, p :: P, r, k⟩) (List.cons_ne_nil _ _) hc

/-- A string body and its closing quote, from inside the string. -/
theorem runsAbove_strBody (hn : n ≤ P.length) {body : Bytes} (h : StrBody body) :
    RunsAbove n ⟨.stateInString, e, P, r, k⟩ (body ++ [0x22]) ⟨.stateEndValue, e, P, r, k⟩ := by
  induction h with
  | nil => exact .step rfl (by decide) hn (.nil _)
  | plain hsp hq hbs _ ih =>
    refine .step (o := .scanContinue) ?_ (by decide) hn ih
    show stateInString _ _ = _
    unfold stateInString
    rw [if_neg hq, if_neg hbs, if_neg (UInt8.not_lt.mpr hsp)]
  | escape he _ ih =>
    refine .step rfl (by decide) hn (.step (o := .scanContinue) ?_ (by decide) hn ih)
    show stateInStringEsc _ _ = _
    unfold stateInStringEsc
    rw [if_pos he]
  | escapeU hh _ ih =>
    obtain ⟨h1, h2, h3, h4⟩ := hh
    have hex : ∀ {x : UInt8} {g : StepFn} {s : Scanner}, Url.ishex x = true →
        stateEscHex g s x = ({ s with step := g }, .scanContinue) := fun hx => if_pos hx
    exact .step rfl (by decide) hn (.step rfl (by decide) hn (.step (hex h1) (by decide) hn
      (.step (hex h2) (by decide) hn (.step (hex h3) (by decide) hn (.step (hex h4) (by decide) hn ih)))))

/-- A string literal, from a state that expects a value or a key. -/
theorem runsAbove_string {f : StepFn} (hf : f.skipsSpace) (hn : n ≤ P.length) (s : JsonString) :
    RunsAbove n ⟨f, e, P, r, k⟩ s.bytes ⟨.stateEndValue, e, P, r, k⟩ := by
  refine .step (o := .scanBeginLiteral) ?_ (by decide) hn (runsAbove_strBody hn s.wf)
  cases f <;> first | exact absurd hf (by decide) | rfl

/-- `null`, `true` or `false`, from a state that expects a value. -/
theorem runsAbove_null {f : StepFn} (hf : f = .stateBeginValue ∨ f = .stateBeginValueOrEmpty)
    (hn : n ≤ P.length) :
    RunsAbove n ⟨f, e, P, r, k⟩ (lit "null") ⟨.stateEndValue, e, P, r, k⟩ := by
  show RunsAbove n _ [0x6E, 0x75, 0x6C, 0x6C] _
  rcases hf with rfl | rfl <;>
  exact .step rfl (by decide) hn (.step rfl (by decide) hn (.step rfl (by decide) hn
    (.step rfl (by decide) hn (.nil _))))

theorem runsAbove_bool {f : StepFn} (hf : f = .stateBeginValue ∨ f = .stateBeginValueOrEmpty)
    (hn : n ≤ P.length) (b : Bool) :
    RunsAbove n ⟨f, e, P, r, k⟩ (if b then lit "true" else lit "false")
      ⟨.stateEndValue, e, P, r, k⟩ := by
  cases b
  · show RunsAbove n _ [0x66, 0x61, 0x6C, 0x73, 0x65] _
    rcases hf with rfl | rfl <;>
    exact .step rfl (by decide) hn (.step rfl (by decide) hn (.step rfl (by decide) hn
      (.step rfl (by decide) hn (.step rfl (by decide) hn (.nil _)))))
  · show RunsAbove n _ [0x74, 0x72, 0x75, 0x65] _
    rcases hf with rfl | rfl <;>
    exact .step rfl (by decide) hn (.step rfl (by decide) hn (.step rfl (by decide) hn
      (.step rfl (by decide) hn (.nil _))))

/-! ### Numbers -/

theorem isSpace_of_isDigit {c : UInt8} (hd : isDigit c = true) : isSpace c = false :=
  (numberByte_not_delimiter (by unfold isNumberByte; rw [hd]; rfl)).1

/-- A digit other than `0` begins the integer part of a number. -/
theorem stateBeginValue_digit (s : Scanner) {c : UInt8} (h1 : 0x31 ≤ c) (h9 : c ≤ 0x39) :
    stateBeginValue s c = ({ s with step := .state1 }, .scanBeginLiteral) := by
  have hd := isDigit_of_digit h1 h9
  have h0 : c ≠ 0x30 := fun h => absurd (h ▸ h1) (by decide)
  unfold stateBeginValue
  rw [if_neg (not_isSpace (isSpace_of_isDigit hd)), if_neg (ne_of_isDigit (b := 0x7B) hd rfl),
    if_neg (ne_of_isDigit (b := 0x5B) hd rfl), if_neg (ne_of_isDigit (b := 0x22) hd rfl),
    if_neg (ne_of_isDigit (b := 0x2D) hd rfl), if_neg h0, if_neg (ne_of_isDigit (b := 0x74) hd rfl),
    if_neg (ne_of_isDigit (b := 0x66) hd rfl), if_neg (ne_of_isDigit (b := 0x6E) hd rfl),
    if_pos ⟨h1, h9⟩]

/-- Digits after the first, where the number may end. -/
theorem runsAbove_digits {f : StepFn} (hf : f = .state1 ∨ f = .stateDot0 ∨ f = .stateE0)
    (hn : n ≤ P.length) :
    ∀ {ds : Bytes}, (∀ c ∈ ds, isDigit c = true) →
      RunsAbove n ⟨f, e, P, r, k⟩ ds ⟨f, e, P, r, k⟩
  | [], _ => .nil _
  | c :: _, h => by
    have hc := h c (List.mem_cons_self _ _)
    refine .step (o := .scanContinue) ?_ (by decide) hn
      (runsAbove_digits hf hn fun x hx => h x (List.mem_cons_of_mem _ hx))
    rcases hf with rfl | rfl | rfl <;> exact if_pos hc

/-- The step inside a number after its integer part. -/
def JsonNumber.intStep (num : JsonNumber) : StepFn :=
  if num.int.bytes = [0x30] then .state0 else .state1

/-- The step after the fraction, if any. -/
def JsonNumber.fracStep (num : JsonNumber) : StepFn :=
  if num.frac.isSome then .stateDot0 else num.intStep

/-- The step at which the number's text ends. -/
def JsonNumber.doneStep (num : JsonNumber) : StepFn :=
  if num.exp.isSome then .stateE0 else num.fracStep

theorem JsonNumber.intStep_cases (num : JsonNumber) :
    num.intStep = .state0 ∨ num.intStep = .state1 := by
  unfold JsonNumber.intStep
  split
  · exact .inl rfl
  · exact .inr rfl

theorem JsonNumber.doneStep_valueDone (num : JsonNumber) : num.doneStep.valueDone := by
  unfold JsonNumber.doneStep JsonNumber.fracStep
  split
  · rfl
  split
  · rfl
  rcases num.intStep_cases with h | h <;> rw [h] <;> rfl

/-- The integer part, after the sign or at the start of the value. -/
theorem runsAbove_int {f : StepFn}
    (hf : f = .stateBeginValue ∨ f = .stateBeginValueOrEmpty ∨ f = .stateNeg) (hn : n ≤ P.length)
    (num : JsonNumber) :
    RunsAbove n ⟨f, e, P, r, k⟩ num.int.bytes ⟨num.intStep, e, P, r, k⟩ := by
  unfold JsonNumber.intStep
  rcases num.int_wf with h0 | hlead
  · rw [if_pos h0, h0]
    rcases hf with rfl | rfl | rfl <;> exact .step rfl (by decide) hn (.nil _)
  obtain ⟨c, ds, hcd⟩ := List.exists_cons_of_ne_nil num.int.nonempty
  have hdig : ∀ x ∈ c :: ds, isDigit x = true := hcd ▸ num.int.digit
  have hc0 : c ≠ 0x30 := fun h => hlead (by rw [hcd, h]; rfl)
  have h1 : 0x31 ≤ c := by
    have := hdig c (List.mem_cons_self _ _)
    simp only [isDigit, Bool.and_eq_true, decide_eq_true_eq, Url.toNat_le_iff, UInt8.reduceToNat] at this ⊢
    have : c.toNat ≠ 0x30 := fun h => hc0 (UInt8.toNat.inj h)
    omega
  have h9 : c ≤ 0x39 := by
    have := hdig c (List.mem_cons_self _ _)
    simp only [isDigit, Bool.and_eq_true, decide_eq_true_eq] at this
    exact this.2
  rw [if_neg (by rw [hcd]; exact fun h => hc0 (List.head_eq_of_cons_eq h)), hcd]
  have hrun := runsAbove_digits (e := e) (r := r) (k := k) (.inl rfl) hn
    fun x hx => hdig x (List.mem_cons_of_mem _ hx)
  rcases hf with rfl | rfl | rfl
  · exact .step (stateBeginValue_digit _ h1 h9) (by decide) hn hrun
  · refine .step (o := .scanBeginLiteral) ?_ (by decide) hn hrun
    show stateBeginValueOrEmpty _ c = _
    unfold stateBeginValueOrEmpty
    rw [if_neg (not_isSpace (isSpace_of_isDigit (isDigit_of_digit h1 h9))),
      if_neg (ne_of_isDigit (b := 0x5D) (isDigit_of_digit h1 h9) rfl)]
    exact stateBeginValue_digit _ h1 h9
  · refine .step (o := .scanContinue) ?_ (by decide) hn hrun
    show Json.stateNeg _ c = _
    unfold Json.stateNeg
    rw [if_neg hc0, if_pos ⟨h1, h9⟩]

theorem JsonNumber.fracStep_cases (num : JsonNumber) :
    num.fracStep = .state0 ∨ num.fracStep = .state1 ∨ num.fracStep = .stateDot0 := by
  unfold JsonNumber.fracStep
  split
  · exact .inr (.inr rfl)
  · exact num.intStep_cases.imp_right .inl

/-- A fraction: the point, then digits. -/
theorem runsAbove_frac {f : StepFn} (hf : f = .state0 ∨ f = .state1) (hn : n ≤ P.length)
    (d : Digits) :
    RunsAbove n ⟨f, e, P, r, k⟩ (0x2E :: d.bytes) ⟨.stateDot0, e, P, r, k⟩ := by
  obtain ⟨c, ds, hcd⟩ := List.exists_cons_of_ne_nil d.nonempty
  have hdig : ∀ x ∈ c :: ds, isDigit x = true := hcd ▸ d.digit
  rw [hcd]
  refine .step (u := ⟨.stateDot, e, P, r, k⟩) (o := .scanContinue) ?_ (by decide) hn
    (.step (o := .scanContinue) ?_ (by decide) hn
      (runsAbove_digits (.inr (.inl rfl)) hn fun x hx => hdig x (List.mem_cons_of_mem _ hx)))
  · rcases hf with rfl | rfl <;> rfl
  · show stateDot _ c = _
    unfold stateDot
    rw [if_pos (hdig c (List.mem_cons_self _ _))]

/-- An exponent: the mark, an optional sign, digits. -/
theorem runsAbove_exp {f : StepFn} (hf : f = .state0 ∨ f = .state1 ∨ f = .stateDot0)
    (hn : n ≤ P.length) (x : JsonExponent) :
    RunsAbove n ⟨f, e, P, r, k⟩ x.bytes ⟨.stateE0, e, P, r, k⟩ := by
  obtain ⟨c, ds, hcd⟩ := List.exists_cons_of_ne_nil x.digits.nonempty
  have hdig : ∀ y ∈ c :: ds, isDigit y = true := hcd ▸ x.digits.digit
  have hc := hdig c (List.mem_cons_self _ _)
  have hrest := runsAbove_digits (e := e) (r := r) (k := k) (.inr (.inr rfl)) hn
    fun y hy => hdig y (List.mem_cons_of_mem _ hy)
  have hesign : stateESign ⟨.stateESign, e, P, r, k⟩ c = (⟨.stateE0, e, P, r, k⟩, .scanContinue) := by
    unfold stateESign
    rw [if_pos hc]
  have hmark : RunsAbove n ⟨f, e, P, r, k⟩ [x.mark] ⟨.stateE, e, P, r, k⟩ := by
    rcases x.mark_wf with h | h <;> rw [h] <;> rcases hf with rfl | rfl | rfl <;>
      exact .step rfl (by decide) hn (.nil _)
  unfold JsonExponent.bytes
  rw [hcd]
  refine hmark.append (a := [x.mark]) ?_
  cases hs : x.sign with
  | none =>
    refine .step (o := .scanContinue) ?_ (by decide) hn hrest
    show stateE _ c = _
    unfold stateE
    rw [if_neg (not_or.mpr ⟨ne_of_isDigit (b := 0x2B) hc rfl, ne_of_isDigit (b := 0x2D) hc rfl⟩)]
    exact hesign
  | some g =>
    have hg := x.sign_wf g (by rw [hs]; rfl)
    refine .step (u := ⟨.stateESign, e, P, r, k⟩) (o := .scanContinue) ?_ (by decide) hn
      (.step hesign (by decide) hn hrest)
    rcases hg with rfl | rfl <;> rfl

/-- A number, from a state that expects a value, to the step where its text ends. -/
theorem runsAbove_number {f : StepFn} (hf : f = .stateBeginValue ∨ f = .stateBeginValueOrEmpty)
    (hn : n ≤ P.length) (num : JsonNumber) :
    RunsAbove n ⟨f, e, P, r, k⟩ num.bytes ⟨num.doneStep, e, P, r, k⟩ := by
  have hint : RunsAbove n ⟨f, e, P, r, k⟩ ((if num.neg then [0x2D] else []) ++ num.int.bytes)
      ⟨num.intStep, e, P, r, k⟩ := by
    split
    · exact .step (u := ⟨.stateNeg, e, P, r, k⟩) (o := .scanBeginLiteral)
        (by rcases hf with rfl | rfl <;> rfl) (by decide) hn (runsAbove_int (.inr (.inr rfl)) hn num)
    · exact runsAbove_int (hf.imp_right .inl) hn num
  have hfrac : RunsAbove n ⟨num.intStep, e, P, r, k⟩ ((num.frac.map fun d => 0x2E :: d.bytes).getD [])
      ⟨num.fracStep, e, P, r, k⟩ := by
    unfold JsonNumber.fracStep
    cases num.frac with
    | none => exact .nil _
    | some d => exact runsAbove_frac num.intStep_cases hn d
  have hexp : RunsAbove n ⟨num.fracStep, e, P, r, k⟩ ((num.exp.map JsonExponent.bytes).getD [])
      ⟨num.doneStep, e, P, r, k⟩ := by
    unfold JsonNumber.doneStep
    cases num.exp with
    | none => exact .nil _
    | some x => exact runsAbove_exp num.fracStep_cases hn x
  exact (hint.append hfrac).append hexp

end Runs

/-! ### Values -/

/-- The step at which a value's text ends: a number's own, `stateEndValue` for the rest. -/
def JsonText.doneStep : JsonText → StepFn
  | .number num => num.doneStep
  | _ => .stateEndValue

/-- Arrays and objects. -/
def JsonText.isContainer : JsonText → Bool
  | .emptyArray _ | .array _ _ | .emptyObject _ | .object _ _ => true
  | _ => false

/-- The scanner after a value's text, from the scanner before it: closing the
outermost array or object ends the top level. -/
def JsonText.scanAfter (t : JsonText) (s : Scanner) : Scanner :=
  if t.isContainer ∧ s.parseState = [] then { s with step := .stateEndTop, endTop := true }
  else { s with step := t.doneStep }

theorem JsonText.doneStep_valueDone (t : JsonText) : t.doneStep.valueDone := by
  cases t
  case number num => exact num.doneStep_valueDone
  all_goals rfl

theorem JsonText.scanAfter_of_ne_nil (t : JsonText) {s : Scanner} (h : s.parseState ≠ []) :
    t.scanAfter s = { s with step := t.doneStep } :=
  if_neg fun h' => h h'.2

theorem JsonText.scanAfter_parseState (t : JsonText) (s : Scanner) :
    (t.scanAfter s).parseState = s.parseState := by
  unfold JsonText.scanAfter
  split <;> rfl

/-- Closing an array or object pops the stack back to what it was before the value. -/
theorem JsonText.popParseState_close {t : JsonText} (ht : t.isContainer) (x f : StepFn) (e : Bool)
    (p : ParseState) (P : List ParseState) (r : Option SyntaxError) (k : Nat) :
    Scanner.popParseState ⟨x, e, p :: P, r, k⟩ = t.scanAfter ⟨f, e, P, r, k⟩ := by
  have hdone : t.doneStep = .stateEndValue := by
    cases t <;> first | rfl | exact absurd ht Bool.false_ne_true
  unfold JsonText.scanAfter
  cases P with
  | nil => rw [if_pos ⟨ht, rfl⟩]; rfl
  | cons q qs => rw [if_neg fun h => List.cons_ne_nil q qs h.2, hdone]; rfl

theorem Scanner.pushParseState_of_le (s : Scanner) (c : UInt8) (p : ParseState) (o : ScanOp)
    (h : s.parseState.length + 1 ≤ maxNestingDepth) :
    s.pushParseState c p o = ({ s with parseState := p :: s.parseState }, o) := if_pos h

section Values

variable {e : Bool} {P : List ParseState} {r : Option SyntaxError} {k : Nat}

theorem skipsSpace_of_beginValue {f : StepFn}
    (hf : f = .stateBeginValue ∨ f = .stateBeginValueOrEmpty) : f.skipsSpace := by
  rcases hf with rfl | rfl <;> rfl

theorem skipsSpace_of_beginString {f : StepFn}
    (hf : f = .stateBeginString ∨ f = .stateBeginStringOrEmpty) : f.skipsSpace := by
  rcases hf with rfl | rfl <;> rfl

/-- `[` and `{` open a level, below the nesting limit. -/
theorem StepFn.apply_open {f : StepFn} (hf : f = .stateBeginValue ∨ f = .stateBeginValueOrEmpty)
    (hd : P.length + 1 ≤ maxNestingDepth) :
    f.apply ⟨f, e, P, r, k⟩ 0x5B =
        (⟨.stateBeginValueOrEmpty, e, .parseArrayValue :: P, r, k⟩, .scanBeginArray) ∧
      f.apply ⟨f, e, P, r, k⟩ 0x7B =
        (⟨.stateBeginStringOrEmpty, e, .parseObjectKey :: P, r, k⟩, .scanBeginObject) := by
  rcases hf with rfl | rfl
  · exact ⟨Scanner.pushParseState_of_le _ _ _ _ hd, Scanner.pushParseState_of_le _ _ _ _ hd⟩
  · exact ⟨Scanner.pushParseState_of_le _ _ _ _ hd, Scanner.pushParseState_of_le _ _ _ _ hd⟩

/-- A complete value inside an array, then `]`. -/
theorem runsAbove_closeArray {t : JsonText} (ht : t.isContainer) {f g : StepFn} (hg : g.valueDone) :
    RunsAbove P.length ⟨g, e, .parseArrayValue :: P, r, k⟩ [0x5D] (t.scanAfter ⟨f, e, P, r, k⟩) :=
  .step (o := .scanEndArray) (by rw [StepFn.apply_valueDone hg (c := 0x5D) rfl, ← t.popParseState_close ht .stateEndValue f]; rfl)
    (by decide) (by rw [JsonText.scanAfter_parseState]) (.nil _)

/-- A complete value inside an object, then `}`. -/
theorem runsAbove_closeObject {t : JsonText} (ht : t.isContainer) {f g : StepFn} (hg : g.valueDone) :
    RunsAbove P.length ⟨g, e, .parseObjectValue :: P, r, k⟩ [0x7D] (t.scanAfter ⟨f, e, P, r, k⟩) :=
  .step (o := .scanEndObject) (by rw [StepFn.apply_valueDone hg (c := 0x7D) rfl, ← t.popParseState_close ht .stateEndValue f]; rfl)
    (by decide) (by rw [JsonText.scanAfter_parseState]) (.nil _)

mutual

/-- A value's text, from a state that expects a value, with room on the stack for its
nesting: no step fails, and the stack never drops below where it was. -/
theorem runsAbove_text : ∀ (t : JsonText) {f : StepFn} {e : Bool} {P : List ParseState}
    {r : Option SyntaxError} {k : Nat}, (f = .stateBeginValue ∨ f = .stateBeginValueOrEmpty) →
    P.length + t.value.depth ≤ maxNestingDepth →
    RunsAbove P.length ⟨f, e, P, r, k⟩ t.bytes (t.scanAfter ⟨f, e, P, r, k⟩)
  | .null, _, _, _, _, _, hf, _ => runsAbove_null hf le_rfl
  | .bool b, _, _, _, _, _, hf, _ => runsAbove_bool hf le_rfl b
  | .number num, _, _, _, _, _, hf, _ => runsAbove_number hf le_rfl num
  | .string s, _, _, _, _, _, hf, _ => runsAbove_string (skipsSpace_of_beginValue hf) le_rfl s
  | .emptyArray ws, f, e, P, r, k, hf, hd => by
    have hd' : P.length + 1 ≤ maxNestingDepth := by
      simpa [JsonText.value, JsonValue.depth, elemsDepth] using hd
    refine .step (StepFn.apply_open hf hd').1 (by decide) (Nat.le_succ _)
      ((runsAbove_space (f := .stateBeginValueOrEmpty) rfl (Nat.le_succ _) ws.space).append
        (.step (o := .scanEndArray) ?_ (by decide) ?_ (.nil _)))
    · show stateBeginValueOrEmpty _ 0x5D = _
      unfold stateBeginValueOrEmpty
      rw [if_neg (by decide), if_pos rfl,
        ← JsonText.popParseState_close (t := .emptyArray ws) rfl .stateBeginValueOrEmpty f]
      rfl
    · rw [JsonText.scanAfter_parseState]
  | .array p es, f, e, P, r, k, hf, hd => by
    have hd1 : P.length + (max p.val.value.depth (elemsDepth (elemsValue es)) + 1) ≤ maxNestingDepth := hd
    obtain ⟨g1, hg1, h1⟩ := runsAbove_padded p (f := .stateBeginValueOrEmpty) (e := e)
      (P := .parseArrayValue :: P) (r := r) (k := k) (.inr rfl) (List.cons_ne_nil _ _)
      (show P.length + 1 + p.val.value.depth ≤ maxNestingDepth by omega)
    obtain ⟨g2, hg2, h2⟩ := runsAbove_elems es (e := e) (P := P) (r := r) (k := k) hg1 (by omega)
    exact .step (StepFn.apply_open hf (by omega)).1 (by decide) (Nat.le_succ _)
      (((h1.mono (Nat.le_succ _)).append (h2.mono (Nat.le_succ _))).append (runsAbove_closeArray (t := .array p es) rfl hg2))
  | .emptyObject ws, f, e, P, r, k, hf, hd => by
    have hd' : P.length + 1 ≤ maxNestingDepth := hd
    refine .step (StepFn.apply_open hf hd').2 (by decide) (Nat.le_succ _)
      ((runsAbove_space (f := .stateBeginStringOrEmpty) rfl (Nat.le_succ _) ws.space).append
        (.step (o := .scanEndObject) ?_ (by decide) ?_ (.nil _)))
    · show stateBeginStringOrEmpty _ 0x7D = _
      unfold stateBeginStringOrEmpty
      rw [if_neg (by decide), if_pos rfl,
        ← JsonText.popParseState_close (t := .emptyObject ws) rfl .stateEndValue f]
      rfl
    · rw [JsonText.scanAfter_parseState]
  | .object m ms, f, e, P, r, k, hf, hd => by
    have hd1 : P.length + (max m.2.val.value.depth (membersDepth (membersValue ms)) + 1) ≤
        maxNestingDepth := hd
    obtain ⟨g1, hg1, h1⟩ := runsAbove_member m (f := .stateBeginStringOrEmpty) (e := e) (P := P)
      (r := r) (k := k) (.inr rfl) (by omega)
    obtain ⟨g2, hg2, h2⟩ := runsAbove_members ms (e := e) (P := P) (r := r) (k := k) hg1 (by omega)
    exact .step (StepFn.apply_open hf (by omega)).2 (by decide) (Nat.le_succ _)
      (((h1.mono (Nat.le_succ _)).append (h2.mono (Nat.le_succ _))).append (runsAbove_closeObject (t := .object m ms) rfl hg2))

/-- A value with its whitespace, inside an array or object. -/
theorem runsAbove_padded : ∀ (p : Padded JsonText) {f : StepFn} {e : Bool} {P : List ParseState}
    {r : Option SyntaxError} {k : Nat}, (f = .stateBeginValue ∨ f = .stateBeginValueOrEmpty) →
    P ≠ [] → P.length + p.val.value.depth ≤ maxNestingDepth →
    ∃ g : StepFn, g.valueDone ∧
      RunsAbove P.length ⟨f, e, P, r, k⟩ (paddedBytes p) ⟨g, e, P, r, k⟩
  | ⟨b, t, a⟩, f, e, P, r, k, hf, hps, hd => by
    obtain ⟨q, qs, rfl⟩ := List.exists_cons_of_ne_nil hps
    have ht := runsAbove_text t (e := e) (r := r) (k := k) hf hd
    rw [t.scanAfter_of_ne_nil hps] at ht
    obtain ⟨g, hg, ha⟩ := runsAbove_space_valueDone (e := e) (p := q) (P := qs) (r := r) (k := k)
      le_rfl t.doneStep_valueDone a.space
    exact ⟨g, hg, ((runsAbove_space (skipsSpace_of_beginValue hf) le_rfl b.space).append ht).append ha⟩

/-- The elements after an array's first, each after a comma. -/
theorem runsAbove_elems : ∀ (es : List (Padded JsonText)) {g : StepFn} {e : Bool}
    {P : List ParseState} {r : Option SyntaxError} {k : Nat}, g.valueDone →
    P.length + 1 + elemsDepth (elemsValue es) ≤ maxNestingDepth →
    ∃ g' : StepFn, g'.valueDone ∧ RunsAbove (P.length + 1) ⟨g, e, .parseArrayValue :: P, r, k⟩
      (elemsBytes es) ⟨g', e, .parseArrayValue :: P, r, k⟩
  | [], g, _, _, _, _, hg, _ => ⟨g, hg, .nil _⟩
  | p :: es, g, e, P, r, k, hg, hd => by
    have hd1 : P.length + 1 + max p.val.value.depth (elemsDepth (elemsValue es)) ≤ maxNestingDepth := hd
    obtain ⟨g1, hg1, h1⟩ := runsAbove_padded p (f := .stateBeginValue) (e := e)
      (P := .parseArrayValue :: P) (r := r) (k := k) (.inl rfl) (List.cons_ne_nil _ _)
      (show P.length + 1 + p.val.value.depth ≤ maxNestingDepth by omega)
    obtain ⟨g2, hg2, h2⟩ := runsAbove_elems es (e := e) (P := P) (r := r) (k := k) hg1 (by omega)
    exact ⟨g2, hg2, .step (u := ⟨.stateBeginValue, e, .parseArrayValue :: P, r, k⟩)
      (o := .scanArrayValue) (by rw [StepFn.apply_valueDone hg (c := 0x2C) rfl]; rfl) (by decide)
      le_rfl (h1.append h2)⟩

/-- A member, from a state that expects a key, to its value's end. -/
theorem runsAbove_member : ∀ (m : Padded JsonString × Padded JsonText) {f : StepFn} {e : Bool}
    {P : List ParseState} {r : Option SyntaxError} {k : Nat},
    (f = .stateBeginString ∨ f = .stateBeginStringOrEmpty) →
    P.length + 1 + m.2.val.value.depth ≤ maxNestingDepth →
    ∃ g : StepFn, g.valueDone ∧ RunsAbove (P.length + 1) ⟨f, e, .parseObjectKey :: P, r, k⟩
      (memberBytes m) ⟨g, e, .parseObjectValue :: P, r, k⟩
  | (kp, vp), f, e, P, r, k, hf, hd => by
    have h1 := runsAbove_space (skipsSpace_of_beginString hf) (e := e) (P := .parseObjectKey :: P)
      (r := r) (k := k) (n := P.length + 1) le_rfl kp.before.space
    have h2 := runsAbove_string (skipsSpace_of_beginString hf) (e := e) (P := .parseObjectKey :: P)
      (r := r) (k := k) (n := P.length + 1) le_rfl kp.val
    obtain ⟨g1, hg1, h3⟩ := runsAbove_space_valueDone (e := e) (p := .parseObjectKey) (P := P)
      (r := r) (k := k) (n := P.length + 1) le_rfl (f := .stateEndValue) rfl kp.after.space
    obtain ⟨g2, hg2, h4⟩ := runsAbove_padded vp (f := .stateBeginValue) (e := e)
      (P := .parseObjectValue :: P) (r := r) (k := k) (.inl rfl) (List.cons_ne_nil _ _) hd
    exact ⟨g2, hg2, ((h1.append h2).append h3).append
      (.step (u := ⟨.stateBeginValue, e, .parseObjectValue :: P, r, k⟩) (o := .scanObjectKey)
        (by rw [StepFn.apply_valueDone hg1 (c := 0x3A) rfl]; rfl) (by decide) le_rfl h4)⟩

/-- The members after an object's first, each after a comma. -/
theorem runsAbove_members : ∀ (ms : List (Padded JsonString × Padded JsonText)) {g : StepFn}
    {e : Bool} {P : List ParseState} {r : Option SyntaxError} {k : Nat}, g.valueDone →
    P.length + 1 + membersDepth (membersValue ms) ≤ maxNestingDepth →
    ∃ g' : StepFn, g'.valueDone ∧ RunsAbove (P.length + 1) ⟨g, e, .parseObjectValue :: P, r, k⟩
      (membersBytes ms) ⟨g', e, .parseObjectValue :: P, r, k⟩
  | [], g, _, _, _, _, hg, _ => ⟨g, hg, .nil _⟩
  | m :: ms, g, e, P, r, k, hg, hd => by
    have hd1 : P.length + 1 + max m.2.val.value.depth (membersDepth (membersValue ms)) ≤
        maxNestingDepth := hd
    obtain ⟨g1, hg1, h1⟩ := runsAbove_member m (f := .stateBeginString) (e := e) (P := P)
      (r := r) (k := k) (.inl rfl) (by omega)
    obtain ⟨g2, hg2, h2⟩ := runsAbove_members ms (e := e) (P := P) (r := r) (k := k) hg1
      (by omega)
    exact ⟨g2, hg2, .step (u := ⟨.stateBeginString, e, .parseObjectKey :: P, r, k⟩)
      (o := .scanObjectValue) (by rw [StepFn.apply_valueDone hg (c := 0x2C) rfl]; rfl) (by decide)
      le_rfl (h1.append h2)⟩

end

end Values

/-! ### Documents -/

/-- The end of the input where a step over a space ends the top level. -/
theorem Scanner.eof_of_space {g : StepFn} {P : List ParseState} {k : Nat} {s' : Scanner}
    (hstep : g.apply ⟨g, false, P, none, k⟩ 0x20 = (s', .scanEnd)) (htop : s'.endTop = true) :
    (Scanner.eof ⟨g, false, P, none, k⟩).2 ≠ .scanError := by
  simp only [Scanner.eof, Option.isSome_none, Bool.false_eq_true, ite_false, hstep, htop, ite_true]
  exact nofun

/-- After the top level has ended, whitespace and the end of the input are accepted. -/
theorem accepts_endTop_space (k : Nat) :
    ∀ {ws : Bytes}, (∀ c ∈ ws, isSpace c = true) → Scanner.Accepts ⟨.stateEndTop, true, [], none, k⟩ ws
  | [], _ => nofun
  | c :: _, h => by
    have hstep : StepFn.stateEndTop.apply ⟨.stateEndTop, true, [], none, k⟩ c =
        (⟨.stateEndTop, true, [], none, k⟩, .scanEnd) := if_pos (h c (List.mem_cons_self _ _))
    rw [Scanner.accepts_cons, hstep]
    exact ⟨nofun, accepts_endTop_space k fun x hx => h x (List.mem_cons_of_mem _ hx)⟩

/-- After the top-level value, whitespace and the end of the input are accepted. -/
theorem accepts_scanAfter_top (t : JsonText) {f : StepFn} (k : Nat) {ws : Bytes}
    (hws : ∀ c ∈ ws, isSpace c = true) : (t.scanAfter ⟨f, false, [], none, k⟩).Accepts ws := by
  unfold JsonText.scanAfter
  split
  · exact accepts_endTop_space k hws
  · have hend : ∀ c, isSpace c = true →
        t.doneStep.apply ⟨t.doneStep, false, [], none, k⟩ c = (⟨.stateEndTop, true, [], none, k⟩, .scanEnd) :=
      fun c hc => by rw [StepFn.apply_valueDone t.doneStep_valueDone (isNumberByte_of_isSpace hc)]; exact if_pos hc
    show Scanner.Accepts ⟨t.doneStep, false, [], none, k⟩ ws
    cases ws with
    | nil => exact Scanner.eof_of_space (hend 0x20 rfl) rfl
    | cons c ws =>
      rw [Scanner.accepts_cons, hend c (hws c (List.mem_cons_self _ _))]
      exact ⟨nofun, accepts_endTop_space k fun x hx => hws x (List.mem_cons_of_mem _ hx)⟩

/-- The scanner accepts every document whose arrays and objects nest at most
`maxNestingDepth` deep, whatever its whitespace. -/
theorem Scanner.accepts_document (doc : Padded JsonText) (hd : doc.val.value.depth ≤ maxNestingDepth) :
    Scanner.init.Accepts (paddedBytes doc) := by
  obtain ⟨b, t, a⟩ := doc
  have h1 := runsAbove_space (f := .stateBeginValue) (n := 0) (e := false) (P := []) (r := none)
    (k := 0) rfl le_rfl b.space
  have h2 := runsAbove_text t (f := .stateBeginValue) (e := false) (P := []) (r := none) (k := 0)
    (.inl rfl) (by rw [List.length_nil, Nat.zero_add]; exact hd)
  exact ((h1.append h2).accepts_append a.bytes).mpr (accepts_scanAfter_top t 0 a.space)

/-- `checkValid` accepts every document whose arrays and objects nest at most
`maxNestingDepth` deep, whatever its whitespace. -/
theorem checkValid_document (doc : Padded JsonText) (hd : doc.val.value.depth ≤ maxNestingDepth) :
    checkValid (paddedBytes doc) = .ok () :=
  checkValid_of_accepts (Scanner.accepts_document doc hd)

theorem checkValid_document_member :
    (JsonText.object (⟨Ws.none, ⟨[0x61], .of_plain (by decide)⟩, Ws.none⟩, ⟨Ws.none, .null, Ws.none⟩)
        []).value.depth ≤ maxNestingDepth ∧
      checkValid (paddedBytes ⟨Ws.none, .object (⟨Ws.none, ⟨[0x61], .of_plain (by decide)⟩, Ws.none⟩,
        ⟨Ws.none, .null, Ws.none⟩) [], Ws.none⟩) = .ok () :=
  ⟨by decide, checkValid_document _ (by decide)⟩

end Json

end ProviderOrchard
