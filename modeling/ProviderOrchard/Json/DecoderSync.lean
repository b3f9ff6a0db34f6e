/-
`json.Unmarshal` keeps pace with the scanner `checkValid` ran over the same
input.  The decoder steps the scanner byte by byte except inside literals, which
`rescanLiteral` passes over on its own, and it panics with `phasePanicMsg`
wherever it meets an opcode the grammar does not allow at that point.  Over an
input the scanner accepts, every literal ends where the scanner's own run leaves
it, `unquoteBytes` takes every string body the scanner accepts, every `skip`
finds the bracket that closes its value, and the object loop meets only the
opcodes it expects: decoding into the map never panics.
-/
import ProviderOrchard.Json.ScannerRuns
import ProviderOrchard.Json.Unmarshal

namespace ProviderOrchard

namespace Json

open DecodeState

/-! ### Numbers -/

/-- The step functions inside a number. -/
def StepFn.inNumber : StepFn → Bool
  | .stateNeg | .state1 | .state0 | .stateDot | .stateDot0 | .stateE | .stateESign | .stateE0 => true
  | _ => false

/-- A byte `rescanLiteral` takes into a number is neither whitespace nor a delimiter. -/
theorem numberByte_not_delimiter {c : UInt8} (hc : isNumberByte c = true) :
    isSpace c = false ∧ c ≠ 0x3A ∧ c ≠ 0x2C ∧ c ≠ 0x7D ∧ c ≠ 0x5D := by
  simp only [isNumberByte, isDigit, Bool.or_eq_true, Bool.and_eq_true, decide_eq_true_eq,
    beq_iff_eq] at hc
  rcases hc with ((((⟨h0, h9⟩ | rfl) | rfl) | rfl) | rfl) | rfl
  · rw [Url.toNat_le_iff] at h0 h9
    simp only [UInt8.reduceToNat] at h0 h9
    have hne : ∀ b : UInt8, b.toNat < 48 ∨ 57 < b.toNat → c ≠ b := fun b hb h => by
      subst h
      omega
    refine ⟨Bool.eq_false_iff.mpr fun hs => ?_, hne _ (by decide), hne _ (by decide),
      hne _ (by decide), hne _ (by decide)⟩
    simp only [isSpace, Bool.or_eq_true, beq_iff_eq] at hs
    rcases hs with ((h | h) | h) | h <;> exact hne _ (by decide) h
  all_goals decide

/-- `stateEndValue` fails on a byte that closes nothing and separates nothing:
with an error, or with one recorded for the next step when the top level has ended. -/
theorem stateEndValue_numberByte {s : Scanner} {c : UInt8} (hc : isNumberByte c = true) :
    (stateEndValue s c).2 = .scanError ∨ (stateEndValue s c).1.err.isSome := by
  obtain ⟨hsp, hcolon, hcomma, hbrace, hbracket⟩ := numberByte_not_delimiter hc
  obtain ⟨st, e, _ | ⟨_ | _ | _, ps⟩, err, k⟩ := s <;> unfold stateEndValue <;> dsimp only
  · right
    unfold stateEndTop
    rw [if_neg (not_isSpace hsp)]
    rfl
  all_goals
    left
    simp only [if_neg (not_isSpace hsp), if_neg hcolon, if_neg hcomma, if_neg hbrace, if_neg hbracket]
    rfl

/-- What a number byte does inside a number: the number goes on, or the scanner fails. -/
def NumberStep (s : Scanner) (r : Scanner × ScanOp) : Prop :=
  (∃ f : StepFn, f.inNumber ∧ r = ({ s with step := f }, .scanContinue)) ∨ r.2 = .scanError ∨
    r.1.err.isSome

theorem NumberStep.move {s : Scanner} {f : StepFn} (hf : f.inNumber) :
    NumberStep s ({ s with step := f }, .scanContinue) := .inl ⟨f, hf, rfl⟩

theorem NumberStep.error {s : Scanner} {c : UInt8} {context : Bytes} :
    NumberStep s (s.error c context) := .inr (.inl rfl)

theorem NumberStep.ite {s : Scanner} {p : Prop} [Decidable p] {a b : Scanner × ScanOp}
    (ha : NumberStep s a) (hb : NumberStep s b) : NumberStep s (if p then a else b) := by
  split <;> assumption

theorem state0_numberStep (s : Scanner) {c : UInt8} (hc : isNumberByte c = true) :
    NumberStep s (state0 s c) := by
  unfold state0
  exact .ite (.move rfl) (.ite (.move rfl) (.inr (stateEndValue_numberByte hc)))

theorem stateESign_numberStep (s : Scanner) (c : UInt8) : NumberStep s (stateESign s c) := by
  unfold stateESign
  exact .ite (.move rfl) .error

/-- Inside a number, a number byte keeps the scanner inside the number or fails it. -/
theorem StepFn.apply_numberByte {s : Scanner} {c : UInt8} (hnum : s.step.inNumber)
    (hc : isNumberByte c = true) : NumberStep s (s.step.apply s c) := by
  obtain ⟨st, e, ps, err, k⟩ := s
  change st.inNumber = true at hnum
  have hend := stateEndValue_numberByte (s := ⟨st, e, ps, err, k⟩) hc
  cases st <;> try exact absurd hnum (by decide)
  · exact .ite (.move rfl) (.ite (.move rfl) .error)
  · exact .ite (.move rfl) (state0_numberStep _ hc)
  · exact state0_numberStep _ hc
  · exact .ite (.move rfl) .error
  · exact .ite (.move rfl) (.ite (.move rfl) (.inr hend))
  · exact .ite (.move rfl) (stateESign_numberStep _ c)
  · exact stateESign_numberStep _ c
  · exact .ite (.move rfl) (.inr hend)

/-- Inside a number, a byte that is no number byte either fails the scanner or is
read as the byte after a complete value. -/
theorem StepFn.apply_notNumberByte {s : Scanner} {c : UInt8} (hnum : s.step.inNumber)
    (hc : isNumberByte c = false) (hop : (s.step.apply s c).2 ≠ .scanError) :
    s.step.apply s c = Json.stateEndValue s c := by
  simp only [isNumberByte, Bool.or_eq_false_iff, beq_eq_false_iff_ne] at hc
  obtain ⟨⟨⟨⟨⟨hd, hdot⟩, he⟩, hE⟩, hplus⟩, hminus⟩ := hc
  have hd' : ¬ isDigit c = true := by rw [hd]; decide
  have hexp : ¬ (c = 0x65 ∨ c = 0x45) := by rintro (h | h) <;> contradiction
  have hsign : ¬ (c = 0x2B ∨ c = 0x2D) := by rintro (h | h) <;> contradiction
  obtain ⟨st, e, ps, err, k⟩ := s
  change st.inNumber = true at hnum
  cases st <;> try exact absurd hnum (by decide)
  · refine absurd ?_ hop
    show (Json.stateNeg _ c).2 = _
    simp only [isDigit, Bool.and_eq_true, decide_eq_true_eq, not_and] at hd'
    have h0 : c ≠ 0x30 := fun h => hd' (by rw [h]; decide) (by rw [h]; decide)
    have h19 : ¬ (0x31 ≤ c ∧ c ≤ 0x39) := fun h => hd'
      (by rw [Url.toNat_le_iff] at h ⊢; simp only [UInt8.reduceToNat] at h ⊢; omega) h.2
    unfold Json.stateNeg
    rw [if_neg h0, if_neg h19]
    rfl
  · show Json.state1 _ c = _
    unfold Json.state1 Json.state0
    rw [if_neg hd', if_neg hdot, if_neg hexp]
  · show Json.state0 _ c = _
    unfold Json.state0
    rw [if_neg hdot, if_neg hexp]
  · refine absurd ?_ hop
    show (Json.stateDot _ c).2 = _
    unfold Json.stateDot
    rw [if_neg hd']
    rfl
  · show Json.stateDot0 _ c = _
    unfold Json.stateDot0
    rw [if_neg hd', if_neg hexp]
  · refine absurd ?_ hop
    show (Json.stateE _ c).2 = _
    unfold Json.stateE Json.stateESign
    rw [if_neg hsign, if_neg hd']
    rfl
  · refine absurd ?_ hop
    show (Json.stateESign _ c).2 = _
    unfold Json.stateESign
    rw [if_neg hd']
    rfl
  · show Json.stateE0 _ c = _
    unfold Json.stateE0
    rw [if_neg hd']

/-- Inside a number that sits in an open object or array, the scanner accepts the
rest of the input only if, after the number bytes `rescanLiteral` takes, a byte
follows that the scanner reads as the end of a value. -/
theorem Scanner.accepts_number {s : Scanner} (hps : s.parseState ≠ []) (htop : s.endTop = false)
    (hnum : s.step.inNumber) {t : Bytes} (h : s.Accepts t) :
    ∃ c t', t.dropWhile isNumberByte = c :: t' ∧
      ({ s with step := .stateEndValue } : Scanner).Accepts (c :: t') := by
  induction t generalizing s with
  | nil => exact absurd h (Scanner.not_accepts_nil (Scanner.topClosed_of_endTop htop) hps)
  | cons c t ih =>
    by_cases hn : isNumberByte c = true
    · rw [List.dropWhile_cons, if_pos hn]
      rcases StepFn.apply_numberByte hnum hn with ⟨f, hf, heq⟩ | herr | herr
      · rw [Scanner.accepts_cons, heq] at h
        exact ih (s := { s with step := f }) hps htop hf h.2
      · exact absurd herr h.1
      · rw [h.2.err_eq_none] at herr
        cases herr
    · rw [List.dropWhile_cons, if_neg hn]
      refine ⟨c, t, rfl, ?_⟩
      rw [Scanner.accepts_cons, StepFn.apply_notNumberByte hnum (Bool.eq_false_iff.mpr hn) h.1] at h
      rw [Scanner.accepts_cons]
      change (stateEndValue { s with step := .stateEndValue } c).2 ≠ _ ∧
        (stateEndValue { s with step := .stateEndValue } c).1.Accepts t
      rw [stateEndValue_withStep]
      exact h

/-! ### Strings -/

theorem ishex_ne {x : UInt8} (h : Url.ishex x = true) : x ≠ 0x5C ∧ x ≠ 0x22 :=
  ⟨fun he => absurd (he ▸ h) (by decide), fun he => absurd (he ▸ h) (by decide)⟩

/-- `rescanLiteral` finds the closing quote after a body the scanner accepts. -/
theorem stringLiteralRest_strBody {body : Bytes} (h : StrBody body) (rest : Bytes) :
    stringLiteralRest (body ++ 0x22 :: rest) = (body ++ [0x22], rest) := by
  induction h with
  | nil => rfl
  | plain _ hq hbs _ ih =>
    rw [List.cons_append, stringLiteralRest_cons hbs hq, ih]
    rfl
  | escape _ _ ih =>
    rw [List.cons_append, List.cons_append, stringLiteralRest.eq_2, ih]
    rfl
  | escapeU hh _ ih =>
    obtain ⟨h1, h2, h3, h4⟩ := hh
    simp only [List.cons_append]
    rw [stringLiteralRest.eq_2, stringLiteralRest_cons (ishex_ne h1).1 (ishex_ne h1).2,
      stringLiteralRest_cons (ishex_ne h2).1 (ishex_ne h2).2,
      stringLiteralRest_cons (ishex_ne h3).1 (ishex_ne h3).2,
      stringLiteralRest_cons (ishex_ne h4).1 (ishex_ne h4).2, ih]

/-- `utf8.DecodeRune` reads at least one byte, and every byte it reads after the
first is a continuation byte. -/
theorem decodeRune_bytes (b : UInt8) (rest : Bytes) :
    1 ≤ (decodeRune (b :: rest)).2 ∧ ∀ x ∈ rest.take ((decodeRune (b :: rest)).2 - 1), 0x80 ≤ x := by
  have hge : ∀ {lo x : UInt8}, 0x80 ≤ lo → ¬ x < lo → 0x80 ≤ x := fun h1 h2 => by
    rw [Url.toNat_le_iff] at h1 ⊢
    rw [Url.toNat_lt_iff] at h2
    omega
  have hcont : ∀ {x : UInt8}, ¬ (x < 0x80 ∨ 0xBF < x) → 0x80 ≤ x := fun h =>
    hge (by decide) fun h' => h (.inl h')
  have hone : ∀ (r : Nat) (t : Bytes),
      1 ≤ (r, 1).2 ∧ ∀ x ∈ t.take ((r, 1).2 - 1), (0x80 : UInt8) ≤ x :=
    fun _ _ => ⟨le_refl 1, fun _ hx => absurd hx (List.not_mem_nil _)⟩
  rw [decodeRune.eq_2]
  by_cases h0 : b < 0x80
  · rw [if_pos h0]
    exact hone _ _
  rw [if_neg h0]
  by_cases h1 : b < 0xC2 ∨ 0xF4 < b
  · rw [if_pos h1]
    exact hone _ _
  rw [if_neg h1]
  have hlo : (0x80 : UInt8) ≤ (if b = 0xE0 then (0xA0 : UInt8) else if b = 0xF0 then 0x90 else 0x80) := by
    split_ifs <;> decide
  generalize (if b = 0xE0 then (0xA0 : UInt8) else if b = 0xF0 then 0x90 else 0x80) = lo at hlo ⊢
  generalize (if b = 0xED then (0x9F : UInt8) else if b = 0xF4 then 0x8F else 0xBF) = hi
  dsimp only
  rcases rest with _ | ⟨b1, rest⟩
  · exact hone _ _
  dsimp only
  by_cases hb1 : b1 < lo ∨ hi < b1
  · rw [if_pos hb1]
    exact hone _ _
  rw [if_neg hb1]
  have hb1' := hge hlo fun h => hb1 (.inl h)
  by_cases h2 : b < 0xE0
  · rw [if_pos h2]
    exact ⟨Nat.le_add_left 1 _, by simpa using hb1'⟩
  rw [if_neg h2]
  rcases rest with _ | ⟨b2, rest⟩
  · exact hone _ _
  dsimp only
  by_cases hb2 : b2 < 0x80 ∨ 0xBF < b2
  · rw [if_pos hb2]
    exact hone _ _
  rw [if_neg hb2]
  by_cases h3 : b < 0xF0
  · rw [if_pos h3]
    exact ⟨Nat.le_add_left 1 _, by simpa using ⟨hb1', hcont hb2⟩⟩
  rw [if_neg h3]
  rcases rest with _ | ⟨b3, rest⟩
  · exact hone _ _
  dsimp only
  by_cases hb3 : b3 < 0x80 ∨ 0xBF < b3
  · rw [if_pos hb3]
    exact hone _ _
  rw [if_neg hb3]
  exact ⟨Nat.le_add_left 1 _, by simpa using ⟨hb1', hcont hb2, hcont hb3⟩⟩

theorem StrBody.tail {c : UInt8} {t : Bytes} (h : StrBody (c :: t)) (hc : c ≠ 0x5C) : StrBody t := by
  cases h with
  | plain _ _ _ h => exact h
  | escape => exact absurd rfl hc
  | escapeU => exact absurd rfl hc

/-- Continuation bytes are plain bytes of a body. -/
theorem StrBody.drop_of_high : ∀ (k : Nat) {t : Bytes}, StrBody t → (∀ x ∈ t.take k, 0x80 ≤ x) →
    StrBody (t.drop k)
  | 0, _, h, _ => h
  | _ + 1, [], h, _ => h
  | k + 1, c :: _, h, hx =>
    StrBody.drop_of_high k (h.tail fun hc => absurd (hx c (List.mem_cons_self _ _)) (by rw [hc]; decide))
      fun x hx' => hx x (List.mem_cons_of_mem _ hx')

theorem StrBody.escapeU_inv {g1 g2 g3 g4 : UInt8} {t : Bytes}
    (h : StrBody (0x5C :: 0x75 :: g1 :: g2 :: g3 :: g4 :: t)) : StrBody t := by
  cases h with
  | plain _ _ hbs => exact absurd rfl hbs
  | escape he => exact absurd he (by decide)
  | escapeU _ h => exact h

theorem getu4_nonneg {t : Bytes} (h : 0 ≤ getu4 t) :
    ∃ g1 g2 g3 g4 t', t = 0x5C :: 0x75 :: g1 :: g2 :: g3 :: g4 :: t' := by
  unfold getu4 at h
  split at h
  · exact ⟨_, _, _, _, _, rfl⟩
  · exact absurd h (by decide)

theorem utf16DecodeRune_nonneg {r1 r2 : Int} (h : utf16DecodeRune r1 r2 ≠ runeError) : 0 ≤ r2 := by
  unfold utf16DecodeRune at h
  split_ifs at h with hc
  · omega
  · exact absurd rfl h

/-- `unquoteBytes`'s loop takes every body the scanner accepts. -/
theorem unquoteLoop_isSome (n : Nat) : ∀ {body : Bytes}, body.length < n → StrBody body →
    (unquoteLoop body).isSome := by
  induction n with
  | zero => exact fun hlen => absurd hlen (Nat.not_lt_zero _)
  | succ n ih =>
    intro body hlen hb
    cases hb with
    | nil =>
      rw [unquoteLoop.eq_1]
      rfl
    | @plain c rest hsp hq hbs hrest =>
      have hlen' : rest.length < n := by simp only [List.length_cons] at hlen; omega
      rw [unquoteLoop.eq_4 c rest (fun h => absurd h hbs) (fun _ _ h => absurd h hbs),
        if_neg fun h => h.elim hq fun h' => absurd hsp (UInt8.not_le.mpr h')]
      split_ifs
      · rw [Option.isSome_map']
        exact ih hlen' hrest
      · dsimp only
        rw [Option.isSome_map']
        exact ih (by simp only [List.length_drop]; omega)
          (hrest.drop_of_high _ (decodeRune_bytes c rest).2)
    | @escape e rest he hrest =>
      have hih := ih (by simp only [List.length_cons] at hlen; omega) hrest
      have he' : e = 0x62 ∨ e = 0x66 ∨ e = 0x6E ∨ e = 0x72 ∨ e = 0x74 ∨ e = 0x5C ∨ e = 0x2F ∨
          e = 0x22 := by
        have hlit : lit "bfnrt\\/\"" = [0x62, 0x66, 0x6E, 0x72, 0x74, 0x5C, 0x2F, 0x22] := by decide
        simpa [hlit] using he
      rw [unquoteLoop.eq_3]
      rcases he' with rfl | rfl | rfl | rfl | rfl | rfl | rfl | rfl <;> simp [hih]
    | @escapeU h1 h2 h3 h4 rest hh hrest =>
      have hlen' : rest.length < n := by simp only [List.length_cons] at hlen; omega
      have hnn : ¬ getu4 (0x5C :: 0x75 :: h1 :: h2 :: h3 :: h4 :: rest) < 0 := by
        simp only [getu4, hh.1, hh.2.1, hh.2.2.1, hh.2.2.2, Bool.and_self, if_true]
        omega
      rw [unquoteLoop.eq_3, if_neg (by decide), if_neg (by decide), if_neg (by decide),
        if_neg (by decide), if_neg (by decide), if_neg (by decide), if_pos rfl]
      dsimp only
      rw [if_neg hnn]
      simp only [List.drop_succ_cons, List.drop_zero]
      split_ifs with hsur hdec
      · obtain ⟨g1, g2, g3, g4, t', rfl⟩ := getu4_nonneg (utf16DecodeRune_nonneg hdec)
        have ht' : t'.length < n := by
          simp only [List.length_cons] at hlen'
          omega
        rw [Option.isSome_map']
        exact ih ht' hrest.escapeU_inv
      · rw [Option.isSome_map']
        exact ih hlen' hrest
      · rw [Option.isSome_map']
        exact ih hlen' hrest

/-- The plain prefix `unquoteBytes` copies ends where the rest is still a body. -/
theorem StrBody.drop_plainPrefixLength {body : Bytes} (h : StrBody body) :
    StrBody (body.drop (plainPrefixLength body)) := by
  induction body using plainPrefixLength.induct with
  | case1 =>
    rw [plainPrefixLength.eq_1]
    exact h
  | case2 b0 rest hsp =>
    rw [plainPrefixLength.eq_2, if_pos hsp]
    exact h
  | case3 b0 rest hsp hlt ih =>
    rw [plainPrefixLength.eq_2, if_neg hsp, if_pos hlt, List.drop_succ_cons]
    exact ih (h.tail fun hc => hsp (.inl hc))
  | case4 b0 rest hsp hlt _ hbad =>
    rw [plainPrefixLength.eq_2, if_neg hsp, if_neg hlt]
    dsimp only
    rw [if_pos hbad]
    exact h
  | case5 b0 rest hsp hlt _ hgood ih =>
    obtain ⟨hone, hcont⟩ := decodeRune_bytes b0 rest
    rw [plainPrefixLength.eq_2, if_neg hsp, if_neg hlt]
    dsimp only
    rw [if_neg hgood]
    have hdrop : (b0 :: rest).drop (plainPrefixLength (rest.drop ((decodeRune (b0 :: rest)).2 - 1)) +
        (decodeRune (b0 :: rest)).2) =
        (rest.drop ((decodeRune (b0 :: rest)).2 - 1)).drop
          (plainPrefixLength (rest.drop ((decodeRune (b0 :: rest)).2 - 1))) := by
      obtain ⟨k, hk⟩ : ∃ k, (decodeRune (b0 :: rest)).2 = k + 1 := ⟨_, (Nat.sub_add_cancel hone).symm⟩
      rw [hk, Nat.add_sub_cancel, ← Nat.add_assoc, List.drop_succ_cons, List.drop_drop, Nat.add_comm]
    rw [hdrop]
    exact ih ((h.tail fun hc => hsp (.inl hc)).drop_of_high _ hcont)

/-- `unquoteBytes` takes every string literal the scanner accepts. -/
theorem unquoteBytes_strBody {body : Bytes} (h : StrBody body) :
    (unquoteBytes (0x22 :: (body ++ [0x22]))).isSome := by
  have hbody : ((0x22 :: (body ++ [0x22])).drop 1).dropLast = body := by
    rw [List.drop_one, List.tail_cons, List.dropLast_concat]
  rw [unquoteBytes, if_neg (by rw [← List.cons_append, List.getLast?_concat]; simp), hbody]
  dsimp only
  split_ifs
  · rfl
  · rw [Option.isSome_map']
    exact unquoteLoop_isSome _ (Nat.lt_succ_self _) h.drop_plainPrefixLength

/-! ### The decoder's passes over the scanner -/

theorem isDigit_of_digit {c : UInt8} (h1 : 0x31 ≤ c) (h9 : c ≤ 0x39) : isDigit c = true := by
  simp only [isDigit, Bool.and_eq_true, decide_eq_true_eq, Url.toNat_le_iff,
    UInt8.reduceToNat] at h1 h9 ⊢
  omega

theorem ne_of_isDigit {c b : UInt8} (hc : isDigit c = true) (hb : isDigit b = false) : c ≠ b :=
  fun h => by rw [h, hb] at hc; exact Bool.false_ne_true hc

namespace DecodeState

/-- From a scanner waiting for a byte other than whitespace, `scanWhile(scanSkipSpace)`
passes over whitespace and stops at the first other byte. -/
theorem scanWhileFrom_waiting {d : DecodeState} (hw : d.scan.Waiting) {t : Bytes}
    (hacc : d.scan.Accepts t) :
    ∃ c t', isSpace c = false ∧ t'.length < t.length ∧
      (d.scan.step.apply d.scan c).2 ≠ .scanError ∧ (d.scan.step.apply d.scan c).1.Accepts t' ∧
      scanWhileFrom .scanSkipSpace d t =
        { d with rest := t', last := c, scan := (d.scan.step.apply d.scan c).1,
                 opcode := (d.scan.step.apply d.scan c).2 } := by
  induction t generalizing d with
  | nil => exact absurd hacc hw.not_accepts_nil
  | cons c t ih =>
    cases hc : isSpace c
    · refine ⟨c, t, hc, Nat.lt_succ_self _, hacc.1, hacc.2, ?_⟩
      rw [scanWhileFrom, if_neg (hw.other c hc)]
    · have hsp := hw.space c hc
      rw [Scanner.accepts_cons, hsp] at hacc
      obtain ⟨c', t', hc', hlen, hop, hacc', heq⟩ := ih (d := { d with last := c }) hw hacc.2
      refine ⟨c', t', hc', Nat.lt_succ_of_lt hlen, hop, hacc', ?_⟩
      rw [scanWhileFrom, hsp, if_pos rfl]
      exact heq

theorem scanWhile_waiting {d : DecodeState} (hw : d.scan.Waiting) (hacc : d.scan.Accepts d.rest) :
    ∃ c t', isSpace c = false ∧ t'.length < d.rest.length ∧
      (d.scan.step.apply d.scan c).2 ≠ .scanError ∧ (d.scan.step.apply d.scan c).1.Accepts t' ∧
      d.scanWhile .scanSkipSpace =
        { d with rest := t', last := c, scan := (d.scan.step.apply d.scan c).1,
                 opcode := (d.scan.step.apply d.scan c).2 } :=
  scanWhileFrom_waiting hw hacc

/-- After a value inside an open object or array the input goes on, and `scanNext`
reads its next byte with `stateEndValue`. -/
theorem scanNext_endValue {d : DecodeState} (hstep : d.scan.step = .stateEndValue)
    (hps : d.scan.parseState ≠ []) (htc : d.scan.TopClosed) (hacc : d.scan.Accepts d.rest) :
    ∃ c t, t.length < d.rest.length ∧ d.scan.Accepts (c :: t) ∧
      d.scanNext = { d with rest := t, last := c, scan := (stateEndValue d.scan c).1,
                            opcode := (stateEndValue d.scan c).2 } := by
  rcases hrest : d.rest with _ | ⟨c, t⟩
  · rw [hrest] at hacc
    exact absurd hacc (Scanner.not_accepts_nil htc hps)
  · refine ⟨c, t, Nat.lt_succ_self _, hrest ▸ hacc, ?_⟩
    rw [scanNext, hrest, hstep]
    rfl

/-- A string literal: `rescanLiteral` ends at the closing quote after a body the
scanner accepts, wherever the string stands. -/
theorem rescanLiteral_acceptedString {d : DecodeState} (hlast : d.last = 0x22)
    (hstep : d.scan.step = .stateInString) (htop : d.scan.endTop = false)
    (hacc : d.scan.Accepts d.rest) :
    ∃ body rest, StrBody body ∧ d.rest = body ++ 0x22 :: rest ∧
      ({ d.scan with step := .stateEndValue } : Scanner).Accepts rest ∧
      d.rescanLiteral.2 = body ++ [0x22] := by
  obtain ⟨body, rest, hrest, hbody, hacc'⟩ :=
    Scanner.accepts_inString _ (Nat.lt_succ_self _) hacc hstep htop
  refine ⟨body, rest, hbody, hrest, hacc', ?_⟩
  simp only [rescanLiteral, if_pos hlast, hrest, stringLiteralRest_strBody hbody]
  split <;> rfl

/-- Inside an open object or array, `rescanLiteral` stops where the scanner's own run
ends the literal, and reads the byte after it with `stateEndValue`. -/
theorem rescanLiteral_sync {d : DecodeState} {q : StepFn} (hstart : LiteralStart d.last q)
    (hstep : d.scan.step = q) (htop : d.scan.endTop = false) (hps : d.scan.parseState ≠ [])
    (hacc : d.scan.Accepts d.rest) :
    ∃ c t, t.length < d.rest.length ∧
      ({ d.scan with step := .stateEndValue } : Scanner).Accepts (c :: t) ∧
      d.rescanLiteral.1 =
        { d with rest := t, last := c,
                 scan := (stateEndValue ({ d.scan with step := .stateEndValue } : Scanner) c).1,
                 opcode := (stateEndValue ({ d.scan with step := .stateEndValue } : Scanner) c).2 } := by
  simp only [stateEndValue_withStep]
  have htc : ({ d.scan with step := .stateEndValue } : Scanner).TopClosed :=
    Scanner.topClosed_of_endTop htop
  have hcons : ∀ {t : Bytes}, ({ d.scan with step := .stateEndValue } : Scanner).Accepts t →
      ∃ c t', t = c :: t' := fun {t} h => by
    cases t with
    | nil => exact absurd h (Scanner.not_accepts_nil htc hps)
    | cons c t' => exact ⟨c, t', rfl⟩
  have hnum : d.scan.step.inNumber → ∃ c t, t.length < d.rest.length ∧
      ({ d.scan with step := .stateEndValue } : Scanner).Accepts (c :: t) ∧
      (d.rest.span isNumberByte).2 = c :: t := fun hn => by
    obtain ⟨c, t, hdrop, hacc'⟩ := Scanner.accepts_number hps htop hn hacc
    refine ⟨c, t, ?_, hacc', by rw [List.span_eq_take_drop, hdrop]⟩
    have := (List.dropWhile_suffix isNumberByte (l := d.rest)).length_le
    rw [hdrop, List.length_cons] at this
    omega
  have hword : ∀ k : Nat, ({ d.scan with step := .stateEndValue } : Scanner).Accepts (d.rest.drop k) →
      ∃ c t, t.length < d.rest.length ∧
        ({ d.scan with step := .stateEndValue } : Scanner).Accepts (c :: t) ∧
        d.rest.drop k = c :: t := fun k hacc' => by
    obtain ⟨c, t, hct⟩ := hcons hacc'
    refine ⟨c, t, ?_, hct ▸ hacc', hct⟩
    have := congrArg List.length hct
    rw [List.length_drop, List.length_cons] at this
    omega
  generalize hl : d.last = l at hstart
  cases hstart with
  | string =>
    obtain ⟨body, rest, hbody, hrest, hacc', -⟩ := rescanLiteral_acceptedString hl hstep htop hacc
    obtain ⟨c, t, rfl⟩ := hcons hacc'
    refine ⟨c, t, by rw [hrest]; simp only [List.length_append, List.length_cons]; omega, hacc', ?_⟩
    simp only [rescanLiteral, if_pos hl, hrest, stringLiteralRest_strBody hbody]
  | minus =>
    obtain ⟨c, t, hlen, hacc', hspan⟩ := hnum (by rw [hstep]; rfl)
    refine ⟨c, t, hlen, hacc', ?_⟩
    simp only [rescanLiteral, hl, if_neg (by decide : ¬ (0x2D : UInt8) = 0x22), true_or, if_true, hspan]
  | zero =>
    obtain ⟨c, t, hlen, hacc', hspan⟩ := hnum (by rw [hstep]; rfl)
    refine ⟨c, t, hlen, hacc', ?_⟩
    simp only [rescanLiteral, hl, if_neg (by decide : ¬ (0x30 : UInt8) = 0x22),
      if_pos (Or.inr (by decide : isDigit 0x30 = true)), hspan]
  | digit h1 h9 =>
    have hd := isDigit_of_digit h1 h9
    obtain ⟨c, t, hlen, hacc', hspan⟩ := hnum (by rw [hstep]; rfl)
    refine ⟨c, t, hlen, hacc', ?_⟩
    simp only [rescanLiteral, hl, if_neg (ne_of_isDigit (b := 0x22) hd rfl), if_pos (Or.inr hd), hspan]
  | trueWord =>
    obtain ⟨t1, h1, a1⟩ := Scanner.accepts_literalByte hacc (by rw [hstep]; rfl) htop
    obtain ⟨t2, h2, a2⟩ := Scanner.accepts_literalByte a1 rfl htop
    obtain ⟨t3, h3, a3⟩ := Scanner.accepts_literalByte a2 rfl htop
    have hdrop : d.rest.drop 3 = t3 := by rw [h1, h2, h3]; rfl
    obtain ⟨c, t, hlen, hacc', hct⟩ := hword 3 (hdrop ▸ a3)
    refine ⟨c, t, hlen, hacc', ?_⟩
    simp only [rescanLiteral, hl, if_neg (by decide : ¬ (0x74 : UInt8) = 0x22),
      if_neg (by decide : ¬ ((0x74 : UInt8) = 0x2D ∨ isDigit 0x74 = true)), true_or, if_true, hct]
  | falseWord =>
    obtain ⟨t1, h1, a1⟩ := Scanner.accepts_literalByte hacc (by rw [hstep]; rfl) htop
    obtain ⟨t2, h2, a2⟩ := Scanner.accepts_literalByte a1 rfl htop
    obtain ⟨t3, h3, a3⟩ := Scanner.accepts_literalByte a2 rfl htop
    obtain ⟨t4, h4, a4⟩ := Scanner.accepts_literalByte a3 rfl htop
    have hdrop : d.rest.drop 4 = t4 := by rw [h1, h2, h3, h4]; rfl
    obtain ⟨c, t, hlen, hacc', hct⟩ := hword 4 (hdrop ▸ a4)
    refine ⟨c, t, hlen, hacc', ?_⟩
    simp only [rescanLiteral, hl, if_neg (by decide : ¬ (0x66 : UInt8) = 0x22),
      if_neg (by decide : ¬ ((0x66 : UInt8) = 0x2D ∨ isDigit 0x66 = true)),
      if_neg (by decide : ¬ ((0x66 : UInt8) = 0x74 ∨ (0x66 : UInt8) = 0x6E)), if_true, hct]
  | nullWord =>
    obtain ⟨t1, h1, a1⟩ := Scanner.accepts_literalByte hacc (by rw [hstep]; rfl) htop
    obtain ⟨t2, h2, a2⟩ := Scanner.accepts_literalByte a1 rfl htop
    obtain ⟨t3, h3, a3⟩ := Scanner.accepts_literalByte a2 rfl htop
    have hdrop : d.rest.drop 3 = t3 := by rw [h1, h2, h3]; rfl
    obtain ⟨c, t, hlen, hacc', hct⟩ := hword 3 (hdrop ▸ a3)
    refine ⟨c, t, hlen, hacc', ?_⟩
    simp only [rescanLiteral, hl, if_neg (by decide : ¬ (0x6E : UInt8) = 0x22),
      if_neg (by decide : ¬ ((0x6E : UInt8) = 0x2D ∨ isDigit 0x6E = true)), or_true, if_true, hct]

/-- A string literal's bytes, as `rescanLiteral` cuts them, are a well-formed body and
its closing quote. -/
theorem rescanLiteral_strBody {d : DecodeState} {q : StepFn} (hstart : LiteralStart d.last q)
    (hstep : d.scan.step = q) (htop : d.scan.endTop = false) (hacc : d.scan.Accepts d.rest) :
    d.last = 0x22 → ∃ s, StrBody s ∧ d.rescanLiteral.2 = s ++ [0x22] := by
  intro h
  generalize hl : d.last = l at hstart h
  cases hstart with
  | string =>
    obtain ⟨s, -, hs, -, -, hlit⟩ := rescanLiteral_acceptedString hl hstep htop hacc
    exact ⟨s, hs, hlit⟩
  | digit h1 h9 => exact absurd h (ne_of_isDigit (b := 0x22) (isDigit_of_digit h1 h9) rfl)
  | _ => exact absurd h (by decide)

theorem rescanLiteral_savedError (d : DecodeState) : d.rescanLiteral.1.savedError = d.savedError := by
  unfold rescanLiteral
  dsimp only
  split <;> rfl

theorem scanNext_savedError (d : DecodeState) : d.scanNext.savedError = d.savedError := by
  unfold scanNext
  split <;> rfl

/-- `skip` steps the scanner until the value just opened closes, which it does
before the input ends: the stack is back to what it was below the value. -/
theorem skipFrom_sync {O : List ParseState} : ∀ {t : Bytes} {d : DecodeState} {P : List ParseState},
    P ≠ [] → d.scan.parseState = P ++ O → d.scan.TopClosed → d.scan.Accepts t →
    ∃ d', skipFrom (O.length + 1) d t = some d' ∧ d'.scan.parseState = O ∧
      (O ≠ [] → d'.scan.step = .stateEndValue) ∧ d'.scan.TopClosed ∧ d'.scan.Accepts d'.rest ∧
      d'.rest.length < t.length ∧ d'.savedError = d.savedError := by
  intro t
  induction t with
  | nil =>
    intro d P hP hps htc hacc
    exact absurd hacc (Scanner.not_accepts_nil htc (by rw [hps]; exact List.append_ne_nil_of_left_ne_nil hP O))
  | cons c t ih =>
    intro d P hP hps htc hacc
    rcases (d.scan.step.apply_shape d.scan c).parseState_suffix hP hps with ⟨Q, hQ, hQps⟩ | ⟨hpop, htail⟩
    · have hlen : ¬ (d.scan.step.apply d.scan c).1.parseState.length < O.length + 1 := by
        rw [hQps, List.length_append]
        have := List.length_pos.mpr hQ
        omega
      obtain ⟨d', h1, h2, h3, h4, h5, h6, h7⟩ :=
        ih (d := { d with last := c, scan := (d.scan.step.apply d.scan c).1 }) hQ hQps (htc.step c)
          hacc.2
      refine ⟨d', ?_, h2, h3, h4, h5, Nat.lt_succ_of_lt h6, h7⟩
      rw [skipFrom, if_neg hlen]
      exact h1
    · have hO : (d.scan.step.apply d.scan c).1.parseState = O := by
        rw [hpop, Scanner.popParseState_parseState, htail]
      refine ⟨{ d with rest := t, last := c, scan := (d.scan.step.apply d.scan c).1,
                       opcode := (d.scan.step.apply d.scan c).2 },
        ?_, hO, fun hne => ?_, htc.step c, hacc.2, Nat.lt_succ_self _, rfl⟩
      · rw [skipFrom, if_pos (by rw [hO]; exact Nat.lt_succ_self _)]
      · show (d.scan.step.apply d.scan c).1.step = _
        rw [hpop, Scanner.popParseState_of_tail_ne (by rw [htail]; exact hne)]

/-- `skipValue` on the object or array just opened inside an open object: the first
error is saved, and `skip` leaves the scanner after the value, expecting `,` or `}`. -/
theorem skipValue_sync {d : DecodeState} {p : ParseState} {O : List ParseState}
    (hps : d.scan.parseState = p :: O) (htc : d.scan.TopClosed)
    (hacc : d.scan.Accepts d.rest) (value goType : Bytes) :
    ∃ d', d.skipValue value goType = some d' ∧ d'.scan.parseState = O ∧
      (O ≠ [] → d'.scan.step = .stateEndValue) ∧ d'.scan.TopClosed ∧ d'.scan.Accepts d'.rest ∧
      d'.rest.length < d.rest.length ∧
      d'.savedError = (d.saveError (.unmarshalType value goType)).savedError := by
  have hsave : ∀ e, (d.saveError e).scan = d.scan ∧ (d.saveError e).rest = d.rest := fun e => by
    unfold saveError
    split <;> exact ⟨rfl, rfl⟩
  obtain ⟨hscan, hrest⟩ := hsave (.unmarshalType value goType)
  obtain ⟨d', h1, h2, h3, h4, h5, h6, h7⟩ := skipFrom_sync (t := d.rest)
    (d := d.saveError (.unmarshalType value goType)) (List.cons_ne_nil p [])
    (by rw [hscan, hps]; rfl) (hscan ▸ htc) (hscan ▸ hacc)
  refine ⟨d', ?_, h2, h3, h4, h5, h6, h7⟩
  rw [skipValue, skip, hscan, hrest, hps]
  exact h1

/-- After a value inside an open object or array, whitespace is passed over and the
next byte is read with `stateEndValue`. -/
theorem afterValue_sync (e : DecodeState) {s : Scanner} {p : ParseState} {O : List ParseState}
    {c : UInt8} {t : Bytes} (hstep : s.step = .stateEndValue) (htop : s.endTop = false)
    (hps : s.parseState = p :: O) (hacc : s.Accepts (c :: t)) :
    ∃ c' t', isSpace c' = false ∧ t'.length ≤ t.length ∧ (stateEndValue s c').2 ≠ .scanError ∧
      (stateEndValue s c').1.Accepts t' ∧
      (let d : DecodeState := { e with rest := t, last := c, scan := (stateEndValue s c).1,
                                       opcode := (stateEndValue s c).2 }
       if d.opcode = .scanSkipSpace then d.scanWhile .scanSkipSpace else d) =
        { e with rest := t', last := c', scan := (stateEndValue s c').1,
                 opcode := (stateEndValue s c').2 } := by
  have hne : s.parseState ≠ [] := by rw [hps]; exact List.cons_ne_nil _ _
  have hw := Scanner.waiting_endValue hstep htop hne
  have happly : s.step.apply s = stateEndValue s := by rw [hstep]; rfl
  rw [Scanner.accepts_cons, happly] at hacc
  cases hc : isSpace c
  · refine ⟨c, t, hc, le_refl _, hacc.1, hacc.2, ?_⟩
    dsimp only
    rw [if_neg (stateEndValue_ne_skipSpace hne hc)]
  · have hsp : stateEndValue s c = (s, .scanSkipSpace) := by rw [← happly]; exact hw.space c hc
    rw [hsp] at hacc
    obtain ⟨c', t', hc', hlen, hop, hacc', heq⟩ :=
      scanWhile_waiting (d := { e with rest := t, last := c, scan := s, opcode := .scanSkipSpace }) hw hacc.2
    rw [happly] at hop hacc' heq
    refine ⟨c', t', hc', le_of_lt hlen, hop, hacc', ?_⟩
    dsimp only
    rw [hsp, if_pos rfl]
    exact heq

theorem saveError_update (d : DecodeState) (err : JsonError) (t : Bytes) (c : UInt8)
    (r : Scanner × ScanOp) :
    ({ d with rest := t, last := c, scan := r.1, opcode := r.2 } : DecodeState).saveError err =
      { d.saveError err with rest := t, last := c, scan := r.1, opcode := r.2 } := by
  unfold saveError
  by_cases h : d.savedError = none <;> simp [h]

/-- A saved type error is never the phase panic. -/
theorem saveError_ne_phase {d : DecodeState} (hnp : d.savedError ≠ some .phase) (value goType : Bytes) :
    (d.saveError (.unmarshalType value goType)).savedError ≠ some .phase := by
  unfold saveError
  split
  · exact fun h => by cases h
  · exact hnp

/-- A literal where a `string` is wanted: stored when it is a string or `null`, a type
error otherwise, with the decoder's position untouched. -/
theorem literalStoreString_sync (D : DecodeState) (t : Bytes) (c : UInt8) (r : Scanner × ScanOp)
    {b : UInt8} {q : StepFn} {body : Bytes} (hq : LiteralStart b q)
    (hstr : b = 0x22 → ∃ s, StrBody s ∧ body = s ++ [0x22]) (hnp : D.savedError ≠ some .phase) :
    ∃ (e : DecodeState) (v : Bytes),
      literalStoreString { D with rest := t, last := c, scan := r.1, opcode := r.2 } b body =
        some ({ e with rest := t, last := c, scan := r.1, opcode := r.2 }, v) ∧
      e.savedError ≠ some .phase := by
  cases hq with
  | string =>
    obtain ⟨s, hs, rfl⟩ := hstr rfl
    obtain ⟨key, hkey⟩ := Option.isSome_iff_exists.mp (unquoteBytes_strBody hs)
    refine ⟨D, key, ?_, hnp⟩
    rw [literalStoreString, if_neg (by decide), if_neg (by decide), if_pos rfl, hkey,
      Option.map_some']
  | nullWord => exact ⟨D, [], rfl, hnp⟩
  | trueWord | falseWord =>
    refine ⟨D.saveError (.unmarshalType (lit "bool") stringType), [], ?_, saveError_ne_phase hnp _ _⟩
    rw [← saveError_update]
    rfl
  | minus | zero =>
    refine ⟨D.saveError (.unmarshalType (lit "number") stringType), [], ?_,
      saveError_ne_phase hnp _ _⟩
    rw [← saveError_update]
    rfl
  | digit h1 h9 =>
    have hd := isDigit_of_digit h1 h9
    refine ⟨D.saveError (.unmarshalType (lit "number") stringType), [], ?_,
      saveError_ne_phase hnp _ _⟩
    rw [literalStoreString, if_neg (ne_of_isDigit (b := 0x6E) hd rfl),
      if_neg (not_or.mpr ⟨ne_of_isDigit (b := 0x74) hd rfl, ne_of_isDigit (b := 0x66) hd rfl⟩),
      if_neg (ne_of_isDigit (b := 0x22) hd rfl), if_pos (Or.inr hd), saveError_update]

/-- An object or array where a `string` is wanted: the type error, the skip, and the
byte after it. -/
theorem skipValueString_sync {d : DecodeState} {p : ParseState} {O : List ParseState}
    (hps : d.scan.parseState = p :: .parseObjectValue :: O) (htop : d.scan.endTop = false)
    (hacc : d.scan.Accepts d.rest) (hnp : d.savedError ≠ some .phase) (value : Bytes) :
    ∃ (e : DecodeState) (s : Scanner) (c : UInt8) (t : Bytes),
      (d.skipValue value stringType).map (fun d => (d.scanNext, ([] : Bytes))) =
        some ({ e with rest := t, last := c, scan := (stateEndValue s c).1,
                       opcode := (stateEndValue s c).2 }, []) ∧
      e.savedError ≠ some .phase ∧ s.step = .stateEndValue ∧
      s.parseState = .parseObjectValue :: O ∧ s.endTop = false ∧ s.Accepts (c :: t) ∧
      t.length < d.rest.length := by
  have hne : (.parseObjectValue :: O : List ParseState) ≠ [] := List.cons_ne_nil _ _
  have htc : d.scan.TopClosed := Scanner.topClosed_of_endTop htop
  obtain ⟨d5, hskip, hps5, hstep5, htc5, hacc5, hlen5, hse5⟩ :=
    skipValue_sync hps htc hacc value stringType
  obtain ⟨c, t, hlen, hacc', hnext⟩ := scanNext_endValue (hstep5 hne) (hps5 ▸ hne) htc5 hacc5
  refine ⟨d5, d5.scan, c, t, by rw [hskip, Option.map_some', hnext], ?_, hstep5 hne, hps5,
    htc5.endTop_eq_false (hps5 ▸ hne), hacc', by omega⟩
  rw [hse5]
  exact saveError_ne_phase hnp _ _

/-- A member's value: `value` into a `string` element, from the byte after `:`.  Objects
and arrays are skipped, literals stored; the decoder ends after the value with the
scanner reading the next byte as `stateEndValue`. -/
theorem valueString_sync {d : DecodeState} {O : List ParseState} (hstep : d.scan.step = .stateBeginValue)
    (hps : d.scan.parseState = .parseObjectValue :: O) (htop : d.scan.endTop = false)
    (hacc : d.scan.Accepts d.rest) (hnp : d.savedError ≠ some .phase) :
    ∃ (e : DecodeState) (v : Bytes) (s : Scanner) (c : UInt8) (t : Bytes),
      valueString (d.scanWhile .scanSkipSpace) =
        some ({ e with rest := t, last := c, scan := (stateEndValue s c).1,
                       opcode := (stateEndValue s c).2 }, v) ∧
      e.savedError ≠ some .phase ∧ s.step = .stateEndValue ∧
      s.parseState = .parseObjectValue :: O ∧ s.endTop = false ∧ s.Accepts (c :: t) ∧
      t.length < d.rest.length := by
  obtain ⟨c4, t4, hc4, hlen4, hop4, hacc4, hd4⟩ :=
    scanWhile_waiting (Scanner.waiting_beginValue hstep htop) hacc
  have happly : d.scan.step.apply d.scan = stateBeginValue d.scan := by rw [hstep]; rfl
  rw [happly] at hop4 hacc4 hd4
  rw [hd4]
  rcases stateBeginValue_cases hc4 hop4 with ⟨-, hr⟩ | ⟨-, hr⟩ | ⟨q, hq, hr⟩
  · rw [hr] at hacc4 ⊢
    obtain ⟨e, s, c, t, h, h1, h2, h3, h4, h5, hlen⟩ := skipValueString_sync
      (d := { d with rest := t4, last := c4, opcode := .scanBeginObject,
                     scan := { d.scan with step := .stateBeginStringOrEmpty,
                                           parseState := .parseObjectKey :: d.scan.parseState } })
      (by rw [hps]) htop hacc4 hnp (lit "object")
    exact ⟨e, [], s, c, t, h, h1, h2, h3, h4, h5, hlen.trans hlen4⟩
  · rw [hr] at hacc4 ⊢
    obtain ⟨e, s, c, t, h, h1, h2, h3, h4, h5, hlen⟩ := skipValueString_sync
      (d := { d with rest := t4, last := c4, opcode := .scanBeginArray,
                     scan := { d.scan with step := .stateBeginValueOrEmpty,
                                           parseState := .parseArrayValue :: d.scan.parseState } })
      (by rw [hps]) htop hacc4 hnp (lit "array")
    exact ⟨e, [], s, c, t, h, h1, h2, h3, h4, h5, hlen.trans hlen4⟩
  · rw [hr] at hacc4 ⊢
    obtain ⟨c, t, hlen, hacc', hres⟩ := rescanLiteral_sync
      (d := { d with rest := t4, last := c4, opcode := .scanBeginLiteral,
                     scan := { d.scan with step := q } })
      hq rfl htop (by rw [hps]; exact List.cons_ne_nil _ _) hacc4
    obtain ⟨e, v, hstore, hnp'⟩ := literalStoreString_sync _ t c _ hq
      (rescanLiteral_strBody (d := { d with rest := t4, last := c4, opcode := .scanBeginLiteral,
                                            scan := { d.scan with step := q } }) hq rfl htop hacc4) hnp
    refine ⟨e, v, { d.scan with step := .stateEndValue }, c, t, ?_, hnp', rfl, hps, htop, hacc',
      hlen.trans hlen4⟩
    rw [← hstore, ← hres]
    rfl

/-- The two states that read an object's key: after `{` the object may close at once,
after `,` a key must follow. -/
theorem beginKey_cases {s : Scanner} {c : UInt8}
    (hstep : s.step = .stateBeginString ∨ s.step = .stateBeginStringOrEmpty)
    (hc : isSpace c = false) (hop : (s.step.apply s c).2 ≠ .scanError) :
    (s.step.apply s c).2 = .scanEndObject ∨
      (c = 0x22 ∧ s.step.apply s c = ({ s with step := .stateInString }, .scanBeginLiteral)) := by
  rcases hstep with h | h
  · have happly : s.step.apply s = stateBeginString s := by rw [h]; rfl
    rw [happly] at hop ⊢
    exact .inr (stateBeginString_cases hc hop)
  · have happly : s.step.apply s = stateBeginStringOrEmpty s := by rw [h]; rfl
    rw [happly] at hop ⊢
    rcases stateBeginStringOrEmpty_cases hc hop with ⟨-, hr⟩ | h
    · exact .inl (by rw [hr])
    · exact .inr h

/-- The member loop over an accepted object never gets stuck: every pass reads a key, a
`:`, a value and a `,` or `}`, and the input is long enough for all passes. -/
theorem objectMapLoop_sync : ∀ (fuel : Nat) {d : DecodeState} {O : List ParseState} (m : GoMap),
    d.rest.length < fuel →
    (d.scan.step = .stateBeginString ∨ d.scan.step = .stateBeginStringOrEmpty) →
    d.scan.parseState = .parseObjectKey :: O → d.scan.endTop = false → d.scan.Accepts d.rest →
    d.savedError ≠ some .phase →
    ∃ d' m', objectMapLoop fuel d m = some (d', m') ∧ d'.savedError ≠ some .phase
  | 0, _, _, _, hfuel, _, _, _, _, _ => absurd hfuel (Nat.not_lt_zero _)
  | fuel + 1, d, O, m, hfuel, hstep, hps, htop, hacc, hnp => by
    have hw : d.scan.Waiting := by
      rcases hstep with h | h
      · exact Scanner.waiting_beginString (.inl h) htop
      · exact Scanner.waiting_beginString (.inr h) htop
    obtain ⟨c1, t1, hc1, hlen1, hop1, hacc1, hd1⟩ := scanWhile_waiting hw hacc
    rw [objectMapLoop, hd1]
    dsimp only
    rcases beginKey_cases hstep hc1 hop1 with hend | ⟨rfl, hr⟩
    · rw [if_pos hend]
      exact ⟨_, m, rfl, hnp⟩
    rw [hr] at hacc1 ⊢
    dsimp only
    rw [if_neg (by decide), if_neg (fun h => h rfl)]
    have hne : d.scan.parseState ≠ [] := by rw [hps]; exact List.cons_ne_nil _ _
    obtain ⟨body, -, hbody, -, -, hlit⟩ := rescanLiteral_acceptedString
      (d := { d with rest := t1, last := 0x22, opcode := .scanBeginLiteral,
                     scan := { d.scan with step := .stateInString } }) rfl rfl htop hacc1
    obtain ⟨c2, t2, hlen2, hacc2, hres⟩ := rescanLiteral_sync
      (d := { d with rest := t1, last := 0x22, opcode := .scanBeginLiteral,
                     scan := { d.scan with step := .stateInString } }) .string rfl htop hne hacc1
    obtain ⟨key, hkey⟩ := Option.isSome_iff_exists.mp (unquoteBytes_strBody hbody)
    rw [hlit, hres, hkey]
    obtain ⟨c3, t3, hc3, hlen3, hop3, hacc3, hd3⟩ := afterValue_sync
      { d with rest := t1, last := 0x22, opcode := .scanBeginLiteral,
               scan := { d.scan with step := .stateInString } }
      (s := { d.scan with step := .stateEndValue }) rfl htop hps hacc2
    dsimp only at hd3 ⊢
    rw [hd3]
    obtain ⟨rfl, hr3⟩ := stateEndValue_objectKey (s := { d.scan with step := .stateEndValue }) hps hc3 hop3
    rw [hr3] at hacc3 ⊢
    dsimp only
    rw [if_neg (fun h => h rfl)]
    obtain ⟨e, v, s5, c5, t5, hv, hnp5, hstep5, hps5, htop5, hacc5, hlen5⟩ := valueString_sync
      (d := { d with rest := t3, last := 0x3A, opcode := .scanObjectKey,
                     scan := { d.scan with step := .stateBeginValue,
                                           parseState := .parseObjectValue :: O } })
      rfl rfl htop hacc3 hnp
    rw [hv]
    obtain ⟨c6, t6, hc6, hlen6, hop6, hacc6, hd6⟩ := afterValue_sync e hstep5 htop5 hps5 hacc5
    dsimp only at hd6 ⊢
    rw [hd6]
    rcases stateEndValue_objectValue hps5 hc6 hop6 with ⟨rfl, hr6⟩ | ⟨rfl, hr6⟩
    · rw [hr6] at hacc6 ⊢
      dsimp only
      rw [if_neg (by decide), if_neg (fun h => h rfl)]
      dsimp only at hlen2 hlen5
      exact objectMapLoop_sync fuel (m.set key v) (show t6.length < fuel by omega) (.inl rfl) rfl htop5
        hacc6 hnp5
    · rw [hr6]
      exact ⟨_, _, if_pos rfl, hnp5⟩

/-- A literal where the map is wanted: `null` or a type error, never a panic. -/
theorem literalStoreMap_sync (D : DecodeState) {b : UInt8} {q : StepFn} {body : Bytes}
    (hq : LiteralStart b q) (hstr : b = 0x22 → ∃ s, StrBody s ∧ body = s ++ [0x22])
    (hnp : D.savedError ≠ some .phase) :
    ∃ e m, literalStoreMap D b body = some (e, m) ∧ e.savedError ≠ some .phase := by
  cases hq with
  | string =>
    obtain ⟨s, hs, rfl⟩ := hstr rfl
    obtain ⟨key, hkey⟩ := Option.isSome_iff_exists.mp (unquoteBytes_strBody hs)
    refine ⟨_, none, ?_, saveError_ne_phase hnp (lit "string") mapType⟩
    rw [literalStoreMap, if_neg (by decide), if_neg (by decide), if_pos rfl, hkey,
      Option.map_some']
  | nullWord => exact ⟨D, none, rfl, hnp⟩
  | trueWord | falseWord | minus | zero => exact ⟨_, none, rfl, saveError_ne_phase hnp _ _⟩
  | digit h1 h9 =>
    have hd := isDigit_of_digit h1 h9
    rw [literalStoreMap, if_neg (ne_of_isDigit (b := 0x6E) hd rfl),
      if_neg (not_or.mpr ⟨ne_of_isDigit (b := 0x74) hd rfl, ne_of_isDigit (b := 0x66) hd rfl⟩),
      if_neg (ne_of_isDigit (b := 0x22) hd rfl), if_pos (Or.inr hd)]
    exact ⟨_, none, rfl, saveError_ne_phase hnp _ _⟩

/-- The top-level value into the map: an object runs the member loop, an array is
skipped, a literal stored; none of them panics. -/
theorem valueMap_sync {d : DecodeState} (hstep : d.scan.step = .stateBeginValue)
    (htop : d.scan.endTop = false) (hacc : d.scan.Accepts d.rest)
    (hnp : d.savedError ≠ some .phase) :
    ∃ d' m, (d.scanWhile .scanSkipSpace).valueMap = some (d', m) ∧ d'.savedError ≠ some .phase := by
  obtain ⟨c4, t4, hc4, -, hop4, hacc4, hd4⟩ :=
    scanWhile_waiting (Scanner.waiting_beginValue hstep htop) hacc
  have happly : d.scan.step.apply d.scan = stateBeginValue d.scan := by rw [hstep]; rfl
  rw [happly] at hop4 hacc4 hd4
  rw [hd4]
  rcases stateBeginValue_cases hc4 hop4 with ⟨-, hr⟩ | ⟨-, hr⟩ | ⟨q, hq, hr⟩
  · rw [hr] at hacc4 ⊢
    obtain ⟨d', m', hloop, hnp'⟩ := objectMapLoop_sync (t4.length + 1)
      (d := { d with rest := t4, last := c4, opcode := .scanBeginObject,
                     scan := { d.scan with step := .stateBeginStringOrEmpty,
                                           parseState := .parseObjectKey :: d.scan.parseState } })
      GoMap.empty (Nat.lt_succ_self _) (.inr rfl) rfl htop hacc4 hnp
    refine ⟨d'.scanNext, some m', ?_, by rw [scanNext_savedError]; exact hnp'⟩
    simp only [valueMap, objectMap, hloop, Option.map_some']
  · rw [hr] at hacc4 ⊢
    obtain ⟨d5, hskip, -, -, -, -, -, hse5⟩ := skipValue_sync
      (d := { d with rest := t4, last := c4, opcode := .scanBeginArray,
                     scan := { d.scan with step := .stateBeginValueOrEmpty,
                                           parseState := .parseArrayValue :: d.scan.parseState } })
      rfl (Scanner.topClosed_of_endTop htop) hacc4 (lit "array") mapType
    refine ⟨d5.scanNext, none, by simp only [valueMap, hskip, Option.map_some'], ?_⟩
    rw [scanNext_savedError, hse5]
    exact saveError_ne_phase (by exact hnp) _ _
  · rw [hr] at hacc4 ⊢
    exact literalStoreMap_sync _ hq
      (rescanLiteral_strBody (d := { d with rest := t4, last := c4, opcode := .scanBeginLiteral,
                                            scan := { d.scan with step := q } }) hq rfl htop hacc4)
      (by rw [rescanLiteral_savedError]; exact hnp)

end DecodeState

/-- `json.Unmarshal` into the nil map never reaches the phase panic: after `checkValid`
accepts the input, the decoder's reads stay in step with the scanner to the end. -/
theorem unmarshalStringMap_ne_phase (data : Bytes) : unmarshalStringMap data ≠ .error .phase := by
  unfold unmarshalStringMap
  split
  · exact fun h => by cases h
  · rename_i hvalid
    obtain ⟨d', m, hmap, hnp⟩ := DecodeState.valueMap_sync
      (d := ⟨data, 0, .scanContinue, { Scanner.init with bytes := data.length }, none⟩)
      rfl rfl (accepts_of_checkValid hvalid data.length) (fun h => by cases h)
    dsimp only
    rw [hmap]
    dsimp only
    split
    · rename_i err herr
      exact fun h => hnp (by cases h; exact herr)
    · exact fun h => by cases h


end Json

end ProviderOrchard
