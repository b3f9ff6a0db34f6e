/-
What a POSIX shell makes of a text before it runs anything: token recognition
(XCU 2.3) with the quoting rules of XCU 2.2, cut into simple commands given by
their words.  Only what decides where words and commands begin and end is
modelled: blanks, newline, the separators `;`, `&` and `|`, the three quoting
mechanisms, line continuation and comments, after bash's input layer has dropped
every NUL byte.  Expansions, redirections and
compound commands are not: `$`, `<`, `(` and the other operators are ordinary
bytes here.
-/
import ProviderOrchard.GoString

namespace ProviderOrchard

/-- Where token recognition stands: outside quotes, inside `'...'` or `"..."`,
right after a backslash (outside or inside double quotes), or in a comment. -/
inductive QuoteMode
  | plain
  | single
  | double
  | escape
  | doubleEscape
  | comment
  deriving DecidableEq, Repr

/-- The lexer between bytes: its mode, the word being built (`none` before one
starts; a quote starts one even if it stays empty) and the finished words of the
current command. -/
structure LexState where
  mode : QuoteMode
  word : Option Bytes
  words : List Bytes
  deriving DecidableEq, Repr

namespace LexState

/-- At a command boundary, outside quotes. -/
def init : LexState := ⟨.plain, none, []⟩

/-- Add a byte to the current word, starting one if needed. -/
def push (st : LexState) (b : UInt8) : LexState :=
  { st with word := some (st.word.getD [] ++ [b]) }

/-- Enter a quoting mode; the quote starts a word. -/
def enter (st : LexState) (mode : QuoteMode) : LexState :=
  { st with mode := mode, word := some (st.word.getD []) }

/-- A blank: the current word, if any, is finished. -/
def endWord (st : LexState) : LexState :=
  match st.word with
  | none => st
  | some w => { st with word := none, words := st.words ++ [w] }

/-- A separator: the current command is finished and emitted, unless it has no word. -/
def endCommand (st : LexState) : LexState × List (List Bytes) :=
  (⟨st.mode, none, []⟩, if st.endWord.words = [] then [] else [st.endWord.words])

/-- One byte of token recognition: the next state, and the commands the byte ends.
The bytes are `'` 0x27, `"` 0x22, backslash 0x5C, newline 0x0A, `;` 0x3B, `&` 0x26,
`|` 0x7C, space 0x20, tab 0x09, `#` 0x23, `$` 0x24 and backquote 0x60; a NUL
byte 0x00 bash drops from its input before token recognition sees it. -/
def step (st : LexState) (b : UInt8) : LexState × List (List Bytes) :=
  if b = 0x00 then (st, []) else
  match st.mode with
  | .plain =>
      if b = 0x27 then (st.enter .single, [])
      else if b = 0x22 then (st.enter .double, [])
      else if b = 0x5C then ({ st with mode := .escape }, [])
      else if b = 0x0A ∨ b = 0x3B ∨ b = 0x26 ∨ b = 0x7C then st.endCommand
      else if b = 0x20 ∨ b = 0x09 then (st.endWord, [])
      else if b = 0x23 ∧ st.word = none then ({ st with mode := .comment }, [])
      else (st.push b, [])
  | .single => if b = 0x27 then ({ st with mode := .plain }, []) else (st.push b, [])
  | .double =>
      if b = 0x22 then ({ st with mode := .plain }, [])
      else if b = 0x5C then ({ st with mode := .doubleEscape }, [])
      else (st.push b, [])
  | .escape =>
      if b = 0x0A then ({ st with mode := .plain }, [])
      else ({ st.push b with mode := .plain }, [])
  | .doubleEscape =>
      if b = 0x0A then ({ st with mode := .double }, [])
      else if b = 0x24 ∨ b = 0x60 ∨ b = 0x22 ∨ b = 0x5C then ({ st.push b with mode := .double }, [])
      else ({ (st.push 0x5C).push b with mode := .double }, [])
  | .comment => if b = 0x0A then { st with mode := .plain }.endCommand else (st, [])

/-- Token recognition over a text: the final state and the commands finished on the way. -/
def run (st : LexState) : Bytes → LexState × List (List Bytes)
  | [] => (st, [])
  | b :: s => ((run (st.step b).1 s).1, (st.step b).2 ++ (run (st.step b).1 s).2)

@[simp] theorem run_nil (st : LexState) : st.run [] = (st, []) := rfl

theorem run_cons (st : LexState) (b : UInt8) (s : Bytes) :
    st.run (b :: s) = ((run (st.step b).1 s).1, (st.step b).2 ++ (run (st.step b).1 s).2) := rfl

/-- Lexing a text in two parts: the second starts where the first left off. -/
theorem run_append (st : LexState) (s t : Bytes) :
    st.run (s ++ t) = ((run (st.run s).1 t).1, (st.run s).2 ++ (run (st.run s).1 t).2) := by
  induction s generalizing st with
  | nil => rfl
  | cons b s ih => simp only [List.cons_append, run_cons, ih, List.append_assoc]

/-- A text that produces no command on its own and leaves the state as it found it. -/
theorem run_append_of_run {st st' : LexState} {s : Bytes} {cmds : List (List Bytes)}
    (h : st.run s = (st', cmds)) (t : Bytes) :
    st.run (s ++ t) = ((st'.run t).1, cmds ++ (st'.run t).2) := by
  rw [run_append, h]

end LexState

/-- The simple commands a shell reads from a text, each given by its words, or
`none` when the text ends inside quotes or right after a backslash. -/
def lex (s : Bytes) : Option (List (List Bytes)) :=
  match (LexState.init.run s).1.mode with
  | .plain | .comment =>
      some ((LexState.init.run s).2 ++ (LexState.init.run s).1.endCommand.2)
  | _ => none

/-- A text that ends at a command boundary can be lexed apart from what follows. -/
theorem lex_append_of_run {s : Bytes} {cmds : List (List Bytes)}
    (h : LexState.init.run s = (.init, cmds)) (t : Bytes) :
    lex (s ++ t) = (lex t).map (cmds ++ ·) := by
  unfold lex
  rw [LexState.run_append_of_run h]
  split <;> simp_all

/-- The bytes token recognition treats specially outside quotes, and NUL, which
bash drops. -/
def shellSpecialBytes : List UInt8 := [0x27, 0x22, 0x5C, 0x0A, 0x3B, 0x26, 0x7C, 0x20, 0x09, 0x23, 0x00]

/-- A byte that only ever extends the current word outside quotes. -/
def WordByte (b : UInt8) : Prop := b ∉ shellSpecialBytes

instance (b : UInt8) : Decidable (WordByte b) := inferInstanceAs (Decidable (b ∉ shellSpecialBytes))

namespace LexState

theorem step_plain_wordByte {b : UInt8} (hb : WordByte b) (word : Option Bytes) (words : List Bytes) :
    step ⟨.plain, word, words⟩ b = (⟨.plain, some (word.getD [] ++ [b]), words⟩, []) := by
  simp only [WordByte, shellSpecialBytes, List.mem_cons, List.mem_singleton, not_or] at hb
  obtain ⟨h1, h2, h3, h4, h5, h6, h7, h8, h9, h10, h0⟩ := hb
  simp [step, push, h0, h1, h2, h3, h4, h5, h6, h7, h8, h9, h10]

/-- Outside quotes, word bytes extend the current word and end nothing. -/
theorem run_wordBytes {s : Bytes} (hs : ∀ b ∈ s, WordByte b) (w : Bytes) (words : List Bytes) :
    run ⟨.plain, some w, words⟩ s = (⟨.plain, some (w ++ s), words⟩, []) := by
  induction s generalizing w with
  | nil => simp
  | cons b s ih =>
      rw [run_cons, step_plain_wordByte (hs b (List.mem_cons_self b s)),
        ih (fun c hc => hs c (List.mem_cons_of_mem b hc))]
      simp

/-- Word bytes after a boundary start a word made of them. -/
theorem run_wordBytes_start {b : UInt8} {s : Bytes} (hs : ∀ c ∈ b :: s, WordByte c)
    (words : List Bytes) :
    run ⟨.plain, none, words⟩ (b :: s) = (⟨.plain, some (b :: s), words⟩, []) := by
  rw [run_cons, step_plain_wordByte (hs b (List.mem_cons_self b s)),
    run_wordBytes (fun c hc => hs c (List.mem_cons_of_mem b hc))]
  rfl

end LexState

end ProviderOrchard
