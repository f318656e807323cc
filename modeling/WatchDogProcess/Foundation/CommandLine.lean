import WatchDogProcess.Foundation.EventRun

/-! # Splitting a command line into a program and its arguments

A command line is read one character at a time. Whitespace outside quotes ends a
token, and empty tokens are dropped. Consecutive double quotes are counted: one
toggles quoting, two contribute nothing, and the third is a literal quote. The
count takes effect at the next character that is not a quote.

A text without quotes, put in quotes and followed by plain words, is read back as
that text and those words, except that the empty text leaves no token
(`CommandLine.tokens_quoted_words`).
-/

/-- Which characters are whitespace. On ASCII they are the blank and the five
control characters from the tab to the carriage return. -/
structure Whitespace where
  isSpace : Char → Bool
  isSpace_ascii : ∀ character : Char, character.val < 128 →
    isSpace character = (character = ' ' || (9 ≤ character.val && character.val ≤ 13))

/-- No whitespace outside ASCII. -/
def Whitespace.ascii : Whitespace where
  isSpace := fun character => character = ' ' || (9 ≤ character.val && character.val ≤ 13)
  isSpace_ascii := fun _ _ => rfl

namespace CommandLine

open EventRun

/-- The tokens ended so far, the one being read, the number of quotes just read,
and whether the text is quoted. -/
structure Reader where
  args : List (List Char)
  tmp : List Char
  quoteCount : Nat
  inQuote : Bool
  deriving DecidableEq, Repr

namespace Reader

def start : Reader := ⟨[], [], 0, false⟩

/-- The tokens, with the one being read unless it is empty. -/
def finish (reader : Reader) : List (List Char) :=
  if reader.tmp = [] then reader.args else reader.args ++ [reader.tmp]

/-- Whether the next character that is not a quote is quoted. -/
def quoted (reader : Reader) : Bool :=
  if reader.quoteCount = 1 then !reader.inQuote else reader.inQuote

end Reader

/-- Read one character. -/
def readChar (spaces : Whitespace) (reader : Reader) (character : Char) : Reader :=
  if character = '"' then
    if reader.quoteCount = 2 then
      { reader with quoteCount := 0, tmp := reader.tmp ++ [character] }
    else { reader with quoteCount := reader.quoteCount + 1 }
  else if !reader.quoted && spaces.isSpace character then
    ⟨reader.finish, [], 0, reader.quoted⟩
  else ⟨reader.args, reader.tmp ++ [character], 0, reader.quoted⟩

/-- The tokens of a command line. -/
def tokens (spaces : Whitespace) (line : String) : List String :=
  (run (readChar spaces) .start line.toList).finish.map String.ofList

/-! ### Reading a text without quotes -/

variable {spaces : Whitespace} {reader : Reader}

/-- A character that belongs to a token: no quote, and no whitespace outside quotes. -/
def Literal (spaces : Whitespace) (quoted : Bool) (character : Char) : Prop :=
  character ≠ '"' ∧ (quoted = true ∨ spaces.isSpace character = false)

theorem readChar_literal {character : Char}
    (literal : Literal spaces reader.quoted character) :
    readChar spaces reader character =
      ⟨reader.args, reader.tmp ++ [character], 0, reader.quoted⟩ := by
  obtain ⟨notQuote, quoted | plain⟩ := literal
  · simp only [readChar, notQuote, ↓reduceIte, quoted, Bool.not_true, Bool.false_and,
      Bool.false_eq_true]
  · simp only [readChar, notQuote, ↓reduceIte, plain, Bool.and_false, Bool.false_eq_true]

/-- A nonempty text of literal characters is added to the token being read. -/
theorem run_literal {text : List Char} (nonempty : text ≠ [])
    (literal : ∀ character ∈ text, Literal spaces reader.quoted character) :
    run (readChar spaces) reader text =
      ⟨reader.args, reader.tmp ++ text, 0, reader.quoted⟩ := by
  induction text generalizing reader with
  | nil => exact absurd rfl nonempty
  | cons character text ih =>
      obtain ⟨first, rest⟩ := List.forall_mem_cons.mp literal
      rw [run_cons, readChar_literal first]
      cases text with
      | nil => rfl
      | cons next text =>
          have stays : ∀ character' ∈ next :: text, Literal spaces
              (⟨reader.args, reader.tmp ++ [character], 0, reader.quoted⟩ : Reader).quoted
              character' := rest
          rw [ih (List.cons_ne_nil _ _) stays, List.append_assoc]
          rfl

/-! ### Words and quoted texts -/

/-- A word that needs no quotes. -/
def IsWord (spaces : Whitespace) (word : List Char) : Prop :=
  word ≠ [] ∧ ∀ character ∈ word, Literal spaces false character

theorem isSpace_blank (spaces : Whitespace) : spaces.isSpace ' ' = true :=
  (spaces.isSpace_ascii ' ' (by decide)).trans (by decide)

/-- A blank outside quotes ends the token being read. -/
theorem readChar_blank (outside : reader.quoted = false) :
    readChar spaces reader ' ' = ⟨reader.finish, [], 0, false⟩ := by
  have notQuote : ' ' ≠ '"' := by decide
  simp only [readChar, notQuote, ↓reduceIte, outside, Bool.not_false, isSpace_blank,
    Bool.and_self]

/-- Outside quotes, words after blanks are read as tokens. -/
theorem run_words (outside : reader.quoted = false) {words : List (List Char)}
    (plain : ∀ word ∈ words, IsWord spaces word) :
    (run (readChar spaces) reader (words.flatMap (' ' :: ·))).finish = reader.finish ++ words := by
  induction words generalizing reader with
  | nil => exact (List.append_nil _).symm
  | cons word words ih =>
      obtain ⟨⟨nonempty, literal⟩, rest⟩ := List.forall_mem_cons.mp plain
      have after : run (readChar spaces) ⟨reader.finish, [], 0, false⟩ word =
          ⟨reader.finish, word, 0, false⟩ := run_literal nonempty literal
      have ended : (⟨reader.finish, word, 0, false⟩ : Reader).finish = reader.finish ++ [word] :=
        if_neg nonempty
      rw [List.flatMap_cons, List.cons_append, run_cons, run_append, readChar_blank outside, after,
        ih rfl rest, ended, List.append_assoc, List.singleton_append]

/-- A text in quotes is one token, if it is not empty. -/
theorem run_quoted (spaces : Whitespace) {text : List Char} (noQuote : '"' ∉ text) :
    let reader := run (readChar spaces) .start ('"' :: text ++ ['"'])
    reader.quoted = false ∧ reader.finish = if text = [] then [] else [text] := by
  intro reader
  by_cases empty : text = []
  · subst empty
    exact ⟨rfl, rfl⟩
  · have opened : readChar spaces .start '"' = ⟨[], [], 1, false⟩ := rfl
    have literal : ∀ character ∈ text, Literal spaces true character := by
      intro character member
      refine ⟨?_, Or.inl rfl⟩
      rintro rfl
      exact noQuote member
    have read : reader = ⟨[], text, 1, true⟩ := by
      change run (readChar spaces) .start ('"' :: (text ++ ['"'])) = _
      rw [run_cons, opened, run_concat, run_literal empty literal]
      rfl
    rw [read]
    exact ⟨rfl, rfl⟩

/-- A quoted text and words are read back; an empty text leaves no token. -/
theorem tokens_quoted_words {text : List Char} (noQuote : '"' ∉ text) {words : List (List Char)}
    (plain : ∀ word ∈ words, IsWord spaces word) {line : String}
    (composed : line.toList = '"' :: text ++ ['"'] ++ words.flatMap (' ' :: ·)) :
    tokens spaces line =
      ((if text = [] then [] else [text]) ++ words).map String.ofList := by
  have read := run_quoted spaces noQuote
  rw [tokens, composed, run_append, run_words read.1 plain, read.2]

end CommandLine
