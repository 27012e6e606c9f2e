import Mathlib.Data.List.Basic

/-! # Command lines

How the C runtime splits a command line: the program name, in which quotes only hide
blanks, and the arguments, in which a backslash before a quote is an escape. Words
without blanks, quotes and backslashes come back as they were joined
(`argumentVector_words`).
-/

namespace CommandLine

/-- What separates arguments. -/
def isBlank (c : Char) : Bool := c = ' ' ∨ c = '\t'

/-- The double quote, which keeps blanks inside an argument. -/
def quote : Char := '"'
/-- The backslash, which counts before a quote only. -/
def backslash : Char := '\\'

/-- The program name and what follows it. -/
def programName : Bool → List Char → List Char × List Char
  | _, [] => ([], [])
  | quoted, c :: text =>
      if c = quote then programName (!quoted) text
      else if isBlank c ∧ quoted = false then ([], text)
      else (c :: (programName quoted text).1, (programName quoted text).2)

/-- The arguments in a text, after the beginning of one that is not complete, with
whether a quotation is open and how many backslashes stand last. -/
def arguments : Option (List Char) → Bool → Nat → List Char → List (List Char)
  | none, _, _, [] => []
  | some begun, _, slashes, [] => [begun ++ List.replicate slashes backslash]
  | begun, quoted, slashes, c :: text =>
      if c = backslash then arguments (some (begun.getD [])) quoted (slashes + 1) text
      else if c = quote then
        let begun := begun.getD [] ++ List.replicate (slashes / 2) backslash
        if slashes % 2 = 1 then arguments (some (begun ++ [quote])) quoted 0 text
        else
          match quoted, text with
          | true, '"' :: text => arguments (some (begun ++ [quote])) true 0 text
          | _, text => arguments (some begun) (!quoted) 0 text
      else if isBlank c ∧ quoted = false then
        match begun with
        | none => arguments none false 0 text
        | some begun =>
            (begun ++ List.replicate slashes backslash) :: arguments none false 0 text
      else
        arguments (some (begun.getD [] ++ List.replicate slashes backslash ++ [c])) quoted 0 text

/-- The argument vector of a command line: the program's name has rules of its own. -/
def argumentVector (line : List Char) : List (List Char) :=
  (programName false line).1 :: arguments none false 0 (programName false line).2

/-- A text that needs no quoting. -/
def IsWord (word : List Char) : Prop :=
  word ≠ [] ∧ ∀ c ∈ word, isBlank c = false ∧ c ≠ quote ∧ c ≠ backslash

/-- Whether a text is a word can be computed. -/
theorem isWord_iff {word : List Char} : IsWord word ↔
    (!word.isEmpty && word.all fun c => !isBlank c && c != quote && c != backslash) = true := by
  simp [IsWord, and_assoc]

/-- Words with a blank before each. -/
def separated (words : List (List Char)) : List Char := words.flatMap (' ' :: ·)

/-- A quoted program name ends at its quote. -/
theorem programName_quoted {name : List Char} (unquoted : quote ∉ name) (text : List Char) :
    programName true (name ++ quote :: ' ' :: text) = (name, text) := by
  induction name with
  | nil => rfl
  | cons c name ih =>
      rw [List.mem_cons, not_or] at unquoted
      simp only [List.cons_append, programName, if_neg (Ne.symm unquoted.1), Bool.true_eq_false,
        and_false, ↓reduceIte, ih unquoted.2]

/-- The characters of a word are added to the argument that has begun. -/
theorem arguments_word (begun : List Char) {word : List Char}
    (plain : ∀ c ∈ word, isBlank c = false ∧ c ≠ quote ∧ c ≠ backslash) (text : List Char) :
    arguments (some begun) false 0 (word ++ text) =
      arguments (some (begun ++ word)) false 0 text := by
  induction word generalizing begun with
  | nil => rw [List.append_nil, List.nil_append]
  | cons c word ih =>
      obtain ⟨solid, away, away'⟩ := plain c List.mem_cons_self
      rw [List.cons_append, arguments, if_neg away', if_neg away, solid]
      simp only [Bool.false_eq_true, false_and, ↓reduceIte, Option.getD_some, List.replicate_zero,
        List.append_nil]
      rw [ih _ fun c' listed => plain c' (List.mem_cons_of_mem _ listed), List.append_assoc]
      rfl

/-- A word ends where the next one is separated from it. -/
theorem arguments_ended (begun : List Char) (words : List (List Char)) :
    arguments (some begun) false 0 (separated words) =
      begun :: arguments none false 0 (separated words) := by
  cases words with
  | nil => simp only [separated, List.flatMap_nil, arguments, List.replicate_zero, List.append_nil]
  | cons word words =>
      simp only [separated, List.flatMap_cons, List.cons_append]
      rw [arguments, arguments]
      simp [backslash, quote, isBlank]

/-- A word begins an argument. -/
theorem arguments_start {word : List Char} (proper : IsWord word) (text : List Char) :
    arguments none false 0 (word ++ text) = arguments (some word) false 0 text := by
  obtain ⟨nonempty, plain⟩ := proper
  cases word with
  | nil => exact absurd rfl nonempty
  | cons c word =>
      obtain ⟨solid, away, away'⟩ := plain c List.mem_cons_self
      have later :=
        arguments_word [c] (fun c' listed => plain c' (List.mem_cons_of_mem _ listed)) text
      rw [List.cons_append, arguments, if_neg away', if_neg away, solid]
      simpa using later

/-- **Words with blanks between them** are read back as they were. -/
theorem arguments_words {word : List Char} (first : IsWord word) {words : List (List Char)}
    (plain : ∀ word ∈ words, IsWord word) :
    arguments none false 0 (word ++ separated words) = word :: words := by
  induction words generalizing word with
  | nil =>
      rw [arguments_start first, arguments_ended]
      rfl
  | cons next words ih =>
      have skipped : arguments none false 0 (separated (next :: words)) =
          arguments none false 0 (next ++ separated words) := by
        simp only [separated, List.flatMap_cons, List.cons_append]
        rw [arguments]
        simp [backslash, quote, isBlank]
      rw [arguments_start first, arguments_ended, skipped, ih (plain next List.mem_cons_self)
        fun word listed => plain word (List.mem_cons_of_mem _ listed)]

/-- The quoted program name and the words after it. -/
theorem argumentVector_words {name word : List Char} (unquoted : quote ∉ name)
    (first : IsWord word) {words : List (List Char)} (plain : ∀ word ∈ words, IsWord word) :
    argumentVector (quote :: name ++ quote :: ' ' :: (word ++ separated words)) =
      name :: word :: words := by
  have split : programName false (quote :: name ++ quote :: ' ' :: (word ++ separated words)) =
      (name, word ++ separated words) := by
    rw [List.cons_append, programName, if_pos rfl]
    exact programName_quoted unquoted _
  rw [argumentVector, split, arguments_words first plain]

end CommandLine
