import SevenFuzzer.Common.Types
import SevenFuzzer.Library.Arguments
import SevenFuzzer.Library.Numerals

/-! # The command line of a sweep

`main` reads its configuration from its arguments, and `run_seed_sweep` prints one into
the command line of each child. The child's `main` reads the same configuration back,
with its own seed and without the sweep, exactly when no flag was given that the
command line leaves out (`SevenFuzzer.sweep_command_line_iff`).
-/

namespace SevenFuzzer

/-- What `main` reads from its arguments; the last two are globals. -/
structure Config where
  iterations : BitVec 64 := 200000#64
  seed : BitVec 64 := 0xC0FFEE#64
  useHw : Bool := true
  useJit : Bool := false
  verboseFrom : BitVec 64 := BitVec.allOnes 64
  /-- zero leaves the number to `main` -/
  threads : BitVec 32 := 0#32
  threadsExplicit : Bool := false
  /-- zero disables the watchdog -/
  watchdogSeconds : BitVec 32 := 60#32
  /-- zero is a single run -/
  sweepSeeds : BitVec 32 := 0#32
  selfTestEscape : Bool := false
  noUnicorn : Bool := false
  noSeven : Bool := false
  deriving DecidableEq

/-- `unsigned long` has 32 bits. -/
def strtoul (text : String) : BitVec 32 := Numeral.strtoul 32 10 text.toList

/-- `std::strtoull` on a 64-bit platform. -/
def strtoull (text : String) (base : Nat) : BitVec 64 := Numeral.strtoul 64 base text.toList

/-- The flags that take the next argument, if there is one. -/
def valueFlag (a : String) : Option (String → Config → Config) :=
  if a = "--watchdog-seconds" then
    some fun value cfg => { cfg with watchdogSeconds := strtoul value }
  else if a = "--sweep-seeds" then
    some fun value cfg => { cfg with sweepSeeds := strtoul value }
  else if a = "--verbose-from" then
    some fun value cfg => { cfg with verboseFrom := strtoull value 10 }
  else if a = "--threads" then
    some fun value cfg => { cfg with threads := strtoul value, threadsExplicit := true }
  else none

/-- The other arguments: flags, and at their places the iterations and the seed. -/
def loneArgument (i : Nat) (a : String) (cfg : Config) : Config :=
  if a = "--no-hw" then { cfg with useHw := false }
  else if a = "--jit" then { cfg with useJit := true }
  else if a = "--self-test-escape" then { cfg with selfTestEscape := true }
  else if a = "--no-unicorn" then { cfg with noUnicorn := true }
  else if a = "--no-seven" then { cfg with noSeven := true }
  else if i = 1 then { cfg with iterations := strtoull a 10 }
  else if i = 2 then { cfg with seed := strtoull a 0 }
  else cfg

/-- The loop over the arguments from an index on. -/
def argumentLoop : Nat → List String → Config → Config
  | _, [], cfg => cfg
  | i, a :: rest, cfg =>
      match valueFlag a, rest with
      | some store, value :: rest => argumentLoop (i + 2) rest (store value cfg)
      | _, rest => argumentLoop (i + 1) rest (loneArgument i a cfg)

/-- The configuration for the arguments after the program name. -/
def parseArguments (args : List String) : Config := argumentLoop 1 args {}

/-- `main` gets to `run_seed_sweep`. -/
def Config.sweeps (cfg : Config) : Prop := cfg.selfTestEscape = false ∧ 0#32 < cfg.sweepSeeds

/-- `mix_seed`: the seed of a worker or of a child, three rounds of mixing after a multiple of its
id is added. -/
def mixSeed (base : BitVec 64) (workerId : BitVec 32) : BitVec 64 :=
  let z := base + (workerId + 1#32).signExtend 64 * 0x9E3779B97F4A7C15#64
  let z := (z ^^^ (z >>> 30)) * 0xBF58476D1CE4E5B9#64
  let z := (z ^^^ (z >>> 27)) * 0x94D049BB133111EB#64
  z ^^^ (z >>> 31)

/-- A seed as it is printed and passed on. -/
def seedHex (childSeed : BitVec 64) : String := "0x" ++ hexPad 0 childSeed.toNat

/-- The command line of child `i`. -/
def childCommandLine (exePath : String) (cfg : Config) (i : BitVec 32) : String :=
  let cmdline := "\"" ++ exePath ++ "\" " ++ toString cfg.iterations.toNat ++ " " ++
    seedHex (mixSeed cfg.seed i)
  let cmdline := if cfg.useHw = false then cmdline ++ " --no-hw" else cmdline
  let cmdline := if cfg.useJit then cmdline ++ " --jit" else cmdline
  let cmdline := cmdline ++ " --watchdog-seconds " ++ toString cfg.watchdogSeconds.toNat
  if cfg.threadsExplicit then cmdline ++ " --threads " ++ toString cfg.threads.toNat else cmdline

/-- The arguments the child finds after the program name. -/
def childArguments (exePath : String) (cfg : Config) (i : BitVec 32) : List String :=
  ((CommandLine.argumentVector (childCommandLine exePath cfg i).toList).map String.ofList).tail

/-- The words after the iterations. -/
def childWords (cfg : Config) (i : BitVec 32) : List String :=
  seedHex (mixSeed cfg.seed i) ::
    ((if cfg.useHw = false then ["--no-hw"] else []) ++ (if cfg.useJit then ["--jit"] else []) ++
      ["--watchdog-seconds", toString cfg.watchdogSeconds.toNat] ++
      if cfg.threadsExplicit then ["--threads", toString cfg.threads.toNat] else [])

/-- A flag that is appended or not. -/
theorem appended_if (given : Prop) [Decidable given] (line text : String) :
    (if given then line ++ text else line) = line ++ if given then text else "" := by
  split
  · rfl
  · exact String.append_empty.symm

/-- A flag with its value. -/
theorem appended_if_two (given : Prop) [Decidable given] (line text text' : String) :
    (if given then line ++ text ++ text' else line) =
      line ++ if given then text ++ text' else "" := by
  rw [← appended_if, String.append_assoc]

/-- A flag is separated from what stands before it. -/
theorem flag_words (given : Prop) [Decidable given] {text word : String}
    (separate : text.toList = ' ' :: word.toList) :
    (if given then text else "").toList =
      CommandLine.separated ((if given then [word] else []).map String.toList) := by
  split
  · simp only [separate, CommandLine.separated, List.map_cons, List.map_nil, List.flatMap_cons,
      List.flatMap_nil, List.append_nil]
  · rfl

/-- So are a flag and its value. -/
theorem value_words {text word : String} (value : String)
    (separate : text.toList = ' ' :: (word.toList ++ [' '])) :
    (text ++ value).toList = CommandLine.separated ([word, value].map String.toList) := by
  rw [String.toList_append, separate]
  simp only [CommandLine.separated, List.map_cons, List.map_nil, List.flatMap_cons,
    List.flatMap_nil, List.append_nil, List.cons_append, List.append_assoc, List.nil_append]

/-- Such a flag is two words or none. -/
theorem optional_value_words (given : Prop) [Decidable given] {text word : String} (value : String)
    (separate : text.toList = ' ' :: (word.toList ++ [' '])) :
    (if given then text ++ value else "").toList =
      CommandLine.separated ((if given then [word, value] else []).map String.toList) := by
  split
  · exact value_words value separate
  · rfl

/-- The command line is one concatenation, whatever flags are set. -/
theorem childCommandLine_joined (exePath : String) (cfg : Config) (i : BitVec 32) :
    childCommandLine exePath cfg i =
      "\"" ++ exePath ++ "\" " ++ toString cfg.iterations.toNat ++ " " ++
        seedHex (mixSeed cfg.seed i) ++ (if cfg.useHw = false then " --no-hw" else "") ++
        (if cfg.useJit then " --jit" else "") ++
        (" --watchdog-seconds " ++ toString cfg.watchdogSeconds.toNat) ++
        if cfg.threadsExplicit then " --threads " ++ toString cfg.threads.toNat else "" := by
  unfold childCommandLine
  simp only [appended_if, appended_if_two]
  exact congrArg (· ++ _) String.append_assoc

/-- The words of a line that is put together from a quoted name, two words, two flags,
a flag with a value and another one that may be missing. -/
theorem line_words {opening closing blank : String} {flag flag' valued valued' : String}
    {name first second value value' : String} {word word' key key' : String}
    {given given' given'' : Prop} [Decidable given] [Decidable given'] [Decidable given'']
    (opened : opening.toList = [CommandLine.quote])
    (closed : closing.toList = [CommandLine.quote, ' ']) (blanks : blank.toList = [' '])
    (separate : flag.toList = ' ' :: word.toList) (separate' : flag'.toList = ' ' :: word'.toList)
    (keyed : valued.toList = ' ' :: (key.toList ++ [' ']))
    (keyed' : valued'.toList = ' ' :: (key'.toList ++ [' '])) :
    (opening ++ name ++ closing ++ first ++ blank ++ second ++ (if given then flag else "") ++
        (if given' then flag' else "") ++ (valued ++ value) ++
        if given'' then valued' ++ value' else "").toList =
      CommandLine.quote :: name.toList ++ CommandLine.quote :: ' ' ::
        (first.toList ++ CommandLine.separated ((second :: ((if given then [word] else []) ++
          (if given' then [word'] else []) ++ [key, value] ++
          if given'' then [key', value'] else [])).map String.toList)) := by
  rw [String.toList_append, String.toList_append, String.toList_append, String.toList_append,
    flag_words _ separate, flag_words _ separate', value_words _ keyed,
    optional_value_words _ _ keyed']
  simp only [String.toList_append, opened, closed, blanks, CommandLine.separated, List.map_cons,
    List.map_append, List.map_nil, List.flatMap_cons, List.flatMap_nil, List.flatMap_append,
    List.append_assoc, List.cons_append, List.nil_append, List.append_nil]

/-- **The encoder**: the command line is the quoted program and the words, with blanks between
them. -/
theorem childCommandLine_words (exePath : String) (cfg : Config) (i : BitVec 32) :
    (childCommandLine exePath cfg i).toList =
      CommandLine.quote :: exePath.toList ++ CommandLine.quote :: ' ' ::
        ((toString cfg.iterations.toNat).toList ++
          CommandLine.separated ((childWords cfg i).map String.toList)) := by
  rw [childCommandLine_joined]
  exact line_words (by decide) (by decide) (by decide) (by decide) (by decide) (by decide)
    (by decide)

/-- A number is printed by its digits. -/
theorem toList_decimal (n : Nat) : (toString n).toList = Nat.toDigits 10 n := by
  rw [Nat.toString_eq_ofList_toDigits, String.toList_ofList]

/-- A seed is printed by its upper-case digits. -/
theorem toList_seedHex (childSeed : BitVec 64) :
    (seedHex childSeed).toList =
      '0' :: 'x' :: (Nat.toDigits 16 childSeed.toNat).map Char.toUpper := by
  have opening : "0x".toList = ['0', 'x'] := by decide
  rw [seedHex, String.toList_append, opening, hexPad, String.toList_ofList, Nat.zero_sub]
  rfl

/-- A digit is no blank, no quote and no backslash. -/
theorem digit_plain {c : Char} (digit : (Numeral.digitValue c).isSome) :
    CommandLine.isBlank c = false ∧ c ≠ CommandLine.quote ∧ c ≠ CommandLine.backslash := by
  refine ⟨Bool.eq_false_iff.mpr fun blank => ?_, ?_, ?_⟩
  · rcases of_decide_eq_true blank with rfl | rfl
    · revert digit
      decide
    · revert digit
      decide
  · rintro rfl
    revert digit
    decide
  · rintro rfl
    revert digit
    decide

/-- A printed number needs no quoting. -/
theorem isWord_decimal (n : Nat) : CommandLine.IsWord (toString n).toList := by
  rw [toList_decimal]
  refine ⟨Nat.toDigits_ne_nil, fun c listed => digit_plain ?_⟩
  obtain ⟨_, _, read⟩ := Numeral.digits_of_toDigits (by decide) Numeral.digitValue_digitChar n c
    (by rwa [List.map_id])
  rw [read]
  rfl

/-- Nor does a printed seed. -/
theorem isWord_seedHex (childSeed : BitVec 64) : CommandLine.IsWord (seedHex childSeed).toList := by
  rw [toList_seedHex]
  refine ⟨List.cons_ne_nil _ _, fun c listed => digit_plain ?_⟩
  rcases List.mem_cons.mp listed with rfl | listed
  · decide
  rcases List.mem_cons.mp listed with rfl | listed
  · decide
  · obtain ⟨_, _, read⟩ :=
      Numeral.digits_of_toDigits (by decide) Numeral.digitValue_upper _ c listed
    rw [read]
    rfl

/-- Nor does any of the child's words. -/
theorem isWord_childWords (cfg : Config) (i : BitVec 32) :
    ∀ word ∈ (childWords cfg i).map String.toList, CommandLine.IsWord word := by
  have flag : ∀ word ∈ ["--no-hw", "--jit", "--watchdog-seconds", "--threads"],
      CommandLine.IsWord word.toList := by
    simp only [CommandLine.isWord_iff]
    decide
  intro text member
  obtain ⟨word, listed, rfl⟩ := List.mem_map.mp member
  simp only [childWords, List.mem_cons, List.mem_append, List.mem_ite_nil_right,
    List.not_mem_nil, or_false] at listed
  rcases listed with rfl | ((⟨-, rfl⟩ | ⟨-, rfl⟩) | (rfl | rfl)) | ⟨-, rfl | rfl⟩
  · exact isWord_seedHex _
  · exact flag _ (by decide)
  · exact flag _ (by decide)
  · exact flag _ (by decide)
  · exact isWord_decimal _
  · exact flag _ (by decide)
  · exact isWord_decimal _

theorem map_ofList_toList (words : List String) :
    (words.map String.toList).map String.ofList = words := by
  induction words with
  | nil => rfl
  | cons word words ih => rw [List.map_cons, List.map_cons, String.ofList_toList, ih]

/-- The child finds the words it was given. -/
theorem childArguments_eq {exePath : String} (unquoted : CommandLine.quote ∉ exePath.toList)
    (cfg : Config) (i : BitVec 32) :
    childArguments exePath cfg i = toString cfg.iterations.toNat :: childWords cfg i := by
  rw [childArguments, childCommandLine_words,
    CommandLine.argumentVector_words unquoted (isWord_decimal _) (isWord_childWords cfg i),
    List.map_cons, List.map_cons, List.tail_cons, map_ofList_toList, String.ofList_toList]

/-- What starts without a dash is no flag. -/
theorem ne_of_undashed {a flag : String} (undashed : a.toList.head? ≠ some '-')
    (dashed : flag.toList.head? = some '-') : a ≠ flag := by
  rintro rfl
  exact undashed dashed

/-- An argument that is no flag counts by its place. -/
theorem undashed_argument {a : String} (undashed : a.toList.head? ≠ some '-') (i : Nat)
    (cfg : Config) :
    valueFlag a = none ∧ loneArgument i a cfg =
      if i = 1 then { cfg with iterations := strtoull a 10 }
      else if i = 2 then { cfg with seed := strtoull a 0 }
      else cfg := by
  constructor
  · rw [valueFlag, if_neg (ne_of_undashed undashed (by decide)),
      if_neg (ne_of_undashed undashed (by decide)), if_neg (ne_of_undashed undashed (by decide)),
      if_neg (ne_of_undashed undashed (by decide))]
  · rw [loneArgument, if_neg (ne_of_undashed undashed (by decide)),
      if_neg (ne_of_undashed undashed (by decide)), if_neg (ne_of_undashed undashed (by decide)),
      if_neg (ne_of_undashed undashed (by decide)), if_neg (ne_of_undashed undashed (by decide))]

/-- A flag without a value takes one argument. -/
theorem argumentLoop_lone {i : Nat} {a : String} (rest : List String) (cfg : Config)
    (lone : valueFlag a = none) :
    argumentLoop i (a :: rest) cfg = argumentLoop (i + 1) rest (loneArgument i a cfg) := by
  rw [argumentLoop]
  intro store value rest' valued
  rw [lone] at valued
  cases valued

/-- A flag with a value takes two. -/
theorem argumentLoop_value {i : Nat} {a : String} {store : String → Config → Config}
    (value : String) (rest : List String) (cfg : Config) (valued : valueFlag a = some store) :
    argumentLoop i (a :: value :: rest) cfg = argumentLoop (i + 2) rest (store value cfg) := by
  rw [argumentLoop]
  exact valued

/-- A number starts without a dash. -/
theorem undashed_digits {text : String} {c : Char} {rest : List Char}
    (starts : text.toList = c :: rest)
    (digit : (Numeral.digitValue c).isSome) : text.toList.head? ≠ some '-' := by
  rw [starts]
  rintro same
  obtain rfl := Option.some.inj same
  revert digit
  decide

/-- So does its print. -/
theorem undashed_decimal (n : Nat) : (toString n).toList.head? ≠ some '-' := by
  have known := Numeral.digits_of_toDigits (by decide) Numeral.digitValue_digitChar n
  rw [List.map_id] at known
  cases digits : Nat.toDigits 10 n with
  | nil => exact absurd digits Nat.toDigits_ne_nil
  | cons c rest =>
      obtain ⟨_, _, read⟩ := known c (by rw [digits]; exact List.mem_cons_self)
      exact undashed_digits ((toList_decimal n).trans digits) (by rw [read]; rfl)

/-- A printed number is read back. -/
theorem strtoull_decimal (word : BitVec 64) : strtoull (toString word.toNat) 10 = word := by
  rw [strtoull, toList_decimal]
  exact Numeral.strtoul_decimal word

/-- So is a shorter one. -/
theorem strtoul_decimal (word : BitVec 32) : strtoul (toString word.toNat) = word := by
  rw [strtoul, toList_decimal]
  exact Numeral.strtoul_decimal word

/-- A printed seed is read back. -/
theorem strtoull_seedHex (childSeed : BitVec 64) : strtoull (seedHex childSeed) 0 = childSeed := by
  rw [strtoull, toList_seedHex]
  exact Numeral.strtoul_hexadecimal childSeed

/-- What the child's `main` reads: the values on the command line, and the defaults. -/
def childConfig (cfg : Config) (i : BitVec 32) : Config where
  iterations := cfg.iterations
  seed := mixSeed cfg.seed i
  useHw := cfg.useHw
  useJit := cfg.useJit
  threads := if cfg.threadsExplicit then cfg.threads else 0#32
  threadsExplicit := cfg.threadsExplicit
  watchdogSeconds := cfg.watchdogSeconds

/-- The flag that turns the hardware lane off, given or not. -/
theorem argumentLoop_noHw (given : Prop) [Decidable given] (i : Nat) (rest : List String)
    (cfg : Config) :
    argumentLoop i ((if given then ["--no-hw"] else []) ++ rest) cfg =
      argumentLoop (if given then i + 1 else i) rest
        { cfg with useHw := if given then false else cfg.useHw } := by
  split
  · exact argumentLoop_lone rest cfg rfl
  · rfl

/-- The flag that turns the compiler on, given or not. -/
theorem argumentLoop_jit (given : Prop) [Decidable given] (i : Nat) (rest : List String)
    (cfg : Config) :
    argumentLoop i ((if given then ["--jit"] else []) ++ rest) cfg =
      argumentLoop (if given then i + 1 else i) rest
        { cfg with useJit := if given then true else cfg.useJit } := by
  split
  · exact argumentLoop_lone rest cfg rfl
  · rfl

/-- **The decoder**: the child's words are read as the child's settings. -/
theorem parseArguments_child (cfg : Config) (i : BitVec 32) :
    parseArguments (toString cfg.iterations.toNat :: childWords cfg i) = childConfig cfg i := by
  have first := undashed_argument (undashed_decimal cfg.iterations.toNat) 1 {}
  have second :=
    undashed_argument (undashed_digits (toList_seedHex (mixSeed cfg.seed i)) (by decide))
    2 { ({} : Config) with iterations := cfg.iterations }
  rw [parseArguments, argumentLoop_lone _ _ first.1, first.2, if_pos rfl, strtoull_decimal,
    childWords, argumentLoop_lone _ _ second.1, second.2, if_neg (show ¬ 2 = 1 by decide),
    if_pos rfl, strtoull_seedHex, List.append_assoc, List.append_assoc, argumentLoop_noHw,
    argumentLoop_jit]
  rw [List.cons_append, List.cons_append, List.nil_append, argumentLoop_value _ _ _ rfl,
    strtoul_decimal]
  have hw : (if cfg.useHw = false then false else true) = cfg.useHw := by
    cases cfg.useHw <;> rfl
  have jit : (if cfg.useJit = true then true else false) = cfg.useJit := by
    cases cfg.useJit <;> rfl
  simp only [hw, jit, childConfig]
  cases explicit : cfg.threadsExplicit with
  | false => rfl
  | true =>
      rw [if_pos rfl, if_pos rfl, argumentLoop_value _ _ _ rfl, strtoul_decimal]
      rfl

/-- A number of threads that was not given is zero. -/
def Config.ThreadsGiven (cfg : Config) : Prop := cfg.threadsExplicit = false → cfg.threads = 0#32

/-- A flag with a value leaves the number alone, or it is the one that gives it. -/
theorem threadsGiven_value {a : String} {store : String → Config → Config}
    (valued : valueFlag a = some store) (value : String) {cfg : Config} (given : cfg.ThreadsGiven) :
    (store value cfg).ThreadsGiven := by
  unfold valueFlag at valued
  split at valued
  · obtain rfl := Option.some.inj valued
    exact given
  split at valued
  · obtain rfl := Option.some.inj valued
    exact given
  split at valued
  · obtain rfl := Option.some.inj valued
    exact given
  split at valued
  · obtain rfl := Option.some.inj valued
    exact fun implicit => absurd implicit Bool.true_eq_false.mp
  · cases valued

/-- Any other argument leaves it alone. -/
theorem threadsGiven_lone (i : Nat) (a : String) {cfg : Config} (given : cfg.ThreadsGiven) :
    (loneArgument i a cfg).ThreadsGiven := by
  have same : (loneArgument i a cfg).threads = cfg.threads ∧
      (loneArgument i a cfg).threadsExplicit = cfg.threadsExplicit := by
    unfold loneArgument
    repeat' split
    all_goals exact ⟨rfl, rfl⟩
  rw [Config.ThreadsGiven, same.1, same.2]
  exact given

/-- So do any number of arguments, by induction on them. -/
theorem threadsGiven_loop (args : List String) (i : Nat) {cfg : Config} (given : cfg.ThreadsGiven) :
    (argumentLoop i args cfg).ThreadsGiven := by
  induction i, args, cfg using argumentLoop.induct with
  | case1 => exact given
  | case2 i a cfg store value rest valued ih =>
      rw [argumentLoop_value _ _ _ valued]
      exact ih (threadsGiven_value valued value given)
  | case3 i a rest cfg lone ih =>
      rw [argumentLoop.eq_3 _ _ _ _ lone]
      exact ih (threadsGiven_lone i a given)

/-- So without the flag the parsed number is zero. -/
theorem threadsGiven_parse (args : List String) : (parseArguments args).ThreadsGiven :=
  threadsGiven_loop args 1 fun _ => rfl

/-- **The round trip.** From the command line of child `i` the child's `main` reads the
configuration the sweep was given, with the seed of the child and without the sweep, if
and only if that has none of `--no-unicorn`, `--no-seven` and `--verbose-from`. -/
theorem sweep_command_line_iff {exePath : String}
    (unquoted : CommandLine.quote ∉ exePath.toList) (args : List String)
    (sweeps : (parseArguments args).sweeps) (i : BitVec 32) :
    parseArguments (childArguments exePath (parseArguments args) i) =
        { parseArguments args with
          seed := mixSeed (parseArguments args).seed i, sweepSeeds := 0#32 } ↔
      (parseArguments args).noUnicorn = false ∧ (parseArguments args).noSeven = false ∧
        (parseArguments args).verboseFrom = BitVec.allOnes 64 := by
  have given := threadsGiven_parse args
  rw [childArguments_eq unquoted, parseArguments_child]
  generalize parseArguments args = cfg at sweeps given ⊢
  have threads : (if cfg.threadsExplicit then cfg.threads else 0#32) = cfg.threads := by
    split
    · rfl
    · rename_i implicit
      exact (given (Bool.not_eq_true _ ▸ implicit)).symm
  simp only [childConfig, threads, Config.mk.injEq, true_and, sweeps.1]
  constructor
  · rintro ⟨verbose, unicorn, seven⟩
    exact ⟨unicorn.symm, seven.symm, verbose.symm⟩
  · rintro ⟨unicorn, seven, verbose⟩
    exact ⟨verbose.symm, unicorn.symm, seven.symm⟩

/-- A sweep of the JIT over three seeds with two threads. -/
def jitSweep : Config :=
  parseArguments ["1000", "0x10", "--jit", "--sweep-seeds", "3", "--threads", "2"]

/-- A sweep with the compiler on. -/
theorem sweep_command_line_jit :
    parseArguments (childArguments "C:\\fuzz\\seven_fuzzer.exe" jitSweep 1) =
        { jitSweep with seed := mixSeed jitSweep.seed 1, sweepSeeds := 0#32 } ↔
      jitSweep.noUnicorn = false ∧ jitSweep.noSeven = false ∧
        jitSweep.verboseFrom = BitVec.allOnes 64 :=
  sweep_command_line_iff (by decide) _ ⟨by decide, by decide⟩ 1

/-- A sweep without Unicorn. -/
def noUnicornSweep : Config :=
  parseArguments ["1000", "0x10", "--no-unicorn", "--sweep-seeds", "3"]

/-- `--no-unicorn` is not passed on. -/
theorem sweep_drops_no_unicorn :
    noUnicornSweep.sweeps ∧ noUnicornSweep.noUnicorn = true ∧
      (parseArguments (childArguments "seven_fuzzer.exe" noUnicornSweep 0)).noUnicorn = false := by
  refine ⟨⟨by decide, by decide⟩, by decide, ?_⟩
  rw [childArguments_eq (by decide), parseArguments_child]
  rfl

end SevenFuzzer
