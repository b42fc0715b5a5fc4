import X64dbgMcp.Plugin.Backend
import X64dbgMcp.Text.CommandLine
import X64dbgMcp.Text.Utf8

/-!
# Launch arguments

The texts that `debuggee.launch` hands over: the command line that the new process
splits, and the command that x64dbg splits.  `MultiByteToWideChar` with
`MB_ERR_INVALID_CHARS` is a parameter; it has no result for bytes that are not UTF-8.
-/

namespace X64dbgMcp.Plugin

open Text

/-- The most arguments of a launch. -/
def kMaxLaunchArguments : Nat :=
  32

/-- The longest argument. -/
def kMaxLaunchArgumentBytes : Nat :=
  256

/-- The length of all of them. -/
def kMaxLaunchArgumentTotalBytes : Nat :=
  512

/-- The length of all of them with their quotes. -/
def kMaxRenderedLaunchArgumentBytes : Nat :=
  768

/-- The buffer of x64dbg for a command. -/
def kX64dbgCommandBufferBytes : Nat :=
  1024

/-- A double quote. -/
def quote : UInt8 :=
  0x22

/-- A backslash. -/
def backslash : UInt8 :=
  0x5c

/-- A space. -/
def space : UInt8 :=
  0x20

/-- Quotes, backslashes and blanks as bytes. -/
def windowsMarks : Marks UInt8 where
  quote := quote
  backslash := backslash
  blank byte := byte == space || byte == 0x09
  backslash_ne_quote := by decide
  blank_quote := rfl
  blank_backslash := rfl

/-- The loop of `QuoteWindowsArgument` behind the opening quote, with the backslashes
that have not been written yet. -/
def quoteFrom (backslashes : Nat) : List UInt8 → List UInt8
  | [] => List.replicate (backslashes * 2) backslash
  | character :: rest =>
      if character = backslash then quoteFrom (backslashes + 1) rest
      else if character = quote then
        List.replicate (backslashes * 2 + 1) backslash ++ quote :: quoteFrom 0 rest
      else List.replicate backslashes backslash ++ character :: quoteFrom 0 rest

attribute [grind =] quoteFrom

/-- An argument between quotes. -/
def quoteWindowsArgument (value : List UInt8) : List UInt8 :=
  quote :: quoteFrom 0 value ++ [quote]

/-- The locals of `RenderWindowsArguments`. -/
structure Rendering where
  inputBytes : Nat
  result : List UInt8

section Render

variable (backend : Backend) (multiByteToWideChar : List UInt8 → Option (List UInt16))

/-- An argument that may be passed on. -/
def validLaunchArgument (value : List UInt8) : Bool :=
  if kMaxLaunchArgumentBytes < value.length || 2 ^ 31 - 1 < value.length then false
  else if value = [] then true
  else
    match multiByteToWideChar value with
    | none | some [] => false
    | some decoded =>
        decoded.all fun code => !(code ≤ 0x1f || (0x7f ≤ code && code ≤ 0x9f))

/-- One turn of the loop of `RenderWindowsArguments`. -/
def appendArgument (state : Rendering) (argument : List UInt8) : Option Rendering :=
  if !validLaunchArgument multiByteToWideChar argument ||
      backend.sizeSub kMaxLaunchArgumentTotalBytes state.inputBytes < argument.length then none
  else
    let quoted := quoteWindowsArgument argument
    let result := (if state.result = [] then [] else state.result ++ [space]) ++ quoted
    if kMaxRenderedLaunchArgumentBytes < result.length then none
    else some { inputBytes := state.inputBytes + argument.length, result }

/-- The command line of these arguments. -/
def renderWindowsArguments (arguments : List (List UInt8)) : Option (List UInt8) :=
  if kMaxLaunchArguments < arguments.length then none
  else (arguments.foldlM (appendArgument backend multiByteToWideChar) ⟨0, []⟩).map
    Rendering.result

end Render

/-- The command line of the handler of `debuggee.launch`. -/
def processCommandLine (executable renderedArguments : List UInt8) : List UInt8 :=
  quoteWindowsArgument executable ++
    if renderedArguments = [] then [] else space :: renderedArguments

/-- An argument of a command of x64dbg. -/
def escapeX64dbgCommandArgument (value : List UInt8) : List UInt8 :=
  value.flatMap fun character =>
    if character = backslash ∨ character = quote then [backslash, character] else [character]

/-- What the command begins with. -/
def scriptcmdInit : List UInt8 :=
  utf8 "scriptcmd init "

/-- The command that launches a debuggee. -/
def buildInitCommand (executable commandLine workingDirectory : List UInt8) :
    Option (List UInt8) :=
  let result := scriptcmdInit ++ [quote] ++ escapeX64dbgCommandArgument executable ++
    utf8 "\", \"" ++ escapeX64dbgCommandArgument commandLine ++ utf8 "\", \"" ++
    escapeX64dbgCommandArgument workingDirectory ++ [quote]
  if kX64dbgCommandBufferBytes ≤ result.length then none else some result

/-! ## Windows arguments -/

/-- In quotes, the loop writes what is split into the backslashes before and the value. -/
theorem arguments_quoteFrom (value begun : List UInt8) (backslashes : Nat) (rest : List UInt8) :
    windowsMarks.arguments true 0 (some begun) (quoteFrom backslashes value ++ quote :: rest) =
      windowsMarks.arguments false 0
        (some (begun ++ List.replicate backslashes backslash ++ value)) rest := by
  induction value generalizing begun backslashes with
  | nil =>
      rw [List.append_nil]
      exact Marks.arguments_quote backslashes
  | cons character value ih =>
      rw [quoteFrom]
      split_ifs with isBackslash isQuote
      · rw [ih, isBackslash, List.replicate_succ', List.append_assoc, List.append_assoc,
          List.append_assoc]
        rfl
      · rw [List.append_assoc, List.cons_append, isQuote]
        refine (Marks.arguments_literal_quote backslashes).trans ?_
        rw [ih, List.replicate_zero, List.append_nil, List.append_assoc _ [_]]
        rfl
      · rw [List.append_assoc, List.cons_append]
        refine (Marks.arguments_literal isBackslash isQuote backslashes begun).trans ?_
        rw [ih, List.replicate_zero, List.append_nil, List.append_assoc _ [_]]
        rfl

/-- The arguments are quoted behind a space each. -/
def spaced (arguments : List (List UInt8)) : List UInt8 :=
  arguments.flatMap fun argument => space :: quoteWindowsArgument argument

theorem arguments_spaced (values : List (List UInt8)) (argument : Option (List UInt8)) :
    windowsMarks.arguments false 0 argument (spaced values) = argument.toList ++ values := by
  induction values generalizing argument with
  | nil => exact (List.append_nil _).symm
  | cons value values ih =>
      have opens := @Marks.arguments_quote UInt8 _ windowsMarks false none
        (quoteFrom 0 value ++ quote :: spaced values) 0
      calc windowsMarks.arguments false 0 argument (spaced (value :: values))
        _ = windowsMarks.arguments false 0 argument
              (space :: quote :: (quoteFrom 0 value ++ quote :: spaced values)) := by
            simp [spaced, quoteWindowsArgument]
        _ = argument.toList ++ windowsMarks.arguments false 0 none
              (quote :: (quoteFrom 0 value ++ quote :: spaced values)) :=
            Marks.arguments_blank rfl
        _ = argument.toList ++ windowsMarks.arguments true 0 (some [])
              (quoteFrom 0 value ++ quote :: spaced values) :=
            congrArg _ opens
        _ = argument.toList ++ value :: values := by
            rw [arguments_quoteFrom, ih]
            rfl

/-- A path without quotes that does not end in a backslash is quoted as it is. -/
theorem quoteFrom_eq {value : List UInt8} (noQuote : quote ∉ value)
    (ends : value.getLast? ≠ some backslash) {backslashes : Nat}
    (behind : value = [] → backslashes = 0) :
    quoteFrom backslashes value = List.replicate backslashes backslash ++ value := by
  induction value generalizing backslashes with
  | nil => rw [behind rfl]; rfl
  | cons character value ih =>
      rw [List.mem_cons, not_or] at noQuote
      have endsBehind : value.getLast? ≠ some backslash := by
        intro last
        rw [List.getLast?_cons, last] at ends
        exact ends rfl
      rw [quoteFrom, if_neg (Ne.symm noQuote.1)]
      split_ifs with isBackslash
      · have more : value = [] → backslashes + 1 = 0 := by
          rintro rfl
          exact absurd (congrArg some isBackslash) ends
        rw [ih noQuote.2 endsBehind more, isBackslash, List.replicate_succ', List.append_assoc]
        rfl
      · rw [ih noQuote.2 endsBehind fun _ => rfl]
        rfl

section Rendering

variable {backend : Backend} {multiByteToWideChar : List UInt8 → Option (List UInt16)}

theorem sizeSub_eq {inputBytes : Nat} (within : inputBytes ≤ kMaxLaunchArgumentTotalBytes) :
    backend.sizeSub kMaxLaunchArgumentTotalBytes inputBytes =
      kMaxLaunchArgumentTotalBytes - inputBytes := by
  unfold kMaxLaunchArgumentTotalBytes at *
  cases backend <;> simp only [Backend.sizeSub, Backend.sizeBits] <;> omega

theorem appendArgument_eq_some {state later : Rendering} {argument : List UInt8}
    (appended : appendArgument backend multiByteToWideChar state argument = some later) :
    argument.length ≤ backend.sizeSub kMaxLaunchArgumentTotalBytes state.inputBytes ∧
      later.inputBytes = state.inputBytes + argument.length ∧
      later.result = (if state.result = [] then [] else state.result ++ [space]) ++
        quoteWindowsArgument argument := by
  simp only [appendArgument, Option.ite_none_left_eq_some, Bool.or_eq_true, not_or,
    decide_eq_true_eq, Nat.not_lt] at appended
  rcases appended with ⟨⟨-, fits⟩, -, appended⟩
  cases appended
  exact ⟨fits, rfl, rfl⟩

/-- The total stays within its bound, so what is left of it does too. -/
theorem inputBytes_le {arguments : List (List UInt8)} {state later : Rendering}
    (within : state.inputBytes ≤ kMaxLaunchArgumentTotalBytes)
    (rendered : arguments.foldlM (appendArgument backend multiByteToWideChar) state =
      some later) : later.inputBytes ≤ kMaxLaunchArgumentTotalBytes := by
  induction arguments generalizing state with
  | nil =>
      cases rendered
      exact within
  | cons argument arguments ih =>
      rw [List.foldlM_cons] at rendered
      rcases Option.bind_eq_some_iff.mp rendered with ⟨next, appended, behind⟩
      rcases appendArgument_eq_some appended with ⟨fits, total, -⟩
      rw [sizeSub_eq within] at fits
      exact ih (by omega) behind

/-- What the handler puts behind the executable. -/
def trailing (rendered : List UInt8) : List UInt8 :=
  if rendered = [] then [] else space :: rendered

theorem trailing_appendArgument {state later : Rendering} {argument : List UInt8}
    (appended : appendArgument backend multiByteToWideChar state argument = some later) :
    trailing later.result = trailing state.result ++ spaced [argument] := by
  rcases appendArgument_eq_some appended with ⟨-, -, result⟩
  rw [result]
  unfold trailing
  split_ifs with empty <;> simp_all [spaced, quoteWindowsArgument]

theorem trailing_foldlM {arguments : List (List UInt8)} {state later : Rendering}
    (rendered : arguments.foldlM (appendArgument backend multiByteToWideChar) state =
      some later) : trailing later.result = trailing state.result ++ spaced arguments := by
  induction arguments generalizing state with
  | nil =>
      cases rendered
      exact (List.append_nil _).symm
  | cons argument arguments ih =>
      rw [List.foldlM_cons] at rendered
      rcases Option.bind_eq_some_iff.mp rendered with ⟨next, appended, behind⟩
      rw [ih behind, trailing_appendArgument appended, List.append_assoc, spaced, spaced, spaced,
        ← List.flatMap_append]
      rfl

/-- The started process splits its command line into the executable and the accepted
arguments, and what is left of the total is never negative, also for a list that is
not accepted. -/
theorem launch_arguments_faithful (backend : Backend)
    (multiByteToWideChar : List UInt8 → Option (List UInt16)) :
    (∀ executable arguments rendered, quote ∉ executable →
      executable.getLast? ≠ some backslash →
      renderWindowsArguments backend multiByteToWideChar arguments = some rendered →
      windowsMarks.commandLineToArgv (processCommandLine executable rendered) =
        executable :: arguments) ∧
    (∀ (arguments : List (List UInt8)) (state : Rendering),
      arguments.foldlM (appendArgument backend multiByteToWideChar) ⟨0, []⟩ = some state →
      state.inputBytes ≤ kMaxLaunchArgumentTotalBytes ∧
        backend.sizeSub kMaxLaunchArgumentTotalBytes state.inputBytes =
          kMaxLaunchArgumentTotalBytes - state.inputBytes) := by
  constructor
  · intro executable arguments rendered noQuote ends accepted
    simp only [renderWindowsArguments] at accepted
    split_ifs at accepted with many
    rcases Option.map_eq_some_iff.mp accepted with ⟨state, ran, rfl⟩
    have behind : trailing state.result = spaced arguments := trailing_foldlM ran
    have line : processCommandLine executable state.result =
        windowsMarks.quote :: executable ++ windowsMarks.quote :: spaced arguments := by
      rw [← behind, processCommandLine, quoteWindowsArgument,
        quoteFrom_eq noQuote ends fun _ => rfl]
      simp [trailing, windowsMarks]
    rw [line, Marks.commandLineToArgv_quoted noQuote, arguments_spaced]
    rfl
  · intro arguments state ran
    have within := inputBytes_le (Nat.zero_le _) ran
    exact ⟨within, sizeSub_eq within⟩

/-- `MultiByteToWideChar` on ASCII. -/
def asciiToWideChar (bytes : List UInt8) : Option (List UInt16) :=
  if bytes.all fun byte => byte < 0x80 then some (bytes.map UInt8.toUInt16) else none

/-- An empty argument, a blank, a quote behind a backslash and backslashes at the end. -/
theorem launch_arguments_faithful_backslashes :
    let arguments := [[], utf8 "with space", utf8 "a\\\"b", utf8 "trail\\\\"]
    ∃ rendered, renderWindowsArguments .x64 asciiToWideChar arguments = some rendered ∧
      windowsMarks.commandLineToArgv (processCommandLine (utf8 "C:\\a b.exe") rendered) =
        utf8 "C:\\a b.exe" :: arguments := by
  intro arguments
  have rendered : renderWindowsArguments .x64 asciiToWideChar arguments =
      some (utf8 "\"\" \"with space\" \"a\\\\\\\"b\" \"trail\\\\\\\\\"") := by
    decide +kernel
  exact ⟨_, rendered, (launch_arguments_faithful .x64 asciiToWideChar).1 _ _ _
    (by decide +kernel) (by decide +kernel) rendered⟩

end Rendering

/-! ## The command of x64dbg -/

/-- A comma. -/
def comma : UInt8 :=
  0x2c

theorem escapeX64dbgCommandArgument_eq (value : List UInt8) :
    escapeX64dbgCommandArgument value = value.flatMap windowsMarks.escaped :=
  rfl

/-- The command fits into the buffer of x64dbg and is split into the three texts. -/
theorem buildInitCommand_not_injectable
    {executable commandLine workingDirectory command : List UInt8}
    (built : buildInitCommand executable commandLine workingDirectory = some command) :
    command.length < kX64dbgCommandBufferBytes ∧ ∃ rest, command = scriptcmdInit ++ rest ∧
      windowsMarks.commandArguments comma space .outside [] rest =
        some [executable, commandLine, workingDirectory] := by
  simp only [buildInitCommand] at built
  split_ifs at built with long
  cases built
  refine ⟨Nat.lt_of_not_le long, quote :: executable.flatMap windowsMarks.escaped ++
    quote :: comma :: space :: (quote :: commandLine.flatMap windowsMarks.escaped ++
      quote :: comma :: space :: (quote :: workingDirectory.flatMap windowsMarks.escaped ++
        [quote])), ?_, ?_⟩
  · have between : utf8 "\", \"" = [quote, comma, space, quote] := rfl
    simp only [between, escapeX64dbgCommandArgument_eq, List.append_assoc, List.cons_append,
      List.nil_append]
  · calc windowsMarks.commandArguments comma space .outside [] _
      _ = _ := Marks.commandArguments_next executable
      _ = _ := congrArg _ (Marks.commandArguments_next commandLine)
      _ = _ := congrArg _ (congrArg _ (Marks.commandArguments_last workingDirectory))

/-- A directory that ends in a backslash, and a quote before a comma. -/
theorem buildInitCommand_not_injectable_separator :
    ∃ command, buildInitCommand (utf8 "C:\\a.exe") (utf8 "\", \"") (utf8 "C:\\") = some command ∧
      ∃ rest, command = scriptcmdInit ++ rest ∧
        windowsMarks.commandArguments comma space .outside [] rest =
          some [utf8 "C:\\a.exe", utf8 "\", \"", utf8 "C:\\"] := by
  have built : buildInitCommand (utf8 "C:\\a.exe") (utf8 "\", \"") (utf8 "C:\\") =
      some (utf8 "scriptcmd init \"C:\\\\a.exe\", \"\\\", \\\"\", \"C:\\\\\"") := by
    decide +kernel
  exact ⟨_, built, (buildInitCommand_not_injectable built).2⟩

end X64dbgMcp.Plugin
