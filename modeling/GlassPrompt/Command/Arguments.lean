import GlassPrompt.Settings

/-!
# The arguments of the command line

Options come before or between the other arguments.  A long option may have its value behind an equals
sign, short options may stand together behind one hyphen, and `--` ends the options.  Before the name
of a command only the options of the whole program are read.

* `OptionForm` — how an option is written.
* `readArguments?` — arguments taken apart into options and words.
* `Command`, `Invocation` — what the program is asked to do, and with which paths.
* `ArgumentFault` — why arguments are not understood.
* `Invocation.read` — the invocation that arguments stand for.
-/

namespace GlassPrompt

/-! ## The options -/

/-- The options of the command line. -/
inductive OptionKey where
  | verbose
  | output
  | language
  | runtime
  | stdout
  | deduplicate
  deriving DecidableEq, Repr

/-- How an option is written: a long name with its hyphens, a letter, and whether it has a value. -/
structure OptionForm where
  key : OptionKey
  long : Text
  short : Option Char
  takesValue : Bool
  deriving DecidableEq, Repr

/-- The options of the whole program. -/
def programOptions : List OptionForm :=
  [⟨.verbose, "--verbose".toList, some 'v', false⟩]

/-- The options of `transpile`. -/
def transpileOptions : List OptionForm :=
  [⟨.output, "--output".toList, some 'o', true⟩, ⟨.language, "--language".toList, some 'l', true⟩,
    ⟨.runtime, "--runtime-module".toList, none, true⟩, ⟨.stdout, "--stdout".toList, none, false⟩,
    ⟨.deduplicate, "--deduplicate".toList, none, false⟩]

/-- An option as it is given, with its value if it has one. -/
structure GivenOption where
  key : OptionKey
  value : Option Text
  deriving DecidableEq, Repr

/-- Options and words, in the order in which they are given. -/
structure Arguments where
  options : List GivenOption
  words : List Text
  deriving DecidableEq, Repr

/-! ## Taking arguments apart -/

/-- Options read off one argument, and the option whose value is the next argument. -/
structure ReadOptions where
  options : List GivenOption
  awaited : Option OptionKey
  deriving DecidableEq, Repr

/-- Reads the letters behind a hyphen; behind the letter of an option with a value comes the value. -/
def readLetters? (forms : List OptionForm) : Text → Option ReadOptions
  | [] => some ⟨[], none⟩
  | letter :: rest =>
    match forms.find? (·.short == some letter) with
    | none => none
    | some form =>
      if form.takesValue then
        if rest.isEmpty then some ⟨[], some form.key⟩ else some ⟨[⟨form.key, some rest⟩], none⟩
      else (readLetters? forms rest).map fun read =>
        { read with options := ⟨form.key, none⟩ :: read.options }

/-- Reads an argument that starts with a hyphen. -/
def readOption? (forms : List OptionForm) (argument : Text) : Option ReadOptions :=
  let name := argument.takeWhile (· != '=')
  let value := (argument.dropWhile (· != '=')).drop 1
  match forms.find? (·.long == name), argument.contains '=' with
  | some form, true => if form.takesValue then some ⟨[⟨form.key, some value⟩], none⟩ else none
  | some form, false =>
    if form.takesValue then some ⟨[], some form.key⟩ else some ⟨[⟨form.key, none⟩], none⟩
  | none, _ =>
    if "--".toList.isPrefixOf argument then none else readLetters? forms (argument.drop 1)

/-- Takes arguments apart; `awaited` is the option whose value comes next.  Unless options may stand
between words, the first word ends them. -/
def readArguments? (forms : List OptionForm) (between : Bool) (awaited : Option OptionKey) :
    List Text → Option Arguments
  | [] => if awaited.isSome then none else some ⟨[], []⟩
  | argument :: rest =>
    match awaited with
    | some key =>
      (readArguments? forms between none rest).map fun read =>
        { read with options := ⟨key, some argument⟩ :: read.options }
    | none =>
      if argument = "--".toList then some ⟨[], rest⟩
      else if argument.head? = some '-' ∧ argument.length ≠ 1 then
        match readOption? forms argument with
        | none => none
        | some read =>
          (readArguments? forms between read.awaited rest).map fun more =>
            { more with options := read.options ++ more.options }
      else if between then
        (readArguments? forms between none rest).map fun read =>
          { read with words := argument :: read.words }
      else some ⟨[], argument :: rest⟩

namespace Arguments

/-- The last value that is given for an option. -/
def value? (arguments : Arguments) (key : OptionKey) : Option Text :=
  (arguments.options.reverse.find? (·.key == key)).bind GivenOption.value

/-- How often an option is given. -/
def count (arguments : Arguments) (key : OptionKey) : Nat :=
  arguments.options.countP (·.key == key)

end Arguments

/-! ## What is asked for -/

/-- What `transpile` is asked to do. -/
structure TranspileRequest where
  paths : List Path
  output : Option Path
  language : Text
  runtime : Option Text
  /-- The module is printed and not written. -/
  toConsole : Bool
  deduplicate : Bool
  deriving DecidableEq, Repr

/-- The commands of the program. -/
inductive Command where
  | transpile (request : TranspileRequest)
  | check (paths : List Path)
  | fold (path : Path)
  deriving DecidableEq, Repr

/-- A command, and how much is logged. -/
structure Invocation where
  verbosity : Nat
  command : Command
  deriving DecidableEq, Repr

/-- The paths that an invocation names. -/
def Invocation.paths (invocation : Invocation) : List Path :=
  match invocation.command with
  | .transpile request => request.paths ++ request.output.toList
  | .check paths => paths
  | .fold path => [path]

/-- Why arguments are not understood. -/
inductive ArgumentFault where
  /-- The arguments are not put together as they should be. -/
  | usage
  /-- An argument stands for a path, but holds a null character. -/
  | notAPath
  deriving DecidableEq, Repr

/-- The path that a word stands for. -/
def readPath (word : Text) : Except ArgumentFault Path :=
  if word.contains '\x00' then .error .notAPath else .ok (.parse word)

/-- The paths that words stand for; there has to be one. -/
def readPaths (words : List Text) : Except ArgumentFault (List Path) :=
  if words.isEmpty then .error .usage else words.mapM readPath

/-- The path that a word stands for, if there is a word. -/
def readPath? : Option Text → Except ArgumentFault (Option Path)
  | none => .ok none
  | some word => (readPath word).map some

/-- The request that the arguments of `transpile` stand for; `language` is the language without an
option. -/
def TranspileRequest.read (language : Text) (arguments : List Text) :
    Except ArgumentFault TranspileRequest :=
  match readArguments? transpileOptions true none arguments with
  | none => .error .usage
  | some read => do
    let output ← readPath? (read.value? .output)
    let paths ← readPaths read.words
    return {
      paths
      output
      language := (read.value? .language).getD language
      runtime := read.value? .runtime
      toConsole := read.count .stdout != 0
      deduplicate := read.count .deduplicate != 0 }

/-- The only path that words stand for; a fault in the first word counts before further words do. -/
def readOnlyPath : List Text → Except ArgumentFault Path
  | [] => .error .usage
  | word :: rest => do
    let path ← readPath word
    if rest.isEmpty then return path else throw .usage

/-- The command of a name and its arguments. -/
def Command.read (language name : Text) (arguments : List Text) : Except ArgumentFault Command :=
  if name = "transpile".toList then
    (TranspileRequest.read language arguments).map .transpile
  else
    match readArguments? [] true none arguments with
    | none => .error .usage
    | some read =>
      if name = "check".toList then (readPaths read.words).map .check
      else if name = "fold".toList then (readOnlyPath read.words).map .fold
      else .error .usage

/-- The invocation that arguments stand for. -/
def Invocation.read (language : Text) (arguments : List Text) : Except ArgumentFault Invocation :=
  match readArguments? programOptions false none arguments with
  | none => .error .usage
  | some read =>
    match read.words with
    | [] => .error .usage
    | name :: rest => (Command.read language name rest).map (⟨read.count .verbose, ·⟩)

end GlassPrompt
