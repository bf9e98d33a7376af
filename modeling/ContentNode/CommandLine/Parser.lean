import ContentNode.CommandLine.Arguments

/-!
# Reading command lines

A command line is a list of words.  Some options may stand before the command as
well as after it; where one stands in both places the second one counts.  At one
place an option may stand once.  The value of an option is checked when the next
option or operand is met, or at the end.
-/

namespace ContentNode.CommandLine

/-- The names of the commands. -/
inductive Verb where
  | serve
  | write
  | read
  | stat
  | config
deriving DecidableEq

namespace Verb

/-- Every command. -/
def all : List Verb := [serve, write, read, stat, config]

/-- The name of a command. -/
def name : Verb → String
  | serve => "serve"
  | write => "write"
  | read => "read"
  | stat => "stat"
  | config => "config"

/-- The command of a name. -/
def ofName? (name : String) : Option Verb := all.find? fun verb => verb.name == name

/-- Whether a command takes an operand. -/
def takesOperand : Verb → Bool
  | write | read => true
  | serve | stat | config => false

end Verb

/-- The options without a value. -/
inductive Switch where
  | help
  | version
  | verbose
  | memory
deriving DecidableEq

/-- The options with a value. -/
inductive Setting where
  | format
  | config
  | dataDir
  | bind
deriving DecidableEq

/-- Either kind of option. -/
inductive Flag where
  | switch (s : Switch)
  | setting (s : Setting)
deriving DecidableEq

namespace Flag

/-- Every option. -/
def all : List Flag :=
  [switch .help, switch .version, switch .verbose, switch .memory, setting .format,
    setting .config, setting .dataDir, setting .bind]

/-- The long name of an option. -/
def name : Flag → String
  | switch .help => "help"
  | switch .version => "version"
  | switch .verbose => "verbose"
  | switch .memory => "memory"
  | setting .format => "format"
  | setting .config => "config"
  | setting .dataDir => "data-dir"
  | setting .bind => "bind"

/-- The letter of an option. -/
def letter? : Flag → Option Char
  | switch .help => some 'h'
  | switch .version => some 'V'
  | switch .verbose => some 'v'
  | setting .config => some 'c'
  | _ => none

/-- Whether an option may stand before the command, or after the given one. -/
def allowed (verb : Option Verb) : Flag → Bool
  | switch .help | switch .verbose | setting .format | setting .config => true
  | switch .version => verb.isNone
  | switch .memory | setting .bind => verb == some .serve
  | setting .dataDir => verb.any (· ≠ .config)

/-- The option of a long name at a place. -/
def ofName? (verb : Option Verb) (name : String) : Option Flag :=
  all.find? fun flag => flag.name == name && flag.allowed verb

/-- The option of a letter at a place. -/
def ofLetter? (verb : Option Verb) (letter : Char) : Option Flag :=
  all.find? fun flag => flag.letter? == some letter && flag.allowed verb

end Flag

/-- The options and the operand that were given at one place. -/
structure Given where
  verbose : Bool
  memory : Bool
  format : Option Format
  config : Option String
  dataDir : Option String
  bind : Option SocketAddress
  operand : Option String

namespace Given

/-- Nothing was given. -/
def nothing : Given := ⟨false, false, none, none, none, none, none⟩

/-- A path that is not empty. -/
def path (text : String) : Except Refusal String :=
  if text = "" then .error .invalidValue else .ok text

/-- Takes the value of an option that was not given before. -/
def once (old : Option α) (value : Except Refusal α) : Except Refusal (Option α) :=
  match old with
  | some _ => .error .conflict
  | none => value.map some

/-- Adds an option with its value. -/
def withSetting (given : Given) (setting : Setting) (text : String) : Except Refusal Given :=
  match setting with
  | .format => do
    let value := match Format.ofName? text with
      | some format => .ok format
      | none => .error .invalidValue
    return { given with format := ← once given.format value }
  | .config => do return { given with config := ← once given.config (path text) }
  | .dataDir => do return { given with dataDir := ← once given.dataDir (path text) }
  | .bind => do
    let value := (SocketAddress.parse text).mapError fun _ => .malformedValue
    return { given with bind := ← once given.bind value }

/-- Adds an option without a value. -/
def withSwitch (given : Given) : Switch → Except Refusal Given
  | .help => .error .help
  | .version => .error .version
  | .verbose => if given.verbose then .error .conflict else .ok { given with verbose := true }
  | .memory => if given.memory then .error .conflict else .ok { given with memory := true }

/-- Whether anything was given. -/
def isEmpty (given : Given) : Bool :=
  !given.verbose && given.format.isNone && given.config.isNone

end Given

/-- How far a command line has been read. -/
structure Progress where
  given : Given
  /-- An option that has not been checked, and its value if it has been met. -/
  pending : Option (Setting × Option String)

namespace Progress

/-- The state before the first word. -/
def start : Progress := ⟨.nothing, none⟩

/-- Whether the next word is the value of an option. -/
def awaitsValue (progress : Progress) : Bool :=
  match progress.pending with
  | some (_, none) => true
  | _ => false

/-- Checks the option that has not been checked. -/
def settle (progress : Progress) : Except Refusal Given :=
  match progress.pending with
  | none => .ok progress.given
  | some (_, none) => .error .invalidValue
  | some (setting, some text) => progress.given.withSetting setting text

/-- Adds an option without a value. -/
def meetSwitch (progress : Progress) (s : Switch) : Except Refusal Progress := do
  return ⟨← (← progress.settle).withSwitch s, none⟩

/-- Adds an option with the value that is attached to it, or waits for the value. -/
def meetSetting (progress : Progress) (s : Setting) (attached : Option String) :
    Except Refusal Progress := do
  let given ← progress.settle
  match attached with
  | some text => return ⟨← given.withSetting s text, none⟩
  | none => return ⟨given, some (s, none)⟩

/-- Reads a long option: its name, or its name and a value with `=` between them. -/
def meetLong (verb : Option Verb) (progress : Progress) (text : List Char) :
    Except Refusal Progress :=
  let (name, rest) := text.span (· ≠ '=')
  match Flag.ofName? verb (String.ofList name), rest with
  | none, _ => .error .unknownArgument
  | some (.switch s), [] => progress.meetSwitch s
  | some (.switch _), _ :: _ => .error .unexpectedValue
  | some (.setting s), [] => progress.meetSetting s none
  | some (.setting s), _ :: value => progress.meetSetting s (some (String.ofList value))

/-- Reads letters: options without a value, and at the end perhaps one with a
value, which follows at once, with `=` before it or not. -/
def meetLetters (verb : Option Verb) (progress : Progress) :
    List Char → Except Refusal Progress
  | [] => .ok progress
  | c :: rest =>
    match Flag.ofLetter? verb c with
    | none => .error .unknownArgument
    | some (.switch s) => do meetLetters verb (← progress.meetSwitch s) rest
    | some (.setting s) =>
      match rest with
      | [] => progress.meetSetting s none
      | '=' :: value => progress.meetSetting s (some (String.ofList value))
      | value => progress.meetSetting s (some (String.ofList value))

/-- Reads an operand. -/
def meetOperand (verb : Verb) (progress : Progress) (text : String) :
    Except Refusal Progress :=
  if verb.takesOperand && progress.given.operand.isNone then do
    return ⟨{ ← progress.settle with operand := some text }, none⟩
  else .error .unknownArgument

/-- Reads a word that is an option, a value or an operand; `operand` reads the
last. -/
def meet (verb : Option Verb) (operand : Progress → String → Except Refusal Progress)
    (progress : Progress) (word : String) : Except Refusal Progress :=
  match word.toList with
  | '-' :: '-' :: name => progress.meetLong verb name
  | '-' :: c :: letters => progress.meetLetters verb (c :: letters)
  | _ =>
    match progress.pending with
    | some (setting, none) => .ok { progress with pending := some (setting, some word) }
    | _ => operand progress word

end Progress

/-- Reads the words after a command; after `--` all words are operands. -/
def readCommand (verb : Verb) : Bool → Progress → List String → Except Refusal Given
  | _, progress, [] => progress.settle
  | true, progress, word :: rest => do
    readCommand verb true (← progress.meetOperand verb word) rest
  | false, progress, word :: rest =>
    if word = "--" then readCommand verb true progress rest
    else do
      readCommand verb false (← progress.meet verb (·.meetOperand verb) word) rest

/-- Helps with a command, if it is one. -/
def readHelp : List String → Refusal
  | [] => .help
  | name :: rest =>
    if (Verb.ofName? name).isSome || name = "help" then
      if rest.isEmpty then .help else .unknownCommand
    else .unknownCommand

/-- Refuses the first word after a `--` before the command. -/
def refuseTrailing : List String → Progress → Refusal
  | [], progress =>
    match progress.settle with
    | .error e => e
    | .ok given => if given.isEmpty then .nothingGiven else .missingCommand
  | word :: _, _ =>
    if (Verb.ofName? word).isSome || word = "help" then .unknownArgument else .unknownCommand

/-- What was given before the command, the command, and the words after it. -/
def readTop : Progress → List String → Except Refusal (Progress × Verb × List String)
  | progress, [] => .error (refuseTrailing [] progress)
  | progress, word :: rest =>
    if !progress.awaitsValue && word = "help" then .error (readHelp rest)
    else
      match if progress.awaitsValue then none else Verb.ofName? word with
      | some verb => .ok (progress, verb, rest)
      | none =>
        if word = "--" then .error (refuseTrailing rest progress)
        else
          match progress.meet none (fun _ _ => .error .unknownCommand) word with
          | .ok progress => readTop progress rest
          | .error e => .error e

/-- The command of a name, with what was given after it. -/
def Given.command (given : Given) : Verb → Except Refusal Command
  | .serve =>
    if given.memory && given.dataDir.isSome then .error .conflict
    else .ok (.serve given.bind given.dataDir given.memory)
  | .write =>
    match given.operand with
    | some data => .ok (.write data given.dataDir)
    | none => .error .missingOperand
  | .read =>
    match given.operand with
    | some address => .ok (.read address given.dataDir)
    | none => .error .missingOperand
  | .stat => .ok (.stat given.dataDir)
  | .config => .ok .config

/-- What a command line asks for. -/
def Arguments.parse (words : List String) : Except Refusal Arguments := do
  let (before, verb, rest) ← readTop .start words
  let after ← readCommand verb false .start rest
  let command ← after.command verb
  let before ← before.settle
  return {
    command
    verbose := before.verbose || after.verbose
    format := (after.format <|> before.format).getD .text
    config := after.config <|> before.config }

end ContentNode.CommandLine
