import ContentNode.Config.SocketAddress

/-!
# Arguments

What the program can be asked to do, and why a command line asks for nothing
that it can do.
-/

namespace ContentNode.CommandLine

/-- How results are printed. -/
inductive Format where
  | text
  | json
deriving DecidableEq

namespace Format

/-- Every format. -/
def all : List Format := [text, json]

/-- The name of a format. -/
def name : Format → String
  | text => "text"
  | json => "json"

/-- The format of a name. -/
def ofName? (name : String) : Option Format := all.find? fun format => format.name == name

end Format

/-- A command and its own settings. -/
inductive Command where
  /-- Runs a node. -/
  | serve (bind : Option SocketAddress) (dataDir : Option String) (memory : Bool)
  /-- Stores a text and prints its address. -/
  | write (data : String) (dataDir : Option String)
  /-- Prints the payload of an address. -/
  | read (address : String) (dataDir : Option String)
  /-- Prints how much is stored. -/
  | stat (dataDir : Option String)
  /-- Prints the configuration. -/
  | config
deriving DecidableEq

/-- What a command line asks for. -/
structure Arguments where
  command : Command
  verbose : Bool
  format : Format
  /-- The file of the configuration. -/
  config : Option String
deriving DecidableEq

/-- Why nothing is done for a command line. -/
inductive Refusal where
  /-- Help was asked for. -/
  | help
  /-- The version was asked for. -/
  | version
  /-- There are no arguments at all. -/
  | nothingGiven
  | missingCommand
  | unknownCommand
  | unknownArgument
  /-- An option was given twice, or with one that it excludes. -/
  | conflict
  /-- A value was given to an option that takes none. -/
  | unexpectedValue
  /-- An option has no value, or one that it never takes. -/
  | invalidValue
  /-- The value of an option is not well-formed. -/
  | malformedValue
  | missingOperand
deriving DecidableEq

/-- The exit code of a refusal.  It is no failure to ask for help. -/
def Refusal.exitCode : Refusal → Nat
  | help | version => 0
  | _ => 2

end ContentNode.CommandLine
