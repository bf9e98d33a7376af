import ContentNode.CommandLine.Run
import ContentNode.FileSystem.Edit

/-!
# The program

Runs the command line of its arguments.  The files that it works on live in
memory, except that the configuration file is read from disk.  A node answers
the bodies on standard input, one on each line, until the input ends.
-/

namespace ContentNode.Main

open CommandLine FileSystem

/-- A tree with the configuration file of a command line, if it can be read. -/
def initialFiles (words : List String) : IO FileTree := do
  match Arguments.parse words with
  | .ok { config := some path, .. } =>
    try
      let content ← IO.FS.readBinFile path
      return FileTree.empty.writeFile (.ofText path) content 0
    catch _ => return .empty
  | _ => return .empty

/-- What a command line depends on, apart from files. -/
def surroundings : IO Surroundings := do
  let plain := (← IO.getEnv "NO_COLOR").isSome
  let color := !plain && (← (← IO.getStdout).isTty)
  let now := Instant.ofMilliseconds (← IO.monoMsNow)
  return ⟨.owner, now, color, ← IO.getEnv "CAS_LOG", ⟨[]⟩⟩

/-- Answers the bodies on the lines of a stream. -/
partial def answerLines (input output : IO.FS.Stream) (node : Node) : IO Unit := do
  let line ← input.getLine
  if line.isEmpty then return ()
  let now := Instant.ofMilliseconds (← IO.monoMsNow)
  let (response, node) := node.respond .owner now ⟨"POST", "/", line.toUTF8⟩
  output.putStrLn response.body
  output.flush
  answerLines input output node

end ContentNode.Main

open ContentNode in
/-- Runs the command line of the arguments. -/
def main (words : List String) : IO UInt32 := do
  let (outcome, _) :=
    CommandLine.run (← Main.surroundings) words (← Main.initialFiles words)
  for line in outcome.log do
    IO.eprintln line.render
  IO.print outcome.stdout
  IO.eprint outcome.stderr
  match outcome with
  | .ended (.serving node) _ => Main.answerLines (← IO.getStdin) (← IO.getStdout) node
  | _ => pure ()
  return UInt32.ofNat outcome.exitCode
