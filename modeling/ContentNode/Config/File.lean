import ContentNode.Config.Toml
import ContentNode.FileSystem.Operation

/-!
# Configurations in files
-/

namespace ContentNode.Config

open FileSystem

/-- The text of a file. -/
def readText (actor : Actor) (path : String) (files : FileTree) : Except IoError String := do
  match String.fromUTF8? (← files.contentOf actor (.ofText path)) with
  | some text => return text
  | none => .error (.other "stream did not contain valid UTF-8")

/-- The valid configuration of a file. -/
def load (actor : Actor) (path : String) (files : FileTree) : Except ConfigError Config :=
  match readText actor path files with
  | .ok text => ofToml text
  | .error e => .error (.unreadable path e.message)

end ContentNode.Config
