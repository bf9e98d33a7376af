import ContentNode.Text.Quoted

/-!
# Errors of the file system

What the operating system refuses, and what an operation makes of it.
-/

namespace ContentNode

/-- The errors that operations on files and addresses can meet. -/
inductive Errno where
  | noEntry
  | accessDenied
  | exists_
  | notDirectory
  | isDirectory
  | nameTooLong
  | tooManyLinks
  | addressInUse
  | addressNotAvailable
deriving DecidableEq

namespace Errno

/-- The number of an error. -/
def code : Errno → Nat
  | noEntry => 2
  | accessDenied => 13
  | exists_ => 17
  | notDirectory => 20
  | isDirectory => 21
  | nameTooLong => 36
  | tooManyLinks => 40
  | addressInUse => 98
  | addressNotAvailable => 99

/-- The description of an error. -/
def description : Errno → String
  | noEntry => "No such file or directory"
  | accessDenied => "Permission denied"
  | exists_ => "File exists"
  | notDirectory => "Not a directory"
  | isDirectory => "Is a directory"
  | nameTooLong => "File name too long"
  | tooManyLinks => "Too many levels of symbolic links"
  | addressInUse => "Address already in use"
  | addressNotAvailable => "Cannot assign requested address"

/-- The text of an error. -/
def message (e : Errno) : String := s!"{e.description} (os error {e.code})"

end Errno

/-- A failed operation on files. -/
inductive IoError where
  | os (errno : Errno)
  /-- A file could not be created under this name. -/
  | creating (errno : Errno) (path : String)
  /-- An entry could not be visited while a directory was listed. -/
  | visiting (errno : Errno) (path : String)
  /-- A path holds the null character. -/
  | nullInPath
  | other (message : String)
deriving DecidableEq

namespace IoError

/-- The text of a failure. -/
def message : IoError → String
  | os e => e.message
  | creating e path => s!"{e.message} at path {Text.Quoted.path path}"
  | visiting e path => s!"IO error for operation on {path}: {e.message}"
  | nullInPath => "file name contained an unexpected NUL byte"
  | other message => message

/-- The failures behind a failure, by their texts. -/
def causes : IoError → List String
  | visiting e _ => [e.message]
  | os _ | creating _ _ | nullInPath | other _ => []

end IoError

end ContentNode
