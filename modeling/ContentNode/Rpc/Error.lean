import ContentNode.Engine.Error
import ContentNode.Json.FromValue
import ContentNode.Json.Printer

/-!
# Errors of calls

A failed call is answered with a code, one for every kind of failure, and a
message.
-/

namespace ContentNode.Rpc

/-- Every way in which a call can fail. -/
inductive ErrorKind where
  /-- The body is not JSON. -/
  | parseError
  /-- The body is no well-formed request. -/
  | invalidRequest
  /-- The payload to be written is empty or too long. -/
  | invalidPayload
  | notFound
  | malformedAddress
  | integrityViolation
  /-- The store failed, or the call took too long. -/
  | storageFailure
deriving DecidableEq

namespace ErrorKind

/-- Every kind. -/
def all : List ErrorKind :=
  [parseError, invalidRequest, invalidPayload, notFound, malformedAddress, integrityViolation,
    storageFailure]

/-- The code of a kind in responses. -/
def code : ErrorKind → Int
  | parseError => -32700
  | invalidRequest => -32600
  | invalidPayload => -32602
  | notFound => -32001
  | malformedAddress => -32002
  | integrityViolation => -32003
  | storageFailure => -32004

/-- The kind of a code. -/
def ofCode? (code : Int) : Option ErrorKind := all.find? fun kind => kind.code == code

theorem ofCode?_code (kind : ErrorKind) : ofCode? kind.code = some kind := by
  cases kind <;> decide

/-- Whether the same call may succeed later. -/
def isRetryable : ErrorKind → Bool
  | notFound | storageFailure => true
  | _ => false

/-- The name of a kind. -/
def name : ErrorKind → String
  | parseError => "parse error"
  | invalidRequest => "invalid request"
  | invalidPayload => "invalid payload"
  | notFound => "not found"
  | malformedAddress => "malformed address"
  | integrityViolation => "integrity violation"
  | storageFailure => "storage failure"

end ErrorKind

/-- An error in a response. -/
structure ErrorObject where
  code : Int
  message : String
deriving DecidableEq

namespace ErrorObject

/-- The kind that the code of an error belongs to. -/
def kind? (e : ErrorObject) : Option ErrorKind := ErrorKind.ofCode? e.code

/-- The shape of an error in a response. -/
def shape : Schema.Record Schema.Leaf ErrorObject where
  name := "RpcErrorObject"
  blank := ⟨0, ""⟩
  required := true
  fields := [
    { name := "code"
      type := Int
      shape := .scalar (.integer "i32" (-0x80000000) 0x7FFFFFFF)
      set := fun code e => { e with code } },
    { name := "message"
      type := String
      shape := .scalar .text
      set := fun message e => { e with message } }]

/-- The text of an error in a response. -/
def render (e : ErrorObject) : String :=
  Json.renderRecord [("code", toString e.code), ("message", Json.quote e.message)]

end ErrorObject

/-- A failed call. -/
structure Error where
  kind : ErrorKind
  message : String
deriving DecidableEq

namespace Error

/-- The code of the kind. -/
def code (e : Error) : Int := e.kind.code

/-- An error with its kind, for reports. -/
def display (e : Error) : String := s!"{e.kind.name}: {e.message}"

/-- The error in a response. -/
def toObject (e : Error) : ErrorObject := ⟨e.code, e.message⟩

/-- The body is not JSON. -/
def parseError (details : String) : Error := ⟨.parseError, s!"Parse error: {details}"⟩

/-- The body is no well-formed request. -/
def invalidRequest (details : String) : Error := ⟨.invalidRequest, s!"Invalid request: {details}"⟩

/-- The call did not finish in time. -/
def timeout (milliseconds : Nat) : Error :=
  ⟨.storageFailure, s!"Storage failure: request timed out after {milliseconds} ms"⟩

/-- The call was given up. -/
def aborted : Error := ⟨.storageFailure, "Storage failure: request aborted"⟩

/-- A text with its first letter in upper case.  The texts of errors begin with
a letter of the Latin alphabet. -/
def capitalize (s : String) : String :=
  match s.toList with
  | [] => ""
  | c :: rest => String.ofList (c.toUpper :: rest)

/-- Only the first letter changes. -/
theorem capitalize_append (opening rest : String) (nonempty : opening ≠ "") :
    capitalize (opening ++ rest) = capitalize opening ++ rest := by
  have letters : opening.toList ≠ [] := fun none =>
    nonempty (String.toList_inj.mp (by simp [none]))
  obtain ⟨c, cs, characters⟩ := List.exists_cons_of_ne_nil letters
  apply String.toList_inj.mp
  simp [capitalize, characters]

/-- The kind of a failure to read or write an object. -/
def kindOf : EngineError → ErrorKind
  | .invalidPayload _ => .invalidPayload
  | .malformedAddress _ => .malformedAddress
  | .notFound _ => .notFound
  | .integrityViolation _ _ => .integrityViolation
  | .storageFailure _ => .storageFailure

/-- The failed call of a failure to read or write an object. -/
def ofEngine (e : EngineError) : Error := ⟨kindOf e, capitalize e.message⟩

/-- The texts of the failed calls, which begin with a capital letter. -/
theorem ofEngine_eq (e : EngineError) :
    ofEngine e = ⟨kindOf e, match e with
      | .invalidPayload reason => "Invalid payload: " ++ reason
      | .malformedAddress report =>
        "Malformed address " ++ Text.Quoted.string report.input ++ ": " ++ report.reason.message
      | .notFound address => "Object not found: " ++ address.encode
      | .integrityViolation address violation =>
        "Integrity violation for " ++ address.encode ++ ": " ++ violation.message
      | .storageFailure reason => "Storage failure: " ++ reason⟩ := by
  rw [ofEngine]
  congr 1
  cases e with
  | invalidPayload reason => exact capitalize_append "invalid payload: " reason (by decide)
  | malformedAddress report =>
    change capitalize ("malformed address " ++ _ ++ ": " ++ _) =
      "Malformed address " ++ _ ++ ": " ++ _
    simp only [String.append_assoc]
    exact capitalize_append "malformed address " _ (by decide)
  | notFound address => exact capitalize_append "object not found: " _ (by decide)
  | integrityViolation address violation =>
    change capitalize ("integrity violation for " ++ _ ++ ": " ++ _) =
      "Integrity violation for " ++ _ ++ ": " ++ _
    simp only [String.append_assoc]
    exact capitalize_append "integrity violation for " _ (by decide)
  | storageFailure reason => exact capitalize_append "storage failure: " reason (by decide)

end Error

end ContentNode.Rpc
