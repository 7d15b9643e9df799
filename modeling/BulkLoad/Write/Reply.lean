import BulkLoad.Text.Utf8

/-!
What comes back from the server, and what it says about the write.

A server that cannot keep up answers with a status of its own kind and one of a few phrases in the
body; such a write is not refused, only early.
-/
namespace BulkLoad

inductive Reply where
  | response (status : Nat) (body : Bytes)
  | transportError (message : String)
  | crashed
  deriving DecidableEq, Repr

namespace Reply

def successStatus : Nat := 204

def overloadStatus : Nat := 500

/-- An answer without a body, as a successful write gets it. -/
def noContent : Reply := .response successStatus []

/-- Any one of these in a body tells of an overload. -/
def overloadPhrases : List Bytes :=
  [ Utf8.encode "engine: cache maximum memory size exceeded"
  , Utf8.encode "write failed: hinted handoff queue not empty"
  , Utf8.encode "write failed: engine: cache-max-memory-size exceeded"
  , Utf8.encode "timeout"
  , Utf8.encode "write failed: can not exceed max connections of 500" ]

/-- These two together tell of an overload. -/
def readTimeoutPhrases : Bytes × Bytes :=
  (Utf8.encode "write failed: read message type: read tcp", Utf8.encode "i/o timeout")

/-- Whether `part` stands somewhere in `whole`. -/
def holds (part : Bytes) : Bytes → Bool
  | [] => part.isEmpty
  | b :: rest => if part.isPrefixOf (b :: rest) then true else holds part rest

def isOverload (body : Bytes) : Bool :=
  (overloadPhrases.any fun phrase => holds phrase body)
    || (holds readTimeoutPhrases.1 body && holds readTimeoutPhrases.2 body)

/-- What a response means for the write. -/
inductive Meaning where
  | success
  | overload
  | failure
  deriving DecidableEq, Repr

def classify (status : Nat) (body : Bytes) : Meaning :=
  if status = successStatus then .success
  else if status = overloadStatus ∧ isOverload body then .overload
  else .failure

def transportMessage (message : String) : String := "transport error: " ++ message

def refusalMessage (status : Nat) (body : Bytes) : String :=
  "invalid write response (status " ++ toString status ++ "): " ++ Utf8.decodeLossy body

/-- What a reply asks of the writer. -/
inductive Verdict where
  | written
  | overloaded
  | refused (message : String)
  | crashed
  deriving DecidableEq, Repr

def verdict : Reply → Verdict
  | .response status body =>
    match classify status body with
    | .success => .written
    | .overload => .overloaded
    | .failure => .refused (refusalMessage status body)
  | .transportError m => .refused (transportMessage m)
  | .crashed => .crashed

end Reply
end BulkLoad
