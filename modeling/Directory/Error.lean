import Directory.ResultCode
/-! What an operation can fail with. Errors of a server, of a caller and of the connection are told
apart by their constructor; `message` is what a user reads. -/
namespace Directory

/-- What a stream reports when a call on it fails. The first four mean that the peer is gone. -/
inductive FailureKind where
  | unexpectedEof
  | reset
  | aborted
  | brokenPipe
  | interrupted
  | timedOut
  | other
  deriving DecidableEq, Repr

structure StreamFailure where
  kind : FailureKind
  text : String
  deriving DecidableEq, Repr

def StreamFailure.endOfData : StreamFailure := ⟨.unexpectedEof, "failed to fill whole buffer"⟩

def StreamFailure.noRoom : StreamFailure := ⟨.other, "failed to write whole buffer"⟩

def StreamFailure.noAnswer : StreamFailure := ⟨.timedOut, "read timed out"⟩

def StreamFailure.isPeerGone (failure : StreamFailure) : Bool :=
  match failure.kind with
  | .unexpectedEof | .reset | .aborted | .brokenPipe => true
  | .interrupted | .timedOut | .other => false

inductive Error where
  | stream (failure : StreamFailure)
  | connection (text : String)
  | securityUpgrade (text : String)
  | malformed (text : String)
  | truncated (text : String)
  | sessionState (text : String)
  | authentication (code : ResultCode) (diagnostic : String)
  | timeout (milliseconds : Nat)
  | abandoned (id : UInt32)
  | refused (code : ResultCode) (diagnostic matchedDn : String)
  | unexpectedResponse (expected got : String)
  | cursorExhausted
  | invalidDn (text : String)
  | invalidFilter (text : String)
  | duplicateAttribute (name : String)
  | invalidArgument (text : String)
  deriving DecidableEq, Repr

namespace Error

def message : Error → String
  | stream failure => "IO error: " ++ failure.text
  | connection text => "Connection error: " ++ text
  | securityUpgrade text => "Security upgrade failed: " ++ text
  | malformed text => "Malformed message: " ++ text
  | truncated text => "Truncated message: " ++ text
  | sessionState text => "Invalid session state: " ++ text
  | authentication code diagnostic => s!"Authentication failed ({code.text}): {diagnostic}"
  | timeout milliseconds => s!"Operation timed out after {milliseconds} ms"
  | abandoned id => s!"Request {id.toNat} was abandoned"
  | refused code diagnostic _ => s!"Operation failed ({code.text}): {diagnostic}"
  | unexpectedResponse expected got => s!"Unexpected response: expected {expected}, got {got}"
  | cursorExhausted => "Paged search cursor is exhausted"
  | invalidDn text => "Invalid DN: " ++ text
  | invalidFilter text => "Invalid filter: " ++ text
  | duplicateAttribute name => "Duplicate attribute: " ++ name
  | invalidArgument text => "Invalid argument: " ++ text

/-- After a failure of the connection or of the framing the session is of no more use. -/
def isFatal : Error → Bool
  | stream _ | connection _ | malformed _ | truncated _ => true
  | _ => false

def code? : Error → Option ResultCode
  | authentication code _ | refused code _ _ => some code
  | _ => none

def ofOutcome (outcome : Outcome) : Error :=
  refused outcome.code outcome.diagnostic outcome.matchedDn

end Error

end Directory
