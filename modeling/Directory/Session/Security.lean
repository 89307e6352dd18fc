import Directory.Session.Request
/-! Securing a session: the server is asked, and after its consent the transport is exchanged for one that
is secure. Nothing else may have been written before. -/
namespace Directory

/-- What makes a transport secure. A transport given to it is not the session's any longer. -/
abbrev Upgrade := Transport → Except Error Transport

namespace Transport

/-- Read up to the message with this number. Nothing more than that is read; a notice ends the wait. -/
def awaitResponse (id : MessageId) (limit : UInt32) (transport : Transport) :
    Except Error Message × Transport :=
  match _taken : transport.takeMessage limit with
  | (.done message, after) =>
    if message.id = id then (.ok message, after)
    else
      match message.notice? with
      | some text => (.error (.connection (Termination.noticeText text)), after)
      | none => after.awaitResponse id limit
  | (.refused fault, after) => (.error fault.toError, after)
  | (.failed failure, after) => (.error (.stream failure), after)
  | (.waiting, after) => (.error (.stream .noAnswer), after)
termination_by transport.incoming.length
decreasing_by exact takeMessage_length _taken

def awaitWithin (id : MessageId) (limit : UInt32) (timeout : Nat) (transport : Transport) :
    Except Error Message × Transport :=
  match transport.setReadTimeout (some timeout) with
  | (.error failure, after) => (.error (.stream failure), after)
  | (.ok (), bounded) =>
    let (result, after) := bounded.awaitResponse id limit
    (result, (after.setReadTimeout none).2)

def converse (frame : Octets) (id : MessageId) (limit : UInt32) (timeout : Nat)
    (transport : Transport) : Except Error Message × Transport :=
  match transport.send frame with
  | (.error failure, after) => (.error (.stream failure), after)
  | (.ok (), after) => after.awaitWithin id limit timeout

end Transport

structure Securing where
  handedOver : Option Transport
  result : Except Error Unit

namespace Session

def checkUntouched : SessionM Unit := fun session =>
  if session.isSecured then
    (.error (.securityUpgrade "transport security is already active"), session)
  else if session.hasCarriedTraffic ∨ session.receiver ≠ .notStarted then
    (.error (.securityUpgrade "connection has already carried traffic"), session)
  else (.ok (), session)

def requestSecurity (id : MessageId) : SessionM Message := fun session =>
  let request : Message := ⟨id, .extendedRequest Oid.startTls none, []⟩
  let (result, transport) := session.transport.converse request.encode id
    session.config.maxMessageSize session.config.operationTimeout
  let after := { session with transport, hasCarriedTraffic := true }
  match result with
  | .ok message => (.ok message, after)
  | .error error =>
    (.error (.securityUpgrade error.message),
      after.terminate (.lost s!"StartTLS failed: {error.message}"))

def prepareSecurity : SessionM MessageId := do
  checkOperational
  checkUntouched
  checkTransport
  nextRequestId

def readConsent (response : Operation) : Except Error Unit :=
  match response with
  | .extendedResponse outcome _ _ =>
    if outcome.code.isSuccess then .ok ()
    else .error (.securityUpgrade
      s!"server refused StartTLS: {outcome.code.text} {outcome.diagnostic}")
  | op => .error (op.unexpected .extendedResponse)

def negotiateSecurity : SessionM Unit := do
  let id ← prepareSecurity
  let response ← requestSecurity id
  readConsent response.op

def exchangeTransport (upgrade : Upgrade) : SessionM Unit := fun session =>
  match upgrade session.transport with
  | .ok transport => (.ok (), { session with transport, isSecured := true })
  | .error error =>
    -- The transport went with the upgrade, so that there is nothing left to shut down.
    (.error (.securityUpgrade error.message),
      { session with holdsTransport := false }.terminate
        (.lost s!"security upgrade failed: {error.message}"))

def startSecurity (upgrade : Upgrade) : StateM Session Securing := fun session =>
  match negotiateSecurity.run session with
  | (.error error, after) => (⟨none, .error error⟩, after)
  | (.ok (), agreed) =>
    let (result, after) := (exchangeTransport upgrade).run agreed
    (⟨some agreed.transport, result⟩, after)

end Session

end Directory
