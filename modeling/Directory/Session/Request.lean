import Directory.Session.Intake
/-! Requests: numbered, written as one frame, and answered through a handle. -/
namespace Directory.Session

def checkOperational : SessionM Unit := fun session =>
  match session.phase with
  | .connected | .bound => (.ok (), session)
  | .idle => (.error (.sessionState "session is not connected"), session)
  | .unbound =>
    let reason := match session.ending with
      | some reason => reason.toError.message
      | none => "no reason recorded"
    (.error (.sessionState s!"session is unbound: {reason}"), session.release)

def nextRequestId : SessionM MessageId := fun session =>
  if Message.maxId < session.nextId then
    (.error (.sessionState "message id space exhausted"), session)
  else (.ok session.nextId, { session with nextId := session.nextId + 1 })

def checkTransport : SessionM Unit := fun session =>
  if session.holdsTransport then (.ok (), session)
  else (.error (.sessionState "transport already released"), session)

def startReceiver : SessionM Unit := fun session =>
  match session.receiver, session.transport.startFailure? with
  | .notStarted, some text => (.error (.connection text), session)
  | .notStarted, none => (.ok (), { session with receiver := .running })
  | _, _ => (.ok (), session)

def writeFrame (frame : Octets) : SessionM Unit := fun session =>
  match session.transport.send frame with
  | (.ok (), transport) => (.ok (), { session with transport })
  | (.error failure, transport) =>
    (.error (.connection s!"write to {session.peer} failed: {failure.text}"),
      { session with transport }.terminate (.lost failure.text))

def send (message : Message) : SessionM Unit := do
  checkTransport
  startReceiver
  modify fun session => { session with hasCarriedTraffic := true }
  writeFrame message.encode

def releasing (handle : Handle) (use : SessionM α) : SessionM α := fun session =>
  let (result, after) := use.run session
  (result, after.dropHandle handle.id)

def attending (use : SessionM α) : SessionM α := fun session =>
  let (result, after) := use.run session
  (result, after.takeIn)

/-- Write a request and begin to wait for its answers. Its number is used up even if that fails. -/
def post (op : Operation) (controls : List Control) (timeout : Nat) : SessionM Handle := do
  checkOperational
  let id ← nextRequestId
  modify (·.register id)
  fun session =>
    match (send ⟨id, op, controls⟩).run session with
    | (.ok (), after) => (.ok ⟨id, timeout⟩, after)
    | (.error error, after) => (.error error, after.dropHandle id)

def submit (op : Operation) (controls : List Control) (timeout : Nat) : SessionM Handle :=
  attending (post op controls timeout)

/-- The next message for a handle. All that is to come has been taken in, so that nobody answers a request
that is still open; it is waited for no longer. -/
def receive (handle : Handle) : SessionM Message := fun session =>
  match session.waiter? handle.id with
  | some ⟨id, message :: rest, _⟩ =>
    (.ok message, session.updateWaiter id fun waiter => { waiter with inbox := rest })
  | some ⟨id, [], true⟩ => (.error (.timeout handle.timeout), session.forget id)
  | _ =>
    match session.ending with
    | some reason => (.error reason.toError, session)
    | none => (.error (.abandoned handle.id), session)

def exchange (op : Operation) (controls : List Control) (timeout : Nat) : SessionM Message := do
  let handle ← submit op controls timeout
  releasing handle (receive handle)

def giveUp (target : MessageId) : SessionM Unit := do
  checkOperational
  -- Even if the server cannot be told, the caller has given up.
  modify (·.forget target)
  let id ← nextRequestId
  send ⟨id, .abandonRequest target, []⟩

def abandon (target : MessageId) : SessionM Unit := attending (giveUp target)

def sayGoodbye (session : Session) : Session :=
  match nextRequestId.run session with
  | (.ok id, numbered) =>
    { numbered with transport := (numbered.transport.send (Message.encode ⟨id, .unbindRequest, []⟩)).2 }
  | (.error _, same) => same

def close (session : Session) : Session :=
  if session.holdsTransport then
    let told := if session.phase.isLive then session.sayGoodbye else session
    { told.terminate .closed with identity := none }.release
  else session

end Directory.Session
