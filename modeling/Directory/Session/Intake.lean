import Directory.Session
/-! Taking in what the server sends: messages go to the waiters of their numbers, until something arrives
that ends the session. -/
namespace Directory

namespace Message

def notice? (message : Message) : Option String :=
  match message.op with
  | .extendedResponse outcome name _ =>
    if message.id = 0 ∧ name = some Oid.noticeOfDisconnection
    then some s!"{outcome.code.text} {outcome.diagnostic}" else none
  | _ => none

/-- Why the session ends with a message, if it does: only clients send requests, and a notice is the
last that is heard of a server. -/
def ending? (message : Message) : Option Termination :=
  if message.op.isRequest then some (.malformed s!"server sent {message.op.name}")
  else message.notice?.map Termination.disconnected

end Message

namespace Termination

def ofFault : Wire.Fault → Termination
  | .truncated shortfall => .truncated shortfall.message
  | .malformed defect => .malformed (Error.malformed defect.message).message

def ofFailure (peer : String) (failure : StreamFailure) : Termination :=
  if failure.isPeerGone then .lost s!"connection to {peer} closed" else .lost failure.text

end Termination

namespace Session

def stop (session : Session) (reason : Termination) : Session :=
  ({ session with receiver := .stopped }.terminate reason).release

def nextMessage? (session : Session) : Option (Except Termination Message × Transport) :=
  match session.transport.takeMessage session.config.maxMessageSize with
  | (.done message, after) =>
    match message.ending? with
    | some reason => some (.error reason, after)
    | none => some (.ok message, after)
  | (.refused fault, after) => some (.error (.ofFault fault), after)
  | (.failed failure, after) => some (.error (.ofFailure session.peer failure), after)
  | (.waiting, _) => none

theorem nextMessage?_readsTo {session : Session} {result : Except Termination Message}
    {after : Transport} (h : session.nextMessage? = some (result, after)) :
    session.transport.ReadsTo after := by
  have reads := Transport.takeMessage_readsTo session.config.maxMessageSize session.transport
  unfold nextMessage? at h
  split at h <;> next taken =>
    rw [taken] at reads
    first
      | (split at h <;> cases h <;> exact reads)
      | (cases h <;> exact reads)

theorem nextMessage?_length {session : Session} {message : Message} {after : Transport}
    (h : session.nextMessage? = some (.ok message, after)) :
    after.incoming.length < session.transport.incoming.length := by
  unfold nextMessage? at h
  split at h
  · next taken =>
    split at h <;> cases h
    exact Transport.takeMessage_length taken
  · cases h
  · cases h
  · cases h

def takeIn (session : Session) : Session :=
  if session.receiver = .running then
    match _next : session.nextMessage? with
    | some (.ok message, transport) => ({ session with transport }.route message).takeIn
    | some (.error reason, transport) => { session with transport }.stop reason
    | none => session
  else session
termination_by session.transport.incoming.length
decreasing_by exact nextMessage?_length _next

def hear (session : Session) (actions : List Action) : Session :=
  { session with transport := session.transport.deliver 0 actions }.takeIn

theorem inbox_stop (session : Session) (reason : Termination) (id : MessageId) :
    (session.stop reason).inbox id = session.inbox id := by
  rw [stop, inbox_release, inbox_terminate]
  rfl

theorem stop_keeps (session : Session) (reason : Termination) :
    (session.stop reason).transport.script = session.transport.script ∧
      (session.stop reason).transport.incoming = session.transport.incoming := by
  unfold stop terminate release
  split <;> split <;> first | exact session.transport.shutdown_keeps | exact ⟨rfl, rfl⟩

theorem script_takeIn (session : Session) :
    session.takeIn.transport.script = session.transport.script := by
  fun_induction takeIn session with
  | case1 _ _ _ _ next ih => exact ih.trans (nextMessage?_readsTo next).script_eq
  | case2 _ _ _ _ next =>
    rw [(stop_keeps _ _).1]
    exact (nextMessage?_readsTo next).script_eq
  | case3 => rfl
  | case4 => rfl

theorem incoming_takeIn_le (session : Session) :
    session.takeIn.transport.incoming.length ≤ session.transport.incoming.length := by
  fun_induction takeIn session with
  | case1 _ _ _ _ next ih => exact Nat.le_trans ih (Nat.le_of_lt (nextMessage?_length next))
  | case2 _ _ _ _ next =>
    rw [(stop_keeps _ _).2]
    exact (nextMessage?_readsTo next).length_le
  | case3 => exact Nat.le_refl _
  | case4 => exact Nat.le_refl _

/-- What was not there before must have been on the stream. -/
theorem inbox_takeIn (session : Session) (id : MessageId) :
    session.takeIn.inbox id = session.inbox id ∨
      session.takeIn.transport.incoming.length < session.transport.incoming.length := by
  fun_cases takeIn session with
  | case1 _ _ _ next =>
    right
    exact Nat.lt_of_le_of_lt (incoming_takeIn_le _) (nextMessage?_length next)
  | case2 =>
    left
    rw [inbox_stop]
    rfl
  | case3 => exact .inl rfl
  | case4 => exact .inl rfl

end Session

end Directory
