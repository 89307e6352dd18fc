import Directory.Config
import Directory.Frame
/-! A session: one conversation with a server over one transport. Requests carry rising numbers and may be
outstanding together; each has a waiter that collects what the server answers under its number. A session
that has ended keeps the first reason for its end. -/
namespace Directory

inductive Termination where
  | closed
  | lost (text : String)
  | malformed (text : String)
  | truncated (text : String)
  | disconnected (text : String)
  deriving DecidableEq, Repr

namespace Termination

def noticeText (text : String) : String := "server sent notice of disconnection: " ++ text

def toError : Termination → Error
  | closed => .sessionState "session is closed"
  | lost text => .connection text
  | malformed text => .malformed text
  | truncated text => .truncated text
  | disconnected text => .connection (noticeText text)

end Termination

inductive Phase where
  /-- The transport is not known to lead anywhere. -/
  | idle
  | connected
  | bound
  | unbound
  deriving DecidableEq, Repr

def Phase.isLive : Phase → Bool
  | connected | bound => true
  | idle | unbound => false

/-- The part of a session that takes in what the server sends. It starts with the first request and stops
by itself, once. -/
inductive Receiver where
  | notStarted
  | running
  | stopped
  deriving DecidableEq, Repr

structure Waiter where
  id : MessageId
  inbox : List Message := []
  isOpen : Bool := true
  deriving DecidableEq

namespace Waiter

def close (waiter : Waiter) : Waiter := { waiter with isOpen := false }

def take (message : Message) (waiter : Waiter) : Waiter :=
  if waiter.isOpen then
    { waiter with inbox := waiter.inbox ++ [message], isOpen := !message.op.isFinal }
  else waiter

end Waiter

structure Handle where
  id : MessageId
  /-- In milliseconds. -/
  timeout : Nat
  deriving DecidableEq, Repr

structure Session where
  config : Config
  peer : String
  transport : Transport
  /-- Whether the transport is still the session's to write to. -/
  holdsTransport : Bool := true
  phase : Phase
  /-- Why the session ended, once it has. -/
  ending : Option Termination := none
  /-- One for each handle that was not dropped. -/
  waiters : List Waiter := []
  nextId : MessageId := 1
  /-- The name that the server knows the client by; anonymous clients have none. -/
  identity : Option String := none
  hasCarriedTraffic : Bool := false
  isSecured : Bool := false
  receiver : Receiver := .notStarted

/-- What is done on a session keeps its effects when it fails. -/
abbrev SessionM := ExceptT Error (StateM Session)

namespace SessionM

def run (action : SessionM α) (session : Session) : Except Error α × Session := action session

theorem run_bind (action : SessionM α) (next : α → SessionM β) (session : Session) :
    (action >>= next).run session =
      match action.run session with
      | (.ok a, after) => (next a).run after
      | (.error error, after) => (.error error, after) := by
  show ExceptT.bindCont next (action session).1 (action session).2 = _
  unfold run
  rcases action session with ⟨_ | _, _⟩ <;> rfl

theorem run_pure (a : α) (session : Session) : (pure a : SessionM α).run session = (.ok a, session) := rfl

theorem run_get (session : Session) :
    (get : SessionM Session).run session = (.ok session, session) := rfl

theorem run_lift (result : Except Error α) (session : Session) :
    (liftM result : SessionM α).run session = (result, session) := by
  cases result <;> rfl

theorem run_modify (f : Session → Session) (session : Session) :
    (modify f : SessionM Unit).run session = (.ok (), f session) := rfl

end SessionM

namespace Session

def ofTransport (transport : Transport) (config : Config) : Session :=
  { config, transport, peer := transport.peer, phase := .idle }

def establish (transport : Transport) (config : Config) : Session :=
  { config, transport, peer := transport.peer, phase := .connected }

def waiter? (session : Session) (id : MessageId) : Option Waiter :=
  session.waiters.find? fun waiter => waiter.id == id

def inbox (session : Session) (id : MessageId) : List Message :=
  match session.waiter? id with
  | some waiter => waiter.inbox
  | none => []

def isPending (session : Session) (id : MessageId) : Bool :=
  session.waiters.any fun waiter => waiter.id == id && waiter.isOpen

def pendingCount (session : Session) : Nat := session.waiters.countP Waiter.isOpen

def updateWaiter (session : Session) (id : MessageId) (change : Waiter → Waiter) : Session :=
  { session with
    waiters := session.waiters.map fun waiter => if waiter.id = id then change waiter else waiter }

def forget (session : Session) (id : MessageId) : Session := session.updateWaiter id Waiter.close

def dropHandle (session : Session) (id : MessageId) : Session :=
  { session with waiters := session.waiters.filter fun waiter => waiter.id != id }

def register (session : Session) (id : MessageId) : Session :=
  { session with waiters := (session.dropHandle id).waiters ++ [⟨id, [], true⟩] }

def route (session : Session) (message : Message) : Session :=
  session.updateWaiter message.id (Waiter.take message)

def enter (session : Session) (phase : Phase) : Session :=
  if session.phase = .unbound then session else { session with phase }

/-- End the session: nobody waits any longer, and the first reason stays. -/
def terminate (session : Session) (reason : Termination) : Session :=
  if session.ending.isSome then session
  else
    { session with
      phase := .unbound
      ending := some reason
      waiters := session.waiters.map Waiter.close }

/-- Let go of the transport and shut it down. It is gone even if that fails. -/
def release (session : Session) : Session :=
  if session.holdsTransport then
    { session with holdsTransport := false, transport := session.transport.shutdown.2 }
  else session

theorem waiter?_updateWaiter (session : Session) (id other : MessageId) (change : Waiter → Waiter)
    (keeps : ∀ waiter, (change waiter).id = waiter.id) :
    (session.updateWaiter id change).waiter? other =
      (session.waiter? other).map fun waiter => if waiter.id = id then change waiter else waiter := by
  simp only [waiter?, updateWaiter, List.find?_map]
  congr 2
  funext waiter
  simp only [Function.comp]
  split <;> simp [keeps]

theorem inbox_terminate (session : Session) (reason : Termination) (id : MessageId) :
    (session.terminate reason).inbox id = session.inbox id := by
  unfold terminate
  split
  · rfl
  · simp only [inbox, waiter?, List.find?_map]
    have same : ((fun waiter : Waiter => waiter.id == id) ∘ Waiter.close) =
        fun waiter => waiter.id == id := rfl
    rw [same]
    cases session.waiters.find? fun waiter => waiter.id == id <;> rfl

theorem inbox_release (session : Session) (id : MessageId) :
    session.release.inbox id = session.inbox id := by
  unfold release
  split <;> rfl

theorem inbox_register (session : Session) (id : MessageId) : (session.register id).inbox id = [] := by
  have nothing : (session.dropHandle id).waiters.find? (fun waiter => waiter.id == id) = none := by
    simp [dropHandle]
  simp [inbox, waiter?, register, List.find?_append, nothing]

end Session

end Directory
