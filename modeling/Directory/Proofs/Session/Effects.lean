import Directory.Session.Bind
import Directory.Session.Security
/-!
All that a call on a session can come to: what it returns, and what the session is afterwards. Each call
is opened here once, and every later argument is by the cases of these relations.
-/
namespace Directory

def Receiver.started : Receiver → Receiver
  | notStarted | running => running
  | stopped => stopped

namespace Session

variable {session : Session}

inductive Sends (session : Session) (message : Message) : Except Error Unit → Session → Prop where
  | released : session.holdsTransport = false →
      Sends session message (.error (.sessionState "transport already released")) session
  | unreadable (text : String) : session.holdsTransport = true → session.receiver = .notStarted →
      session.transport.startFailure? = some text →
      Sends session message (.error (.connection text)) session
  | unwritten (failure : StreamFailure) (transport : Transport) : session.holdsTransport = true →
      (session.receiver = .notStarted → session.transport.startFailure? = none) →
      session.transport.send message.encode = (.error failure, transport) →
      Sends session message (.error (.connection s!"write to {session.peer} failed: {failure.text}"))
        ({ session with transport, receiver := session.receiver.started, hasCarriedTraffic := true }.terminate
          (.lost failure.text))
  | sent (transport : Transport) : session.holdsTransport = true →
      (session.receiver = .notStarted → session.transport.startFailure? = none) →
      session.transport.send message.encode = (.ok (), transport) →
      Sends session message (.ok ())
        { session with transport, receiver := session.receiver.started, hasCarriedTraffic := true }

theorem startReceiver_running (started : session.receiver = .notStarted →
    session.transport.startFailure? = none) :
    startReceiver.run session = (.ok (), { session with receiver := session.receiver.started }) := by
  dsimp only [startReceiver, SessionM.run]
  cases found : session.receiver with
  | notStarted =>
    rw [started found]
    rfl
  | running =>
    simp only [Receiver.started, ← found]
  | stopped =>
    simp only [Receiver.started, ← found]

theorem writeFrame_sends {message : Message} (held : session.holdsTransport = true)
    (started : session.receiver = .notStarted → session.transport.startFailure? = none) :
    Sends session message
      ((writeFrame message.encode).run
        { session with receiver := session.receiver.started, hasCarriedTraffic := true }).1
      ((writeFrame message.encode).run
        { session with receiver := session.receiver.started, hasCarriedTraffic := true }).2 := by
  dsimp only [writeFrame, SessionM.run]
  split
  · next transport written => exact .sent transport held started written
  · next failure transport failed => exact .unwritten failure transport held started failed

theorem checkTransport_held (held : session.holdsTransport = true) :
    checkTransport.run session = (.ok (), session) := by
  simp [checkTransport, SessionM.run, held]

theorem checkTransport_released (released : session.holdsTransport = false) :
    checkTransport.run session = (.error (.sessionState "transport already released"), session) := by
  simp [checkTransport, SessionM.run, released]

theorem send_cases (session : Session) (message : Message) :
    Sends session message ((send message).run session).1 ((send message).run session).2 := by
  simp only [send, SessionM.run_bind, SessionM.run_modify]
  cases held : session.holdsTransport with
  | false =>
    rw [checkTransport_released held]
    exact .released held
  | true =>
    rw [checkTransport_held held]
    dsimp only
    by_cases readable : session.receiver = .notStarted → session.transport.startFailure? = none
    · rw [startReceiver_running readable]
      exact writeFrame_sends held readable
    · obtain ⟨fresh, failing⟩ := Classical.not_imp.mp readable
      obtain ⟨text, failure⟩ := Option.ne_none_iff_exists'.mp failing
      have started : startReceiver.run session =
          (.error (.connection text), session) := by
        simp [startReceiver, SessionM.run, fresh, failure]
      rw [started]
      exact .unreadable text held fresh failure

/-- A session that is not live refuses every request. One that has ended lets go of its transport. -/
inductive Refuses (session : Session) : Error → Session → Prop where
  | idle : session.phase = .idle → Refuses session (.sessionState "session is not connected") session
  | unbound (text : String) : session.phase = .unbound →
      Refuses session (.sessionState text) session.release

theorem checkOperational_refuses (dead : session.phase.isLive = false) :
    ∃ error after, checkOperational.run session = (.error error, after) ∧ Refuses session error after := by
  simp only [checkOperational, SessionM.run]
  cases found : session.phase with
  | idle => exact ⟨_, _, rfl, .idle found⟩
  | unbound => exact ⟨_, _, rfl, .unbound _ found⟩
  | connected => simp [found, Phase.isLive] at dead
  | bound => simp [found, Phase.isLive] at dead

theorem checkOperational_live (live : session.phase.isLive = true) :
    checkOperational.run session = (.ok (), session) := by
  dsimp only [checkOperational, SessionM.run]
  cases found : session.phase with
  | connected => rfl
  | bound => rfl
  | idle => simp [found, Phase.isLive] at live
  | unbound => simp [found, Phase.isLive] at live

/-- A session that is not live says so before anything else. -/
theorem exists_refused (dead : session.phase.isLive = false) :
    ∃ text after, session.Refuses (.sessionState text) after ∧
      checkOperational.run session = (.error (.sessionState text), after) := by
  obtain ⟨error, after, refusal, refused⟩ := checkOperational_refuses dead
  cases refused with
  | idle idle => exact ⟨_, _, .idle idle, refusal⟩
  | unbound text past => exact ⟨text, _, .unbound text past, refusal⟩

section Refused

variable {error : Error} {after : Session}

theorem run_checked (refusal : checkOperational.run session = (.error error, after))
    (next : Unit → SessionM α) :
    (checkOperational >>= next).run session = (.error error, after) := by
  rw [SessionM.run_bind, refusal]

theorem post_refused (refusal : checkOperational.run session = (.error error, after)) (op : Operation)
    (controls : List Control) (timeout : Nat) :
    (post op controls timeout).run session = (.error error, after) :=
  run_checked refusal _

theorem giveUp_refused (refusal : checkOperational.run session = (.error error, after)) (target : MessageId) :
    (giveUp target).run session = (.error error, after) :=
  run_checked refusal _

theorem startSecurity_refused (refusal : checkOperational.run session = (.error error, after))
    (upgrade : Upgrade) : startSecurity upgrade session = (⟨none, .error error⟩, after) := by
  have prepared : prepareSecurity.run session = (.error error, after) := run_checked refusal _
  have asked : negotiateSecurity.run session = (.error error, after) := by
    rw [negotiateSecurity, SessionM.run_bind, prepared]
  rw [startSecurity, asked]

end Refused

def opened (session : Session) : Session :=
  { session with nextId := session.nextId + 1 }.register session.nextId

inductive Posts (session : Session) (op : Operation) (controls : List Control) (timeout : Nat) :
    Except Error Handle → Session → Prop where
  | refused (error : Error) (after : Session) : Refuses session error after →
      Posts session op controls timeout (.error error) after
  | exhausted : session.phase.isLive = true → Message.maxId < session.nextId →
      Posts session op controls timeout (.error (.sessionState "message id space exhausted")) session
  | failed (error : Error) (after : Session) : session.phase.isLive = true →
      session.nextId ≤ Message.maxId →
      Sends session.opened ⟨session.nextId, op, controls⟩ (.error error) after →
      Posts session op controls timeout (.error error) (after.dropHandle session.nextId)
  | posted (after : Session) : session.phase.isLive = true → session.nextId ≤ Message.maxId →
      Sends session.opened ⟨session.nextId, op, controls⟩ (.ok ()) after →
      Posts session op controls timeout (.ok ⟨session.nextId, timeout⟩) after

theorem nextRequestId_exhausted (none : Message.maxId < session.nextId) :
    nextRequestId.run session = (.error (.sessionState "message id space exhausted"), session) := by
  simp [nextRequestId, SessionM.run, none]

theorem nextRequestId_left (left : session.nextId ≤ Message.maxId) :
    nextRequestId.run session = (.ok session.nextId, { session with nextId := session.nextId + 1 }) := by
  simp [nextRequestId, SessionM.run, UInt32.not_lt.mpr left]

theorem post_cases (session : Session) (op : Operation) (controls : List Control) (timeout : Nat) :
    Posts session op controls timeout ((post op controls timeout).run session).1
      ((post op controls timeout).run session).2 := by
  simp only [post, SessionM.run_bind, SessionM.run_modify]
  by_cases live : session.phase.isLive = true
  · rw [checkOperational_live live]
    dsimp only
    by_cases left : session.nextId ≤ Message.maxId
    · rw [nextRequestId_left left]
      have sent := send_cases session.opened ⟨session.nextId, op, controls⟩
      dsimp only [SessionM.run] at sent ⊢
      split
      · next after done =>
        rw [show send _ session.opened = _ from done] at sent
        exact .posted after live left sent
      · next error after failed =>
        rw [show send _ session.opened = _ from failed] at sent
        exact .failed error after live left sent
    · have none := UInt32.not_le.mp left
      rw [nextRequestId_exhausted none]
      exact .exhausted live none
  · obtain ⟨error, after, refused, why⟩ := checkOperational_refuses (Bool.eq_false_iff.mpr live)
    rw [refused]
    exact .refused error after why

inductive GivesUp (session : Session) (target : MessageId) : Except Error Unit → Session → Prop where
  | refused (error : Error) (after : Session) : Refuses session error after →
      GivesUp session target (.error error) after
  | exhausted : session.phase.isLive = true → Message.maxId < session.nextId →
      GivesUp session target (.error (.sessionState "message id space exhausted")) (session.forget target)
  | told (result : Except Error Unit) (after : Session) : session.phase.isLive = true →
      session.nextId ≤ Message.maxId →
      Sends { session.forget target with nextId := session.nextId + 1 }
        ⟨session.nextId, .abandonRequest target, []⟩ result after →
      GivesUp session target result after

theorem giveUp_cases (session : Session) (target : MessageId) :
    GivesUp session target ((giveUp target).run session).1 ((giveUp target).run session).2 := by
  simp only [giveUp, SessionM.run_bind, SessionM.run_modify]
  by_cases live : session.phase.isLive = true
  · rw [checkOperational_live live]
    dsimp only
    by_cases left : (session.forget target).nextId ≤ Message.maxId
    · rw [nextRequestId_left left]
      exact .told _ _ live left (send_cases _ _)
    · have none := UInt32.not_le.mp left
      rw [nextRequestId_exhausted none]
      exact .exhausted live none
  · obtain ⟨error, after, refused, why⟩ := checkOperational_refuses (Bool.eq_false_iff.mpr live)
    rw [refused]
    exact .refused error after why

def lastWord (session : Session) (id : MessageId) : Error :=
  match session.ending with
  | some reason => reason.toError
  | none => .abandoned id

theorem toError_ne_timeout (reason : Termination) (milliseconds : Nat) :
    reason.toError ≠ .timeout milliseconds := by
  cases reason <;> simp [Termination.toError]

theorem lastWord_ne_timeout (session : Session) (id : MessageId) (milliseconds : Nat) :
    session.lastWord id ≠ .timeout milliseconds := by
  unfold lastWord
  split
  · exact toError_ne_timeout _ milliseconds
  · simp

inductive Receives (session : Session) (handle : Handle) : Except Error Message → Session → Prop where
  | message (message : Message) (waiter : Waiter) (rest : List Message) :
      session.waiter? handle.id = some waiter → waiter.inbox = message :: rest →
      Receives session handle (.ok message)
        (session.updateWaiter handle.id fun waiter => { waiter with inbox := rest })
  | timedOut (waiter : Waiter) : session.waiter? handle.id = some waiter → waiter.inbox = [] →
      waiter.isOpen = true →
      Receives session handle (.error (.timeout handle.timeout)) (session.forget handle.id)
  | spent : (∀ waiter, session.waiter? handle.id = some waiter →
        waiter.inbox = [] ∧ waiter.isOpen = false) →
      Receives session handle (.error (session.lastWord handle.id)) session

theorem receive_spent (handle : Handle) (spent : ∀ waiter, session.waiter? handle.id = some waiter →
    waiter.inbox = [] ∧ waiter.isOpen = false) :
    (receive handle).run session = (.error (session.lastWord handle.id), session) := by
  dsimp only [receive, SessionM.run, lastWord]
  cases found : session.waiter? handle.id with
  | none => cases session.ending <;> rfl
  | some waiter =>
    obtain ⟨id, inbox, isOpen⟩ := waiter
    obtain ⟨rfl, rfl⟩ : inbox = [] ∧ isOpen = false := spent _ found
    cases session.ending <;> rfl

theorem receive_cases (session : Session) (handle : Handle) :
    Receives session handle ((receive handle).run session).1 ((receive handle).run session).2 := by
  cases found : session.waiter? handle.id with
  | none =>
    have spent : ∀ waiter, session.waiter? handle.id = some waiter →
        waiter.inbox = [] ∧ waiter.isOpen = false := by
      intro waiter present
      rw [found] at present
      cases present
    rw [receive_spent handle spent]
    exact .spent spent
  | some waiter =>
    obtain ⟨id, inbox, isOpen⟩ := waiter
    obtain rfl : id = handle.id := by simpa using List.find?_some found
    cases inbox with
    | cons message rest =>
      simp only [receive, SessionM.run, found]
      exact .message message _ rest found rfl
    | nil =>
      cases isOpen with
      | true =>
        simp only [receive, SessionM.run, found]
        exact .timedOut _ found rfl rfl
      | false =>
        have spent : ∀ waiter, session.waiter? handle.id = some waiter →
            waiter.inbox = [] ∧ waiter.isOpen = false := by
          intro waiter present
          rw [found, Option.some.injEq] at present
          subst present
          exact ⟨rfl, rfl⟩
        rw [receive_spent handle spent]
        exact .spent spent

/-- Closing does nothing without a transport. Otherwise the session ends, after a farewell that may have
used up a number and changed the transport. -/
theorem close_cases (session : Session) :
    session.holdsTransport = false ∧ session.close = session ∨
      ∃ nextId transport, session.nextId ≤ nextId ∧
        session.close =
          { { session with nextId, transport }.terminate .closed with identity := none }.release := by
  unfold close
  split
  · right
    split
    · unfold sayGoodbye
      by_cases left : session.nextId ≤ Message.maxId
      · rw [nextRequestId_left left]
        refine ⟨_, _, ?_, rfl⟩
        have bound : session.nextId.toNat ≤ 2147483647 := UInt32.le_iff_toNat_le.mp left
        rw [UInt32.le_iff_toNat_le, UInt32.toNat_add]
        simp
        omega
      · rw [nextRequestId_exhausted (UInt32.not_le.mp left)]
        exact ⟨_, _, UInt32.le_refl _, rfl⟩
    · exact ⟨_, _, UInt32.le_refl _, rfl⟩
  · next free => exact .inl ⟨by simpa using free, rfl⟩

/-- A live session on which nothing was written or read yet. -/
structure IsUntouched (session : Session) : Prop where
  live : session.phase.isLive = true
  plain : session.isSecured = false
  quiet : session.hasCarriedTraffic = false
  unread : session.receiver = .notStarted
  held : session.holdsTransport = true
  left : session.nextId ≤ Message.maxId

def askSecurity (session : Session) : Except Error Message × Transport :=
  session.transport.converse
    (Message.encode ⟨session.nextId, .extendedRequest Oid.startTls none, []⟩) session.nextId
    session.config.maxMessageSize session.config.operationTimeout

def askedSecurity (session : Session) : Session :=
  { session with
    nextId := session.nextId + 1
    transport := session.askSecurity.2
    hasCarriedTraffic := true }

inductive Secures (session : Session) (upgrade : Upgrade) : Securing → Session → Prop where
  | refused (error : Error) (after : Session) : Refuses session error after →
      Secures session upgrade ⟨none, .error error⟩ after
  | untimely (error : Error) : ¬session.IsUntouched → error.isFatal = false →
      Secures session upgrade ⟨none, .error error⟩ session
  | unanswered (error : Error) : session.IsUntouched → session.askSecurity.1 = .error error →
      Secures session upgrade ⟨none, .error (.securityUpgrade error.message)⟩
        (session.askedSecurity.terminate (.lost s!"StartTLS failed: {error.message}"))
  | declined (message : Message) (error : Error) : session.IsUntouched →
      session.askSecurity.1 = .ok message → error.isFatal = false →
      Secures session upgrade ⟨none, .error error⟩ session.askedSecurity
  | failed (message : Message) (error : Error) : session.IsUntouched →
      session.askSecurity.1 = .ok message → upgrade session.askSecurity.2 = .error error →
      Secures session upgrade
        ⟨some session.askSecurity.2, .error (.securityUpgrade error.message)⟩
        ({ session.askedSecurity with holdsTransport := false }.terminate
          (.lost s!"security upgrade failed: {error.message}"))
  | secured (message : Message) (transport : Transport) : session.IsUntouched →
      session.askSecurity.1 = .ok message → upgrade session.askSecurity.2 = .ok transport →
      Secures session upgrade ⟨some session.askSecurity.2, .ok ()⟩
        { session.askedSecurity with transport, isSecured := true }

theorem checkUntouched_cases (session : Session) :
    (∃ error, checkUntouched.run session = (.error error, session) ∧ error.isFatal = false ∧
        ¬session.IsUntouched) ∨
      checkUntouched.run session = (.ok (), session) ∧ session.isSecured = false ∧
        session.hasCarriedTraffic = false ∧ session.receiver = .notStarted := by
  dsimp only [checkUntouched, SessionM.run]
  by_cases secured : session.isSecured = true
  · rw [if_pos secured]
    left
    exact ⟨_, rfl, rfl, fun untouched => by simp [untouched.plain] at secured⟩
  · rw [if_neg secured]
    by_cases used : session.hasCarriedTraffic = true ∨ session.receiver ≠ .notStarted
    · rw [if_pos used]
      left
      refine ⟨_, rfl, rfl, fun untouched => ?_⟩
      rcases used with carried | started
      · simp [untouched.quiet] at carried
      · exact started untouched.unread
    · rw [if_neg used]
      right
      simpa using And.intro secured (not_or.mp used)

theorem prepareSecurity_cases (session : Session) :
    (∃ error after, prepareSecurity.run session = (.error error, after) ∧
        (Refuses session error after ∨
          after = session ∧ error.isFatal = false ∧ ¬session.IsUntouched)) ∨
      prepareSecurity.run session =
          (.ok session.nextId, { session with nextId := session.nextId + 1 }) ∧
        session.IsUntouched := by
  simp only [prepareSecurity, SessionM.run_bind]
  by_cases live : session.phase.isLive = true
  · rw [checkOperational_live live]
    dsimp only
    rcases checkUntouched_cases session with ⟨error, early, mild, touched⟩ | ⟨fresh, plain, quiet, unread⟩
    · rw [early]
      left
      exact ⟨_, _, rfl, .inr ⟨rfl, mild, touched⟩⟩
    · rw [fresh]
      dsimp only
      by_cases held : session.holdsTransport = true
      · rw [checkTransport_held held]
        dsimp only
        by_cases left : session.nextId ≤ Message.maxId
        · rw [nextRequestId_left left]
          right
          exact ⟨rfl, live, plain, quiet, unread, held, left⟩
        · rw [nextRequestId_exhausted (UInt32.not_le.mp left)]
          exact .inl ⟨_, _, rfl, .inr ⟨rfl, rfl, fun untouched => left untouched.left⟩⟩
      · rw [checkTransport_released (Bool.eq_false_iff.mpr held)]
        exact .inl ⟨_, _, rfl, .inr ⟨rfl, rfl, fun untouched => held untouched.held⟩⟩
  · obtain ⟨error, after, refused, why⟩ := checkOperational_refuses (Bool.eq_false_iff.mpr live)
    rw [refused]
    exact .inl ⟨_, _, rfl, .inl why⟩

theorem readConsent_mild {response : Operation} {error : Error}
    (refused : readConsent response = .error error) : error.isFatal = false := by
  unfold readConsent at refused
  split at refused
  · split at refused <;> cases refused
    rfl
  · cases refused
    rfl

theorem requestSecurity_run (session : Session) :
    (requestSecurity session.nextId).run { session with nextId := session.nextId + 1 } =
      match session.askSecurity.1 with
      | .ok message => (.ok message, session.askedSecurity)
      | .error error =>
        (.error (.securityUpgrade error.message),
          session.askedSecurity.terminate (.lost s!"StartTLS failed: {error.message}")) := by
  dsimp only [requestSecurity, SessionM.run]
  rfl

theorem startSecurity_cases (session : Session) (upgrade : Upgrade) :
    Secures session upgrade (startSecurity upgrade session).1 (startSecurity upgrade session).2 := by
  simp only [startSecurity, negotiateSecurity, SessionM.run_bind, SessionM.run_lift]
  rcases prepareSecurity_cases session with ⟨error, after, refused, why⟩ | ⟨ready, untouched⟩
  · rw [refused]
    rcases why with unlive | ⟨rfl, mild, touched⟩
    · exact .refused error after unlive
    · exact .untimely error touched mild
  · rw [ready]
    dsimp only
    rw [requestSecurity_run]
    cases asked : session.askSecurity.1 with
    | error error => exact .unanswered error untouched asked
    | ok message =>
      dsimp only
      cases consent : readConsent message.op with
      | error error => exact .declined message error untouched asked (readConsent_mild consent)
      | ok _ =>
        dsimp only [exchangeTransport, SessionM.run]
        cases upgraded : upgrade session.askedSecurity.transport with
        | error error => exact .failed message error untouched asked upgraded
        | ok transport => exact .secured message transport untouched asked upgraded

end Session

end Directory
