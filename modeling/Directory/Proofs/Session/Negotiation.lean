import Directory.Proofs.Framing
import Directory.Proofs.Session.Isolation
import Directory.Proofs.Session.Listening
/-!
How an attempt to secure a session ends. The server is asked, and its stream is read up to the first message
under the number of the request and no further. A server that declines leaves the session as it was; without
an answer, or without a transport after the upgrade, the session ends.
-/
namespace Directory

namespace StreamReader

open Directory.Frame

variable {isShut : Bool} {limit : UInt32} {id : MessageId}

inductive Arrives (isShut : Bool) (limit : UInt32) : List Arrival → Taken Message → List Arrival → Prop where
  | message {frame : Octets} {message : Message} {rest : List Arrival} : IsFrame (longest limit) frame →
      Message.decode frame = .ok message → Arrives isShut limit (frame.map .octet ++ rest) (.done message) rest
  | undecodable {frame : Octets} {fault : Wire.Fault} {rest : List Arrival} : IsFrame (longest limit) frame →
      Message.decode frame = .error fault → Arrives isShut limit (frame.map .octet ++ rest) (.refused fault) rest
  | misshapen {heading : Octets} {defect : Wire.Defect} {rest : List Arrival} :
      IsMisshapen (longest limit) heading →
      Arrives isShut limit (heading.map .octet ++ rest) (.refused (.malformed defect)) rest
  | failed {octets : Octets} {reason : StreamFailure} {tail left : List Arrival} :
      IsPart (longest limit) octets → Stops isShut tail (.failed reason) left →
      Arrives isShut limit (octets.map .octet ++ tail) (.failed reason) left
  -- A part of a frame may be gone or not once it was waited for in vain.
  | silent {octets : Octets} {tail left : List Arrival} : IsPart (longest limit) octets →
      Stops isShut tail .waiting tail → left <:+ octets.map .octet ++ tail →
      Arrives isShut limit (octets.map .octet ++ tail) .waiting left

/-- Every stream has octets in front, if only none, and then something that stops a reader. -/
theorem exists_stops (isShut : Bool) (stream : List Arrival) :
    ∃ (octets : Octets) (tail : List Arrival) (result : Taken Octets) (left : List Arrival),
      Arrival.uninterrupted stream = octets.map .octet ++ tail ∧
      Stops isShut tail result left := by
  induction stream with
  | nil =>
    cases isShut with
    | false => exact ⟨[], [], _, _, rfl, .silent rfl⟩
    | true => exact ⟨[], [], _, _, rfl, .shut rfl⟩
  | cons arrival stream ih =>
    obtain ⟨octets, tail, result, left, same, stops⟩ := ih
    cases arrival with
    | octet value =>
      refine ⟨value :: octets, tail, result, left, ?_, stops⟩
      rw [List.map_cons, List.cons_append, ← same]
      rfl
    | ended => exact ⟨[], _, _, _, rfl, .ended⟩
    | failure reason =>
      by_cases passing : reason.kind = .interrupted
      · refine ⟨octets, tail, result, left, ?_, stops⟩
        rw [← same]
        simp [Arrival.uninterrupted, passing]
      · refine ⟨[], .failure reason :: Arrival.uninterrupted stream, _, _, ?_, .failed passing⟩
        simp [Arrival.uninterrupted, passing]

/-- A message is taken off a stream as it arrives there. -/
theorem message_arrives (isShut : Bool) (limit : UInt32) (stream : List Arrival) :
    Arrives isShut limit (Arrival.uninterrupted stream)
      (StreamReader.message limit isShut (Arrival.uninterrupted stream)).1
      (StreamReader.message limit isShut (Arrival.uninterrupted stream)).2 := by
  obtain ⟨octets, tail, result, left, same, stops⟩ := exists_stops isShut stream
  rw [same]
  unfold StreamReader.message andThen
  rcases frame_cases limit octets stops with
    ⟨frame, more, framed, rfl, read⟩ | ⟨heading, more, defect, misshapen, rfl, read⟩ | ⟨part, taken, remains⟩
  · rw [read, List.map_append, List.append_assoc]
    cases decoded : Message.decode frame with
    | ok message =>
      simp only [decoded, give]
      exact .message framed decoded
    | error fault =>
      simp only [decoded, give]
      exact .undecodable framed decoded
  · rw [read, List.map_append, List.append_assoc]
    exact .misshapen misshapen
  · generalize attempt : StreamReader.frame limit isShut (octets.map .octet ++ tail) = read at taken remains ⊢
    obtain ⟨taken, remaining⟩ := read
    subst taken
    cases stops with
    | failed lasting =>
      obtain rfl := remains (by simp)
      exact .failed part (.failed lasting)
    | ended =>
      obtain rfl := remains (by simp)
      exact .failed part .ended
    | shut known =>
      obtain rfl := remains (by simp)
      exact .failed part (.shut known)
    | silent unshut =>
      obtain rfl := whole_waiting attempt
      exact .silent part (.silent unshut) (List.suffix_refl _)

/-- What is heard on a stream by the one who awaits the message with this number, and what is left behind it:
messages with other numbers are passed over, up to the answer, a notice, or what is no message. -/
inductive Hears (isShut : Bool) (id : MessageId) (limit : UInt32) :
    List Arrival → Except Error Message → List Arrival → Prop where
  | answer {stream left : List Arrival} {message : Message} :
      Arrives isShut limit stream (.done message) left → message.id = id →
      Hears isShut id limit stream (.ok message) left
  | notice {stream left : List Arrival} {message : Message} {text : String} :
      Arrives isShut limit stream (.done message) left → message.id ≠ id → message.notice? = some text →
      Hears isShut id limit stream (.error (.connection (Termination.noticeText text))) left
  | other {stream rest left : List Arrival} {message : Message} {result : Except Error Message} :
      Arrives isShut limit stream (.done message) rest → message.id ≠ id → message.notice? = none →
      Hears isShut id limit rest result left → Hears isShut id limit stream result left
  | refused {stream left : List Arrival} {fault : Wire.Fault} :
      Arrives isShut limit stream (.refused fault) left → Hears isShut id limit stream (.error fault.toError) left
  | failed {stream left : List Arrival} {reason : StreamFailure} :
      Arrives isShut limit stream (.failed reason) left → Hears isShut id limit stream (.error (.stream reason)) left
  | silent {stream left : List Arrival} : Arrives isShut limit stream .waiting left →
      Hears isShut id limit stream (.error (.stream .noAnswer)) left

end StreamReader

namespace Transport

open StreamReader

variable {limit : UInt32}

theorem takeMessage_arrives {transport after : Transport} {taken : Taken Message}
    (read : transport.takeMessage limit = (taken, after)) :
    ∃ left, after = { transport with incoming := left } ∧
      Arrives transport.isShut limit (Arrival.uninterrupted transport.incoming) taken
        (Arrival.uninterrupted left) := by
  obtain ⟨left, same, remains⟩ := takeMessage_uninterrupted limit transport
  have arrives := message_arrives transport.isShut limit transport.incoming
  rw [read] at same
  cases same
  rw [← remains] at arrives
  exact ⟨left, rfl, arrives⟩

/-- Nothing is taken off the stream behind what is heard, and nothing but the stream changes. -/
theorem awaitResponse_hears (id : MessageId) (limit : UInt32) (transport : Transport) :
    ∃ left, (transport.awaitResponse id limit).2 = { transport with incoming := left } ∧
      Hears transport.isShut id limit (Arrival.uninterrupted transport.incoming)
        (transport.awaitResponse id limit).1 (Arrival.uninterrupted left) := by
  fun_induction awaitResponse id limit transport with
  | case1 transport message after taken mine =>
    obtain ⟨left, rfl, arrives⟩ := takeMessage_arrives taken
    exact ⟨left, rfl, .answer arrives mine⟩
  | case2 transport message after taken other text noticed =>
    obtain ⟨left, rfl, arrives⟩ := takeMessage_arrives taken
    exact ⟨left, rfl, .notice arrives other noticed⟩
  | case3 transport message after taken other silent ih =>
    obtain ⟨rest, rfl, arrives⟩ := takeMessage_arrives taken
    obtain ⟨left, last, hears⟩ := ih
    exact ⟨left, last, .other arrives other silent hears⟩
  | case4 transport fault after taken =>
    obtain ⟨left, rfl, arrives⟩ := takeMessage_arrives taken
    exact ⟨left, rfl, .refused arrives⟩
  | case5 transport reason after taken =>
    obtain ⟨left, rfl, arrives⟩ := takeMessage_arrives taken
    exact ⟨left, rfl, .failed arrives⟩
  | case6 transport after taken =>
    obtain ⟨left, rfl, arrives⟩ := takeMessage_arrives taken
    exact ⟨left, rfl, .silent arrives⟩

theorem awaitWithin_unbounded {transport : Transport} {text : String} (failing : transport.timeoutFailure = some text)
    (id : MessageId) (limit : UInt32) (timeout : Nat) :
    transport.awaitWithin id limit timeout = (.error (.stream ⟨.other, text⟩),
      { transport with readTimeouts := transport.readTimeouts ++ [some timeout] }) := by
  simp only [awaitWithin, setReadTimeout, failing]

/-- The bound on the time to read is lifted again, whatever is heard. -/
theorem awaitWithin_hears {transport : Transport} (willing : transport.timeoutFailure = none) (id : MessageId)
    (limit : UInt32) (timeout : Nat) :
    ∃ left, (transport.awaitWithin id limit timeout).2 =
        { transport with incoming := left, readTimeouts := transport.readTimeouts ++ [some timeout, none] } ∧
      Hears transport.isShut id limit (Arrival.uninterrupted transport.incoming)
        (transport.awaitWithin id limit timeout).1 (Arrival.uninterrupted left) := by
  have bounded : transport.setReadTimeout (some timeout) =
      (.ok (), { transport with readTimeouts := transport.readTimeouts ++ [some timeout] }) := by
    simp only [setReadTimeout, willing]
  obtain ⟨left, same, hears⟩ :=
    awaitResponse_hears id limit { transport with readTimeouts := transport.readTimeouts ++ [some timeout] }
  refine ⟨left, ?_, ?_⟩
  · rw [awaitWithin, bounded]
    dsimp only
    rw [same]
    simp [setReadTimeout]
  · rw [awaitWithin, bounded]
    exact hears

end Transport

namespace Session

open StreamReader

variable {session : Session}

/-- The request for security cannot be written, the wait for an answer cannot be bounded, or something is heard
within the bound, which is lifted again whatever that was. -/
inductive Negotiates (session : Session) : Except Error Message → Transport → Prop where
  | unwritten {failure : StreamFailure} {after : Transport} :
      session.transport.send session.securityRequest = (.error failure, after) →
      Negotiates session (.error (.stream failure)) after
  | unbounded {sent : Transport} {text : String} :
      session.transport.send session.securityRequest = (.ok (), sent) → sent.timeoutFailure = some text →
      Negotiates session (.error (.stream ⟨.other, text⟩))
        { sent with readTimeouts := sent.readTimeouts ++ [some session.config.operationTimeout] }
  | heard {sent : Transport} {answer : Except Error Message} {left : List Arrival} :
      session.transport.send session.securityRequest = (.ok (), sent) → sent.timeoutFailure = none →
      Hears sent.isShut session.nextId session.config.maxMessageSize (Arrival.uninterrupted sent.incoming) answer
        (Arrival.uninterrupted left) →
      Negotiates session answer
        { sent with
          incoming := left
          readTimeouts := sent.readTimeouts ++ [some session.config.operationTimeout, none] }

theorem askSecurity_negotiates (session : Session) :
    session.Negotiates session.askSecurity.1 session.askSecurity.2 := by
  unfold askSecurity Transport.converse
  cases written : session.transport.send session.securityRequest with
  | mk result sent =>
    change session.transport.send (Message.encode ⟨session.nextId, .extendedRequest Oid.startTls none, []⟩) = _
      at written
    rw [written]
    cases result with
    | error failure => exact .unwritten written
    | ok _ =>
      cases failing : sent.timeoutFailure with
      | some text =>
        simp only [Transport.awaitWithin_unbounded failing]
        exact .unbounded written failing
      | none =>
        obtain ⟨left, same, hears⟩ := Transport.awaitWithin_hears failing session.nextId session.config.maxMessageSize
          session.config.operationTimeout
        dsimp only
        rw [same]
        exact .heard written failing hears

def Consents (op : Operation) : Prop :=
  ∃ outcome name value, op = .extendedResponse outcome name value ∧ outcome.code.isSuccess = true

theorem readConsent_ok_iff {op : Operation} : readConsent op = .ok () ↔ Consents op := by
  constructor
  · exact readConsent_ok
  · rintro ⟨outcome, name, value, rfl, success⟩
    simp [readConsent, success]

def IsServing (session : Session) : Prop :=
  ∀ op controls timeout transport, session.nextId ≤ Message.maxId → ¬session.IsUnreadable →
    session.transport.send (session.nextFrame op controls) = (.ok (), transport) →
    session.Serves op controls timeout (session.posted transport)

inductive Obtains (upgrade : Upgrade) (plain : Transport) :
    Except Error Message → Securing → Session → Prop where
  | unanswered {error : Error} {after : Session} : after.phase = .unbound → after.isSecured = false →
      after.transport = plain →
      Obtains upgrade plain (.error error) ⟨none, .error (.securityUpgrade error.message)⟩ after
  | declined {response : Message} {error : Error} {after : Session} : ¬Consents response.op →
      after.phase = .connected → after.isSecured = false → after.transport = plain → after.IsServing →
      Obtains upgrade plain (.ok response) ⟨none, .error error⟩ after
  | failed {response : Message} {error : Error} {after : Session} : Consents response.op →
      upgrade plain = .error error → after.phase = .unbound → after.isSecured = false →
      Obtains upgrade plain (.ok response) ⟨some plain, .error (.securityUpgrade error.message)⟩ after
  | secured {response : Message} {returned : Transport} {after : Session} : Consents response.op →
      upgrade plain = .ok returned → after.phase = .connected → after.isSecured = true →
      after.transport = returned → Obtains upgrade plain (.ok response) ⟨some plain, .ok ()⟩ after

def IsCandid (session : Session) : Prop :=
  session.hasCarriedTraffic = false → session.receiver = .notStarted ∧ session.isSecured = false

theorem IsNew.candid {start : Session} (new : start.IsNew) : start.IsCandid := by
  obtain ⟨transport, config, rfl | rfl⟩ := new <;> exact fun _ => ⟨rfl, rfl⟩

theorem Step.candid (step : Step) (candid : session.IsCandid) : (step.perform session).IsCandid := by
  intro quiet
  rcases step.handles_or_exchanges session with kept | ⟨upgrade, returned, rfl, exchanged⟩
  · have before : session.hasCarriedTraffic = false :=
      Bool.eq_false_iff.mpr fun carried => by simp [kept.carried carried] at quiet
    obtain ⟨unread, plain⟩ := candid before
    refine ⟨?_, kept.secured.trans plain⟩
    by_cases taking : step = .takeIn
    -- There is no receiver yet to take anything in.
    · rw [taking, perform, Session.takeIn, if_neg (by simp [unread])]
      exact unread
    · rcases step.starts taking with same | ⟨_, carried⟩
      · exact same.trans unread
      · simp [carried] at quiet
  · rw [perform, exchanged.secured] at quiet
    cases quiet

theorem run_candid (steps : List Step) (candid : session.IsCandid) : (run steps session).IsCandid := by
  induction steps generalizing session with
  | nil => exact candid
  | cons step rest ih => exact ih (step.candid candid)

theorem startSecurity_exhausted (live : session.phase.isLive = true) (plain : session.isSecured = false)
    (quiet : session.hasCarriedTraffic = false) (unread : session.receiver = .notStarted)
    (held : session.holdsTransport = true) (none : Message.maxId < session.nextId) (upgrade : Upgrade) :
    startSecurity upgrade session =
      (⟨.none, .error (.sessionState "message id space exhausted")⟩, session) := by
  have fresh : checkUntouched.run session = (.ok (), session) := by
    simp [checkUntouched, SessionM.run, plain, quiet, unread]
  have refused : prepareSecurity.run session =
      (.error (.sessionState "message id space exhausted"), session) := by
    simp only [prepareSecurity, SessionM.run_bind]
    rw [checkOperational_live live]
    dsimp only
    rw [fresh]
    dsimp only
    rw [checkTransport_held held]
    exact nextRequestId_exhausted none
  simp only [startSecurity, negotiateSecurity, SessionM.run_bind]
  rw [refused]

/-- On an untouched session the answer decides. -/
theorem IsUntouched.obtains (untouched : session.IsUntouched) (sound : session.IsSound)
    (connected : session.phase = .connected) (upgrade : Upgrade) :
    Obtains upgrade session.askSecurity.2 session.askSecurity.1 (startSecurity upgrade session).1
      (startSecurity upgrade session).2 := by
  have later := untouched.continues_asked.evolves.sound sound
  cases asked : session.askSecurity.1 with
  | error error =>
    have secures := startSecurity_cases session upgrade
    generalize startSecurity upgrade session = attempt at secures ⊢
    obtain ⟨⟨handedOver, result⟩, after⟩ := attempt
    cases secures with
    | refused _ _ refused => exact absurd untouched refused.not_untouched
    | untimely _ touched => exact absurd untouched touched
    | unanswered other _ failed =>
      rw [asked] at failed
      cases failed
      exact .unanswered (later.terminate_unbound _) ((isSecured_terminate _ _).trans untouched.plain)
        (transport_terminate _ _)
    | declined _ _ _ answered | failed _ _ _ answered | secured _ _ _ answered =>
      rw [asked] at answered
      cases answered
  | ok response =>
    rw [untouched.startSecurity_run asked]
    cases consent : readConsent response.op with
    | error error =>
      refine .declined ?_ connected untouched.plain rfl ?_
      · rw [← readConsent_ok_iff, consent]
        exact nofun
      · intro op controls timeout transport left readable written
        exact serves later untouched.held untouched.live left readable written timeout
    | ok _ =>
      have consents := readConsent_ok_iff.mp consent
      dsimp only [exchangeTransport, SessionM.run]
      change Obtains upgrade session.askedSecurity.transport _ _ _
      cases upgraded : upgrade session.askedSecurity.transport with
      | ok returned => exact .secured consents upgraded connected rfl rfl
      | error error =>
        exact .failed consents upgraded
          ((continues_handedOver.evolves.sound later).terminate_unbound _)
          ((isSecured_terminate _ _).trans untouched.plain)

/-- An attempt to secure a connected session without traffic. Unless all numbers are used up, the request for
security is written, and the stream is read up to the answer, or to a notice or whatever is no message before it,
and no further. A bound on the time to read is lifted again, whatever was read. What was read decides how the
attempt ends: the session goes on in the plain when the server declines, and serves every later request; it ends
without an answer, and when the upgrade fails; it is secure otherwise. -/
theorem startSecurity_negotiates {start session : Session} (new : start.IsNew) (steps : List Step)
    (reached : run steps start = session) (connected : session.phase = .connected)
    (quiet : session.hasCarriedTraffic = false) (upgrade : Upgrade) :
    (Message.maxId < session.nextId → startSecurity upgrade session =
        (⟨none, .error (.sessionState "message id space exhausted")⟩, session)) ∧
      (session.nextId ≤ Message.maxId → ∃ answer plain, session.Negotiates answer plain ∧
        Obtains upgrade plain answer (startSecurity upgrade session).1 (startSecurity upgrade session).2) := by
  subst reached
  have live : (run steps start).phase.isLive = true := by rw [connected]; rfl
  have held := new.held_of_isLive steps live
  obtain ⟨unread, plain⟩ := run_candid steps new.candid quiet
  constructor
  · intro none
    exact startSecurity_exhausted live plain quiet unread held none upgrade
  · intro left
    have sound := new.isSound_run steps
    have untouched : (run steps start).IsUntouched := ⟨live, plain, quiet, unread, held, left⟩
    exact ⟨_, _, askSecurity_negotiates _, untouched.obtains sound connected upgrade⟩

def unwilling : Session :=
  establish
    { script :=
        [.actions
          [.message (some 7) (.deleteResponse ⟨.success, "", "", []⟩) [],
            .message none (.extendedResponse ⟨⟨52⟩, "", "not now", []⟩ none none) []]] } {}

theorem unwilling_negotiates :
    unwilling.IsNew ∧ unwilling.phase = .connected ∧ unwilling.hasCarriedTraffic = false ∧
      unwilling.nextId ≤ Message.maxId ∧
      (startSecurity .ok unwilling).1.handedOver = none ∧ (startSecurity .ok unwilling).2.phase = .connected ∧
      ∃ answer plain, unwilling.Negotiates answer plain ∧
        Obtains .ok plain answer (startSecurity .ok unwilling).1 (startSecurity .ok unwilling).2 := by
  have new : unwilling.IsNew := ⟨_, _, .inr rfl⟩
  have left : unwilling.nextId ≤ Message.maxId := by decide
  have negotiated := startSecurity_negotiates new [] rfl rfl rfl .ok
  exact ⟨new, rfl, rfl, left, by decide +kernel, by decide +kernel, negotiated.2 left⟩

end Session

end Directory
