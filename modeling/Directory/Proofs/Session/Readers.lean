import Directory.Proofs.Session.Fatal
import Directory.Proofs.Session.Correlation
/-!
Requests from a server. Only clients send requests, and two parts of a session read what the server sends:
the receiver, and the wait for the consent to security. The receiver ends the session with the first request
that it meets. The wait takes a request for the answer, or passes over it.
-/
namespace Directory

namespace Transport

/-- The messages that are taken off the stream while a response is awaited, the last one included. -/
def awaited (id : MessageId) (limit : UInt32) (transport : Transport) : List Message :=
  match _taken : transport.takeMessage limit with
  | (.done message, after) =>
    -- A notice ends the wait as well, without being an answer.
    if message.id = id ∨ message.notice?.isSome = true then [message]
    else message :: after.awaited id limit
  | _ => []
termination_by transport.incoming.length
decreasing_by exact takeMessage_length _taken

def conversed (frame : Octets) (id : MessageId) (limit : UInt32) (timeout : Nat)
    (transport : Transport) : List Message :=
  match transport.send frame with
  | (.error _, _) => []
  | (.ok (), sent) =>
    match sent.setReadTimeout (some timeout) with
    | (.error _, _) => []
    | (.ok (), bounded) => bounded.awaited id limit

variable {id : MessageId} {limit : UInt32} {transport after : Transport} {message : Message}

theorem awaited_last (taken : transport.takeMessage limit = (.done message, after))
    (last : message.id = id ∨ message.notice?.isSome = true) : transport.awaited id limit = [message] := by
  rw [awaited]
  split
  · next found =>
    rw [taken] at found
    cases found
    rw [if_pos last]
  · next none => exact absurd taken (none _ _)

theorem awaited_cons (taken : transport.takeMessage limit = (.done message, after))
    (other : message.id ≠ id) (silent : message.notice? = none) :
    transport.awaited id limit = message :: after.awaited id limit := by
  rw [awaited]
  split
  · next found =>
    rw [taken] at found
    cases found
    rw [if_neg (by simp [other, silent])]
  · next none => exact absurd taken (none _ _)

theorem awaited_nil (none : ∀ message after, transport.takeMessage limit ≠ (.done message, after)) :
    transport.awaited id limit = [] := by
  rw [awaited]
  split
  · next found => exact absurd found (none _ _)
  · rfl

/-- The first message with the number that is awaited is the answer. -/
theorem awaitResponse_ok_iff (id : MessageId) (limit : UInt32) (transport : Transport)
    (response : Message) :
    (transport.awaitResponse id limit).1 = .ok response ↔
      response ∈ transport.awaited id limit ∧ response.id = id := by
  fun_induction awaitResponse id limit transport with
  | case1 transport message after taken mine =>
    rw [awaited_last taken (.inl mine), List.mem_singleton]
    constructor
    · rintro ⟨⟩
      exact ⟨rfl, mine⟩
    · rintro ⟨rfl, _⟩
      rfl
  | case2 transport message after taken other text noticed =>
    rw [awaited_last taken (.inr (by simp [noticed])), List.mem_singleton]
    constructor
    · intro answered
      cases answered
    · rintro ⟨rfl, mine⟩
      exact absurd mine other
  | case3 transport message after taken other silent ih =>
    rw [awaited_cons taken other silent, ih, List.mem_cons]
    constructor
    · rintro ⟨later, mine⟩
      exact ⟨.inr later, mine⟩
    · rintro ⟨rfl | later, mine⟩
      · exact absurd mine other
      · exact ⟨later, mine⟩
  | case4 transport _ _ taken | case5 transport _ _ taken | case6 transport _ taken =>
    rw [awaited_nil fun _ _ found => by simp [taken] at found]
    simp

theorem converse_ok_iff (frame : Octets) (id : MessageId) (limit : UInt32) (timeout : Nat)
    (transport : Transport) (response : Message) :
    (transport.converse frame id limit timeout).1 = .ok response ↔
      response ∈ transport.conversed frame id limit timeout ∧ response.id = id := by
  unfold converse conversed
  rcases transport.send frame with ⟨_ | _, sent⟩
  · simp
  · dsimp only
    unfold awaitWithin
    rcases sent.setReadTimeout (some timeout) with ⟨_ | _, bounded⟩
    · simp
    · exact awaitResponse_ok_iff id limit bounded response

end Transport

namespace Message

theorem ending?_of_isRequest {message : Message} (request : message.op.isRequest = true) :
    message.ending? = some (.malformed s!"server sent {message.op.name}") := by
  rw [ending?, if_pos request]

end Message

namespace Session

variable {session : Session}

def askReads (session : Session) : List Message :=
  session.transport.conversed
    (Message.encode ⟨session.nextId, .extendedRequest Oid.startTls none, []⟩) session.nextId
    session.config.maxMessageSize session.config.operationTimeout

theorem askSecurity_ok_iff (response : Message) :
    session.askSecurity.1 = .ok response ↔ response ∈ session.askReads ∧ response.id = session.nextId :=
  Transport.converse_ok_iff _ _ _ _ _ _

def taken (session : Session) : List Message :=
  if session.receiver = .running then
    match _taken : session.transport.takeMessage session.config.maxMessageSize with
    | (.done message, transport) =>
      if message.ending?.isSome = true then [message]
      else message :: ({ session with transport }.route message).taken
    | _ => []
  else []
termination_by session.transport.incoming.length
decreasing_by exact Transport.takeMessage_length _taken

theorem isUntouched_iff : session.IsUntouched ↔
    session.phase.isLive = true ∧ session.isSecured = false ∧ session.hasCarriedTraffic = false ∧
      session.receiver = .notStarted ∧ session.holdsTransport = true ∧ session.nextId ≤ Message.maxId :=
  ⟨fun ⟨live, plain, quiet, unread, held, left⟩ => ⟨live, plain, quiet, unread, held, left⟩,
    fun ⟨live, plain, quiet, unread, held, left⟩ => ⟨live, plain, quiet, unread, held, left⟩⟩

instance (session : Session) : Decidable session.IsUntouched := decidable_of_iff _ isUntouched_iff.symm

theorem Refuses.not_untouched {error : Error} {after : Session} (refused : session.Refuses error after) :
    ¬session.IsUntouched := by
  intro untouched
  have dead := refused.not_live
  rw [untouched.live] at dead
  cases dead

variable {message : Message} {transport : Transport}

theorem nextMessage?_of_ending {reason : Termination}
    (taken : session.transport.takeMessage session.config.maxMessageSize = (.done message, transport))
    (ends : message.ending? = some reason) : session.nextMessage? = some (.error reason, transport) := by
  simp [nextMessage?, taken, ends]

theorem nextMessage?_of_harmless
    (taken : session.transport.takeMessage session.config.maxMessageSize = (.done message, transport))
    (harmless : message.ending? = none) : session.nextMessage? = some (.ok message, transport) := by
  simp [nextMessage?, taken, harmless]

theorem takeIn_of_ok (next : session.nextMessage? = some (.ok message, transport))
    (running : session.receiver = .running) :
    session.takeIn = ({ session with transport }.route message).takeIn := by
  rw [takeIn, if_pos running]
  grind

theorem takeIn_of_error {reason : Termination}
    (next : session.nextMessage? = some (.error reason, transport)) (running : session.receiver = .running) :
    session.takeIn = { session with transport }.stop reason := by
  rw [takeIn, if_pos running]
  grind

theorem ending_release (session : Session) : session.release.ending = session.ending := by
  unfold release
  split <;> rfl

theorem ending_stop (session : Session) (reason : Termination) :
    (session.stop reason).ending = some (session.ending.getD reason) := by
  rw [stop, ending_release, ending_terminate]

/-- The receiver hands out what it took off the stream before the request, and the session ends. -/
theorem takeIn_request (read : message ∈ session.taken) (request : message.op.isRequest = true) :
    session.taken = session.heard ++ [message] ∧
      session.takeIn.ending =
        some (session.ending.getD (.malformed s!"server sent {message.op.name}")) := by
  fun_induction Session.taken session with
  | case1 session running last transport taken ends =>
    obtain rfl := List.mem_singleton.mp read
    have next := nextMessage?_of_ending taken (Message.ending?_of_isRequest request)
    rw [heard_nil fun _ _ _ found => by simp [next] at found, takeIn_of_error next running, ending_stop]
    exact ⟨rfl, rfl⟩
  | case2 session running first transport taken harmless ih =>
    have silent : first.ending? = none := by simpa using harmless
    have later : message ∈ ({ session with transport }.route first).taken := by
      rcases List.mem_cons.mp read with rfl | later
      · rw [Message.ending?_of_isRequest request] at silent
        cases silent
      · exact later
    have next := nextMessage?_of_harmless taken silent
    obtain ⟨rest, ended⟩ := ih later
    rw [heard_cons running next, takeIn_of_ok next running, rest, ended]
    exact ⟨rfl, rfl⟩
  | case3 => cases read
  | case4 => cases read

def Step.reads (session : Session) : Step → List Message
  | takeIn => session.taken
  | secure _ => if session.IsUntouched then session.askReads else []
  | _ => []

theorem mem_reads_secure {upgrade : Upgrade} :
    message ∈ (Step.secure upgrade).reads session ↔ session.IsUntouched ∧ message ∈ session.askReads := by
  unfold Step.reads
  by_cases untouched : session.IsUntouched
  · simp [untouched]
  · simp [untouched]

/-- What lies in an inbox was processed under its number. -/
theorem processed_of_mem_inbox {start : Session} (new : start.IsNew) (steps : List Step) {id : MessageId}
    (waiting : message ∈ (run steps start).inbox id) : .processed message ∈ history steps start := by
  have tracks := new.tracks_history steps id
  unfold inbox at waiting
  split at waiting
  · next waiter found =>
    have due := (tracks.held waiter found).2.1
    rw [View.due_after] at due
    exact (History.due_id (due ▸ List.mem_append_right _ waiting)).2
  · cases waiting

theorem not_mem_inbox_of_isRequest {start : Session} (new : start.IsNew) (steps : List Step)
    (request : message.op.isRequest = true) (id : MessageId) : message ∉ (run steps start).inbox id := by
  intro waiting
  have response := processed_not_request (processed_of_mem_inbox new steps waiting)
  rw [request] at response
  cases response

def FailsToSecure (session : Session) (upgrade : Upgrade) : Prop :=
  (∃ error, session.askSecurity.1 = .error error) ∨
    ∃ plain error, (startSecurity upgrade session).1.handedOver = some plain ∧ upgrade plain = .error error

/-- On an untouched session nothing else ends an attempt to secure it. -/
theorem IsUntouched.secured_unbound_iff (untouched : session.IsUntouched) (sound : session.IsSound)
    (upgrade : Upgrade) :
    (startSecurity upgrade session).2.phase = .unbound ↔ session.FailsToSecure upgrade := by
  have going := ne_unbound_of_isLive untouched.live
  have secures := startSecurity_cases session upgrade
  unfold FailsToSecure
  generalize startSecurity upgrade session = attempt at secures ⊢
  obtain ⟨⟨handedOver, result⟩, after⟩ := attempt
  have later := secures.continues.evolves.sound sound
  cases secures with
  | refused _ _ refused => exact absurd untouched refused.not_untouched
  | untimely _ touched => exact absurd untouched touched
  | unanswered error _ asked =>
    have ended := isSome_ending_terminate session.askedSecurity (.lost s!"StartTLS failed: {error.message}")
    exact iff_of_true (later.unbound_iff.mpr ended) (.inl ⟨error, asked⟩)
  | declined message error _ asked => exact iff_of_false going (by simp [asked])
  | failed message error _ asked upgraded =>
    have ended := isSome_ending_terminate { session.askedSecurity with holdsTransport := false }
      (.lost s!"security upgrade failed: {error.message}")
    exact iff_of_true (later.unbound_iff.mpr ended) (.inr ⟨_, error, rfl, upgraded⟩)
  | secured message transport _ asked upgraded => exact iff_of_false going (by simp [asked, upgraded])

theorem IsUntouched.prepareSecurity_run (untouched : session.IsUntouched) :
    prepareSecurity.run session = (.ok session.nextId, { session with nextId := session.nextId + 1 }) := by
  rcases prepareSecurity_cases session with ⟨_, _, _, refused | ⟨_, _, touched⟩⟩ | ⟨ready, _⟩
  · exact absurd untouched refused.not_untouched
  · exact absurd untouched touched
  · exact ready

/-- What the answer to the request for security comes to. -/
theorem IsUntouched.startSecurity_run (untouched : session.IsUntouched)
    (asked : session.askSecurity.1 = .ok message) (upgrade : Upgrade) :
    startSecurity upgrade session =
      match readConsent message.op with
      | .error error => (⟨none, .error error⟩, session.askedSecurity)
      | .ok () =>
        (⟨some session.askSecurity.2, ((exchangeTransport upgrade).run session.askedSecurity).1⟩,
          ((exchangeTransport upgrade).run session.askedSecurity).2) := by
  simp only [startSecurity, negotiateSecurity, SessionM.run_bind, SessionM.run_lift]
  rw [untouched.prepareSecurity_run]
  dsimp only
  rw [requestSecurity_run, asked]
  dsimp only
  cases readConsent message.op <;> rfl

theorem readConsent_of_isRequest {op : Operation} (request : op.isRequest = true) :
    readConsent op = .error (op.unexpected .extendedResponse) := by
  cases op with
  | extendedResponse => cases request
  | _ => rfl

/-- Only clients send requests. One that the receiver meets ends the session, and is the last that is read.
While security is asked for a request does nothing: under the number of the question it is an answer that
nobody expects, which leaves the session as it was, and under any other it is passed over, so that only a
failure of the attempt itself ends the session. No handle ever gets one. -/
theorem request_ends_iff {start session : Session} (new : start.IsNew) (steps : List Step)
    (reached : run steps start = session) (step : Step) {message : Message}
    (read : message ∈ step.reads session) (request : message.op.isRequest = true) :
    ((step.perform session).phase = .unbound ↔
        ∀ upgrade, step = .secure upgrade → session.FailsToSecure upgrade) ∧
      (∀ id, message ∉ (step.perform session).inbox id) ∧
      (step = .takeIn → session.taken = session.heard ++ [message] ∧
        (session.ending = none →
          session.takeIn.ending = some (.malformed s!"server sent {message.op.name}"))) ∧
      ∀ upgrade, step = .secure upgrade → message.id = session.nextId →
        startSecurity upgrade session =
          (⟨none, .error (message.op.unexpected .extendedResponse)⟩, session.askedSecurity) := by
  have sound := new.isSound_run steps
  rw [reached] at sound
  refine ⟨?_, ?_, ?_, ?_⟩
  · cases step with
    | takeIn =>
      have ended := (takeIn_request read request).2
      have past : session.takeIn.ending.isSome = true := by rw [ended]; rfl
      exact iff_of_true (((evolves_takeIn session).sound sound).unbound_iff.mpr past) (by simp)
    | secure upgrade =>
      obtain ⟨untouched, _⟩ := mem_reads_secure.mp read
      simpa [Step.perform] using untouched.secured_unbound_iff sound upgrade
    | _ => cases read
  -- An inbox holds nothing but what the receiver processed in the course of the whole run.
  · intro id
    have later : step.perform session = run (steps ++ [step]) start := by
      rw [run_append, reached]
      rfl
    rw [later]
    exact not_mem_inbox_of_isRequest new (steps ++ [step]) request id
  · rintro rfl
    obtain ⟨split, ended⟩ := takeIn_request read request
    refine ⟨split, fun going => ?_⟩
    rw [ended, going]
    rfl
  · rintro upgrade rfl mine
    obtain ⟨untouched, read⟩ := mem_reads_secure.mp read
    have asked := (askSecurity_ok_iff message).mpr ⟨read, mine⟩
    rw [untouched.startSecurity_run asked, readConsent_of_isRequest request]

def contrary : List Step :=
  [.post (.deleteRequest .root) [] 10, .arrive [.message (some 1) (.deleteRequest .root) []]]

theorem unbound_contrary :
    (establish {} {}).IsNew ∧ ⟨1, .deleteRequest .root, []⟩ ∈ (run contrary (establish {} {})).taken ∧
      (run contrary (establish {} {})).takeIn.phase = .unbound := by
  have new : (establish {} {}).IsNew := ⟨{}, {}, .inr rfl⟩
  have read : ⟨1, .deleteRequest .root, []⟩ ∈ (run contrary (establish {} {})).taken := by decide +kernel
  have ends := request_ends_iff new contrary rfl .takeIn read rfl
  exact ⟨new, read, ends.1.mpr fun _ other => by cases other⟩

def contraryConsent : Session :=
  establish { script := [.actions [.message none (.deleteRequest .root) []]] } {}

def contraryBefore : Session :=
  establish
    { script := [.actions [.message (some 9) (.deleteRequest .root) [],
        .message none (.extendedResponse ⟨.success, "", "", []⟩ none none) []]] } {}

/-- Two requests of a server that leave a new session connected. -/
theorem connected_after_request :
    (contraryConsent.IsNew ∧ ⟨1, .deleteRequest .root, []⟩ ∈ (Step.secure .ok).reads contraryConsent ∧
      (startSecurity .ok contraryConsent).2.phase = .connected) ∧
    (contraryBefore.IsNew ∧ ⟨9, .deleteRequest .root, []⟩ ∈ (Step.secure .ok).reads contraryBefore ∧
      (startSecurity .ok contraryBefore).2.phase = .connected ∧
      (startSecurity .ok contraryBefore).2.isSecured = true) := by
  constructor
  · exact ⟨⟨_, _, .inr rfl⟩, by decide +kernel, by decide +kernel⟩
  · exact ⟨⟨_, _, .inr rfl⟩, by decide +kernel, by decide +kernel, by decide +kernel⟩

end Session

end Directory
