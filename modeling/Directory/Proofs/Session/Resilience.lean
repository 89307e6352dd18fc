import Directory.Proofs.Session.Pending
import Directory.Proofs.Session.Fatal
/-!
What a session gets over. Only a few things end a live session, and whatever else a server answers or an
operation fails with leaves it live, with its transport, and ready for the next request.
-/
namespace Directory

namespace Transport

/-- Among all that can be read is something after which a session does not go on: the end or an error of the
stream, a frame that is no message or too long, a request, or a notice that the server leaves. -/
inductive Breaks (limit : UInt32) : Transport → Prop where
  | failed {transport after : Transport} (failure : StreamFailure) :
      transport.takeMessage limit = (.failed failure, after) → Breaks limit transport
  | refused {transport after : Transport} (fault : Wire.Fault) :
      transport.takeMessage limit = (.refused fault, after) → Breaks limit transport
  | request {transport after : Transport} (message : Message) :
      transport.takeMessage limit = (.done message, after) → message.op.isRequest = true →
      Breaks limit transport
  | notice {transport after : Transport} (message : Message) (text : String) :
      transport.takeMessage limit = (.done message, after) → message.notice? = some text →
      Breaks limit transport
  | later {transport after : Transport} (message : Message) :
      transport.takeMessage limit = (.done message, after) → Breaks limit after → Breaks limit transport

theorem not_breaks_waiting {limit : UInt32} {transport after : Transport}
    (waiting : transport.takeMessage limit = (.waiting, after)) : ¬transport.Breaks limit := by
  intro breaks
  cases breaks with
  | failed failure taken | refused fault taken | request message taken | notice message text taken
  | later message taken =>
    rw [waiting] at taken
    cases taken

end Transport

theorem Message.ending?_eq_none {message : Message} (harmless : message.ending? = none) :
    message.op.isRequest = false ∧ message.notice? = none := by
  unfold ending? at harmless
  split at harmless
  · cases harmless
  · next response => exact ⟨Bool.eq_false_iff.mpr response, Option.map_eq_none_iff.mp harmless⟩

namespace Transport

theorem breaks_harmless {limit : UInt32} {transport after : Transport} {message : Message}
    (taken : transport.takeMessage limit = (.done message, after)) (harmless : message.ending? = none) :
    transport.Breaks limit ↔ after.Breaks limit := by
  obtain ⟨response, quiet⟩ := Message.ending?_eq_none harmless
  constructor
  · intro breaks
    cases breaks with
    | failed failure other | refused fault other =>
      rw [taken] at other
      cases other
    | request _ other request =>
      rw [taken] at other
      cases other
      rw [response] at request
      cases request
    | notice _ text other notice =>
      rw [taken] at other
      cases other
      rw [quiet] at notice
      cases notice
    | later _ other rest =>
      rw [taken] at other
      cases other
      exact rest
  · exact .later message taken

end Transport

namespace Session

variable {session : Session} {id : MessageId}

theorem taken_of_nextMessage?_ok {message : Message} {transport : Transport}
    (next : session.nextMessage? = some (.ok message, transport)) :
    session.transport.takeMessage session.config.maxMessageSize = (.done message, transport) ∧
      message.ending? = none := by
  unfold nextMessage? at next
  split at next
  · next taken =>
    split at next
    · cases next
    · next harmless =>
      cases next
      exact ⟨taken, harmless⟩
  · cases next
  · cases next
  · cases next

theorem breaks_of_nextMessage?_error {reason : Termination} {transport : Transport}
    (next : session.nextMessage? = some (.error reason, transport)) :
    session.transport.Breaks session.config.maxMessageSize := by
  unfold nextMessage? at next
  split at next
  · next message after taken =>
    split at next
    · next ending =>
      unfold Message.ending? at ending
      split at ending
      · next request => exact .request message taken request
      · obtain ⟨text, notice, _⟩ := Option.map_eq_some_iff.mp ending
        exact .notice message text taken notice
    · cases next
  · next fault after taken => exact .refused fault taken
  · next failure after taken => exact .failed failure taken
  · cases next

theorem not_breaks_of_nextMessage?_none (next : session.nextMessage? = none) :
    ¬session.transport.Breaks session.config.maxMessageSize := by
  unfold nextMessage? at next
  split at next
  · split at next <;> cases next
  · cases next
  · cases next
  · next waiting => exact Transport.not_breaks_waiting waiting

theorem not_isLive_of_ended (sound : session.IsSound) (ended : session.ending.isSome = true) :
    session.phase.isLive = false := by
  rw [sound.unbound_iff.mpr ended]
  rfl

theorem ending_of_isLive (sound : session.IsSound) (live : session.phase.isLive = true) :
    session.ending = none := by
  cases ended : session.ending with
  | none => rfl
  | some reason =>
    rw [not_isLive_of_ended sound (by simp [ended])] at live
    cases live

theorem not_isLive_terminate (sound : session.IsSound) (reason : Termination) :
    (session.terminate reason).phase.isLive = false := by
  rw [sound.terminate_unbound]
  rfl

/-- The receiver of a live session ends it if and only if it comes upon something that breaks it. -/
theorem isLive_takeIn (sound : session.IsSound) (live : session.phase.isLive = true)
    (running : session.receiver = .running) :
    session.takeIn.phase.isLive = true ↔ ¬session.transport.Breaks session.config.maxMessageSize := by
  fun_induction takeIn session with
  | case1 session _ message transport next ih =>
    obtain ⟨taken, harmless⟩ := taken_of_nextMessage?_ok next
    rw [Transport.breaks_harmless taken harmless]
    have read : session.Continues { session with transport } := continues_transport transport
    exact ih ((read.evolves.trans (evolves_route message)).sound sound) live running
  | case2 session _ reason transport next =>
    have breaks := breaks_of_nextMessage?_error next
    have read : session.Continues { session with transport } := continues_transport transport
    have later := (read.trans (continues_stop reason)).evolves.sound sound
    have ended : ({ session with transport }.stop reason).ending.isSome = true := by
      rw [ending_stop]
      rfl
    rw [not_isLive_of_ended later ended]
    simpa using breaks
  | case3 session _ next => exact iff_of_true live (not_breaks_of_nextMessage?_none next)
  | case4 session stopped => exact absurd running stopped

def CannotWrite (session : Session) (frames : List Octets) : Prop :=
  ∃ frame ∈ frames, ∃ failure, (session.transport.send frame).1 = .error failure

/-- Something happens in the step that the session does not get over. A read handle that cannot be opened is
no such thing, for nothing is written then. -/
def Step.Breaks (session : Session) : Step → Prop
  | takeIn => session.receiver = .running ∧ session.transport.Breaks session.config.maxMessageSize
  | post op controls _ => session.CannotWrite (session.requested op controls)
  | giveUp target => session.CannotWrite (session.requested (.abandonRequest target) [])
  -- The server is not asked or does not answer, or agrees and then the upgrade fails.
  | secure upgrade =>
    session.IsUntouched ∧ session.askSecurity.1.isOk = false ∨ (secure upgrade).forfeits session = true
  | close => True
  | _ => False

def Unbroken : List Step → Session → Prop
  | [], _ => True
  | step :: rest, session => ¬step.Breaks session ∧ Unbroken rest (step.perform session)

theorem not_isLive_refused {error : Error} {after : Session} (live : session.phase.isLive = true) :
    ¬session.Refuses error after := by
  intro refused
  rw [refused.not_live] at live
  cases live

/-- A request that was numbered leaves a live session live unless it could not be written. -/
theorem Sends.isLive_iff {message : Message} {result : Except Error Unit} {after : Session}
    (sent : session.Sends message result after) (sound : session.IsSound)
    (live : session.phase.isLive = true) :
    after.phase.isLive = true ↔ ¬(session.IsWritable ∧
      ∃ failure, (session.transport.send message.encode).1 = .error failure) := by
  cases sent with
  -- Nothing is written on a transport that is gone or that has no read handle.
  | released free => exact iff_of_true live fun broken => by simp [broken.1.1] at free
  | unreadable text _ unread failing =>
    exact iff_of_true live fun broken => by simp [broken.1.2 unread] at failing
  | unwritten failure transport held readable failed =>
    have tried : session.Continues
        { session with transport, receiver := session.receiver.started, hasCarriedTraffic := true } :=
      .of_same (UInt32.le_refl _) rfl rfl rfl
    rw [not_isLive_terminate (tried.evolves.sound sound)]
    exact iff_of_false Bool.false_ne_true (not_not_intro ⟨⟨held, readable⟩, failure, by rw [failed]⟩)
  | sent transport _ _ written =>
    refine iff_of_true live ?_
    rintro ⟨_, failure, failed⟩
    rw [written] at failed
    cases failed

theorem cannotWrite_requested (live : session.phase.isLive = true) (left : session.nextId ≤ Message.maxId)
    (op : Operation) (controls : List Control) :
    session.CannotWrite (session.requested op controls) ↔ session.IsWritable ∧
      ∃ failure, (session.transport.send (session.nextFrame op controls)).1 = .error failure := by
  rw [requested_of_live live left, CannotWrite]
  by_cases writable : session.IsWritable
  · simp [writable]
  · simp [writable]

theorem not_cannotWrite_exhausted (none : Message.maxId < session.nextId) (op : Operation)
    (controls : List Control) : ¬session.CannotWrite (session.requested op controls) := by
  rw [requested_of_exhausted none, CannotWrite]
  simp

theorem Posts.isLive_iff {op : Operation} {controls : List Control} {timeout : Nat}
    {result : Except Error Handle} {after : Session} (posted : session.Posts op controls timeout result after)
    (sound : session.IsSound) (live : session.phase.isLive = true) :
    after.phase.isLive = true ↔ ¬session.CannotWrite (session.requested op controls) := by
  have opened (left : session.nextId ≤ Message.maxId) : session.opened.IsSound :=
    (evolves_opened live left).sound sound
  cases posted with
  | refused _ _ refused => exact absurd refused (not_isLive_refused live)
  | exhausted _ none => exact iff_of_true live (not_cannotWrite_exhausted none op controls)
  | failed _ _ _ left sends =>
    rw [cannotWrite_requested live left]
    exact sends.isLive_iff (opened left) live
  | posted _ _ left sends =>
    rw [cannotWrite_requested live left]
    exact sends.isLive_iff (opened left) live

theorem GivesUp.isLive_iff {target : MessageId} {result : Except Error Unit} {after : Session}
    (given : session.GivesUp target result after) (sound : session.IsSound)
    (live : session.phase.isLive = true) :
    after.phase.isLive = true ↔ ¬session.CannotWrite (session.requested (.abandonRequest target) []) := by
  cases given with
  | refused _ _ refused => exact absurd refused (not_isLive_refused live)
  | exhausted _ none => exact iff_of_true live (not_cannotWrite_exhausted none _ _)
  | told _ _ _ left sends =>
    have counted : (session.forget target).Continues
        { session.forget target with nextId := session.nextId + 1 } := continues_counted left
    rw [cannotWrite_requested live left]
    exact sends.isLive_iff (((evolves_forget target).trans counted.evolves).sound sound) live

theorem secure_isLive_iff (sound : session.IsSound) (live : session.phase.isLive = true) (upgrade : Upgrade) :
    ((Step.secure upgrade).perform session).phase.isLive = true ↔ ¬(Step.secure upgrade).Breaks session := by
  have secures := startSecurity_cases session upgrade
  simp only [Step.perform, Step.Breaks, Step.forfeits]
  generalize startSecurity upgrade session = attempt at secures ⊢
  obtain ⟨⟨handedOver, result⟩, after⟩ := attempt
  dsimp only at secures ⊢
  cases secures with
  | refused _ _ refused => exact absurd refused (not_isLive_refused live)
  | untimely _ touched => exact iff_of_true live (by simp [touched])
  | unanswered error untouched silent =>
    rw [not_isLive_terminate (untouched.continues_asked.evolves.sound sound)]
    exact iff_of_false Bool.false_ne_true (not_not_intro (.inl ⟨untouched, by rw [silent]; rfl⟩))
  | declined message _ untouched answered =>
    refine iff_of_true live ?_
    rw [answered]
    simp [Except.isOk, Except.toBool]
  | failed message error untouched answered lost =>
    have gone := untouched.continues_asked.trans continues_handedOver
    rw [not_isLive_terminate (gone.evolves.sound sound)]
    exact iff_of_false Bool.false_ne_true (not_not_intro (.inr (by dsimp only; rw [lost]; rfl)))
  | secured message transport untouched answered upgraded =>
    refine iff_of_true live ?_
    dsimp only
    rw [answered, upgraded]
    simp [Except.isOk, Except.toBool]

theorem Receives.phase {handle : Handle} {result : Except Error Message} {after : Session}
    (received : session.Receives handle result after) : after.phase = session.phase := by
  cases received <;> rfl

theorem Receives.receiver {handle : Handle} {result : Except Error Message} {after : Session}
    (received : session.Receives handle result after) : after.receiver = session.receiver := by
  cases received <;> rfl

theorem isLive_finishBind (live : session.phase.isLive = true) (name : String) (outcome : Outcome) :
    ((finishBind name outcome).run session).2.phase.isLive = true := by
  have going : session.phase ≠ .unbound := ne_unbound_of_isLive live
  have entered (identity : Option String) {phase : Phase} (lives : phase.isLive = true) :
      ({ session with identity }.enter phase).phase.isLive = true := by
    rw [enter, if_neg going]
    exact lives
  unfold finishBind
  split
  · split
    · exact entered none rfl
    · exact entered (some name) rfl
  · exact entered none rfl

/-- A step leaves a live session live if and only if nothing happens in it that breaks the session. -/
theorem Step.isLive_iff (step : Step) (sound : session.IsSound)
    (held : step = .close → session.holdsTransport = true) (live : session.phase.isLive = true) :
    (step.perform session).phase.isLive = true ↔ ¬step.Breaks session := by
  have unmoved {after : Session} (same : after.phase = session.phase) :
      after.phase.isLive = true ↔ ¬False := iff_of_true (same ▸ live) id
  cases step with
  | arrive actions => exact unmoved rfl
  | takeIn =>
    by_cases running : session.receiver = .running
    · simpa [perform, Breaks, running] using isLive_takeIn sound live running
    · rw [perform, Session.takeIn, if_neg running]
      exact iff_of_true live fun broken => running broken.1
  | number =>
    by_cases left : session.nextId ≤ Message.maxId
    · rw [perform, nextRequestId_left left]
      exact unmoved rfl
    · rw [perform, nextRequestId_exhausted (UInt32.not_le.mp left)]
      exact unmoved rfl
  | post op controls timeout => exact (post_cases session op controls timeout).isLive_iff sound live
  | receive handle => exact unmoved (receive_cases session handle).phase
  | drop id => exact unmoved rfl
  | giveUp target => exact (giveUp_cases session target).isLive_iff sound live
  | settle name outcome =>
    rw [perform, if_neg fun idle => by simp [idle, Phase.isLive] at live]
    exact iff_of_true (isLive_finishBind live name outcome) id
  | secure upgrade => exact secure_isLive_iff sound live upgrade
  | close =>
    have past : (perform session close).phase = .unbound :=
      unbound_of_released sound (fun free => by simp [held rfl] at free) (holdsTransport_close session)
    rw [past]
    exact iff_of_false Bool.false_ne_true (not_not_intro trivial)

theorem held_of_isLive {step : Step} (sound : session.IsSound) (held : session.holdsTransport = true)
    (live : (step.perform session).phase.isLive = true) : (step.perform session).holdsTransport = true := by
  cases kept : (step.perform session).holdsTransport with
  | true => rfl
  | false =>
    have past := Step.unbound_of_released sound (fun free => by simp [held] at free) kept
    rw [past] at live
    cases live

theorem unbound_of_not_isLive {phase : Phase} (used : phase ≠ .idle) (past : phase.isLive = false) :
    phase = .unbound := by
  cases phase <;> simp_all [Phase.isLive]

/-- A run leaves a live session live if and only if nothing happens in it that breaks the session. -/
theorem run_isLive_iff (steps : List Step) (sound : session.IsSound) (held : session.holdsTransport = true)
    (live : session.phase.isLive = true) :
    (run steps session).phase.isLive = true ↔ Unbroken steps session := by
  induction steps generalizing session with
  | nil => exact iff_of_true live trivial
  | cons step rest ih =>
    have onwards : run (step :: rest) session = run rest (step.perform session) := rfl
    have kept := step.isLive_iff sound (fun _ => held) live
    have later := (step.evolves session).sound sound
    rw [onwards, Unbroken, ← kept]
    by_cases lives : (step.perform session).phase.isLive = true
    · rw [ih later (held_of_isLive sound held lives) lives, and_iff_right lives]
    -- A session that has ended stays so.
    · have used := (step.evolves session).used fun idle => by simp [idle, Phase.isLive] at live
      have past := unbound_of_not_isLive used (Bool.eq_false_iff.mpr lives)
      rw [(run_evolves rest (step.perform session)).unbound past]
      exact iff_of_false Bool.false_ne_true fun both => lives both.1

/-- A session that was never connected does nothing but read and close. -/
theorem Step.still_of_idle {step : Step} (idle : session.phase = .idle) (reading : step ≠ .takeIn)
    (leaving : step ≠ .close) :
    (step.perform session).phase = session.phase ∧ (step.perform session).receiver = session.receiver := by
  have refusal : checkOperational.run session =
      (.error (.sessionState "session is not connected"), session) := by
    simp [checkOperational, SessionM.run, idle]
  cases step with
  | arrive | drop => exact ⟨rfl, rfl⟩
  | takeIn => exact absurd rfl reading
  | number =>
    by_cases left : session.nextId ≤ Message.maxId
    · rw [perform, nextRequestId_left left]
      exact ⟨rfl, rfl⟩
    · rw [perform, nextRequestId_exhausted (UInt32.not_le.mp left)]
      exact ⟨rfl, rfl⟩
  | post op controls timeout =>
    rw [perform, post_refused refusal]
    exact ⟨rfl, rfl⟩
  | receive handle =>
    have received := receive_cases session handle
    exact ⟨received.phase, received.receiver⟩
  | giveUp target =>
    rw [perform, giveUp_refused refusal]
    exact ⟨rfl, rfl⟩
  | settle name outcome =>
    rw [perform, if_pos idle]
    exact ⟨rfl, rfl⟩
  | secure upgrade =>
    rw [perform, startSecurity_refused refusal]
    exact ⟨rfl, rfl⟩
  | close => exact absurd rfl leaving

theorem breaks_of_unbound_takeIn (going : session.phase ≠ .unbound) (past : session.takeIn.phase = .unbound) :
    Step.takeIn.Breaks session := by
  fun_induction takeIn session with
  | case1 session running message transport next ih =>
    obtain ⟨taken, _⟩ := taken_of_nextMessage?_ok next
    exact ⟨running, .later message taken (ih going past).2⟩
  | case2 session running reason transport next => exact ⟨running, breaks_of_nextMessage?_error next⟩
  | case3 => exact absurd past going
  | case4 => exact absurd past going

/-- A session does not end by itself: the step in which it ends breaks it. -/
theorem Step.breaks_of_unbound {step : Step} (sound : session.IsSound) (going : session.phase ≠ .unbound)
    (past : (step.perform session).phase = .unbound) : step.Breaks session := by
  by_cases leaving : step = .close
  · rw [leaving]
    trivial
  by_cases live : session.phase.isLive = true
  · apply Classical.byContradiction
    intro whole
    have lives := (step.isLive_iff sound (fun same => absurd same leaving) live).mpr whole
    rw [past] at lives
    cases lives
  · have idle : session.phase = .idle := by
      cases found : session.phase <;> simp [found, Phase.isLive] at live going ⊢
    by_cases reading : step = .takeIn
    · rw [reading] at past ⊢
      exact breaks_of_unbound_takeIn going past
    · rw [(step.still_of_idle idle reading leaving).1] at past
      exact absurd past going

theorem not_unbroken_of_unbound {steps : List Step} (sound : session.IsSound) (going : session.phase ≠ .unbound)
    (past : (run steps session).phase = .unbound) : ¬Unbroken steps session := by
  induction steps generalizing session with
  | nil => exact absurd past going
  | cons step rest ih =>
    rintro ⟨whole, others⟩
    by_cases ended : (step.perform session).phase = .unbound
    · exact whole (Step.breaks_of_unbound sound going ended)
    · exact ih ((step.evolves session).sound sound) ended past others

def coming (session : Session) (id : MessageId) : List Message :=
  History.upToFinal (session.heard.filter fun message => message.id == id)

structure Serves (session : Session) (op : Operation) (controls : List Control) (timeout : Nat)
    (posted : Session) : Prop where
  accepted : (post op controls timeout).run session = (.ok ⟨session.nextId, timeout⟩, posted)
  written : session.transport.send (session.nextFrame op controls) = (.ok (), posted.transport)
  arrived : posted.takeIn.inbox session.nextId = posted.coming session.nextId
  answered : ∀ message rest, posted.coming session.nextId = message :: rest →
    ((exchange op controls timeout).run session).1 = .ok message
  unanswered : posted.coming session.nextId = [] → posted.takeIn.phase.isLive = true →
    ((exchange op controls timeout).run session).1 = .error (.timeout timeout)

/-- Nothing is known of the next number. -/
theorem tracks_nextId (sound : session.IsSound) : Tracks session.nextId {} session := by
  have nobody : session.waiter? session.nextId = none := by
    cases found : session.waiter? session.nextId with
    | none => rfl
    | some waiter =>
      have older := sound.numbered waiter (mem_of_waiter? found)
      rw [id_of_waiter? found] at older
      exact absurd older (UInt32.lt_irrefl _)
  constructor
  · simp
  · simp
  · simp [nobody]
  · simp

theorem heard_events (id : MessageId) (messages : List Message) (before after : Session) :
    History.heard id (History.untilCut id (messages.map .processed ++ before.endings after)) =
      messages.filter fun message => message.id == id := by
  induction messages with
  | nil =>
    unfold endings
    split <;> rfl
  | cons message rest ih =>
    have uncut : History.untilCut id ((message :: rest).map .processed ++ before.endings after) =
        .processed message :: History.untilCut id (rest.map .processed ++ before.endings after) := rfl
    rw [uncut, History.heard, ih, List.filter_cons]
    by_cases mine : message.id = id <;> simp [mine]

theorem returned_events (id : MessageId) (messages : List Message) (before after : Session) :
    History.returned id (messages.map .processed ++ before.endings after) = [] := by
  induction messages with
  | nil =>
    unfold endings
    split <;> rfl
  | cons message rest ih => exact ih

def answeredView (posted : Session) (id : MessageId) : View :=
  (posted.heard.map Event.processed ++ posted.endings posted.takeIn).foldl (View.next id)
    (View.next id {} (.registered id))

theorem answeredView_due (posted : Session) (id : MessageId) :
    (posted.answeredView id).due = posted.coming id ∧ (posted.answeredView id).returned = [] := by
  constructor
  · rw [answeredView, View.due_foldl_open (by simp [View.next]) (by simp [View.next]), heard_events]
    simp [View.next, coming]
  · rw [answeredView, View.returned_foldl, returned_events]
    simp [View.next]

theorem upToFinal_eq_nil {messages : List Message} (none : History.upToFinal messages = []) : messages = [] := by
  cases messages with
  | nil => rfl
  | cons => simp [History.upToFinal] at none

theorem answeredView_awaits {posted : Session} (sound : posted.IsSound)
    (live : posted.takeIn.phase.isLive = true) (none : posted.coming id = []) :
    (posted.answeredView id).awaits = true := by
  have going : posted.takeIn.ending = .none := ending_of_isLive ((evolves_takeIn posted).sound sound) live
  have unended : posted.endings posted.takeIn = [] := if_neg fun ends => ends.2 going
  have others := List.filter_eq_nil_iff.mp (upToFinal_eq_nil none)
  rw [answeredView, unended, View.awaits_foldl (by simp [View.next])]
  refine ⟨by simp [View.next], fun event member => ?_⟩
  rw [List.append_nil] at member
  obtain ⟨message, heard, rfl⟩ := List.mem_map.mp member
  simp [Event.closes, others message heard]

/-- The waiter of a request that was just written holds what has come for it. -/
theorem exists_waiter_takeIn {posted : Session} (waits : id ∈ posted.ids)
    (tracks : Tracks id (View.next id {} (.registered id)) posted) :
    ∃ waiter, posted.takeIn.waiter? id = some waiter ∧ waiter.inbox = posted.coming id ∧
      waiter.isOpen = (posted.answeredView id).awaits := by
  rw [← ids_takeIn] at waits
  obtain ⟨kept, member, same⟩ := List.mem_map.mp waits
  cases found : posted.takeIn.waiter? id with
  | none => exact absurd same (by simpa using List.find?_eq_none.mp found kept member)
  | some waiter =>
    obtain ⟨due, returned⟩ := answeredView_due posted id
    obtain ⟨_, split, isOpen⟩ := (Tracks.takeIn tracks).held waiter found
    change (posted.answeredView id).due = (posted.answeredView id).returned ++ waiter.inbox at split
    rw [due, returned, List.nil_append] at split
    exact ⟨waiter, rfl, split.symm, isOpen⟩

theorem receive_timeout {session : Session} {waiter : Waiter} (found : session.waiter? id = some waiter)
    (empty : waiter.inbox = []) (waiting : waiter.isOpen = true) (timeout : Nat) :
    ((receive ⟨id, timeout⟩).run session).1 = .error (.timeout timeout) := by
  obtain ⟨other, inbox, isOpen⟩ := waiter
  subst empty waiting
  simp only [receive, SessionM.run, found]

theorem exchange_posted {op : Operation} {controls : List Control} {timeout : Nat} {posted : Session}
    {handle : Handle} (accepted : (post op controls timeout).run session = (.ok handle, posted)) :
    ((exchange op controls timeout).run session).1 = ((receive handle).run posted.takeIn).1 := by
  have submitted : (submit op controls timeout).run session = (.ok handle, posted.takeIn) := by
    rw [submit, attending_run, accepted]
  rw [exchange, SessionM.run_bind, submitted]
  rfl

def posted (session : Session) (transport : Transport) : Session :=
  { session.opened with transport, receiver := session.receiver.started, hasCarriedTraffic := true }

theorem run_post (held : session.holdsTransport = true) (live : session.phase.isLive = true)
    (left : session.nextId ≤ Message.maxId) (readable : ¬session.IsUnreadable) {op : Operation}
    {controls : List Control} {transport : Transport}
    (written : session.transport.send (session.nextFrame op controls) = (.ok (), transport)) (timeout : Nat) :
    (post op controls timeout).run session = (.ok ⟨session.nextId, timeout⟩, session.posted transport) := by
  have started : session.receiver = .notStarted → session.transport.startFailure? = none := by
    intro unread
    apply Classical.byContradiction
    intro failing
    exact readable ⟨unread, failing⟩
  have outcome := post_cases session op controls timeout
  generalize (post op controls timeout).run session = attempt at outcome ⊢
  obtain ⟨result, after⟩ := attempt
  dsimp only at outcome
  cases outcome with
  | refused _ _ refused => exact absurd refused (not_isLive_refused live)
  | exhausted _ none => exact absurd left (UInt32.not_le.mpr none)
  | failed error sent _ _ sends =>
    cases sends with
    | released free =>
      change session.holdsTransport = false at free
      rw [held] at free
      cases free
    | unreadable text _ unread failing =>
      change session.transport.startFailure? = some text at failing
      rw [started unread] at failing
      cases failing
    | unwritten failure other _ _ failed =>
      change session.transport.send (session.nextFrame op controls) = (.error failure, other) at failed
      rw [written] at failed
      cases failed
  | posted _ _ _ sends =>
    cases sends with
    | sent other _ _ done =>
      change session.transport.send (session.nextFrame op controls) = (.ok (), other) at done
      rw [written] at done
      cases done
      rfl

/-- A live session that holds its transport serves every request that can be written. -/
theorem serves (sound : session.IsSound) (held : session.holdsTransport = true)
    (live : session.phase.isLive = true) (left : session.nextId ≤ Message.maxId)
    (readable : ¬session.IsUnreadable) {op : Operation} {controls : List Control} {transport : Transport}
    (written : session.transport.send (session.nextFrame op controls) = (.ok (), transport)) (timeout : Nat) :
    session.Serves op controls timeout (session.posted transport) := by
  have accepted := run_post held live left readable written timeout
  have later : (session.posted transport).IsSound := by
    have evolves := (post_cases session op controls timeout).evolves
    rw [accepted] at evolves
    exact evolves.sound sound
  have tracks : Tracks session.nextId (View.next session.nextId {} (.registered session.nextId))
      (session.posted transport) := ((tracks_nextId sound).opened left).congr (UInt32.le_refl _) rfl
  have waits : session.nextId ∈ (session.posted transport).ids := by
    change session.nextId ∈ session.opened.ids
    simp [ids_opened]
  obtain ⟨waiter, found, inbox, isOpen⟩ := exists_waiter_takeIn waits tracks
  constructor
  · exact accepted
  · exact written
  · rw [Session.inbox, found]
    exact inbox
  · intro message rest first
    rw [exchange_posted accepted]
    exact receive_ok_of_inbox found (inbox.trans first) timeout
  · intro none lives
    rw [exchange_posted accepted]
    exact receive_timeout found (inbox.trans none)
      (isOpen.trans (answeredView_awaits later lives none)) timeout

theorem IsNew.held_of_isLive {start : Session} (new : start.IsNew) (steps : List Step)
    (live : (run steps start).phase.isLive = true) : (run steps start).holdsTransport = true := by
  cases kept : (run steps start).holdsTransport with
  | true => rfl
  | false =>
    rw [new.unbound_of_released steps kept] at live
    cases live

/-- An act leaves a live session live if and only if nothing happens in it that breaks the session: writing fails,
the stream ends or fails, or brings what is no message, too long, a request or a notice; the server is asked for
security in vain, or the upgrade fails; the session is closed. Then nothing was done to the transport but
writing, it is still there, and every later request that can be written is written and answered. -/
theorem goes_on_unless_broken {start session : Session} (new : start.IsNew) (steps : List Step)
    (reached : run steps start = session) (live : session.phase.isLive = true) (act : Act) :
    ((act.perform session).phase.isLive = true ↔ Unbroken (act.steps session) session) ∧
      (Unbroken (act.steps session) session →
        (act.perform session).holdsTransport = true ∧
        deeds (act.steps session) session = (frames (act.steps session) session).map .write ∧
        ∀ op controls timeout transport, (act.perform session).nextId ≤ Message.maxId →
          ¬(act.perform session).IsUnreadable →
          (act.perform session).transport.send ((act.perform session).nextFrame op controls) =
            (.ok (), transport) →
          (act.perform session).Serves op controls timeout ((act.perform session).posted transport)) := by
  subst reached
  have sound := new.isSound_run steps
  have held := new.held_of_isLive steps live
  have kept := run_isLive_iff (act.steps (run steps start)) sound held live
  have onwards : run (steps ++ act.steps (run steps start)) start = act.perform (run steps start) := by
    rw [run_append, act.run_steps]
  rw [act.run_steps] at kept
  refine ⟨kept, fun unbroken => ?_⟩
  have lives := kept.mpr unbroken
  have still := new.held_of_isLive (steps ++ act.steps (run steps start))
  rw [onwards] at still
  specialize still lives
  refine ⟨still, ?_, ?_⟩
  · rw [deeds_of_held _ sound held, act.run_steps, still, Bool.true_or, if_pos rfl, List.append_nil]
  · intro op controls timeout transport left readable written
    exact serves ((act.evolves _).sound sound) still lives left readable written timeout

def reluctant : Session :=
  establish
    { script :=
        [.actions
          [.message (some 7) (.deleteResponse ⟨.success, "", "", []⟩) [],
            .message none (.deleteResponse ⟨⟨32⟩, "", "", []⟩) []],
        .actions [.message none (.deleteResponse ⟨.success, "", "", []⟩) []]] } {}

theorem reluctant_goes_on :
    reluctant.IsNew ∧ reluctant.phase.isLive = true ∧
      Unbroken ((Act.call (.delete "dc=example")).steps reluctant) reluctant ∧
      ((Act.call (.delete "dc=example")).perform reluctant).holdsTransport = true ∧
      ((exchange (.deleteRequest .root) [] 10).run ((Act.call (.delete "dc=example")).perform reluctant)).1 =
        .ok ⟨2, .deleteResponse ⟨.success, "", "", []⟩, []⟩ := by
  have new : reluctant.IsNew := ⟨_, _, .inr rfl⟩
  have live : reluctant.phase.isLive = true := rfl
  obtain ⟨kept, onwards⟩ := goes_on_unless_broken new [] rfl live (.call (.delete "dc=example"))
  have unbroken := kept.mp (by decide +kernel)
  obtain ⟨held, _, serves⟩ := onwards unbroken
  have written : (((Act.call (.delete "dc=example")).perform reluctant).transport.send
      (((Act.call (.delete "dc=example")).perform reluctant).nextFrame (.deleteRequest .root) [])).1 = .ok () := by
    decide +kernel
  have readable : ¬((Act.call (.delete "dc=example")).perform reluctant).IsUnreadable :=
    fun unreadable => unreadable.2 (by decide +kernel)
  have served := serves (.deleteRequest .root) [] 10 _ (by decide +kernel) readable (Prod.ext written rfl)
  exact ⟨new, live, unbroken, held, served.answered _ [] (by decide +kernel)⟩

end Session

end Directory
