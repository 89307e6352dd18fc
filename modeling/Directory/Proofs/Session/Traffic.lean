import Directory.Proofs.Session.Readers
/-!
What a session does with its transport. Each step writes at most one frame, which can be read off the
session and the step. Apart from that a transport is read from, bounded in time and shut down, and the peer
acts on it. Only the exchange for a secure one puts another transport in its place.
-/
namespace Directory

namespace Transport

inductive Deed where
  /-- The frame is written as far as that is possible, and flushed. -/
  | write (frame : Octets)
  | shutdown
  deriving DecidableEq

def Deed.frame? : Deed → Option Octets
  | write frame => some frame
  | shutdown => none

/-- One transport becomes the other by what a session and a peer do with it, and the session does this in
the meantime, in this order. -/
inductive Does : Transport → List Deed → Transport → Prop where
  | refl (transport : Transport) : Does transport [] transport
  | read {before after : Transport} : before.ReadsTo after → Does before [] after
  | deliver (transport : Transport) (id : MessageId) (actions : List Action) :
      Does transport [] (transport.deliver id actions)
  | bound (transport : Transport) (timeout : Option Nat) :
      Does transport [] (transport.setReadTimeout timeout).2
  | send (transport : Transport) (frame : Octets) :
      Does transport [.write frame] (transport.send frame).2
  | shutdown (transport : Transport) : Does transport [.shutdown] transport.shutdown.2
  | trans {a b c : Transport} {first second : List Deed} : Does a first b → Does b second c →
      Does a (first ++ second) c

def Carries (before : Transport) (frames : List Octets) (after : Transport) : Prop :=
  ∃ deeds, before.Does deeds after ∧ deeds.filterMap Deed.frame? = frames

def written (transport : Transport) : Octets := transport.sent.flatten ++ transport.outgoing

variable {transport before after : Transport}

theorem Does.carries {deeds : List Deed} (does : before.Does deeds after) :
    before.Carries (deeds.filterMap Deed.frame?) after :=
  ⟨deeds, does, rfl⟩

theorem Does.carries_writes {frames : List Octets} (does : before.Does (frames.map .write) after) :
    before.Carries frames after := by
  refine ⟨_, does, ?_⟩
  rw [List.filterMap_map, show Deed.frame? ∘ Deed.write = some from rfl, List.filterMap_some]

theorem Carries.trans {a b c : Transport} {first second : List Octets} (early : a.Carries first b)
    (late : b.Carries second c) : a.Carries (first ++ second) c := by
  obtain ⟨done, one, rfl⟩ := early
  obtain ⟨more, other, rfl⟩ := late
  exact ⟨done ++ more, one.trans other, List.filterMap_append⟩

theorem Carries.written_eq {frames : List Octets} (carries : before.Carries frames after)
    (silent : frames = []) : after.written = before.written := by
  obtain ⟨deeds, does, rfl⟩ := carries
  induction does with
  | refl => rfl
  | read reads =>
    obtain ⟨_, _, rfl⟩ := reads
    rfl
  | deliver => rfl
  | bound transport timeout =>
    unfold setReadTimeout
    dsimp only
    split <;> rfl
  | shutdown transport =>
    unfold Transport.shutdown
    dsimp only
    split <;> rfl
  | send => cases silent
  | trans _ _ first second =>
    rw [List.filterMap_append, List.append_eq_nil_iff] at silent
    rw [second silent.2, first silent.1]

theorem write_ok {octets : Octets} {count : Nat} (wrote : transport.write octets = (.ok (count + 1), after)) :
    after.outgoing = transport.outgoing ++ octets.take (count + 1) ∧ after.sent = transport.sent := by
  unfold write at wrote
  split at wrote
  · cases wrote
  · cases wrote
  · rw [Prod.mk.injEq, Except.ok.injEq] at wrote
    obtain ⟨taken, rfl⟩ := wrote
    rw [← taken]
    exact ⟨rfl, rfl⟩

theorem writeAll_ok {octets : Octets} (wrote : transport.writeAll octets = (.ok (), after)) :
    after.outgoing = transport.outgoing ++ octets ∧ after.sent = transport.sent := by
  fun_induction writeAll transport octets with
  | case1 =>
    cases wrote
    exact ⟨(List.append_nil _).symm, rfl⟩
  | case2 => cases wrote
  | case3 => cases wrote
  | case4 transport octet rest count middle part ih =>
    obtain ⟨more, same⟩ := write_ok part
    obtain ⟨all, still⟩ := ih wrote
    rw [all, more, still, same, List.append_assoc, List.take_succ_cons, List.cons_append,
      List.take_append_drop]
    exact ⟨rfl, rfl⟩

theorem written_answer (frame : Octets) (actions : List Action) :
    (transport.answer frame actions).written = transport.written := by
  unfold answer
  split
  · split <;> rfl
  · rfl

theorem written_flush : transport.flush.2.written = transport.written := by
  unfold flush
  dsimp only
  split
  · simp [written]
  · rw [written_answer]
    simp [written]
  · simp [written]

theorem written_send {frame : Octets} (sent : transport.send frame = (.ok (), after)) :
    after.written = transport.written ++ frame := by
  unfold send at sent
  split at sent
  · next middle wrote =>
    obtain ⟨more, same⟩ := writeAll_ok wrote
    have flushed := middle.written_flush
    rw [sent] at flushed
    rw [flushed, written, written, more, same, List.append_assoc]
  · next failed => exact absurd sent (failed _)

theorem shutdowns_writeAll (octets : Octets) (transport : Transport) :
    (transport.writeAll octets).2.shutdowns = transport.shutdowns := by
  have write (octets : Octets) (transport : Transport) :
      (transport.write octets).2.shutdowns = transport.shutdowns := by
    unfold write
    split <;> rfl
  fun_induction writeAll transport octets with
  | case1 => rfl
  | case2 transport octet rest failure middle wrote
  | case3 transport octet rest middle wrote =>
    have same := write (octet :: rest) transport
    rwa [wrote] at same
  | case4 transport octet rest count middle wrote ih =>
    have same := write (octet :: rest) transport
    rw [wrote] at same
    exact ih.trans same

theorem shutdowns_send (frame : Octets) (transport : Transport) :
    (transport.send frame).2.shutdowns = transport.shutdowns := by
  have flush (transport : Transport) : transport.flush.2.shutdowns = transport.shutdowns := by
    unfold Transport.flush answer
    dsimp only
    split
    · rfl
    · split
      · split <;> rfl
      · rfl
    · rfl
  have wrote := shutdowns_writeAll frame transport
  unfold send
  split
  · next middle all =>
    rw [all] at wrote
    exact (flush middle).trans wrote
  · exact wrote

theorem Does.shutdowns_eq {deeds : List Deed} (does : before.Does deeds after) :
    after.shutdowns = before.shutdowns + deeds.count .shutdown := by
  induction does with
  | refl => rfl
  | read reads =>
    obtain ⟨_, _, rfl⟩ := reads
    rfl
  | deliver => rfl
  | bound transport timeout =>
    unfold setReadTimeout
    dsimp only
    split <;> rfl
  | send transport frame => exact shutdowns_send frame transport
  | shutdown transport =>
    unfold Transport.shutdown
    dsimp only
    split <;> rfl
  | trans _ _ first second => rw [second, first, List.count_append, Nat.add_assoc]

theorem does_awaitResponse (id : MessageId) (limit : UInt32) (transport : Transport) :
    transport.Does [] (transport.awaitResponse id limit).2 := by
  have taken {transport : Transport} {result : Taken Message} {after : Transport}
      (took : transport.takeMessage limit = (result, after)) : transport.Does [] after := by
    have reads := takeMessage_readsTo limit transport
    rw [took] at reads
    exact .read reads
  fun_induction awaitResponse id limit transport with
  | case3 _ _ _ took _ _ ih => exact (taken took).trans ih
  | case1 _ _ _ took | case2 _ _ _ took | case4 _ _ _ took | case5 _ _ _ took | case6 _ _ took =>
    exact taken took

theorem does_awaitWithin (id : MessageId) (limit : UInt32) (timeout : Nat) (transport : Transport) :
    transport.Does [] (transport.awaitWithin id limit timeout).2 := by
  have asked := Does.bound transport (some timeout)
  unfold awaitWithin
  split
  · next unbounded =>
    rw [unbounded] at asked
    exact asked
  · next ready bounded =>
    rw [bounded] at asked
    exact asked.trans ((does_awaitResponse id limit ready).trans (.bound _ none))

theorem does_converse (frame : Octets) (id : MessageId) (limit : UInt32) (timeout : Nat)
    (transport : Transport) :
    transport.Does [.write frame] (transport.converse frame id limit timeout).2 := by
  have sent := Does.send transport frame
  unfold converse
  split
  · next failed =>
    rw [failed] at sent
    exact sent
  · next middle written =>
    rw [written] at sent
    exact sent.trans (does_awaitWithin id limit timeout middle)

theorem carries_converse (frame : Octets) (id : MessageId) (limit : UInt32) (timeout : Nat)
    (transport : Transport) : transport.Carries [frame] (transport.converse frame id limit timeout).2 :=
  Does.carries_writes (does_converse frame id limit timeout transport)

/-- After an answer the frame was written as a whole. -/
theorem written_converse {frame : Octets} {id : MessageId} {limit : UInt32} {timeout : Nat}
    {response : Message} (answered : (transport.converse frame id limit timeout).1 = .ok response) :
    (transport.converse frame id limit timeout).2.written = transport.written ++ frame := by
  unfold converse at answered ⊢
  split
  · next failed =>
    rw [failed] at answered
    cases answered
  · next middle sent => rw [(does_awaitWithin id limit timeout middle).carries.written_eq rfl, written_send sent]

end Transport

namespace Session

variable {session : Session}

def nextFrame (session : Session) (op : Operation) (controls : List Control) : Octets :=
  Message.encode ⟨session.nextId, op, controls⟩

def securityRequest (session : Session) : Octets := session.nextFrame (.extendedRequest Oid.startTls none) []

def IsWritable (session : Session) : Prop :=
  session.holdsTransport = true ∧ (session.receiver = .notStarted → session.transport.startFailure? = none)

instance (session : Session) : Decidable session.IsWritable := inferInstanceAs (Decidable (_ ∧ _))

def requested (session : Session) (op : Operation) (controls : List Control) : List Octets :=
  if session.phase.isLive = true ∧ session.nextId ≤ Message.maxId ∧ session.IsWritable
  then [session.nextFrame op controls] else []

def Step.frames (session : Session) : Step → List Octets
  | post op controls _ => session.requested op controls
  | giveUp target => session.requested (.abandonRequest target) []
  | secure _ => if session.IsUntouched then [session.securityRequest] else []
  -- A session that leaves does not wait for an answer.
  | close =>
    if session.phase.isLive = true ∧ session.nextId ≤ Message.maxId ∧ session.holdsTransport = true
    then [session.nextFrame .unbindRequest []] else []
  | _ => []

def frames : List Step → Session → List Octets
  | [], _ => []
  | step :: rest, session => step.frames session ++ frames rest (step.perform session)

theorem frames_append (first second : List Step) (session : Session) :
    frames (first ++ second) session = frames first session ++ frames second (run first session) := by
  induction first generalizing session with
  | nil => rfl
  | cons step rest ih =>
    rw [List.cons_append, frames, frames, ih, List.append_assoc]
    rfl

/-- The session keeps its transport, writes these frames to it, and leaves a trace of that. Traces stay. -/
structure Handles (before : Session) (frames : List Octets) (after : Session) : Prop where
  carries : before.transport.Carries frames after.transport
  -- A farewell is not counted as traffic, but the transport is let go with it.
  noted : frames ≠ [] → after.hasCarriedTraffic = true ∨ after.holdsTransport = false
  carried : before.hasCarriedTraffic = true → after.hasCarriedTraffic = true
  released : before.holdsTransport = false → after.holdsTransport = false
  started : before.receiver ≠ .notStarted → after.receiver ≠ .notStarted
  secured : after.isSecured = before.isSecured

namespace Handles

theorem of_does {before after : Session} (does : before.transport.Does [] after.transport)
    (carried : after.hasCarriedTraffic = before.hasCarriedTraffic)
    (held : after.holdsTransport = before.holdsTransport) (receiver : after.receiver = before.receiver)
    (secured : after.isSecured = before.isSecured) : before.Handles [] after where
  carries := does.carries
  noted := absurd rfl
  carried traffic := carried.trans traffic
  released free := held.trans free
  started used := receiver ▸ used
  secured := secured

theorem refl (session : Session) : session.Handles [] session := .of_does (.refl _) rfl rfl rfl rfl

theorem trans {a b c : Session} {first second : List Octets} (one : a.Handles first b)
    (other : b.Handles second c) : a.Handles (first ++ second) c where
  carries := one.carries.trans other.carries
  noted := by
    intro some
    by_cases later : second = []
    · rw [later, List.append_nil] at some
      rcases one.noted some with traffic | free
      · exact .inl (other.carried traffic)
      · exact .inr (other.released free)
    · exact other.noted later
  carried := other.carried ∘ one.carried
  released := other.released ∘ one.released
  started := other.started ∘ one.started
  secured := other.secured.trans one.secured

theorem trans_nil {a b c : Session} {frames : List Octets} (one : a.Handles frames b)
    (other : b.Handles [] c) : a.Handles frames c := by
  have both := one.trans other
  rwa [List.append_nil] at both

end Handles

theorem handles_terminate (session : Session) (reason : Termination) :
    session.Handles [] (session.terminate reason) := by
  unfold terminate
  split
  · exact .refl session
  · exact .of_does (.refl _) rfl rfl rfl rfl

theorem handles_release (session : Session) : session.Handles [] session.release := by
  unfold release
  split
  · constructor
    · exact (Transport.Does.shutdown _).carries
    · exact absurd rfl
    · exact id
    · intro _
      rfl
    · exact id
    · rfl
  · exact .refl session

theorem handles_stop (session : Session) (reason : Termination) :
    session.Handles [] (session.stop reason) := by
  have stopped : session.Handles [] { session with receiver := .stopped } := by
    constructor
    · exact (Transport.Does.refl _).carries
    · exact absurd rfl
    · exact id
    · exact id
    · intro _ unread
      cases unread
    · rfl
  exact (stopped.trans (handles_terminate _ reason)).trans (handles_release _)

theorem handles_takeIn (session : Session) : session.Handles [] session.takeIn := by
  have read {session : Session} {result : Except Termination Message} {transport : Transport}
      (next : session.nextMessage? = some (result, transport)) :
      session.Handles [] { session with transport } :=
    .of_does (.read (nextMessage?_readsTo next)) rfl rfl rfl rfl
  fun_induction takeIn session with
  | case1 session _ message transport next ih =>
    have routed : { session with transport }.Handles [] ({ session with transport }.route message) :=
      .of_does (.refl _) rfl rfl rfl rfl
    exact ((read next).trans routed).trans ih
  | case2 session _ reason transport next => exact (read next).trans (handles_stop _ reason)
  | case3 => exact .refl _
  | case4 => exact .refl _

theorem Refuses.handles {error : Error} {after : Session} (refused : session.Refuses error after) :
    session.Handles [] after := by
  cases refused with
  | idle => exact .refl session
  | unbound => exact handles_release session

theorem started_ne (receiver : Receiver) : receiver.started ≠ .notStarted := by
  cases receiver <;> simp [Receiver.started]

/-- A message that can be written is. -/
theorem Sends.handles {message : Message} {result : Except Error Unit} {after : Session}
    (sent : session.Sends message result after) :
    session.Handles (if session.IsWritable then [message.encode] else []) after := by
  have wrote (writable : session.IsWritable) {transport : Transport}
      (carries : session.transport.Carries [message.encode] transport) :
      session.Handles (if session.IsWritable then [message.encode] else [])
        { session with transport, receiver := session.receiver.started, hasCarriedTraffic := true } := by
    rw [if_pos writable]
    exact ⟨carries, fun _ => .inl rfl, fun _ => rfl, id, fun _ => started_ne _, rfl⟩
  have sent_to := (Transport.Does.send session.transport message.encode).carries
  cases sent with
  | released free =>
    rw [if_neg fun writable => by simp [writable.1] at free]
    exact .refl session
  | unreadable text _ unread failing =>
    rw [if_neg fun writable => by simp [writable.2 unread] at failing]
    exact .refl session
  | unwritten failure transport held readable failed =>
    rw [failed] at sent_to
    exact (wrote ⟨held, readable⟩ sent_to).trans_nil (handles_terminate _ _)
  | sent transport held readable written =>
    rw [written] at sent_to
    exact wrote ⟨held, readable⟩ sent_to

theorem Refuses.requested {error : Error} {after : Session} (refused : session.Refuses error after)
    (op : Operation) (controls : List Control) : session.requested op controls = [] := by
  rw [Session.requested, if_neg fun ready => by simp [refused.not_live] at ready]

theorem requested_of_exhausted (none : Message.maxId < session.nextId) (op : Operation)
    (controls : List Control) : session.requested op controls = [] := by
  rw [requested, if_neg fun ready => UInt32.not_le.mpr none ready.2.1]

theorem requested_of_live (live : session.phase.isLive = true) (left : session.nextId ≤ Message.maxId)
    (op : Operation) (controls : List Control) :
    session.requested op controls = if session.IsWritable then [session.nextFrame op controls] else [] := by
  simp [requested, live, left]

theorem Posts.handles {op : Operation} {controls : List Control} {timeout : Nat}
    {result : Except Error Handle} {after : Session}
    (posted : session.Posts op controls timeout result after) :
    session.Handles (session.requested op controls) after := by
  have opened : session.Handles [] session.opened := .of_does (.refl _) rfl rfl rfl rfl
  have dropped (later : Session) : later.Handles [] (later.dropHandle session.nextId) :=
    .of_does (.refl _) rfl rfl rfl rfl
  cases posted with
  | refused _ _ refused =>
    rw [refused.requested]
    exact refused.handles
  | exhausted _ none =>
    rw [requested_of_exhausted none]
    exact .refl session
  | failed error after live left sends =>
    rw [requested_of_live live left]
    exact (opened.trans sends.handles).trans_nil (dropped after)
  | posted after live left sends =>
    rw [requested_of_live live left]
    exact opened.trans sends.handles

theorem GivesUp.handles {target : MessageId} {result : Except Error Unit} {after : Session}
    (given : session.GivesUp target result after) :
    session.Handles (session.requested (.abandonRequest target) []) after := by
  cases given with
  | refused _ _ refused =>
    rw [refused.requested]
    exact refused.handles
  | exhausted _ none =>
    rw [requested_of_exhausted none]
    exact .of_does (.refl _) rfl rfl rfl rfl
  | told _ _ live left sends =>
    have forgotten : session.Handles [] { session.forget target with nextId := session.nextId + 1 } :=
      .of_does (.refl _) rfl rfl rfl rfl
    rw [requested_of_live live left]
    exact forgotten.trans sends.handles

theorem Receives.handles {handle : Handle} {result : Except Error Message} {after : Session}
    (received : session.Receives handle result after) : session.Handles [] after := by
  cases received with
  | message => exact .of_does (.refl _) rfl rfl rfl rfl
  | timedOut => exact .of_does (.refl _) rfl rfl rfl rfl
  | spent => exact .refl session

theorem handles_number : session.Handles [] (nextRequestId.run session).2 := by
  by_cases left : session.nextId ≤ Message.maxId
  · rw [nextRequestId_left left]
    exact .of_does (.refl _) rfl rfl rfl rfl
  · rw [nextRequestId_exhausted (UInt32.not_le.mp left)]
    exact .refl session

theorem handles_settle (name : String) (outcome : Outcome) :
    session.Handles [] ((Step.settle name outcome).perform session) := by
  have known (identity : Option String) (phase : Phase) :
      session.Handles [] ({ session with identity }.enter phase) := by
    unfold enter
    split <;> exact .of_does (.refl _) rfl rfl rfl rfl
  dsimp only [Step.perform]
  split
  · exact .refl session
  · unfold finishBind
    split
    · split
      · exact known none .connected
      · exact known (some name) .bound
    · exact known none .connected

theorem does_farewell (held : session.holdsTransport = true) :
    ∃ nextId transport, session.nextId ≤ nextId ∧
      (if session.phase.isLive = true then session.sayGoodbye else session) =
          { session with nextId, transport } ∧
        session.transport.Does ((Step.close.frames session).map .write) transport := by
  dsimp only [Step.frames, sayGoodbye]
  by_cases live : session.phase.isLive = true
  · rw [if_pos live]
    by_cases left : session.nextId ≤ Message.maxId
    · rw [nextRequestId_left left, if_pos ⟨live, left, held⟩]
      exact ⟨_, _, nextId_le_succ left, rfl, .send _ _⟩
    · rw [nextRequestId_exhausted (UInt32.not_le.mp left), if_neg fun ready => left ready.2.1]
      exact ⟨_, _, UInt32.le_refl _, rfl, .refl _⟩
  · rw [if_neg live, if_neg fun ready => live ready.1]
    exact ⟨_, _, UInt32.le_refl _, rfl, .refl _⟩

theorem holdsTransport_release (session : Session) : session.release.holdsTransport = false := by
  unfold release
  split
  · rfl
  · next free => exact Bool.eq_false_iff.mpr free

theorem handles_close : session.Handles (Step.close.frames session) session.close := by
  unfold Session.close
  by_cases held : session.holdsTransport = true
  · obtain ⟨nextId, transport, _, told, does⟩ := does_farewell held
    rw [if_pos held, told]
    have unnamed (ended : Session) : ended.Handles [] { ended with identity := none } :=
      .of_does (.refl _) rfl rfl rfl rfl
    have left := ((handles_terminate { session with nextId, transport } .closed).trans (unnamed _)).trans
      (handles_release _)
    constructor
    · simpa using does.carries_writes.trans left.carries
    · intro _
      exact .inr (holdsTransport_release _)
    · exact left.carried
    · intro _
      exact holdsTransport_release _
    · exact left.started
    · exact left.secured
  · dsimp only [Step.frames]
    rw [if_neg held, if_neg fun ready => held ready.2.2]
    exact .refl session

structure Exchanges (session : Session) (upgrade : Upgrade) (returned : Transport) : Prop where
  untouched : session.IsUntouched
  answered : ∃ response, session.askSecurity.1 = .ok response
  upgraded : upgrade session.askSecurity.2 = .ok returned
  secured : startSecurity upgrade session =
    (⟨some session.askSecurity.2, .ok ()⟩,
      { session.askedSecurity with transport := returned, isSecured := true })

theorem secure_frames (untouched : session.IsUntouched) (upgrade : Upgrade) :
    (Step.secure upgrade).frames session = [session.securityRequest] :=
  if_pos untouched

theorem handles_askSecurity (untouched : session.IsUntouched) (upgrade : Upgrade) :
    session.Handles ((Step.secure upgrade).frames session) session.askedSecurity := by
  rw [secure_frames untouched]
  exact ⟨Transport.carries_converse _ _ _ _ _, fun _ => .inl rfl, fun _ => rfl, id, id, rfl⟩

theorem startSecurity_handles (session : Session) (upgrade : Upgrade) :
    session.Handles ((Step.secure upgrade).frames session) (startSecurity upgrade session).2 ∨
      ∃ returned, session.Exchanges upgrade returned := by
  have secures := startSecurity_cases session upgrade
  generalize attempt_eq : startSecurity upgrade session = attempt at secures ⊢
  obtain ⟨⟨handedOver, result⟩, after⟩ := attempt
  have silent (touched : ¬session.IsUntouched) : (Step.secure upgrade).frames session = [] := if_neg touched
  cases secures with
  | refused error _ refused =>
    left
    rw [silent refused.not_untouched]
    exact refused.handles
  | untimely error touched =>
    left
    rw [silent touched]
    exact .refl _
  | unanswered error untouched =>
    left
    exact (handles_askSecurity untouched upgrade).trans_nil (handles_terminate _ _)
  | declined _ _ untouched =>
    left
    exact handles_askSecurity untouched upgrade
  | failed _ error untouched =>
    left
    have gone : session.askedSecurity.Handles [] { session.askedSecurity with holdsTransport := false } :=
      ⟨(Transport.Does.refl _).carries, absurd rfl, id, fun _ => rfl, id, rfl⟩
    exact ((handles_askSecurity untouched upgrade).trans_nil gone).trans_nil (handles_terminate _ _)
  | secured message returned untouched asked upgraded =>
    right
    exact ⟨returned, untouched, ⟨message, asked⟩, upgraded, attempt_eq⟩

/-- A step keeps the transport, or exchanges it for a secure one. -/
theorem Step.handles_or_exchanges (step : Step) (session : Session) :
    session.Handles (step.frames session) (step.perform session) ∨
      ∃ upgrade returned, step = .secure upgrade ∧ session.Exchanges upgrade returned := by
  cases step with
  | arrive actions => exact .inl (.of_does (.deliver _ 0 actions) rfl rfl rfl rfl)
  | takeIn => exact .inl (handles_takeIn session)
  | number => exact .inl handles_number
  | post op controls timeout => exact .inl (post_cases session op controls timeout).handles
  | receive handle => exact .inl (receive_cases session handle).handles
  | drop id => exact .inl (.of_does (.refl _) rfl rfl rfl rfl)
  | giveUp target => exact .inl (giveUp_cases session target).handles
  | settle name outcome => exact .inl (handles_settle name outcome)
  | secure upgrade =>
    rcases session.startSecurity_handles upgrade with kept | ⟨returned, exchanged⟩
    · exact .inl kept
    · exact .inr ⟨upgrade, returned, rfl, exchanged⟩
  | close => exact .inl handles_close

end Session

end Directory
