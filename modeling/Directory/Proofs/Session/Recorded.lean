import Directory.Proofs.Session.Chunks
import Directory.Proofs.Session.Findings
import Directory.Proofs.Session.Isolation
/-!
What the peer has of a request. A live session leaves nothing on its transport that is not flushed, so that a
request which is written reaches the peer as one frame, in however many portions the octets were taken.
-/
namespace Directory

namespace Transport

variable {transport before after : Transport}

theorem flush_leaves : transport.flush.2.sent = transport.sent ++ [transport.outgoing] ∧
    transport.flush.2.outgoing = [] := by
  have answered (flushed : Transport) (frame : Octets) (actions : List Action) :
      (flushed.answer frame actions).sent = flushed.sent ∧
        (flushed.answer frame actions).outgoing = flushed.outgoing := by
    unfold answer
    split
    · split <;> exact ⟨rfl, rfl⟩
    · exact ⟨rfl, rfl⟩
  unfold flush
  dsimp only
  split
  · exact ⟨rfl, rfl⟩
  · exact answered _ _ _
  · exact ⟨rfl, rfl⟩

/-- A frame that is sent is flushed, together with what was left on the transport before it. -/
theorem send_leaves {frame : Octets} (sent : transport.send frame = (.ok (), after)) :
    after.sent = transport.sent ++ [transport.outgoing ++ frame] ∧ after.outgoing = [] := by
  unfold send at sent
  split at sent
  · next middle wrote =>
    obtain ⟨more, same⟩ := writeAll_ok wrote
    have flushed := middle.flush_leaves
    rw [sent, more, same] at flushed
    exact flushed
  · next failed => exact absurd sent (failed _)

theorem sent_writeAll (octets : Octets) (transport : Transport) :
    (transport.writeAll octets).2.sent = transport.sent := by
  have skipped {octets : Octets} {transport after : Transport} {result : Except StreamFailure Nat}
      (wrote : transport.write octets = (result, after)) : after.sent = transport.sent := by
    unfold write at wrote
    split at wrote <;> cases wrote <;> rfl
  fun_induction writeAll transport octets with
  | case1 => rfl
  | case2 _ _ _ _ _ wrote => exact skipped wrote
  | case3 _ _ _ _ wrote => exact skipped wrote
  | case4 _ _ _ _ _ wrote ih => exact ih.trans (skipped wrote)

/-- A frame that cannot be sent may reach the peer all the same, for the flush may fail behind it. -/
theorem sent_send (frame : Octets) (transport : Transport) :
    (transport.send frame).2.sent = transport.sent ∨
      (transport.send frame).2.sent = transport.sent ++ [transport.outgoing ++ frame] := by
  have kept := sent_writeAll frame transport
  unfold send
  split
  · next middle wrote =>
    obtain ⟨more, same⟩ := writeAll_ok wrote
    right
    rw [middle.flush_leaves.1, more, same]
  · next failed => exact .inl kept

/-- Nothing is written, so nothing is sent and nothing is left over. -/
theorem Carries.idles {frames : List Octets} (carries : before.Carries frames after) (silent : frames = []) :
    after.sent = before.sent ∧ after.outgoing = before.outgoing := by
  obtain ⟨deeds, does, rfl⟩ := carries
  induction does with
  | refl => exact ⟨rfl, rfl⟩
  | read reads =>
    obtain ⟨_, _, rfl⟩ := reads
    exact ⟨rfl, rfl⟩
  | deliver => exact ⟨rfl, rfl⟩
  | bound transport timeout =>
    unfold setReadTimeout
    dsimp only
    split <;> exact ⟨rfl, rfl⟩
  | shutdown transport =>
    unfold Transport.shutdown
    dsimp only
    split <;> exact ⟨rfl, rfl⟩
  | send => cases silent
  | trans _ _ first second =>
    rw [List.filterMap_append, List.append_eq_nil_iff] at silent
    obtain ⟨sent, left⟩ := second silent.2
    rw [sent, left]
    exact first silent.1

/-- One frame is written, and all else that is done to the transport sends nothing. -/
theorem Carries.sent_one {frames : List Octets} (carries : before.Carries frames after) {frame : Octets}
    (one : frames = [frame]) :
    after.sent = before.sent ∨ after.sent = before.sent ++ [before.outgoing ++ frame] := by
  obtain ⟨deeds, does, rfl⟩ := carries
  induction does with
  | refl | read | deliver | bound | shutdown => cases one
  | send transport other =>
    cases one
    exact sent_send _ transport
  | @trans a b c first second early late ihEarly ihLate =>
    rw [List.filterMap_append, List.append_eq_singleton_iff] at one
    rcases one with ⟨nothing, last⟩ | ⟨now, none⟩
    · obtain ⟨sent, left⟩ := early.carries.idles nothing
      have grown := ihLate last
      rwa [sent, left] at grown
    · rw [(late.carries.idles none).1]
      exact ihEarly now

theorem leaves_converse {frame : Octets} {id : MessageId} {limit : UInt32} {timeout : Nat}
    {response : Message} (answered : (transport.converse frame id limit timeout).1 = .ok response) :
    (transport.converse frame id limit timeout).2.outgoing = [] := by
  unfold converse at answered ⊢
  split
  · next failed =>
    rw [failed] at answered
    cases answered
  · next middle sent =>
    rw [((does_awaitWithin id limit timeout middle).carries.idles rfl).2]
    exact (send_leaves sent).2

end Transport

namespace Session

variable {session : Session}

/-- While the session is live, all that was written is flushed. -/
def IsFlushed (session : Session) : Prop := session.phase.isLive = true → session.transport.outgoing = []

def Step.ReturnsFlushed : Step → Prop
  | secure upgrade => ∀ transport returned, upgrade transport = .ok returned → returned.outgoing = []
  | _ => True

theorem Step.returnsFlushed_of_plain {step : Step} (plain : ∀ upgrade, step ≠ .secure upgrade) :
    step.ReturnsFlushed := by
  cases step with
  | secure upgrade => exact absurd rfl (plain upgrade)
  | _ => trivial

theorem not_isFlushed_terminate (sound : session.IsSound) (reason : Termination) :
    (session.terminate reason).IsFlushed := by
  intro live
  rw [not_isLive_terminate sound reason] at live
  cases live

theorem Sends.isFlushed {message : Message} {result : Except Error Unit} {after : Session}
    (sent : session.Sends message result after) (sound : session.IsSound) (flushed : session.IsFlushed) :
    after.IsFlushed := by
  cases sent with
  | released => exact flushed
  | unreadable => exact flushed
  | unwritten failure transport =>
    have tried : session.Continues
        { session with transport, receiver := session.receiver.started, hasCarriedTraffic := true } :=
      .of_same (UInt32.le_refl _) rfl rfl rfl
    exact not_isFlushed_terminate (tried.evolves.sound sound) _
  | sent transport _ _ written => exact fun _ => (Transport.send_leaves written).2

theorem Posts.isFlushed {op : Operation} {controls : List Control} {timeout : Nat}
    {result : Except Error Handle} {after : Session}
    (posted : session.Posts op controls timeout result after) (sound : session.IsSound)
    (live : session.phase.isLive = true) (flushed : session.IsFlushed) : after.IsFlushed := by
  have opened (left : session.nextId ≤ Message.maxId) : session.opened.IsSound :=
    (evolves_opened live left).sound sound
  cases posted with
  | refused _ _ refused => exact absurd refused (not_isLive_refused live)
  | exhausted => exact flushed
  | failed _ _ _ left sends => exact sends.isFlushed (opened left) flushed
  | posted _ _ left sends => exact sends.isFlushed (opened left) flushed

theorem GivesUp.isFlushed {target : MessageId} {result : Except Error Unit} {after : Session}
    (given : session.GivesUp target result after) (sound : session.IsSound)
    (live : session.phase.isLive = true) (flushed : session.IsFlushed) : after.IsFlushed := by
  cases given with
  | refused _ _ refused => exact absurd refused (not_isLive_refused live)
  | exhausted => exact flushed
  | told _ _ _ left sends =>
    have counted : (session.forget target).Continues
        { session.forget target with nextId := session.nextId + 1 } := continues_counted left
    exact sends.isFlushed (((evolves_forget target).trans counted.evolves).sound sound) flushed

theorem isFlushed_secure {upgrade : Upgrade} (sound : session.IsSound) (live : session.phase.isLive = true)
    (flushed : session.IsFlushed)
    (returns : ∀ transport returned, upgrade transport = .ok returned → returned.outgoing = []) :
    ((Step.secure upgrade).perform session).IsFlushed := by
  have secures := startSecurity_cases session upgrade
  rw [Step.perform]
  generalize startSecurity upgrade session = attempt at secures ⊢
  obtain ⟨⟨handedOver, result⟩, after⟩ := attempt
  dsimp only at secures ⊢
  cases secures with
  | refused _ _ refused => exact absurd refused (not_isLive_refused live)
  | untimely => exact flushed
  | unanswered error untouched => exact not_isFlushed_terminate (untouched.continues_asked.evolves.sound sound) _
  | declined message _ _ answered => exact fun _ => Transport.leaves_converse answered
  | failed message error untouched =>
    have gone := untouched.continues_asked.trans continues_handedOver
    exact not_isFlushed_terminate (gone.evolves.sound sound) _
  | secured _ transport _ _ upgraded => exact fun _ => returns _ transport upgraded

theorem Step.handles_of_plain {step : Step} (plain : ∀ upgrade, step ≠ .secure upgrade) (session : Session) :
    session.Handles (step.frames session) (step.perform session) := by
  rcases step.handles_or_exchanges session with kept | ⟨upgrade, _, secure, _⟩
  · exact kept
  · exact absurd secure (plain upgrade)

/-- What is written while the session is live is flushed at once. -/
theorem Step.isFlushed {step : Step} (sound : session.IsSound) (returns : step.ReturnsFlushed)
    (flushed : session.IsFlushed) : (step.perform session).IsFlushed := by
  intro lives
  have live : session.phase.isLive = true := isLive_of_run [step] lives
  have idle (plain : ∀ upgrade, step ≠ .secure upgrade) (silent : step.frames session = []) :
      (step.perform session).transport.outgoing = [] :=
    ((step.handles_of_plain plain session).carries.idles silent).2.trans (flushed live)
  cases step with
  | post op controls timeout => exact (post_cases session op controls timeout).isFlushed sound live flushed lives
  | giveUp target => exact (giveUp_cases session target).isFlushed sound live flushed lives
  | secure upgrade => exact isFlushed_secure sound live flushed returns lives
  -- A session that says goodbye is not live after that, whether or not all of it is flushed.
  | close =>
    cases held : session.holdsTransport with
    | false => exact idle (by simp) (frames_of_released _ held)
    | true =>
      have past : (perform session close).phase = .unbound :=
        unbound_of_released sound (fun free => by simp [held] at free) (holdsTransport_close session)
      rw [past] at lives
      cases lives
  | _ => exact idle (by simp) rfl

theorem run_isFlushed {steps : List Step} (sound : session.IsSound)
    (returns : ∀ step ∈ steps, step.ReturnsFlushed) (flushed : session.IsFlushed) :
    (run steps session).IsFlushed := by
  induction steps generalizing session with
  | nil => exact flushed
  | cons step rest ih =>
    obtain ⟨first, later⟩ := List.forall_mem_cons.mp returns
    exact ih ((step.evolves session).sound sound) later (step.isFlushed sound first flushed)

theorem run_handles {steps : List Step} (plain : ∀ step ∈ steps, ∀ upgrade, step ≠ .secure upgrade)
    (session : Session) : session.Handles (frames steps session) (run steps session) := by
  induction steps generalizing session with
  | nil => exact .refl session
  | cons step rest ih =>
    obtain ⟨first, later⟩ := List.forall_mem_cons.mp plain
    exact (step.handles_of_plain first session).trans (ih later _)

structure Flushes (start : Session) (steps : List Step) : Prop where
  empty : start.transport.outgoing = []
  returned : ∀ step ∈ steps, step.ReturnsFlushed

theorem Flushes.outgoing {start : Session} {steps : List Step} (flushes : start.Flushes steps)
    (new : start.IsNew) (live : (run steps start).phase.isLive = true) :
    (run steps start).transport.outgoing = [] :=
  run_isFlushed new.isSound flushes.returned (fun _ => flushes.empty) live

def IsReady (session : Session) : Prop :=
  session.phase.isLive = true ∧ session.nextId ≤ Message.maxId ∧ session.IsWritable

/-- Nothing comes of a request and the peer has nothing of it, or the peer has its message as one frame. -/
inductive Tells (session : Session) (message : Message) : Except Error α → Session → Prop where
  | nothing (error : Error) {after : Session} : after.transport.sent = session.transport.sent →
      Tells session message (.error error) after
  | whole {result : Except Error α} {after : Session} :
      after.transport.sent = session.transport.sent ++ [message.encode] → session.IsReady →
      Tells session message result after

/-- Whatever is made of the result, and whatever is done that has nothing to do with the transport. -/
theorem Tells.bind {message : Message} {result : Except Error α} {after later : Session}
    (tells : session.Tells message result after) {read : α → Except Error β}
    (same : later.transport.sent = after.transport.sent) : session.Tells message (result >>= read) later := by
  cases tells with
  | nothing error unsent => exact .nothing error (same.trans unsent)
  | whole grown ready => exact .whole (same.trans grown) ready

theorem writes_of_isReady (ready : session.IsReady) (op : Operation) (controls : List Control) (timeout : Nat) :
    (Step.post op controls timeout).writes session = [⟨session.nextId, op, controls⟩] := by
  have one : (Step.post op controls timeout).frames session = [_] := if_pos ready
  rw [Step.writes, one, if_neg (List.cons_ne_nil _ _)]
  rfl

theorem ignores_frames : Ignores Step.frames := ⟨fun _ => rfl, fun _ _ => rfl, fun _ _ => rfl⟩

namespace Request

def op : Request → Operation
  | exchange op _ _ => op
  | search _ request _ => .searchRequest request
  | abandon target => .abandonRequest target

def controls : Request → List Control
  | exchange _ controls _ => controls
  | search _ _ controls => controls
  | abandon _ => []

theorem frames_steps (request : Request) (session : Session) :
    frames (request.steps session) session = session.requested request.op request.controls := by
  rw [frames_eq_along]
  cases request with
  | exchange op controls timeout => exact ignores_frames.exchange op controls timeout session
  | search timeout request controls =>
    exact ignores_frames.submit gatherSteps_receives (.searchRequest request) controls timeout session
  | abandon target => exact List.append_nil _

/-- The peer gets nothing of a request, or gets it as one frame. -/
theorem sent_cases (request : Request) (flushed : session.IsFlushed) :
    (request.perform.run session).2.transport.sent = session.transport.sent ∨
      (request.perform.run session).2.transport.sent =
          session.transport.sent ++ [session.nextFrame request.op request.controls] ∧
        session.IsReady := by
  have handles := run_handles (plain_requestSteps request session) session
  rw [request.run_steps, request.frames_steps] at handles
  unfold requested at handles
  split at handles
  · next ready =>
    have grown := handles.carries.sent_one rfl
    rw [flushed ready.1, List.nil_append] at grown
    exact grown.imp_right fun more => ⟨more, ready⟩
  · exact .inl (handles.carries.idles rfl).1

/-- Once a request is posted, nothing more is written for it. -/
theorem sent_of_post {op : Operation} {controls : List Control} {timeout : Nat} {handle : Handle}
    {posted : Session} (accepted : (post op controls timeout).run session = (.ok handle, posted))
    (empty : session.transport.outgoing = []) {reads : Handle → Session → List Step}
    (only : ∀ handle after, ∀ step ∈ reads handle after, step = .receive handle) :
    (run (submitSteps op controls timeout reads session) session).transport.sent =
      session.transport.sent ++ [session.nextFrame op controls] := by
  obtain ⟨rest, steps, reading⟩ := exists_reading only op controls timeout session
  have onwards : run (submitSteps op controls timeout reads session) session = run rest posted := by
    rw [steps]
    exact congrArg (run rest) (congrArg Prod.snd accepted)
  have idle : posted.Handles (frames rest posted) (run rest posted) := by
    apply run_handles
    rintro step member upgrade rfl
    exact reading _ member
  have silent : frames rest posted = [] := by
    rw [frames_eq_along]
    exact along_nil (fun step member => ignores_frames.reading (reading step member)) posted
  have outcome := post_cases session op controls timeout
  rw [accepted] at outcome
  rw [onwards, (idle.carries.idles silent).1]
  cases outcome with
  | posted _ live left sends =>
    cases sends with
    | sent transport held readable written =>
      have sent := (Transport.send_leaves written).1
      change transport.sent = session.transport.sent ++ [session.transport.outgoing ++ _] at sent
      rw [empty, List.nil_append] at sent
      exact sent

theorem posted_of_ok {op : Operation} {controls : List Control} {timeout : Nat} {use : Handle → SessionM α}
    {result : α} (done : ((do
      let handle ← submit op controls timeout
      releasing handle (use handle)).run session).1 = .ok result) :
    ∃ handle posted, (post op controls timeout).run session = (.ok handle, posted) := by
  rw [SessionM.run_bind, submit, attending_run] at done
  cases accepted : (post op controls timeout).run session with
  | mk outcome posted =>
    rw [accepted] at done
    cases outcome with
    | error error => cases done
    | ok handle => exact ⟨handle, posted, rfl⟩

/-- A request that brings something was sent as one frame. -/
theorem sent_of_ok {request : Request} (answered : ∀ target, request ≠ .abandon target)
    (flushed : session.IsFlushed) {finding : request.Finding}
    (done : (request.perform.run session).1 = .ok finding) :
    (request.perform.run session).2.transport.sent =
      session.transport.sent ++ [session.nextFrame request.op request.controls] := by
  have empty {op : Operation} {controls : List Control} {timeout : Nat} {handle : Handle} {posted : Session}
      (accepted : (post op controls timeout).run session = (.ok handle, posted)) :
      session.transport.outgoing = [] := by
    have outcome := post_cases session op controls timeout
    rw [accepted] at outcome
    cases outcome with
    | posted _ live => exact flushed live
  rw [← request.run_steps]
  cases request with
  | exchange op controls timeout =>
    obtain ⟨handle, posted, accepted⟩ := posted_of_ok done
    exact sent_of_post accepted (empty accepted) fun _ _ _ => List.mem_singleton.mp
  | search timeout request controls =>
    obtain ⟨handle, posted, accepted⟩ := posted_of_ok done
    exact sent_of_post accepted (empty accepted) gatherSteps_receives
  | abandon target => exact absurd rfl (answered target)

/-- A request fails without a trace with the peer, or the peer gets it as one frame. -/
theorem tells (request : Request) (answered : ∀ target, request ≠ .abandon target)
    (flushed : session.IsFlushed) :
    session.Tells ⟨session.nextId, request.op, request.controls⟩ (request.perform.run session).1
      (request.perform.run session).2 := by
  rcases request.sent_cases flushed with same | ⟨grown, ready⟩
  · cases done : (request.perform.run session).1 with
    | error error => exact .nothing error same
    | ok finding =>
      rw [sent_of_ok answered flushed done] at same
      simp at same
  · exact .whole grown ready

end Request

end Session

end Directory
