import Directory.Proofs.Session.Isolation
import Directory.Proofs.Session.Lifecycle
/-!
The end of a transport. A session shuts its transport down once, as the last thing that is done with it, or
loses it to an upgrade that fails. A session without a transport has ended, and closing it changes nothing.
-/
namespace Directory.Session

open Transport (Deed)

variable {session : Session}

def Step.forfeits (session : Session) : Step → Bool
  | secure upgrade =>
    match (startSecurity upgrade session).1.handedOver with
    | some plain => !(upgrade plain).isOk
    | none => false
  | _ => false

def Step.deeds (session : Session) (step : Step) : List Deed :=
  (step.frames session).map .write ++
    if session.holdsTransport && !(step.perform session).holdsTransport && !step.forfeits session
    then [.shutdown] else []

def deeds : List Step → Session → List Deed
  | [], _ => []
  | step :: rest, session => step.deeds session ++ deeds rest (step.perform session)

def forfeited : List Step → Session → Bool
  | [], _ => false
  | step :: rest, session => step.forfeits session || forfeited rest (step.perform session)

/-- The deeds of a step are what happens to its transport, which is exchanged for another after that if the
step makes the session secure. -/
def Step.Shows (session : Session) (step : Step) : Prop :=
  session.transport.Does (step.deeds session) (step.perform session).transport ∨
    ∃ upgrade returned, step = .secure upgrade ∧ session.Exchanges upgrade returned ∧
      session.transport.Does (step.deeds session) session.askSecurity.2

structure Keeps (before : Session) (frames : List Octets) (after : Session) : Prop where
  does : before.transport.Does (frames.map .write) after.transport
  held : after.holdsTransport = before.holdsTransport

inductive Parts (before : Session) (frames : List Octets) : Session → Prop where
  | kept {after : Session} : before.Keeps frames after → Parts before frames after
  | shut {last : Session} : before.Keeps frames last → last.phase = .unbound → Parts before frames last.release

theorem Keeps.refl (session : Session) : session.Keeps [] session := ⟨.refl _, rfl⟩

theorem Keeps.trans {a b c : Session} {first second : List Octets} (one : a.Keeps first b)
    (other : b.Keeps second c) : a.Keeps (first ++ second) c := by
  constructor
  · rw [List.map_append]
    exact one.does.trans other.does
  · exact other.held.trans one.held

theorem Keeps.parts {a b c : Session} {first second : List Octets} (one : a.Keeps first b)
    (other : b.Parts second c) : a.Parts (first ++ second) c := by
  cases other with
  | kept keeps => exact .kept (one.trans keeps)
  | shut keeps past => exact .shut (one.trans keeps) past

theorem keeps_terminate (session : Session) (reason : Termination) :
    session.Keeps [] (session.terminate reason) := by
  unfold terminate
  split
  · exact .refl session
  · exact ⟨.refl _, rfl⟩

theorem parts_takeIn (sound : session.IsSound) : session.Parts [] session.takeIn := by
  have read {session : Session} {result : Except Termination Message} {transport : Transport}
      (next : session.nextMessage? = some (result, transport)) : session.Keeps [] { session with transport } :=
    ⟨.read (nextMessage?_readsTo next), rfl⟩
  fun_induction takeIn session with
  | case1 session _ message transport next ih =>
    have routed : { session with transport }.Keeps [] ({ session with transport }.route message) :=
      ⟨.refl _, rfl⟩
    have taken : session.Continues { session with transport } := continues_transport transport
    have later := (evolves_route message).sound (taken.evolves.sound sound)
    exact ((read next).trans routed).parts (ih later)
  | case2 session _ reason transport next =>
    have stopped : { session with transport }.Keeps [] { session with transport, receiver := .stopped } :=
      ⟨.refl _, rfl⟩
    have halted : session.Continues { session with transport, receiver := .stopped } :=
      .of_same (UInt32.le_refl _) rfl rfl rfl
    have past := (halted.evolves.sound sound).terminate_unbound reason
    exact .shut (((read next).trans stopped).trans (keeps_terminate _ reason)) past
  | case3 => exact .kept (.refl _)
  | case4 => exact .kept (.refl _)

theorem Refuses.parts {error : Error} {after : Session} (refused : session.Refuses error after) :
    session.Parts [] after := by
  cases refused with
  | idle => exact .kept (.refl session)
  | unbound _ past => exact .shut (.refl session) past

theorem Sends.keeps {message : Message} {result : Except Error Unit} {after : Session}
    (sent : session.Sends message result after) :
    session.Keeps (if session.IsWritable then [message.encode] else []) after := by
  have sent_to := Transport.Does.send session.transport message.encode
  cases sent with
  | released free =>
    rw [if_neg fun writable => by simp [writable.1] at free]
    exact .refl session
  | unreadable text _ unread failing =>
    rw [if_neg fun writable => by simp [writable.2 unread] at failing]
    exact .refl session
  | unwritten failure transport held readable failed =>
    rw [if_pos ⟨held, readable⟩]
    rw [failed] at sent_to
    have wrote : session.Keeps [message.encode]
        { session with transport, receiver := session.receiver.started, hasCarriedTraffic := true } :=
      ⟨sent_to, rfl⟩
    exact wrote.trans (keeps_terminate _ _)
  | sent transport held readable written =>
    rw [if_pos ⟨held, readable⟩]
    rw [written] at sent_to
    exact ⟨sent_to, rfl⟩

theorem Posts.parts {op : Operation} {controls : List Control} {timeout : Nat}
    {result : Except Error Handle} {after : Session}
    (posted : session.Posts op controls timeout result after) :
    session.Parts (session.requested op controls) after := by
  have opened : session.Keeps [] session.opened := ⟨.refl _, rfl⟩
  cases posted with
  | refused _ _ refused =>
    rw [refused.requested]
    exact refused.parts
  | exhausted _ none =>
    rw [requested_of_exhausted none]
    exact .kept (.refl session)
  | failed error after live left sends =>
    have dropped : after.Keeps [] (after.dropHandle session.nextId) := ⟨.refl _, rfl⟩
    have kept := opened.trans (sends.keeps.trans dropped)
    rw [List.append_nil] at kept
    rw [requested_of_live live left]
    exact .kept kept
  | posted after live left sends =>
    rw [requested_of_live live left]
    exact .kept (opened.trans sends.keeps)

theorem GivesUp.parts {target : MessageId} {result : Except Error Unit} {after : Session}
    (given : session.GivesUp target result after) :
    session.Parts (session.requested (.abandonRequest target) []) after := by
  cases given with
  | refused _ _ refused =>
    rw [refused.requested]
    exact refused.parts
  | exhausted _ none =>
    rw [requested_of_exhausted none]
    exact .kept ⟨.refl _, rfl⟩
  | told _ _ live left sends =>
    have forgotten : session.Keeps [] { session.forget target with nextId := session.nextId + 1 } :=
      ⟨.refl _, rfl⟩
    rw [requested_of_live live left]
    exact .kept (forgotten.trans sends.keeps)

theorem Receives.keeps {handle : Handle} {result : Except Error Message} {after : Session}
    (received : session.Receives handle result after) : session.Keeps [] after := by
  cases received with
  | message => exact ⟨.refl _, rfl⟩
  | timedOut => exact ⟨.refl _, rfl⟩
  | spent => exact .refl session

theorem keeps_number : session.Keeps [] (nextRequestId.run session).2 := by
  by_cases left : session.nextId ≤ Message.maxId
  · rw [nextRequestId_left left]
    exact ⟨.refl _, rfl⟩
  · rw [nextRequestId_exhausted (UInt32.not_le.mp left)]
    exact .refl session

theorem keeps_settle (name : String) (outcome : Outcome) :
    session.Keeps [] ((Step.settle name outcome).perform session) := by
  have known (identity : Option String) (phase : Phase) :
      session.Keeps [] ({ session with identity }.enter phase) := by
    unfold enter
    split <;> exact ⟨.refl _, rfl⟩
  dsimp only [Step.perform]
  split
  · exact .refl session
  · unfold finishBind
    split
    · split
      · exact known none .connected
      · exact known (some name) .bound
    · exact known none .connected

theorem parts_close (sound : session.IsSound) :
    session.Parts (Step.close.frames session) session.close := by
  unfold Session.close
  by_cases held : session.holdsTransport = true
  · obtain ⟨nextId, transport, numbers, told, does⟩ := does_farewell held
    rw [if_pos held, told]
    have said : session.Keeps (Step.close.frames session) { session with nextId, transport } := ⟨does, rfl⟩
    have unnamed (ended : Session) : ended.Keeps [] { ended with identity := none } := ⟨.refl _, rfl⟩
    have continues : session.Continues { session with nextId, transport } := .of_same numbers rfl rfl rfl
    have past := (continues.evolves.sound sound).terminate_unbound .closed
    have kept := said.trans ((keeps_terminate _ .closed).trans (unnamed _))
    rw [List.append_nil, List.append_nil] at kept
    exact .shut kept past
  · dsimp only [Step.frames]
    rw [if_neg held, if_neg fun ready => held ready.2.2]
    exact .kept (.refl session)

inductive Step.Treats (session : Session) (step : Step) : Prop where
  | parts : session.Parts (step.frames session) (step.perform session) →
      step.forfeits session = false → Treats session step
  | forfeits : session.transport.Does ((step.frames session).map .write) (step.perform session).transport →
      session.IsUntouched → (step.perform session).holdsTransport = false →
      (step.perform session).phase = .unbound → step.forfeits session = true → Treats session step
  | exchanges (upgrade : Upgrade) (returned : Transport) : step = .secure upgrade →
      session.Exchanges upgrade returned →
      session.transport.Does ((step.frames session).map .write) session.askSecurity.2 → Treats session step

theorem keeps_askSecurity (untouched : session.IsUntouched) (upgrade : Upgrade) :
    session.Keeps ((Step.secure upgrade).frames session) session.askedSecurity := by
  rw [secure_frames untouched]
  exact ⟨Transport.does_converse _ _ _ _ _, rfl⟩

theorem startSecurity_treats (sound : session.IsSound) (upgrade : Upgrade) :
    (Step.secure upgrade).Treats session := by
  have secures := startSecurity_cases session upgrade
  generalize attempt_eq : startSecurity upgrade session = attempt at secures
  obtain ⟨⟨handedOver, result⟩, after⟩ := attempt
  have performed : (Step.secure upgrade).perform session = after := by rw [Step.perform, attempt_eq]
  have spared (nothing : handedOver = none)
      (parts : session.Parts ((Step.secure upgrade).frames session) after) :
      (Step.secure upgrade).Treats session := by
    apply Step.Treats.parts
    · rw [performed]
      exact parts
    · simp [Step.forfeits, attempt_eq, nothing]
  have silent (touched : ¬session.IsUntouched) : (Step.secure upgrade).frames session = [] := if_neg touched
  cases secures with
  | refused error _ refused =>
    apply spared rfl
    rw [silent refused.not_untouched]
    exact refused.parts
  | untimely error touched =>
    apply spared rfl
    rw [silent touched]
    exact .kept (.refl _)
  | unanswered error untouched =>
    have ended := (keeps_askSecurity untouched upgrade).trans
      (keeps_terminate _ (.lost s!"StartTLS failed: {error.message}"))
    rw [List.append_nil] at ended
    exact spared rfl (.kept ended)
  | declined _ _ untouched => exact spared rfl (.kept (keeps_askSecurity untouched upgrade))
  -- The upgrade has the transport and does not give it back, so that there is nothing to shut down.
  | failed message error untouched answered failed =>
    have gone := untouched.continues_asked.trans continues_handedOver
    have past := (gone.evolves.sound sound).terminate_unbound
      (.lost s!"security upgrade failed: {error.message}")
    have ended := keeps_terminate { session.askedSecurity with holdsTransport := false }
      (.lost s!"security upgrade failed: {error.message}")
    have does := (keeps_askSecurity untouched upgrade).does.trans ended.does
    rw [List.map_nil, List.append_nil] at does
    apply Step.Treats.forfeits
    · rw [performed]
      exact does
    · exact untouched
    · rw [performed]
      exact ended.held
    · rw [performed]
      exact past
    · simp [Step.forfeits, attempt_eq, failed, Except.isOk, Except.toBool]
  | secured message returned untouched answered upgraded =>
    exact .exchanges upgrade returned rfl ⟨untouched, ⟨message, answered⟩, upgraded, attempt_eq⟩
      (keeps_askSecurity untouched upgrade).does

theorem Step.treats (step : Step) (sound : session.IsSound) : step.Treats session := by
  cases step with
  | arrive actions => exact .parts (.kept ⟨.deliver _ 0 actions, rfl⟩) rfl
  | takeIn => exact .parts (parts_takeIn sound) rfl
  | number => exact .parts (.kept keeps_number) rfl
  | post op controls timeout => exact .parts (post_cases session op controls timeout).parts rfl
  | receive handle => exact .parts (.kept (receive_cases session handle).keeps) rfl
  | drop id => exact .parts (.kept ⟨.refl _, rfl⟩) rfl
  | giveUp target => exact .parts (giveUp_cases session target).parts rfl
  | settle name outcome => exact .parts (.kept (keeps_settle name outcome)) rfl
  | secure upgrade => exact startSecurity_treats sound upgrade
  | close => exact .parts (parts_close sound) rfl

theorem Exchanges.held {upgrade : Upgrade} {returned : Transport}
    (exchanged : session.Exchanges upgrade returned) :
    ((Step.secure upgrade).perform session).holdsTransport = true := by
  rw [Step.perform, exchanged.secured]
  exact exchanged.untouched.held

theorem Step.deeds_of_held {step : Step} (held : (step.perform session).holdsTransport = true) :
    step.deeds session = (step.frames session).map .write := by
  simp [Step.deeds, held]

theorem Step.shows (step : Step) (sound : session.IsSound) : step.Shows session := by
  cases step.treats sound with
  | parts parts kept =>
    left
    generalize after_eq : step.perform session = after at parts
    cases parts with
    | kept keeps =>
      have silent : (session.holdsTransport && !after.holdsTransport && !step.forfeits session) = false := by
        simp [keeps.held]
      rw [Step.deeds, after_eq, silent]
      simpa using keeps.does
    | @shut last keeps past =>
      rw [Step.deeds, after_eq, kept, holdsTransport_release]
      unfold release
      cases held : last.holdsTransport with
      | true =>
        simpa [← keeps.held, held] using keeps.does.trans (.shutdown last.transport)
      | false => simpa [← keeps.held, held] using keeps.does
  | forfeits does _ _ _ lost =>
    left
    simpa [Step.deeds, lost] using does
  | exchanges upgrade returned same exchanged does =>
    right
    subst same
    rw [Step.deeds_of_held exchanged.held]
    exact ⟨upgrade, returned, rfl, exchanged, does⟩

theorem phase_release (session : Session) : session.release.phase = session.phase := by
  unfold release
  split <;> rfl

/-- A step that leaves the session without a transport has ended it. -/
theorem Step.unbound_of_released {step : Step} (sound : session.IsSound)
    (earlier : session.holdsTransport = false → session.phase = .unbound)
    (free : (step.perform session).holdsTransport = false) : (step.perform session).phase = .unbound := by
  cases step.treats sound with
  | parts parts _ =>
    generalize after_eq : step.perform session = after at parts free
    cases parts with
    | kept keeps =>
      have past := earlier (keeps.held.symm.trans free)
      rw [← after_eq]
      exact (step.evolves session).unbound past
    | shut _ past => rw [phase_release, past]
  | forfeits _ _ _ past => exact past
  | exchanges upgrade returned same exchanged =>
    subst same
    rw [exchanged.held] at free
    cases free

theorem run_unbound_of_released (steps : List Step) (sound : session.IsSound)
    (earlier : session.holdsTransport = false → session.phase = .unbound)
    (free : (run steps session).holdsTransport = false) : (run steps session).phase = .unbound := by
  induction steps generalizing session with
  | nil => exact earlier free
  | cons step rest ih =>
    exact ih ((step.evolves session).sound sound) (Step.unbound_of_released sound earlier) free

theorem Step.frames_of_released (step : Step) (free : session.holdsTransport = false) :
    step.frames session = [] := by
  have unheld : session.holdsTransport ≠ true := by simp [free]
  have silent (op : Operation) (controls : List Control) : session.requested op controls = [] :=
    if_neg fun ready => unheld ready.2.2.1
  cases step with
  | post op controls timeout => exact silent op controls
  | giveUp target => exact silent (.abandonRequest target) []
  | secure upgrade => exact if_neg fun untouched => unheld untouched.held
  | close => exact if_neg fun ready => unheld ready.2.2
  | _ => rfl

theorem Step.forfeits_of_released {step : Step} (sound : session.IsSound)
    (free : session.holdsTransport = false) : step.forfeits session = false := by
  cases step.treats sound with
  | parts _ kept => exact kept
  | forfeits _ untouched =>
    have held := untouched.held
    rw [free] at held
    cases held
  | exchanges upgrade returned same exchanged =>
    have held := exchanged.untouched.held
    rw [free] at held
    cases held

theorem Step.forfeits_of_secured {step : Step} (sound : session.IsSound)
    (secured : session.isSecured = true) : step.forfeits session = false := by
  cases step.treats sound with
  | parts _ kept => exact kept
  | forfeits _ untouched =>
    rw [untouched.plain] at secured
    cases secured
  | exchanges upgrade returned same exchanged =>
    rw [exchanged.untouched.plain] at secured
    cases secured

theorem Step.released {step : Step} (free : session.holdsTransport = false) :
    (step.perform session).holdsTransport = false := by
  rcases step.handles_or_exchanges session with kept | ⟨_, _, _, exchanged⟩
  · exact kept.released free
  · have held := exchanged.untouched.held
    rw [free] at held
    cases held

/-- Without a transport nothing is done any more. -/
theorem run_of_released (steps : List Step) (sound : session.IsSound)
    (free : session.holdsTransport = false) :
    frames steps session = [] ∧ deeds steps session = [] ∧ forfeited steps session = false ∧
      (run steps session).holdsTransport = false := by
  induction steps generalizing session with
  | nil => exact ⟨rfl, rfl, rfl, free⟩
  | cons step rest ih =>
    obtain ⟨silent, idle, spared, still⟩ := ih ((step.evolves session).sound sound) (Step.released free)
    have quiet := step.frames_of_released free
    refine ⟨?_, ?_, ?_, still⟩
    · rw [frames, quiet, silent, List.nil_append]
    · simp [deeds, Step.deeds, quiet, idle, free]
    · rw [forfeited, Step.forfeits_of_released sound free, spared, Bool.or_false]

theorem Step.released_of_forfeits {step : Step} (sound : session.IsSound)
    (lost : step.forfeits session = true) : (step.perform session).holdsTransport = false := by
  cases step.treats sound with
  | parts _ kept =>
    rw [kept] at lost
    cases lost
  | forfeits _ _ gone => exact gone
  | exchanges upgrade returned same exchanged =>
    subst same
    simp [Step.forfeits, exchanged.secured, exchanged.upgraded, Except.isOk, Except.toBool] at lost

/-- All frames come first. Then the transport is shut down, unless it is still there or was given away. -/
theorem deeds_of_held (steps : List Step) (sound : session.IsSound) (held : session.holdsTransport = true) :
    deeds steps session = (frames steps session).map .write ++
      if (run steps session).holdsTransport || forfeited steps session then [] else [.shutdown] := by
  induction steps generalizing session with
  | nil => simp [deeds, frames, run, held]
  | cons step rest ih =>
    have later := (step.evolves session).sound sound
    have onwards : run (step :: rest) session = run rest (step.perform session) := rfl
    rw [deeds, frames, forfeited, onwards]
    -- Either the transport outlives this step, or nothing is done with it after this step.
    cases still : (step.perform session).holdsTransport with
    | true =>
      have spared : step.forfeits session = false := by
        rw [← Bool.not_eq_true]
        intro lost
        rw [Step.released_of_forfeits sound lost] at still
        cases still
      rw [Step.deeds_of_held still, ih later still, spared, Bool.false_or, List.map_append,
        List.append_assoc]
    | false =>
      obtain ⟨silent, idle, spared, gone⟩ := run_of_released rest later still
      rw [idle, silent, gone, spared, Step.deeds, held, still]
      cases step.forfeits session <;> simp

theorem holdsTransport_close (session : Session) : session.close.holdsTransport = false := by
  rcases close_cases session with ⟨free, same⟩ | ⟨_, _, _, closed⟩
  · rw [same, free]
  · rw [closed, holdsTransport_release]

theorem forfeited_append_close (steps : List Step) (session : Session) :
    forfeited (steps ++ [.close]) session = forfeited steps session := by
  induction steps generalizing session with
  | nil => rfl
  | cons step rest ih => rw [List.cons_append, forfeited, forfeited, ih]

theorem run_close (steps : List Step) (session : Session) :
    run (steps ++ [.close]) session = (run steps session).close := by
  rw [run_append]
  rfl

theorem IsNew.held {start : Session} (new : start.IsNew) : start.holdsTransport = true := by
  obtain ⟨transport, config, rfl | rfl⟩ := new <;> rfl

theorem IsNew.unbound_of_released {start : Session} (new : start.IsNew) (steps : List Step)
    (free : (run steps start).holdsTransport = false) : (run steps start).phase = .unbound := by
  apply run_unbound_of_released steps new.isSound _ free
  intro none
  rw [new.held] at none
  cases none

theorem forfeited_of_secured (steps : List Step) (sound : session.IsSound)
    (secured : session.isSecured = true) : forfeited steps session = false := by
  induction steps generalizing session with
  | nil => rfl
  | cons step rest ih =>
    have still := (step.handles_of_secured secured).secured.trans secured
    rw [forfeited, Step.forfeits_of_secured sound secured, ih ((step.evolves session).sound sound) still]
    rfl

/-- Unless a run makes the session secure, all its deeds are done to the transport it began with. -/
theorem run_does (steps : List Step) (sound : session.IsSound)
    (alike : (run steps session).isSecured = session.isSecured) :
    session.transport.Does (deeds steps session) (run steps session).transport := by
  induction steps generalizing session with
  | nil => exact .refl _
  | cons step rest ih =>
    rcases step.handles_or_exchanges session with kept | ⟨upgrade, returned, rfl, exchanged⟩
    · have later := ih ((step.evolves session).sound sound) (alike.trans kept.secured.symm)
      rcases step.shows sound with does | ⟨upgrade, returned, rfl, exchanged, _⟩
      · exact does.trans later
      · have secured := kept.secured.symm.trans exchanged.isSecured
        rw [exchanged.untouched.plain] at secured
        cases secured
    -- What is secure once stays so, and that was not so before.
    · have still := (run_handles_of_secured rest exchanged.isSecured).secured.trans exchanged.isSecured
      have secured : session.isSecured = true := alike.symm.trans still
      rw [exchanged.untouched.plain] at secured
      cases secured

theorem run_shutdowns (steps : List Step) (sound : session.IsSound) (held : session.holdsTransport = true)
    (free : (run steps session).holdsTransport = false)
    (alike : (run steps session).isSecured = session.isSecured) :
    (run steps session).transport.shutdowns =
      session.transport.shutdowns + if forfeited steps session then 0 else 1 := by
  have counted := (run_does steps sound alike).shutdowns_eq
  have unshut : ((frames steps session).map Deed.write).count .shutdown = 0 := by
    simp [List.count_eq_zero]
  rw [counted, deeds_of_held steps sound held, free, Bool.false_or, List.count_append, unshut]
  cases forfeited steps session <;> rfl

/-- Only a live session says farewell. -/
theorem frames_close_of_ne_nil (told : Step.close.frames session ≠ []) :
    (session.phase = .connected ∨ session.phase = .bound) ∧
      Step.close.frames session = [session.nextFrame .unbindRequest []] := by
  have ready : session.phase.isLive = true ∧ session.nextId ≤ Message.maxId ∧
      session.holdsTransport = true := by
    apply Classical.byContradiction
    intro unready
    exact told (if_neg unready)
  refine ⟨?_, if_pos ready⟩
  have live := ready.1
  cases phase : session.phase with
  | connected => exact .inl rfl
  | bound => exact .inr rfl
  | idle | unbound =>
    rw [phase] at live
    cases live

/-- A session that is dropped in the end has shut its transport down once, after all that it wrote, or has
lost it to an upgrade that failed; the transport itself, the first or the secure one, counts as many. A
farewell is the last frame, and is written by live sessions only. -/
theorem released_once {start : Session} (new : start.IsNew) (steps : List Step) :
    deeds (steps ++ [.close]) start =
        (frames (steps ++ [.close]) start).map .write ++
          (if forfeited steps start then [] else [.shutdown]) ∧
      ((run (steps ++ [.close]) start).isSecured = false →
        (run (steps ++ [.close]) start).transport.shutdowns =
          start.transport.shutdowns + if forfeited steps start then 0 else 1) ∧
      (∀ done upgrade returned rest, steps ++ [.close] = done ++ .secure upgrade :: rest →
        (run done start).Exchanges upgrade returned →
          (run (steps ++ [.close]) start).transport.shutdowns = returned.shutdowns + 1) ∧
      (∀ done step rest, steps ++ [.close] = done ++ step :: rest → step.Shows (run done start)) ∧
      ∀ done rest, steps ++ [.close] = done ++ .close :: rest →
        Step.close.frames (run done start) ≠ [] →
          ((run done start).phase = .connected ∨ (run done start).phase = .bound) ∧
          Step.close.frames (run done start) = [(run done start).nextFrame .unbindRequest []] ∧
          frames rest (run (done ++ [.close]) start) = [] := by
  have free : (run (steps ++ [.close]) start).holdsTransport = false := by
    rw [run_close]
    exact holdsTransport_close _
  refine ⟨?_, ?_, ?_, ?_, ?_⟩
  · rw [deeds_of_held _ new.isSound new.held, free, Bool.false_or, forfeited_append_close]
  · intro plain
    have counted := run_shutdowns (steps ++ [.close]) new.isSound new.held free (plain.trans new.plain.symm)
    rwa [forfeited_append_close] at counted
  · intro done upgrade returned rest parted exchanged
    have sound := ((Step.secure upgrade).evolves _).sound (new.isSound_run done)
    have onwards : run (steps ++ [.close]) start =
        run rest ((Step.secure upgrade).perform (run done start)) := by
      rw [parted, run_append]
      rfl
    have still := (run_handles_of_secured rest exchanged.isSecured).secured
    rw [onwards] at free ⊢
    rw [run_shutdowns rest sound exchanged.held free still, exchanged.transport,
      forfeited_of_secured rest sound exchanged.isSecured]
    rfl
  · intro done step rest _
    exact step.shows (new.isSound_run done)
  · intro done rest _ told
    obtain ⟨live, farewell⟩ := frames_close_of_ne_nil told
    have sound := new.isSound_run (done ++ [.close])
    refine ⟨live, farewell, ?_⟩
    rw [run_close] at sound ⊢
    exact (run_of_released rest sound (holdsTransport_close _)).1

def clogged : Session :=
  establish { script := [.flushFailure "broken pipe"], shutdownFailure := some "not connected" } {}

def brokenOff : List Step :=
  [.post (.deleteRequest .root) [] 10, .post (.deleteRequest .root) [] 10, .close]

theorem deeds_brokenOff :
    clogged.IsNew ∧ deeds (brokenOff ++ [.close]) clogged =
      [.write (Message.encode ⟨1, .deleteRequest .root, []⟩), .shutdown] := by
  have new : clogged.IsNew := ⟨_, _, .inr rfl⟩
  have written : frames (brokenOff ++ [.close]) clogged =
      [Message.encode ⟨1, .deleteRequest .root, []⟩] := by decide +kernel
  have spared : forfeited brokenOff clogged = false := by decide +kernel
  have done := (released_once new brokenOff).1
  rw [written, spared] at done
  exact ⟨new, done⟩

theorem identity_release (session : Session) : session.release.identity = session.identity := by
  unfold release
  split <;> rfl

theorem identity_close (session : Session) :
    session.close.identity = if session.holdsTransport then none else session.identity := by
  unfold Session.close
  split
  · rw [identity_release]
  · rfl

theorem close_of_released (free : session.holdsTransport = false) : session.close = session := by
  rw [Session.close, free]
  rfl

/-- After a close the session has ended, nobody waits, there is no transport, and closing again does nothing.
The client is anonymous if the session still had its transport. One that had lost it before is left as it
is, with the name that the server knew the client by. -/
theorem close_leaves {start session : Session} (new : start.IsNew) (acts : List Act)
    (reached : enact acts start = session) :
    session.close.phase = .unbound ∧ session.close.pendingCount = 0 ∧
      session.close.holdsTransport = false ∧
      session.close.identity = (if session.holdsTransport then none else session.identity) ∧
      (session.holdsTransport = false → session.phase = .unbound) ∧
      session.close.close = session.close ∧ Step.close.deeds session.close = [] := by
  obtain ⟨steps, ran⟩ := exists_run_of_enact acts start
  rw [reached] at ran
  have free := holdsTransport_close session
  have sound := new.isSound_run (steps ++ [.close])
  have past := new.unbound_of_released (steps ++ [.close])
  rw [run_close, ran] at sound past
  refine ⟨past free, ?_, free, identity_close session, ?_, close_of_released free, ?_⟩
  · exact sound.pendingCount (sound.unbound_iff.mp (past free))
  · intro gone
    have ended := new.unbound_of_released steps
    rw [ran] at ended
    exact ended gone
  · simp [Step.deeds, Step.frames_of_released _ free, free]

def welcoming : Session :=
  establish { script := [.actions [.message none (.bindResponse ⟨.success, "", "", []⟩ none) []]] } {}

def boundAndCutOff : List Act :=
  [.call (.bind "cn=admin" "secret"), .step (.arrive [.close]), .step .takeIn]

theorem close_boundAndCutOff :
    welcoming.IsNew ∧ (enact boundAndCutOff welcoming).close.phase = .unbound ∧
      (enact boundAndCutOff welcoming).close.pendingCount = 0 := by
  have new : welcoming.IsNew := ⟨_, _, .inr rfl⟩
  have left := close_leaves new boundAndCutOff rfl
  exact ⟨new, left.1, left.2.1⟩

/-- A client that is not anonymous after its session was closed. -/
theorem named_after_close :
    welcoming.IsNew ∧ (enact boundAndCutOff welcoming).close.identity = some "cn=admin" :=
  ⟨⟨_, _, .inr rfl⟩, by decide +kernel⟩

end Directory.Session
