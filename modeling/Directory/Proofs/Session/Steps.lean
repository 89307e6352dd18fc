import Directory.Proofs.Session.Effects
import Directory.Proofs.Session.Waiters
/-!
Runs of a session. What arrives from the server and what the receiver takes in are steps of their own, so
that a run may order them in any way between the calls. Whatever happens, numbers rise, an end is for
good, and nobody waits after it.
-/
namespace Directory.Session

inductive Step where
  | arrive (actions : List Action)
  | takeIn
  | number
  | post (op : Operation) (controls : List Control) (timeout : Nat)
  | receive (handle : Handle)
  | drop (id : MessageId)
  | giveUp (target : MessageId)
  | settle (name : String) (outcome : Outcome)
  | secure (upgrade : Upgrade)
  | close

def Step.perform (session : Session) : Step → Session
  | arrive actions => { session with transport := session.transport.deliver 0 actions }
  | takeIn => session.takeIn
  | number => (nextRequestId.run session).2
  | post op controls timeout => ((Session.post op controls timeout).run session).2
  | receive handle => ((Session.receive handle).run session).2
  | drop id => session.dropHandle id
  | giveUp target => ((Session.giveUp target).run session).2
  -- A session that was never connected has sent no bind of which something could come.
  | settle name outcome =>
    if session.phase = .idle then session else ((finishBind name outcome).run session).2
  | secure upgrade => (startSecurity upgrade session).2
  | close => session.close

def run (steps : List Step) (session : Session) : Session := steps.foldl Step.perform session

theorem run_append (first second : List Step) (session : Session) :
    run (first ++ second) session = run second (run first session) :=
  List.foldl_append ..

/-- The end of a session and its reason come together, and nobody waits after them. Only numbers that were
given out are waited for. -/
structure IsSound (session : Session) : Prop where
  unbound_iff : session.phase = .unbound ↔ session.ending.isSome = true
  closed : session.ending.isSome = true → ∀ waiter ∈ session.waiters, waiter.isOpen = false
  numbered : ∀ waiter ∈ session.waiters, waiter.id < session.nextId

/-- The session goes on with the same waiters, at most from one live phase to another, or it ends and all
waiters are closed. -/
inductive Continues (before after : Session) : Prop where
  | same : before.nextId ≤ after.nextId →
      after.phase = before.phase ∨ before.phase.isLive = true ∧ after.phase.isLive = true →
      after.ending = before.ending → after.waiters = before.waiters → Continues before after
  | ended : before.nextId ≤ after.nextId → after.phase = .unbound → before.ending = none →
      after.ending ≠ none → after.waiters = before.waiters.map Waiter.close → Continues before after

namespace Continues

theorem refl (session : Session) : session.Continues session := .same (UInt32.le_refl _) (.inl rfl) rfl rfl

theorem of_same {before after : Session} (numbers : before.nextId ≤ after.nextId)
    (phase : after.phase = before.phase) (ending : after.ending = before.ending)
    (waiters : after.waiters = before.waiters) : before.Continues after :=
  .same numbers (.inl phase) ending waiters

theorem trans {a b c : Session} (first : a.Continues b) (second : b.Continues c) : a.Continues c := by
  cases first with
  | same numbers phase ending waiters =>
    cases second with
    | same more next later still =>
      apply Continues.same (UInt32.le_trans numbers more) _ (later.trans ending) (still.trans waiters)
      rcases next with unmoved | moved
      · rwa [unmoved]
      · rcases phase with unmoved | before
        · exact .inr ⟨unmoved ▸ moved.1, moved.2⟩
        · exact .inr ⟨before.1, moved.2⟩
    | ended more unbound live past closed =>
      exact .ended (UInt32.le_trans numbers more) unbound (ending ▸ live) past (waiters ▸ closed)
  | ended numbers unbound live past closed =>
    cases second with
    | same more next later still =>
      have final : c.phase = .unbound := by
        rcases next with unmoved | moved
        · exact unmoved.trans unbound
        · simp [unbound, Phase.isLive] at moved
      exact .ended (UInt32.le_trans numbers more) final live (later ▸ past) (still.trans closed)
    | ended _ _ none => exact absurd none past

end Continues

variable {session : Session}

theorem continues_transport (transport : Transport) : session.Continues { session with transport } :=
  .of_same (UInt32.le_refl _) rfl rfl rfl

theorem continues_terminate (session : Session) (reason : Termination) :
    session.Continues (session.terminate reason) := by
  unfold terminate
  split
  · exact .refl session
  · next live => exact .ended (UInt32.le_refl _) rfl (by simpa using live) (by simp) rfl

theorem nextId_terminate (session : Session) (reason : Termination) :
    (session.terminate reason).nextId = session.nextId := by
  unfold terminate
  split <;> rfl

theorem transport_terminate (session : Session) (reason : Termination) :
    (session.terminate reason).transport = session.transport := by
  unfold terminate
  split <;> rfl

theorem receiver_terminate (session : Session) (reason : Termination) :
    (session.terminate reason).receiver = session.receiver := by
  unfold terminate
  split <;> rfl

theorem hasCarriedTraffic_terminate (session : Session) (reason : Termination) :
    (session.terminate reason).hasCarriedTraffic = session.hasCarriedTraffic := by
  unfold terminate
  split <;> rfl

theorem isSecured_terminate (session : Session) (reason : Termination) :
    (session.terminate reason).isSecured = session.isSecured := by
  unfold terminate
  split <;> rfl

theorem continues_release (session : Session) : session.Continues session.release := by
  unfold release
  split
  · exact .of_same (UInt32.le_refl _) rfl rfl rfl
  · exact .refl session

theorem continues_stop (reason : Termination) : session.Continues (session.stop reason) := by
  have stopped : session.Continues { session with receiver := .stopped } :=
    .of_same (UInt32.le_refl _) rfl rfl rfl
  exact (stopped.trans (continues_terminate _ reason)).trans (continues_release _)

theorem nextId_lt_succ (left : session.nextId ≤ Message.maxId) : session.nextId < session.nextId + 1 := by
  have bound : session.nextId.toNat ≤ 2147483647 := UInt32.le_iff_toNat_le.mp left
  rw [UInt32.lt_iff_toNat_lt, UInt32.toNat_add]
  simp
  omega

theorem nextId_le_succ (left : session.nextId ≤ Message.maxId) : session.nextId ≤ session.nextId + 1 :=
  UInt32.le_of_lt (nextId_lt_succ left)

theorem continues_counted (left : session.nextId ≤ Message.maxId) :
    session.Continues { session with nextId := session.nextId + 1 } :=
  .of_same (nextId_le_succ left) rfl rfl rfl

theorem continues_number : session.Continues (nextRequestId.run session).2 := by
  by_cases left : session.nextId ≤ Message.maxId
  · rw [nextRequestId_left left]
    exact continues_counted left
  · rw [nextRequestId_exhausted (UInt32.not_le.mp left)]
    exact .refl session

theorem Refuses.not_live {error : Error} {after : Session} (refused : session.Refuses error after) :
    session.phase.isLive = false := by
  cases refused with
  | idle idle => rw [idle, Phase.isLive]
  | unbound _ past => rw [past, Phase.isLive]

theorem Refuses.continues {error : Error} {after : Session} (refused : session.Refuses error after) :
    session.Continues after := by
  cases refused with
  | idle => exact .refl session
  | unbound => exact continues_release session

theorem Sends.continues {message : Message} {result : Except Error Unit} {after : Session}
    (sent : session.Sends message result after) : session.Continues after := by
  cases sent with
  | released => exact .refl session
  | unreadable => exact .refl session
  | unwritten failure transport =>
    have tried : session.Continues
        { session with transport, receiver := session.receiver.started, hasCarriedTraffic := true } :=
      .of_same (UInt32.le_refl _) rfl rfl rfl
    exact tried.trans (continues_terminate _ _)
  | sent transport => exact .of_same (UInt32.le_refl _) rfl rfl rfl

theorem GivesUp.continues {target : MessageId} {result : Except Error Unit} {after : Session}
    (given : session.GivesUp target result after) :
    session.phase.isLive = false ∧ session.Continues after ∨
      session.phase.isLive = true ∧ (session.forget target).Continues after := by
  cases given with
  | refused _ _ refused => exact .inl ⟨refused.not_live, refused.continues⟩
  | exhausted live => exact .inr ⟨live, .refl _⟩
  | told _ _ live left sends =>
    have counted : (session.forget target).Continues
        { session.forget target with nextId := session.nextId + 1 } := continues_counted left
    exact .inr ⟨live, counted.trans sends.continues⟩

theorem IsUntouched.continues_asked (untouched : session.IsUntouched) :
    session.Continues session.askedSecurity :=
  .of_same (nextId_le_succ untouched.left) rfl rfl rfl

theorem continues_handedOver : session.Continues { session with holdsTransport := false } :=
  .of_same (UInt32.le_refl _) rfl rfl rfl

theorem Secures.continues {upgrade : Upgrade} {result : Securing} {after : Session}
    (secured : session.Secures upgrade result after) : session.Continues after := by
  cases secured with
  | refused _ _ refused => exact refused.continues
  | untimely => exact .refl session
  | unanswered _ untouched => exact untouched.continues_asked.trans (continues_terminate _ _)
  | declined _ _ untouched => exact untouched.continues_asked
  | failed _ _ untouched =>
    exact untouched.continues_asked.trans (continues_handedOver.trans (continues_terminate _ _))
  | secured _ transport untouched =>
    exact untouched.continues_asked.trans (.of_same (UInt32.le_refl _) rfl rfl rfl)

theorem isLive_of_ne {phase : Phase} (used : phase ≠ .idle) (going : phase ≠ .unbound) :
    phase.isLive = true := by
  cases phase <;> simp_all [Phase.isLive]

theorem continues_enter {phase : Phase} (used : session.phase ≠ .idle) (live : phase.isLive = true) :
    session.Continues (session.enter phase) := by
  unfold enter
  split
  · exact .refl session
  · next going => exact .same (UInt32.le_refl _) (.inr ⟨isLive_of_ne used going, live⟩) rfl rfl

theorem continues_finishBind (name : String) (outcome : Outcome) (used : session.phase ≠ .idle) :
    session.Continues ((finishBind name outcome).run session).2 := by
  have known (identity : Option String) {phase : Phase} (live : phase.isLive = true) :
      session.Continues ({ session with identity }.enter phase) := by
    have named : session.Continues { session with identity } := .of_same (UInt32.le_refl _) rfl rfl rfl
    exact named.trans (continues_enter used live)
  unfold finishBind
  split
  · split
    · exact known none rfl
    · exact known (some name) rfl
  · exact known none rfl

theorem continues_close : session.Continues session.close := by
  rcases close_cases session with ⟨_, same⟩ | ⟨nextId, transport, numbers, closed⟩
  · rw [same]
    exact .refl session
  · rw [closed]
    have told : session.Continues { session with nextId, transport } := .of_same numbers rfl rfl rfl
    have unnamed (ended : Session) : ended.Continues { ended with identity := none } :=
      .of_same (UInt32.le_refl _) rfl rfl rfl
    exact ((told.trans (continues_terminate _ .closed)).trans (unnamed _)).trans (continues_release _)

theorem continues_settle (name : String) (outcome : Outcome) :
    session.Continues ((Step.settle name outcome).perform session) := by
  by_cases idle : session.phase = .idle
  · simp only [Step.perform, if_pos idle]
    exact .refl session
  · simp only [Step.perform, if_neg idle]
    exact continues_finishBind name outcome idle

structure Evolves (before after : Session) : Prop where
  numbers : before.nextId ≤ after.nextId
  lasts : ∀ reason, before.ending = some reason → after.ending = some reason
  sound : before.IsSound → after.IsSound
  idle : before.phase = .idle → after.phase = .idle ∨ after.phase = .unbound
  used : before.phase ≠ .idle → after.phase ≠ .idle
  unbound : before.phase = .unbound → after.phase = .unbound

namespace Evolves

theorem refl (session : Session) : session.Evolves session where
  numbers := UInt32.le_refl _
  lasts _ := id
  sound := id
  idle := .inl
  used := id
  unbound := id

theorem trans {a b c : Session} (first : a.Evolves b) (second : b.Evolves c) : a.Evolves c where
  numbers := UInt32.le_trans first.numbers second.numbers
  lasts reason ended := second.lasts reason (first.lasts reason ended)
  sound := second.sound ∘ first.sound
  idle := by
    intro idle
    rcases first.idle idle with still | past
    · exact second.idle still
    · exact .inr (second.unbound past)
  used := second.used ∘ first.used
  unbound := second.unbound ∘ first.unbound

end Evolves

theorem Continues.evolves {before after : Session} (continues : before.Continues after) :
    before.Evolves after := by
  cases continues with
  | same numbers phase ending waiters =>
    constructor
    · exact numbers
    · intro reason ended
      exact ending.trans ended
    · intro sound
      constructor
      · rw [ending, ← sound.unbound_iff]
        rcases phase with unmoved | ⟨before, after⟩
        · rw [unmoved]
        · constructor <;>
          · intro past
            simp_all [Phase.isLive]
      · rw [ending, waiters]
        exact sound.closed
      · rw [waiters]
        intro waiter member
        exact UInt32.lt_of_lt_of_le (sound.numbered waiter member) numbers
    · intro idle
      rcases phase with unmoved | ⟨before, _⟩
      · exact .inl (unmoved.trans idle)
      · simp [idle, Phase.isLive] at before
    · rintro used idle
      rcases phase with unmoved | ⟨_, after⟩
      · exact used (unmoved ▸ idle)
      · simp [idle, Phase.isLive] at after
    · intro past
      rcases phase with unmoved | ⟨before, _⟩
      · exact unmoved.trans past
      · simp [past, Phase.isLive] at before
  | ended numbers unbound live past closed =>
    constructor
    · exact numbers
    · intro reason ended
      rw [live] at ended
      cases ended
    · intro sound
      constructor
      · simpa [unbound, Option.isSome_iff_ne_none] using past
      · intro _ waiter member
        rw [closed] at member
        obtain ⟨_, _, rfl⟩ := List.mem_map.mp member
        rfl
      · intro waiter member
        rw [closed] at member
        obtain ⟨earlier, present, rfl⟩ := List.mem_map.mp member
        exact UInt32.lt_of_lt_of_le (sound.numbered earlier present) numbers
    · intro _
      exact .inr unbound
    · rintro _ idle
      rw [unbound] at idle
      cases idle
    · intro _
      exact unbound

theorem ending_terminate (session : Session) (reason : Termination) :
    (session.terminate reason).ending = some (session.ending.getD reason) := by
  unfold terminate
  cases ended : session.ending with
  | none => rfl
  | some first => exact ended

theorem isSome_ending_terminate (session : Session) (reason : Termination) :
    (session.terminate reason).ending.isSome = true := by
  rw [ending_terminate]
  rfl

theorem IsSound.terminate_unbound (sound : session.IsSound) (reason : Termination) :
    (session.terminate reason).phase = .unbound := by
  have later := (continues_terminate session reason).evolves.sound sound
  exact later.unbound_iff.mpr (isSome_ending_terminate session reason)

theorem evolves_of_waiters {waiters : List Waiter}
    (each : ∀ waiter ∈ waiters, ∃ earlier ∈ session.waiters,
      waiter.id = earlier.id ∧ (earlier.isOpen = false → waiter.isOpen = false)) :
    session.Evolves { session with waiters } := by
  constructor
  · exact UInt32.le_refl _
  · intro _ ended
    exact ended
  · intro sound
    constructor
    · exact sound.unbound_iff
    · intro ended waiter member
      obtain ⟨earlier, present, _, closed⟩ := each waiter member
      exact closed (sound.closed ended earlier present)
    · intro waiter member
      obtain ⟨earlier, present, same, _⟩ := each waiter member
      rw [same]
      exact sound.numbered earlier present
  · exact .inl
  · exact id
  · exact id

theorem evolves_updateWaiter {id : MessageId} {change : Waiter → Waiter}
    (named : ∀ waiter, (change waiter).id = waiter.id)
    (keeps : ∀ waiter : Waiter, waiter.isOpen = false → (change waiter).isOpen = false) :
    session.Evolves (session.updateWaiter id change) := by
  apply evolves_of_waiters
  intro waiter member
  obtain ⟨earlier, present, rfl⟩ := List.mem_map.mp member
  split
  · exact ⟨earlier, present, named earlier, keeps earlier⟩
  · exact ⟨earlier, present, rfl, fun closed => closed⟩

theorem evolves_forget (id : MessageId) : session.Evolves (session.forget id) :=
  evolves_updateWaiter (fun _ => rfl) fun _ _ => rfl

theorem isOpen_take (message : Message) {waiter : Waiter} (closed : waiter.isOpen = false) :
    (waiter.take message).isOpen = false := by
  simp [Waiter.take, closed]

theorem evolves_route (message : Message) : session.Evolves (session.route message) :=
  evolves_updateWaiter (id_take message) fun _ => isOpen_take message

theorem evolves_dropHandle (id : MessageId) : session.Evolves (session.dropHandle id) := by
  apply evolves_of_waiters
  intro waiter member
  exact ⟨waiter, (List.mem_filter.mp member).1, rfl, fun closed => closed⟩

theorem evolves_takeIn (session : Session) : session.Evolves session.takeIn := by
  fun_induction takeIn session with
  | case1 session _ message transport _ ih =>
    have taken : session.Continues { session with transport } := continues_transport transport
    exact taken.evolves.trans ((evolves_route message).trans ih)
  | case2 session _ reason transport _ =>
    have taken : session.Continues { session with transport } := continues_transport transport
    exact (taken.trans (continues_stop reason)).evolves
  | case3 => exact .refl _
  | case4 => exact .refl _

theorem evolves_opened (live : session.phase.isLive = true) (left : session.nextId ≤ Message.maxId) :
    session.Evolves session.opened := by
  constructor
  · exact nextId_le_succ left
  · intro _ ended
    exact ended
  · intro sound
    constructor
    · exact sound.unbound_iff
    -- A live session has not ended, so that the new waiter may be open.
    · intro ended
      have past : session.phase = .unbound := sound.unbound_iff.mpr ended
      simp [past, Phase.isLive] at live
    · intro waiter member
      rcases List.mem_append.mp member with before | last
      · have present := (List.mem_filter.mp before).1
        exact UInt32.lt_of_lt_of_le (sound.numbered waiter present) (nextId_le_succ left)
      · rw [List.mem_singleton.mp last]
        exact nextId_lt_succ left
  · exact .inl
  · exact id
  · exact id

theorem Posts.evolves {op : Operation} {controls : List Control} {timeout : Nat}
    {result : Except Error Handle} {after : Session}
    (posted : session.Posts op controls timeout result after) : session.Evolves after := by
  cases posted with
  | refused _ _ refused => exact refused.continues.evolves
  | exhausted => exact .refl _
  | failed _ sent live left sends =>
    exact (evolves_opened live left).trans (sends.continues.evolves.trans (evolves_dropHandle _))
  | posted _ live left sends => exact (evolves_opened live left).trans sends.continues.evolves

theorem GivesUp.evolves {target : MessageId} {result : Except Error Unit} {after : Session}
    (given : session.GivesUp target result after) : session.Evolves after := by
  rcases given.continues with ⟨_, refused⟩ | ⟨_, forgotten⟩
  · exact refused.evolves
  · exact (evolves_forget target).trans forgotten.evolves

theorem Receives.evolves {handle : Handle} {result : Except Error Message} {after : Session}
    (received : session.Receives handle result after) : session.Evolves after := by
  cases received with
  | message => exact evolves_updateWaiter (fun _ => rfl) fun _ => id
  | timedOut => exact evolves_forget _
  | spent => exact .refl _

theorem Step.evolves (step : Step) (session : Session) : session.Evolves (step.perform session) := by
  cases step with
  | arrive actions => exact (continues_transport _).evolves
  | takeIn => exact evolves_takeIn session
  | number => exact continues_number.evolves
  | post op controls timeout => exact (post_cases session op controls timeout).evolves
  | receive handle => exact (receive_cases session handle).evolves
  | drop id => exact evolves_dropHandle id
  | giveUp target => exact (giveUp_cases session target).evolves
  | settle name outcome => exact (continues_settle name outcome).evolves
  | secure upgrade => exact (startSecurity_cases session upgrade).continues.evolves
  | close => exact continues_close.evolves

theorem run_evolves (steps : List Step) (session : Session) : session.Evolves (run steps session) := by
  induction steps generalizing session with
  | nil => exact .refl _
  | cons step rest ih => exact (step.evolves session).trans (ih _)

def IsNew (session : Session) : Prop :=
  ∃ transport config, session = .ofTransport transport config ∨ session = .establish transport config

theorem IsNew.isSound {session : Session} (new : session.IsNew) : session.IsSound := by
  obtain ⟨transport, config, rfl | rfl⟩ := new
  · exact ⟨by simp [ofTransport], by simp [ofTransport], by simp [ofTransport]⟩
  · exact ⟨by simp [establish], by simp [establish], by simp [establish]⟩

/-- Whatever was done on a session that was new, it is sound. -/
theorem IsNew.isSound_run {start : Session} (new : start.IsNew) (steps : List Step) : (run steps start).IsSound :=
  (run_evolves steps start).sound new.isSound

end Directory.Session
