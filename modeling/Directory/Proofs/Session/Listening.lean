import Directory.Proofs.Session.Resilience
/-!
The receiver of a session. It begins with the first request, stops by itself, and takes the session with it when
it does. So the receiver of a live session listens, once there is something to listen for.
-/
namespace Directory.Session

variable {session : Session}

theorem started_eq_stopped {receiver : Receiver} (stopped : receiver.started = .stopped) :
    receiver = .stopped := by
  cases receiver <;> simp_all [Receiver.started]

theorem receiver_release (session : Session) : session.release.receiver = session.receiver := by
  unfold release
  split <;> rfl

theorem receiver_finishBind (name : String) (outcome : Outcome) (session : Session) :
    ((finishBind name outcome).run session).2.receiver = session.receiver := by
  have entered (later : Session) (phase : Phase) : (later.enter phase).receiver = later.receiver := by
    unfold enter
    split <;> rfl
  unfold finishBind
  split
  · split
    · exact entered _ _
    · exact entered _ _
  · exact entered _ _

theorem Refuses.receiver {error : Error} {after : Session} (refused : session.Refuses error after) :
    after.receiver = session.receiver := by
  cases refused with
  | idle => rfl
  | unbound => exact receiver_release session

def Starts (before after : Session) : Prop :=
  after.receiver = before.receiver ∨
    after.receiver = before.receiver.started ∧ after.hasCarriedTraffic = true

theorem Sends.starts {message : Message} {result : Except Error Unit} {after : Session}
    (sent : session.Sends message result after) : session.Starts after := by
  cases sent with
  | released | unreadable => exact .inl rfl
  | unwritten => exact .inr ⟨receiver_terminate _ _, hasCarriedTraffic_terminate _ _⟩
  | sent => exact .inr ⟨rfl, rfl⟩

theorem Posts.starts {op : Operation} {controls : List Control} {timeout : Nat}
    {result : Except Error Handle} {after : Session}
    (posted : session.Posts op controls timeout result after) : session.Starts after := by
  cases posted with
  | refused _ _ refused => exact .inl refused.receiver
  | exhausted => exact .inl rfl
  | failed _ _ _ _ sends | posted _ _ _ sends => exact sends.starts

theorem GivesUp.starts {target : MessageId} {result : Except Error Unit} {after : Session}
    (given : session.GivesUp target result after) : session.Starts after := by
  cases given with
  | refused _ _ refused => exact .inl refused.receiver
  | exhausted => exact .inl rfl
  | told _ _ _ _ sends => exact sends.starts

theorem Secures.receiver {upgrade : Upgrade} {result : Securing} {after : Session}
    (secures : session.Secures upgrade result after) : after.receiver = session.receiver := by
  cases secures with
  | refused _ _ refused => exact refused.receiver
  | untimely | declined | secured => rfl
  | unanswered | failed => exact receiver_terminate _ _

theorem receiver_close (session : Session) : session.close.receiver = session.receiver := by
  rcases close_cases session with ⟨_, same⟩ | ⟨nextId, transport, _, closed⟩
  · rw [same]
  · rw [closed, receiver_release]
    exact receiver_terminate { session with nextId, transport } .closed

/-- Only the receiver itself stops, and only requests start it. -/
theorem Step.starts {step : Step} (other : step ≠ .takeIn) : session.Starts (step.perform session) := by
  cases step with
  | arrive | drop => exact .inl rfl
  | takeIn => exact absurd rfl other
  | number =>
    rw [perform]
    by_cases left : session.nextId ≤ Message.maxId
    · rw [nextRequestId_left left]
      exact .inl rfl
    · rw [nextRequestId_exhausted (UInt32.not_le.mp left)]
      exact .inl rfl
  | post op controls timeout => exact (post_cases session op controls timeout).starts
  | receive handle => exact .inl (receive_cases session handle).receiver
  | giveUp target => exact (giveUp_cases session target).starts
  | settle name outcome =>
    rw [perform]
    split
    · exact .inl rfl
    · exact .inl (receiver_finishBind name outcome session)
  | secure upgrade => exact .inl (startSecurity_cases session upgrade).receiver
  | close => exact .inl (receiver_close session)

/-- A receiver that has stopped has ended the session. -/
def Listens (session : Session) : Prop := session.receiver = .stopped → session.ending.isSome = true

theorem listens_takeIn (listens : session.Listens) : session.takeIn.Listens := by
  fun_induction takeIn session with
  | case1 _ _ _ _ _ ih => exact ih listens
  | case2 =>
    intro _
    rw [ending_stop]
    rfl
  | case3 => exact listens
  | case4 => exact listens

theorem Step.listens (step : Step) (listens : session.Listens) : (step.perform session).Listens := by
  by_cases taking : step = .takeIn
  · rw [taking]
    exact listens_takeIn listens
  · intro stopped
    have before : session.receiver = .stopped := by
      rcases step.starts taking with same | ⟨started, _⟩
      · exact same.symm.trans stopped
      · exact started_eq_stopped (started.symm.trans stopped)
    obtain ⟨reason, ended⟩ := Option.isSome_iff_exists.mp (listens before)
    rw [(step.evolves session).lasts reason ended]
    rfl

theorem run_listens (steps : List Step) (listens : session.Listens) : (run steps session).Listens := by
  induction steps generalizing session with
  | nil => exact listens
  | cons step rest ih => exact ih (step.listens listens)

/-- The receiver of a live session runs once something is written. -/
theorem IsNew.started {start : Session} (new : start.IsNew) (steps : List Step)
    (live : (run steps start).phase.isLive = true) : (run steps start).receiver.started = .running := by
  have fresh : start.Listens := by
    obtain ⟨transport, config, rfl | rfl⟩ := new <;> exact nofun
  have listens := run_listens steps fresh
  have going := ending_of_isLive (new.isSound_run steps) live
  cases found : (run steps start).receiver with
  | notStarted | running => rfl
  | stopped =>
    have ended := listens found
    simp [going] at ended

end Directory.Session
