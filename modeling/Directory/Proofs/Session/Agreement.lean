import Directory.Proofs.Session.Likeness
/-!
Actions on two sessions that are alike. Most of what is done with a session never looks at the stream, and
comes to the same on both; the exchange that asks for security does if what it finds on the streams does.
-/
namespace Directory

variable {manner : Manner}

namespace SessionM

/-- The action comes to the same on two sessions that are alike, and leaves them alike. -/
def Agrees (manner : Manner) (action : SessionM α) : Prop :=
  ∀ ⦃one other : Session⦄, one.Alike manner other →
    (action.run one).1 = (action.run other).1 ∧ (action.run one).2.Alike manner (action.run other).2

theorem Agrees.bind {action : SessionM α} {next : α → SessionM β} (first : action.Agrees manner)
    (second : ∀ a, (next a).Agrees manner) : (action >>= next).Agrees manner := by
  intro one other alike
  obtain ⟨same, later⟩ := first alike
  obtain ⟨result, left, right, here, there⟩ := exists_of_fst_eq same
  rw [here, there] at later
  rw [run_bind, run_bind, here, there]
  cases result with
  | ok a => exact second a later
  | error error => exact ⟨rfl, later⟩

theorem agrees_modify {change : Session → Session}
    (each : ∀ ⦃one other : Session⦄, one.Alike manner other → (change one).Alike manner (change other)) :
    (modify change : SessionM Unit).Agrees manner := fun _ _ alike => ⟨rfl, each alike⟩

theorem agrees_throw (error : Error) : (throw error : SessionM α).Agrees manner :=
  fun _ _ alike => ⟨rfl, alike⟩

end SessionM

namespace Session

open SessionM

variable {one other : Session}

theorem agrees_checkOperational : checkOperational.Agrees manner := by
  intro one other alike
  dsimp only [checkOperational, SessionM.run]
  rw [alike.phase, alike.ending]
  cases one.phase with
  | connected | bound | idle => exact ⟨rfl, alike⟩
  | unbound => exact ⟨rfl, alike.release⟩

theorem agrees_nextRequestId : nextRequestId.Agrees manner := by
  intro one other alike
  cases alike with
  | intro transport transports =>
    dsimp only [nextRequestId, SessionM.run]
    split <;> exact ⟨rfl, .intro _ transports⟩

theorem agrees_checkTransport : checkTransport.Agrees manner := by
  intro one other alike
  cases alike with
  | intro transport transports =>
    dsimp only [checkTransport, SessionM.run]
    split <;> exact ⟨rfl, .intro _ transports⟩

theorem agrees_startReceiver : startReceiver.Agrees manner := by
  intro one other alike
  cases alike with
  | intro transport transports =>
    have same : transport.startFailure? = one.transport.startFailure? := by
      cases transports
      rfl
    dsimp only [startReceiver, SessionM.run]
    rw [same]
    split <;> exact ⟨rfl, .intro _ transports⟩

theorem agrees_writeFrame (frame : Octets) : (writeFrame frame).Agrees manner := by
  intro one other alike
  cases alike with
  | intro transport transports =>
    obtain ⟨same, sent⟩ := transports.send frame
    obtain ⟨result, left, right, first, second⟩ := exists_of_fst_eq same
    dsimp only [writeFrame, SessionM.run]
    rw [first, second] at sent ⊢
    cases result with
    | ok _ => exact ⟨rfl, .intro _ sent⟩
    | error failure =>
      refine ⟨rfl, Alike.terminate ?_ _⟩
      exact .intro right sent

theorem agrees_send (message : Message) : (send message).Agrees manner := by
  refine agrees_checkTransport.bind fun _ => agrees_startReceiver.bind fun _ => ?_
  refine (agrees_modify fun one other alike => ?_).bind fun _ => agrees_writeFrame message.encode
  cases alike with
  | intro transport transports => exact .intro _ transports

theorem Alike.ofWaiters (alike : one.Alike manner other) (change : List Waiter → List Waiter) :
    Alike manner { one with waiters := change one.waiters } { other with waiters := change other.waiters } := by
  cases alike with
  | intro transport transports => exact .intro _ transports

theorem Alike.forget (alike : one.Alike manner other) (id : MessageId) :
    (one.forget id).Alike manner (other.forget id) := alike.ofWaiters _

theorem Alike.dropHandle (alike : one.Alike manner other) (id : MessageId) :
    (one.dropHandle id).Alike manner (other.dropHandle id) := alike.ofWaiters _

theorem Alike.register (alike : one.Alike manner other) (id : MessageId) :
    (one.register id).Alike manner (other.register id) :=
  alike.ofWaiters fun waiters =>
    waiters.filter (fun waiter => waiter.id != id) ++ [({ id } : Waiter)]

theorem agrees_post (op : Operation) (controls : List Control) (timeout : Nat) :
    (post op controls timeout).Agrees manner := by
  refine agrees_checkOperational.bind fun _ => agrees_nextRequestId.bind fun id => ?_
  apply (agrees_modify fun _ _ alike => alike.register id).bind
  intro _ one other alike
  obtain ⟨same, sent⟩ := agrees_send ⟨id, op, controls⟩ alike
  dsimp only [SessionM.run] at same sent ⊢
  obtain ⟨result, left, right, first, second⟩ := exists_of_fst_eq same
  rw [first, second] at sent ⊢
  cases result with
  | ok _ => exact ⟨rfl, sent⟩
  | error error => exact ⟨rfl, sent.dropHandle id⟩

theorem agrees_giveUp (target : MessageId) : (giveUp target).Agrees manner := by
  refine agrees_checkOperational.bind fun _ => ?_
  apply (agrees_modify fun _ _ alike => alike.forget target).bind
  intro _
  exact agrees_nextRequestId.bind fun id => agrees_send ⟨id, .abandonRequest target, []⟩

theorem agrees_receive (handle : Handle) : (receive handle).Agrees manner := by
  intro one other alike
  cases alike with
  | intro transport transports =>
    have same : waiter? { one with transport } handle.id = one.waiter? handle.id := rfl
    dsimp only [receive, SessionM.run]
    rw [same]
    split
    · exact ⟨rfl, .intro _ transports⟩
    · exact ⟨rfl, .intro _ transports⟩
    · split <;> exact ⟨rfl, .intro _ transports⟩

theorem agrees_finishBind (name : String) (outcome : Outcome) : (finishBind name outcome).Agrees manner := by
  have entered (identity : Option String) (phase : Phase) : (modify fun session =>
      { session with identity }.enter phase : SessionM Unit).Agrees manner := by
    apply agrees_modify
    intro one other alike
    cases alike with
    | intro transport transports =>
      unfold enter
      dsimp only
      split <;> exact .intro _ transports
  unfold finishBind
  split
  · split
    · exact entered none .connected
    · exact entered (some name) .bound
  · exact (entered none .connected).bind fun _ => agrees_throw _

theorem Alike.sayGoodbye (alike : one.Alike manner other) : one.sayGoodbye.Alike manner other.sayGoodbye := by
  obtain ⟨same, numbered⟩ := agrees_nextRequestId alike
  obtain ⟨result, left, right, first, second⟩ := exists_of_fst_eq same
  unfold Session.sayGoodbye
  rw [first, second] at numbered ⊢
  cases result with
  | error error => exact numbered
  | ok id =>
    cases numbered with
    | intro transport transports => exact .intro _ (transports.send _).2

theorem Alike.close (alike : one.Alike manner other) : one.close.Alike manner other.close := by
  have told : Alike manner (if one.phase.isLive = true then one.sayGoodbye else one)
      (if other.phase.isLive = true then other.sayGoodbye else other) := by
    rw [alike.phase]
    split
    · exact alike.sayGoodbye
    · exact alike
  have unnamed {one other : Session} (alike : one.Alike manner other) :
      Alike manner { one with identity := none } { other with identity := none } := by
    cases alike with
    | intro transport transports => exact .intro _ transports
  unfold Session.close
  rw [alike.held]
  split
  · exact (unnamed (told.terminate .closed)).release
  · exact alike

theorem agrees_checkUntouched : checkUntouched.Agrees manner := by
  intro one other alike
  cases alike with
  | intro transport transports =>
    dsimp only [checkUntouched, SessionM.run]
    split
    · exact ⟨rfl, .intro _ transports⟩
    · split <;> exact ⟨rfl, .intro _ transports⟩

theorem agrees_prepareSecurity : prepareSecurity.Agrees manner :=
  agrees_checkOperational.bind fun _ => agrees_checkUntouched.bind fun _ =>
    agrees_checkTransport.bind fun _ => agrees_nextRequestId

def asking (session : Session) : Transport := (session.transport.send session.securityRequest).2

def AsksAlike (manner : Manner) (one other : Session) : Prop :=
  one.IsUntouched → manner.reads one.config.maxMessageSize one.asking.isShut (Transport.answers one.nextId)
    (· == one.nextId) one.asking.incoming other.asking.incoming

theorem Alike.askedSecurity (alike : one.Alike manner other) (reads : AsksAlike manner one other)
    (untouched : one.IsUntouched) :
    one.askSecurity.1 = other.askSecurity.1 ∧ one.askedSecurity.Alike manner other.askedSecurity := by
  have found := reads untouched
  cases alike with
  | intro transport transports =>
    obtain ⟨same, asked⟩ := transports.converse found one.config.operationTimeout
    exact ⟨same, .intro _ asked⟩

/-- The server consents on both sides or on neither. -/
theorem Alike.negotiateSecurity (alike : one.Alike manner other) (reads : AsksAlike manner one other) :
    (negotiateSecurity.run one).1 = (negotiateSecurity.run other).1 ∧
      (negotiateSecurity.run one).2.Alike manner (negotiateSecurity.run other).2 := by
  obtain ⟨same, prepared⟩ := agrees_prepareSecurity alike
  simp only [Session.negotiateSecurity, SessionM.run_bind, SessionM.run_lift]
  -- Nothing is read before the sessions are known to be untouched, which both are or neither is.
  rcases prepareSecurity_cases one with ⟨error, after, refused, _⟩ | ⟨ready, untouched⟩
  · rw [refused] at same prepared ⊢
    generalize prepareSecurity.run other = right at same prepared ⊢
    obtain ⟨_, right⟩ := right
    cases same
    exact ⟨rfl, prepared⟩
  · rcases prepareSecurity_cases other with ⟨error, after, refused, _⟩ | ⟨able, _⟩
    · rw [ready, refused] at same
      cases same
    · obtain ⟨asked, after⟩ := alike.askedSecurity reads untouched
      rw [ready, able]
      dsimp only
      rw [requestSecurity_run, requestSecurity_run, ← asked]
      cases one.askSecurity.1 with
      | error error => exact ⟨rfl, after.terminate _⟩
      | ok message => exact ⟨rfl, after⟩

inductive Upgraded (manner : Manner) : Except Error Transport → Except Error Transport → Prop where
  | failed (error : Error) : Upgraded manner (.error error) (.error error)
  | secured (one other : Transport) : one.Alike manner other → Upgraded manner (.ok one) (.ok other)

def UpgradesAlike (manner : Manner) (upgrade upgraded : Upgrade) (one other : Session) : Prop :=
  (negotiateSecurity.run one).1 = .ok () →
    Upgraded manner (upgrade (negotiateSecurity.run one).2.transport)
      (upgraded (negotiateSecurity.run other).2.transport)

def UpgradesFaithfully (manner : Manner) (upgrade upgraded : Upgrade) : Prop :=
  ∀ ⦃one other : Transport⦄, one.Alike manner other → Upgraded manner (upgrade one) (upgraded other)

theorem UpgradesFaithfully.alike {upgrade upgraded : Upgrade}
    (faithful : UpgradesFaithfully manner upgrade upgraded) (alike : one.Alike manner other)
    (reads : AsksAlike manner one other) : UpgradesAlike manner upgrade upgraded one other :=
  fun _ => faithful (alike.negotiateSecurity reads).2.transport

theorem Alike.startSecurity {upgrade upgraded : Upgrade} (alike : one.Alike manner other)
    (reads : AsksAlike manner one other) (upgrades : UpgradesAlike manner upgrade upgraded one other) :
    (startSecurity upgrade one).1.handedOver.isSome = (startSecurity upgraded other).1.handedOver.isSome ∧
      (startSecurity upgrade one).1.result = (startSecurity upgraded other).1.result ∧
      (Step.secure upgrade).forfeits one = (Step.secure upgraded).forfeits other ∧
      (startSecurity upgrade one).2.Alike manner (startSecurity upgraded other).2 := by
  obtain ⟨same, agreed⟩ := alike.negotiateSecurity reads
  obtain ⟨result, left, right, first, second⟩ := exists_of_fst_eq same
  unfold UpgradesAlike at upgrades
  unfold Step.forfeits Session.startSecurity
  rw [first, second] at agreed upgrades
  rw [first, second]
  cases result with
  | error error => exact ⟨rfl, rfl, rfl, agreed⟩
  | ok _ =>
    have outcome := upgrades rfl
    dsimp only [exchangeTransport, SessionM.run] at outcome ⊢
    generalize lost : upgrade left.transport = first at outcome ⊢
    generalize gone : upgraded right.transport = second at outcome ⊢
    cases outcome with
    | failed error =>
      refine ⟨rfl, rfl, by dsimp only; rw [lost, gone], Alike.terminate ?_ _⟩
      cases agreed with
      | intro transport transports => exact .intro _ transports
    | secured first second secured =>
      refine ⟨rfl, rfl, by dsimp only; rw [lost, gone]; rfl, ?_⟩
      cases agreed with
      | intro transport transports => exact .intro _ secured

end Session

end Directory
