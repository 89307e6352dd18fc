import Directory.Proofs.Session.Calls
/-!
Who the client is. While a session is live, its phase and its identity say the same thing, and both come
from the last bind that the server answered. Nothing else changes either of them.
-/
namespace Directory

open Session SessionM

/-- How the exchange of a bind ended: who the client claimed to be, and the last word of the server. -/
structure Verdict where
  name : String
  outcome : Outcome
  deriving DecidableEq

def Verdict.identity (verdict : Verdict) : Option String :=
  if verdict.outcome.code.isSuccess = true ∧ verdict.name ≠ "" then some verdict.name else none

def Phase.ofIdentity : Option String → Phase
  | some _ => bound
  | none => connected

/-- A verdict decides the phase and the identity, and without one both stay. A session may have ended. -/
inductive Session.Settles (before : Session) : Option Verdict → Session → Prop where
  | past {verdict : Option Verdict} {after : Session} : after.phase = .unbound → Settles before verdict after
  | unmoved {after : Session} : after.phase = before.phase → after.identity = before.identity →
      Settles before none after
  | settled {verdict : Verdict} {after : Session} : after.phase = .ofIdentity verdict.identity →
      after.identity = verdict.identity → Settles before (some verdict) after

namespace Session.Settles

theorem refl (session : Session) : session.Settles none session := .unmoved rfl rfl

theorem trans {a b c : Session} {verdict : Option Verdict} (first : a.Settles none b)
    (second : b.Settles verdict c) : a.Settles verdict c := by
  cases second with
  | past ended => exact .past ended
  | settled phase identity => exact .settled phase identity
  | unmoved phase identity =>
    cases first with
    | past ended => exact .past (phase.trans ended)
    | unmoved earlier known => exact .unmoved (phase.trans earlier) (identity.trans known)

theorem unmoved_of_live {before after : Session} (settles : before.Settles none after)
    (live : after.phase.isLive = true) : after.phase = before.phase ∧ after.identity = before.identity := by
  cases settles with
  | past ended => simp [ended, Phase.isLive] at live
  | unmoved phase identity => exact ⟨phase, identity⟩

theorem settled_of_live {before after : Session} {verdict : Verdict}
    (settles : before.Settles (some verdict) after) (live : after.phase.isLive = true) :
    after.phase = .ofIdentity verdict.identity ∧ after.identity = verdict.identity := by
  cases settles with
  | past ended => simp [ended, Phase.isLive] at live
  | settled phase identity => exact ⟨phase, identity⟩

end Session.Settles

theorem Verdict.identity_eq_some_iff {verdict : Verdict} {name : String} :
    verdict.identity = some name ↔
      verdict.outcome.code.isSuccess = true ∧ verdict.name ≠ "" ∧ verdict.name = name := by
  simp [identity, and_assoc]

namespace Session

variable {session : Session}

theorem settles_terminate (session : Session) (reason : Termination) :
    session.Settles none (session.terminate reason) := by
  unfold terminate
  split
  · exact .refl session
  · exact .past rfl

theorem settles_release (session : Session) : session.Settles none session.release := by
  unfold release
  split
  · exact .unmoved rfl rfl
  · exact .refl session

theorem settles_takeIn (session : Session) : session.Settles none session.takeIn := by
  fun_induction takeIn session with
  | case1 session _ message transport _ ih =>
    have routed : session.Settles none ({ session with transport }.route message) := .unmoved rfl rfl
    exact routed.trans ih
  | case2 session _ reason transport _ =>
    have stopped : session.Settles none { session with transport, receiver := .stopped } := .unmoved rfl rfl
    exact (stopped.trans (settles_terminate _ reason)).trans (settles_release _)
  | case3 => exact .refl _
  | case4 => exact .refl _

theorem settles_number : session.Settles none (nextRequestId.run session).2 := by
  by_cases left : session.nextId ≤ Message.maxId
  · rw [nextRequestId_left left]
    exact .unmoved rfl rfl
  · rw [nextRequestId_exhausted (UInt32.not_le.mp left)]
    exact .refl session

theorem Refuses.settles {error : Error} {after : Session} (refused : session.Refuses error after) :
    session.Settles none after := by
  cases refused with
  | idle => exact .refl session
  | unbound => exact settles_release session

theorem Sends.settles {message : Message} {result : Except Error Unit} {after : Session}
    (sent : session.Sends message result after) : session.Settles none after := by
  cases sent with
  | released => exact .refl session
  | unreadable => exact .refl session
  | unwritten failure transport =>
    have tried : session.Settles none
        { session with transport, receiver := session.receiver.started, hasCarriedTraffic := true } :=
      .unmoved rfl rfl
    exact tried.trans (settles_terminate _ _)
  | sent => exact .unmoved rfl rfl

theorem Posts.settles {op : Operation} {controls : List Control} {timeout : Nat}
    {result : Except Error Handle} {after : Session}
    (posted : session.Posts op controls timeout result after) : session.Settles none after := by
  have opened : session.Settles none session.opened := .unmoved rfl rfl
  cases posted with
  | refused _ _ refused => exact refused.settles
  | exhausted => exact .refl session
  | failed _ sent _ _ sends =>
    have dropped : sent.Settles none (sent.dropHandle session.nextId) := .unmoved rfl rfl
    exact (opened.trans sends.settles).trans dropped
  | posted _ _ _ sends => exact opened.trans sends.settles

theorem GivesUp.settles {target : MessageId} {result : Except Error Unit} {after : Session}
    (given : session.GivesUp target result after) : session.Settles none after := by
  cases given with
  | refused _ _ refused => exact refused.settles
  | exhausted => exact .unmoved rfl rfl
  | told _ _ _ _ sends =>
    have counted : session.Settles none { session.forget target with nextId := session.nextId + 1 } :=
      .unmoved rfl rfl
    exact counted.trans sends.settles

theorem Receives.settles {handle : Handle} {result : Except Error Message} {after : Session}
    (received : session.Receives handle result after) : session.Settles none after := by
  cases received with
  | message => exact .unmoved rfl rfl
  | timedOut => exact .unmoved rfl rfl
  | spent => exact .refl session

theorem Secures.settles {upgrade : Upgrade} {result : Securing} {after : Session}
    (secured : session.Secures upgrade result after) : session.Settles none after := by
  have asked : session.Settles none session.askedSecurity := .unmoved rfl rfl
  cases secured with
  | refused _ _ refused => exact refused.settles
  | untimely => exact .refl session
  | unanswered => exact asked.trans (settles_terminate _ _)
  | declined => exact asked
  | failed =>
    have given : session.askedSecurity.Settles none { session.askedSecurity with holdsTransport := false } :=
      .unmoved rfl rfl
    exact (asked.trans given).trans (settles_terminate _ _)
  | secured => exact .unmoved rfl rfl

theorem settles_close (sound : session.IsSound) : session.Settles none session.close := by
  rcases close_cases session with ⟨_, same⟩ | ⟨nextId, transport, numbers, closed⟩
  · rw [same]
    exact .refl session
  -- The client is anonymous after this, and the session is no longer live.
  · have told : session.Continues { session with nextId, transport } := .of_same numbers rfl rfl rfl
    have past := (told.evolves.sound sound).terminate_unbound .closed
    rw [closed]
    have unnamed : session.Settles none
        { { session with nextId, transport }.terminate .closed with identity := none } := .past past
    exact unnamed.trans (settles_release _)

theorem settles_enter {verdict : Verdict} :
    session.Settles (some verdict)
      ({ session with identity := verdict.identity }.enter (.ofIdentity verdict.identity)) := by
  unfold enter
  split
  · next past => exact .past past
  · exact .settled rfl rfl

theorem settles_finishBind (name : String) (outcome : Outcome) :
    session.Settles (some ⟨name, outcome⟩) ((finishBind name outcome).run session).2 := by
  have entered : session.Settles (some ⟨name, outcome⟩) _ := settles_enter
  unfold finishBind
  by_cases accepted : outcome.code.isSuccess = true
  · rw [if_pos accepted]
    by_cases nameless : name.isEmpty = true
    · have unknown : (Verdict.mk name outcome).identity = none := by
        simp [Verdict.identity, String.isEmpty_iff.mp nameless]
      rw [unknown] at entered
      rw [if_pos nameless]
      exact entered
    · have known : (Verdict.mk name outcome).identity = some name := by
        simpa [Verdict.identity, accepted] using nameless
      rw [known] at entered
      rw [if_neg nameless]
      exact entered
  · have unknown : (Verdict.mk name outcome).identity = none := by simp [Verdict.identity, accepted]
    rw [unknown] at entered
    rw [if_neg accepted]
    exact entered

def Step.verdict? (session : Session) : Step → Option Verdict
  | settle name outcome => if session.phase = .idle then none else some ⟨name, outcome⟩
  | _ => none

theorem Step.settles (step : Step) (sound : session.IsSound) :
    session.Settles (step.verdict? session) (step.perform session) := by
  cases step with
  | arrive actions => exact .unmoved rfl rfl
  | takeIn => exact settles_takeIn session
  | number => exact settles_number
  | post op controls timeout => exact (post_cases session op controls timeout).settles
  | receive handle => exact (receive_cases session handle).settles
  | drop id => exact .unmoved rfl rfl
  | giveUp target => exact (giveUp_cases session target).settles
  | settle name outcome =>
    by_cases idle : session.phase = .idle
    · simpa only [verdict?, perform, if_pos idle] using Settles.refl session
    · simpa only [verdict?, perform, if_neg idle] using settles_finishBind name outcome
  | secure upgrade => exact (startSecurity_cases session upgrade).settles
  | close => exact settles_close sound

end Session

namespace SessionM

def Unsettling (action : SessionM α) : Prop :=
  ∀ session : Session, session.Settles none (action.run session).2

end SessionM

namespace Session

open SessionM

variable {session : Session}

theorem unsettling_submit (op : Operation) (controls : List Control) (timeout : Nat) :
    (submit op controls timeout).Unsettling := by
  intro session
  rw [submit, attending_run]
  exact (post_cases session op controls timeout).settles.trans (settles_takeIn _)

theorem unsettling_releasing {op : Operation} {controls : List Control} {timeout : Nat}
    {use : Handle → SessionM α} (reads : ∀ handle, (use handle).Unsettling) :
    (do
      let handle ← submit op controls timeout
      releasing handle (use handle)).Unsettling := by
  apply Relates.bind (unsettling_submit op controls timeout) _ Settles.trans
  intro handle session
  rw [releasing_run]
  have dropped (last : Session) : last.Settles none (last.dropHandle handle.id) := .unmoved rfl rfl
  exact (reads handle session).trans (dropped _)

theorem unsettling_receive (handle : Handle) : (receive handle).Unsettling :=
  fun session => (receive_cases session handle).settles

theorem settles_receives {handle : Handle} {steps : List Step}
    (only : ∀ step ∈ steps, step = .receive handle) : session.Settles none (run steps session) := by
  induction steps generalizing session with
  | nil => exact .refl session
  | cons step rest ih =>
    have first : step = .receive handle := only step List.mem_cons_self
    subst first
    exact (unsettling_receive handle session).trans (ih fun step member => only step (.tail _ member))

theorem unsettling_gather (handle : Handle) : (gather handle).Unsettling := by
  intro session
  obtain ⟨steps, ran, only⟩ := gather_receives handle session
  rw [← ran]
  exact settles_receives only

theorem unsettling_exchange (op : Operation) (controls : List Control) (timeout : Nat) :
    (exchange op controls timeout).Unsettling :=
  unsettling_releasing unsettling_receive

theorem unsettling_search (timeout : Nat) (request : SearchRequest) (controls : List Control) :
    (search timeout request controls).Unsettling :=
  unsettling_releasing unsettling_gather

theorem unsettling_abandon (target : MessageId) : (abandon target).Unsettling := by
  intro session
  rw [abandon, attending_run]
  exact (giveUp_cases session target).settles.trans (settles_takeIn _)

theorem respected_settles : Respected fun before after => before.Settles none after where
  refl := .refl
  trans := .trans
  exchange := unsettling_exchange
  search := unsettling_search
  abandon := unsettling_abandon

theorem unsettling_requestBind (name : String) (credentials : Credentials) :
    (requestBind name credentials).Unsettling :=
  (inquires_requestBind name credentials).relates respected_settles

def simpleVerdict? (name password : String) (session : Session) : Option Verdict :=
  match (requestBind name (.simple (Octets.ofText password))).run session with
  | (.ok (outcome, _), _) => some ⟨name, outcome⟩
  | (.error _, _) => none

theorem settles_simpleBind (name password : String) (session : Session) :
    session.Settles (simpleVerdict? name password session) ((simpleBind name password).run session).2 := by
  have asked := unsettling_requestBind name (.simple (Octets.ofText password)) session
  rw [simpleBind, run_bind, simpleVerdict?]
  generalize (requestBind name (.simple (Octets.ofText password))).run session = answer at asked ⊢
  obtain ⟨result, after⟩ := answer
  cases result with
  | error error => exact asked
  | ok answer => exact asked.trans (settles_finishBind name answer.1)

/-- How an exchange ends with the last word of the server, unless the mechanism does not believe it. -/
def finalVerdict? (mechanism : Mechanism) (challenges : List Octets) (outcome : Outcome)
    (challenge : Option Octets) : Option Verdict :=
  let heard := if outcome.code.isSuccess then challenges ++ challenge.toList else challenges
  if outcome.code.isSuccess ∧ challenge.isSome ∧ !(mechanism.answer heard).isOk then none
  else some ⟨mechanism.identity heard, outcome⟩

theorem settles_finishSasl (mechanism : Mechanism) (challenges : List Octets) (outcome : Outcome)
    (challenge : Option Octets) (session : Session) :
    session.Settles (finalVerdict? mechanism challenges outcome challenge)
      (finishSasl mechanism challenges outcome challenge session).2 := by
  unfold finishSasl finalVerdict?
  dsimp only
  generalize (if outcome.code.isSuccess then challenges ++ challenge.toList else challenges) = heard
  by_cases asked : outcome.code.isSuccess ∧ challenge.isSome
  · cases answered : mechanism.answer heard with
    | error error => simpa [asked, answered, Except.isOk, Except.toBool] using Settles.refl session
    | ok response =>
      simpa [asked, answered, Except.isOk, Except.toBool] using settles_finishBind _ outcome
  · have unasked : ¬(outcome.code.isSuccess ∧ challenge.isSome ∧ !(mechanism.answer heard).isOk) :=
      fun refused => asked ⟨refused.1, refused.2.1⟩
    rw [if_neg asked, if_neg unasked]
    exact settles_finishBind _ outcome

def roundsVerdict? (mechanism : Mechanism) (challenges : List Octets) (response : Option Octets)
    (session : Session) : Option Verdict :=
  match _answered : (requestBind "" (.sasl mechanism.name response)).run session with
  | (.error _, _) => none
  | (.ok (outcome, challenge), after) =>
    if outcome.code = .saslBindInProgress then
      let heard := challenges ++ [challenge.getD []]
      match mechanism.answer heard with
      | .error _ => none
      | .ok response => roundsVerdict? mechanism heard response after
    else finalVerdict? mechanism challenges outcome challenge
termination_by session.toCome
decreasing_by exact (requestBind_advances _answered).lex

theorem roundsVerdict?_failed {mechanism : Mechanism} {challenges : List Octets} {response : Option Octets}
    {error : Error} {after : Session}
    (failed : (requestBind "" (.sasl mechanism.name response)).run session = (.error error, after)) :
    roundsVerdict? mechanism challenges response session = none := by
  unfold roundsVerdict?
  split
  · rfl
  · next answered =>
    rw [failed] at answered
    cases answered

theorem roundsVerdict?_answered {mechanism : Mechanism} {challenges : List Octets} {response : Option Octets}
    {outcome : Outcome} {challenge : Option Octets} {after : Session}
    (answered : (requestBind "" (.sasl mechanism.name response)).run session =
      (.ok (outcome, challenge), after)) :
    roundsVerdict? mechanism challenges response session =
      if outcome.code = .saslBindInProgress then
        match mechanism.answer (challenges ++ [challenge.getD []]) with
        | .error _ => none
        | .ok response => roundsVerdict? mechanism (challenges ++ [challenge.getD []]) response after
      else finalVerdict? mechanism challenges outcome challenge := by
  conv => lhs; unfold roundsVerdict?
  split
  · next failed =>
    rw [answered] at failed
    cases failed
  · next found =>
    rw [answered] at found
    cases found
    rfl

theorem settles_saslRounds (mechanism : Mechanism) (challenges : List Octets) (response : Option Octets)
    (session : Session) :
    session.Settles (roundsVerdict? mechanism challenges response session)
      (saslRounds mechanism challenges response session).2 := by
  have asked (response : Option Octets) (session : Session) :=
    unsettling_requestBind "" (.sasl mechanism.name response) session
  fun_induction saslRounds mechanism challenges response session with
  | case1 _ response session _ _ failed =>
    have settles := asked response session
    rw [failed] at settles
    rw [roundsVerdict?_failed failed]
    exact settles
  | case2 _ response session _ _ _ answered going _ _ refused =>
    have settles := asked response session
    rw [answered] at settles
    rw [roundsVerdict?_answered answered, if_pos going, refused]
    exact settles
  | case3 _ response session _ _ _ answered going _ _ accepted ih =>
    have settles := asked response session
    rw [answered] at settles
    rw [roundsVerdict?_answered answered, if_pos going, accepted]
    exact settles.trans ih
  | case4 _ response session _ _ _ answered final =>
    have settles := asked response session
    rw [answered] at settles
    rw [roundsVerdict?_answered answered, if_neg final]
    exact settles.trans (settles_finishSasl mechanism _ _ _ _)

def saslVerdict? (mechanism : Mechanism) (session : Session) : Option Verdict :=
  match mechanism.initial with
  | .error _ => none
  | .ok response => roundsVerdict? mechanism [] response session

theorem settles_saslBind (mechanism : Mechanism) (session : Session) :
    session.Settles (saslVerdict? mechanism session) (saslBind mechanism session).2 := by
  unfold saslBind saslVerdict?
  cases mechanism.initial with
  | error error => exact .refl session
  | ok response => exact settles_saslRounds mechanism [] response session

end Session

open Session

def Client.Call.verdict? (session : Session) : Call → Option Verdict
  | bind name password =>
    if name ≠ "" ∧ password = "" then none else simpleVerdict? name password session
  | _ => none

theorem Client.Call.settles (call : Call) (session : Session) :
    session.Settles (call.verdict? session) (call.answer.run session).2 := by
  cases call with
  | bind name password =>
    rw [verdict?, answer, run_before_quiet fun _ => quiet_pure _, Client.bind]
    by_cases unproven : name ≠ "" ∧ password = ""
    · rw [if_pos unproven, if_pos (by simpa [String.isEmpty_iff] using unproven)]
      exact .refl session
    · rw [if_neg unproven, if_neg (by simpa [String.isEmpty_iff] using unproven)]
      exact settles_simpleBind name password session
  | _ => exact Call.relates respected_settles (fun _ _ same => by cases same) session

namespace Session

variable {session : Session}

def Act.verdict? (session : Session) : Act → Option Verdict
  | step taken => taken.verdict? session
  | call called => called.verdict? session
  | simpleBind name password => simpleVerdict? name password session
  | saslBind mechanism => saslVerdict? mechanism session
  | query _ _ | pagedSearch _ _ _ _ _ | next _ => none

def lastVerdict? : List Act → Session → Option Verdict
  | [], _ => none
  | act :: rest, session => (lastVerdict? rest (act.perform session)).or (act.verdict? session)

theorem Act.settles (act : Act) (sound : session.IsSound) :
    session.Settles (act.verdict? session) (act.perform session) := by
  cases act with
  | step taken => exact taken.settles sound
  | query timeout asked => exact asked.relates respected_settles timeout session
  | call called => exact called.settles session
  | simpleBind name password => exact settles_simpleBind name password session
  | saslBind mechanism => exact settles_saslBind mechanism session
  | pagedSearch base scope filter attributes pageSize =>
    have quiet := Client.quiet_pagedSearch base scope filter attributes pageSize
    exact quiet.relates Settles.refl session
  | next entries => exact entries.respects_next respected_settles session

def Agrees (last : Option Verdict) (session : Session) : Prop :=
  session.phase.isLive = true →
    session.identity = last.bind Verdict.identity ∧ session.phase = .ofIdentity session.identity

theorem Agrees.settles {last verdict : Option Verdict} {after : Session} (agrees : session.Agrees last)
    (settles : session.Settles verdict after) : after.Agrees (verdict.or last) := by
  intro live
  cases verdict with
  | none =>
    obtain ⟨phase, identity⟩ := settles.unmoved_of_live live
    rw [phase] at live
    rw [phase, identity]
    exact agrees live
  | some verdict =>
    obtain ⟨phase, identity⟩ := settles.settled_of_live live
    rw [phase, identity]
    exact ⟨rfl, rfl⟩

theorem enact_agrees {last : Option Verdict} (acts : List Act) (sound : session.IsSound)
    (agrees : session.Agrees last) :
    (enact acts session).Agrees ((lastVerdict? acts session).or last) := by
  -- What the session goes by after each act is the verdict of that act, or the one before it.
  induction acts generalizing session last with
  | nil => exact agrees
  | cons act rest ih =>
    have later := ih ((act.evolves session).sound sound) (agrees.settles (act.settles sound))
    rwa [lastVerdict?, Option.or_assoc]

theorem IsNew.agrees {start : Session} (new : start.IsNew) : start.Agrees none := by
  obtain ⟨transport, config, rfl | rfl⟩ := new
  · intro live
    cases live
  · exact fun _ => ⟨rfl, rfl⟩

theorem Agrees.anonymous {last : Option Verdict} (agrees : session.Agrees last)
    (connected : session.phase = .connected) : session.identity = none := by
  have phase := (agrees (by rw [connected]; rfl)).2
  rw [connected] at phase
  cases known : session.identity with
  | none => rfl
  | some name =>
    rw [known] at phase
    cases phase

theorem Agrees.named {last : Option Verdict} (agrees : session.Agrees last) (bound : session.phase = .bound) :
    ∃ verdict, last = some verdict ∧ verdict.outcome.code.isSuccess = true ∧ verdict.name ≠ "" ∧
      session.identity = some verdict.name := by
  obtain ⟨identity, phase⟩ := agrees (by rw [bound]; rfl)
  rw [bound] at phase
  cases known : session.identity with
  | none =>
    rw [known] at phase
    cases phase
  | some name =>
    rw [known] at identity
    obtain ⟨verdict, same, accepted⟩ := Option.bind_eq_some_iff.mp identity.symm
    obtain ⟨success, named, rfl⟩ := Verdict.identity_eq_some_iff.mp accepted
    exact ⟨verdict, same, success, named, rfl⟩

theorem Settles.accepted {verdict : Verdict} {after : Session} (settles : session.Settles (some verdict) after)
    (live : after.phase.isLive = true)
    (accepted : verdict.outcome.code.isSuccess = true ∧ verdict.name ≠ "") :
    after.phase = .bound ∧ after.identity = some verdict.name := by
  obtain ⟨phase, identity⟩ := settles.settled_of_live live
  have known : verdict.identity = some verdict.name := if_pos accepted
  rw [phase, identity, known]
  exact ⟨rfl, rfl⟩

theorem Settles.unaccepted {verdict : Verdict} {after : Session}
    (settles : session.Settles (some verdict) after) (live : after.phase.isLive = true)
    (unaccepted : ¬(verdict.outcome.code.isSuccess = true ∧ verdict.name ≠ "")) :
    after.phase = .connected ∧ after.identity = none := by
  obtain ⟨phase, identity⟩ := settles.settled_of_live live
  have unknown : verdict.identity = none := if_neg unaccepted
  rw [phase, identity, unknown]
  exact ⟨rfl, rfl⟩

/-- A live session that is only connected has an anonymous client. One that is bound knows it by the name
that it claimed in the last bind that came to an end, and that the server then accepted. Any other bind that
comes to an end makes the client anonymous. Nothing else makes a difference while the session is live. -/
theorem identity_of_last_bind {start session : Session} (new : start.IsNew) (acts : List Act)
    (reached : enact acts start = session) :
    (session.phase = .connected → session.identity = none) ∧
      (session.phase = .bound → ∃ verdict, lastVerdict? acts start = some verdict ∧
        verdict.outcome.code.isSuccess = true ∧ verdict.name ≠ "" ∧
        session.identity = some verdict.name) ∧
      ∀ act : Act, (act.perform session).phase.isLive = true →
        (act.verdict? session = none →
          (act.perform session).phase = session.phase ∧
          (act.perform session).identity = session.identity) ∧
        ∀ verdict, act.verdict? session = some verdict →
          (verdict.outcome.code.isSuccess = true ∧ verdict.name ≠ "" →
            (act.perform session).phase = .bound ∧
            (act.perform session).identity = some verdict.name) ∧
          (¬(verdict.outcome.code.isSuccess = true ∧ verdict.name ≠ "") →
            (act.perform session).phase = .connected ∧ (act.perform session).identity = none) := by
  have agrees := enact_agrees acts new.isSound new.agrees
  have sound := (enact_evolves acts start).sound new.isSound
  rw [reached] at agrees sound
  rw [Option.or_none] at agrees
  refine ⟨agrees.anonymous, agrees.named, ?_⟩
  intro act live
  have settles := act.settles sound
  constructor
  · intro nothing
    rw [nothing] at settles
    exact settles.unmoved_of_live live
  · intro verdict ended
    rw [ended] at settles
    exact ⟨settles.accepted live, settles.unaccepted live⟩

def choosy : Session :=
  establish
    { script :=
        [.actions [.message none (.bindResponse ⟨.success, "", "", []⟩ none) []],
          .actions [.message none (.bindResponse ⟨⟨49⟩, "", "", []⟩ none) []]] } {}

def boundAndIgnored : List Act :=
  [.call (.bind "cn=admin" "secret"), .step (.post (.deleteRequest .root) [] 10)]

theorem identity_choosy :
    choosy.IsNew ∧
      (∃ verdict, lastVerdict? boundAndIgnored choosy = some verdict ∧
        verdict.outcome.code.isSuccess = true ∧ verdict.name ≠ "" ∧
        (enact boundAndIgnored choosy).identity = some verdict.name) ∧
      (enact (boundAndIgnored.take 1) choosy).phase = .bound ∧
      ((Act.simpleBind "cn=guest" "").perform (enact (boundAndIgnored.take 1) choosy)).identity =
        none := by
  have new : choosy.IsNew := ⟨_, _, .inr rfl⟩
  have last : (enact boundAndIgnored choosy).phase = .bound := by decide +kernel
  have bound : (enact (boundAndIgnored.take 1) choosy).phase = .bound := by decide +kernel
  have live : ((Act.simpleBind "cn=guest" "").perform
      (enact (boundAndIgnored.take 1) choosy)).phase.isLive = true := by
    decide +kernel
  have refused : (Act.simpleBind "cn=guest" "").verdict? (enact (boundAndIgnored.take 1) choosy) =
      some ⟨"cn=guest", ⟨⟨49⟩, "", "", []⟩⟩ := by
    decide +kernel
  have settled := identity_of_last_bind new (boundAndIgnored.take 1) rfl
  exact ⟨new, (identity_of_last_bind new boundAndIgnored rfl).2.1 last, bound,
    (((settled.2.2 _ live).2 _ refused).2 (by decide)).2⟩

end Session

end Directory
