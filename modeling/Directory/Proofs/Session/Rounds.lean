import Directory.Proofs.Session.Findings
/-!
A bind in rounds. The mechanism hears what the server replies, in order and each reply once, and each bind
request carries its answer to what it has heard by then. The exchange ends with the first reply that does not
ask for more, or with the first thing that fails, and only then is it decided who the client is.
-/
namespace Directory

open Session SessionM

abbrev BindReply := Outcome × Option Octets

def challenges (replies : List BindReply) : List Octets := replies.map fun reply => reply.2.getD []

namespace Mechanism

def credentials (mechanism : Mechanism) (heard : List Octets) : Except Error (Option Octets) :=
  if heard = [] then mechanism.initial else mechanism.answer heard

theorem credentials_append (mechanism : Mechanism) (heard : List Octets) (challenge : Octets) :
    mechanism.credentials (heard ++ [challenge]) = mechanism.answer (heard ++ [challenge]) :=
  if_neg (by simp)

/-- How an exchange ends once the server has asked for more with some challenges, by what becomes of the
bind request after them: the challenges that were heard in all, the result, and who the client is then. -/
inductive Ends (mechanism : Mechanism) (heard : List Octets) :
    Option (Except Error BindReply) → SaslExchange → Option Verdict → Prop where
  /-- The mechanism has no answer, and there is no further request. -/
  | unready {error : Error} : mechanism.credentials heard = .error error →
      Ends mechanism heard none ⟨heard, .error error⟩ none
  | unanswered (error : Error) : Ends mechanism heard (some (.error error)) ⟨heard, .error error⟩ none
  /-- The server accepts, but the mechanism does not believe it. -/
  | doubted {outcome : Outcome} {proof : Octets} {error : Error} : outcome.code.isSuccess = true →
      mechanism.answer (heard ++ [proof]) = .error error →
      Ends mechanism heard (some (.ok (outcome, some proof))) ⟨heard ++ [proof], .error error⟩ none
  | accepted {outcome : Outcome} {proof : Option Octets} : outcome.code.isSuccess = true →
      (∀ last ∈ proof, (mechanism.answer (heard ++ [last])).isOk = true) →
      Ends mechanism heard (some (.ok (outcome, proof))) ⟨heard ++ proof.toList, .ok ()⟩
        (some ⟨mechanism.identity (heard ++ proof.toList), outcome⟩)
  | refused {outcome : Outcome} {challenge : Option Octets} : outcome.code.isSuccess = false →
      outcome.code ≠ .saslBindInProgress →
      Ends mechanism heard (some (.ok (outcome, challenge)))
        ⟨heard, .error (.authentication outcome.code outcome.diagnostic)⟩
        (some ⟨mechanism.identity heard, outcome⟩)

theorem Ends.unready_of_none {mechanism : Mechanism} {heard : List Octets} {exchange : SaslExchange}
    {verdict : Option Verdict} (ends : mechanism.Ends heard none exchange verdict) :
    ∃ error, mechanism.credentials heard = .error error := by
  cases ends with
  | unready unready => exact ⟨_, unready⟩

end Mechanism

namespace Session

variable {session : Session}

structure Submission where
  session : Session
  op : Operation
  controls : List Control
  timeout : Nat

namespace Submission

def writes (submission : Submission) : List Message :=
  (Step.post submission.op submission.controls submission.timeout).writes submission.session

def Comes (submission : Submission) (message : Message) : Prop :=
  ∃ posted rest, (post submission.op submission.controls submission.timeout).run submission.session =
      (.ok ⟨submission.session.nextId, submission.timeout⟩, posted) ∧
    posted.coming submission.session.nextId = message :: rest

def Brings (submission : Submission) : Except Error BindReply → Prop
  | .ok reply => ∃ message, submission.Comes message ∧ message.op = .bindResponse reply.1 reply.2
  | .error error =>
    ((exchange submission.op submission.controls submission.timeout).run submission.session).1 =
        .error error ∨
      ∃ message, submission.Comes message ∧ message.op.kind ≠ .bindResponse ∧
        error = message.op.unexpected .bindResponse

theorem writes_of_comes {submission : Submission} (sound : submission.session.IsSound) {message : Message}
    (comes : submission.Comes message) :
    submission.writes = [⟨submission.session.nextId, submission.op, submission.controls⟩] := by
  obtain ⟨_, _, accepted, _⟩ := comes
  exact (arrived_of_post sound accepted).2.2

end Submission

def Step.submissions (session : Session) : Step → List Submission
  | post op controls timeout => [⟨session, op, controls, timeout⟩]
  | _ => []

def submissions : List Step → Session → List Submission := along Step.submissions

theorem submissions_append (first second : List Step) (session : Session) :
    submissions (first ++ second) session =
      submissions first session ++ submissions second (run first session) :=
  along_append Step.submissions first second session

theorem ignores_submissions : Ignores Step.submissions := ⟨fun _ => rfl, fun _ _ => rfl, fun _ _ => rfl⟩

theorem written_append (first second : List Step) (session : Session) :
    written (first ++ second) session = written first session ++ written second (run first session) :=
  along_append Step.writes first second session

theorem sound_of_mem_submissions {steps : List Step} (sound : session.IsSound) :
    ∀ submission ∈ submissions steps session, submission.session.IsSound := by
  intro submission member
  obtain ⟨first, step, _, _, found⟩ := mem_along member
  unfold Step.submissions at found
  split at found
  · rw [List.mem_singleton.mp found]
    exact (run_evolves first session).sound sound
  · cases found

/-- The first message that comes for a request is what its exchange gives. -/
theorem comes_of_exchange (sound : session.IsSound) {op : Operation} {controls : List Control} {timeout : Nat}
    {message : Message} (answered : ((exchange op controls timeout).run session).1 = .ok message) :
    (Submission.mk session op controls timeout).Comes message := by
  rw [exchange, SessionM.run_bind, submit, attending_run] at answered
  cases accepted : (post op controls timeout).run session with
  | mk result posted =>
    rw [accepted] at answered
    cases result with
    | error error => cases answered
    | ok handle =>
      obtain ⟨rfl, arrived, _⟩ := arrived_of_post sound accepted
      have received : (receive ⟨session.nextId, timeout⟩).run posted.takeIn =
          (.ok message, ((receive ⟨session.nextId, timeout⟩).run posted.takeIn).2) :=
        Prod.ext answered rfl
      have first := (receive_ok received).1
      rw [arrived] at first
      exact ⟨posted, _, accepted, first⟩

def bindSubmission (session : Session) (mechanism : Mechanism) (credentials : Option Octets) : Submission where
  session
  op := .bindRequest session.config.protocolVersion "" (.sasl mechanism.name credentials)
  controls := []
  timeout := session.config.operationTimeout

theorem brings_of_requestBind (sound : session.IsSound) {mechanism : Mechanism} {credentials : Option Octets}
    {result : Except Error BindReply} {after : Session}
    (asked : (requestBind "" (.sasl mechanism.name credentials)).run session = (result, after)) :
    (session.bindSubmission mechanism credentials).Brings result := by
  rw [requestBind, SessionM.run_bind, run_get] at asked
  dsimp only at asked
  rw [SessionM.run_bind] at asked
  cases answered : (exchange (.bindRequest session.config.protocolVersion "" (.sasl mechanism.name credentials))
      [] session.config.operationTimeout).run session with
  | mk outcome later =>
    rw [answered] at asked
    cases outcome with
    | error error =>
      obtain rfl := (Prod.mk.inj asked).1
      exact .inl (by rw [bindSubmission, answered])
    | ok message =>
      have comes : (session.bindSubmission mechanism credentials).Comes message :=
        comes_of_exchange sound (by rw [answered])
      dsimp only at asked
      split at asked
      · next outcome challenge op =>
        obtain rfl := (Prod.mk.inj asked).1
        exact ⟨message, comes, op⟩
      · next other =>
        obtain rfl := (Prod.mk.inj asked).1
        refine .inr ⟨message, comes, ?_, rfl⟩
        intro same
        cases op : message.op <;> simp [op, Operation.kind] at same
        exact other _ _ op

structure Steady (before after : Session) : Prop where
  config : after.config = before.config
  identity : after.identity = before.identity

namespace Steady

theorem refl (session : Session) : session.Steady session := ⟨rfl, rfl⟩

theorem trans {a b c : Session} (first : a.Steady b) (second : b.Steady c) : a.Steady c :=
  ⟨second.config.trans first.config, second.identity.trans first.identity⟩

end Steady

theorem steady_terminate (session : Session) (reason : Termination) :
    session.Steady (session.terminate reason) := by
  unfold terminate
  split <;> exact ⟨rfl, rfl⟩

theorem steady_release (session : Session) : session.Steady session.release := by
  unfold release
  split <;> exact ⟨rfl, rfl⟩

theorem steady_takeIn (session : Session) : session.Steady session.takeIn := by
  fun_induction takeIn session with
  | case1 session _ message transport _ ih => exact ⟨ih.config, ih.identity⟩
  | case2 session _ reason transport _ =>
    have stopped : session.Steady { session with transport, receiver := .stopped } := ⟨rfl, rfl⟩
    exact (stopped.trans (steady_terminate _ reason)).trans (steady_release _)
  | case3 => exact .refl _
  | case4 => exact .refl _

theorem Sends.steady {message : Message} {result : Except Error Unit} {after : Session}
    (sent : session.Sends message result after) : session.Steady after := by
  cases sent with
  | released | unreadable | sent => exact ⟨rfl, rfl⟩
  | unwritten failure transport =>
    have tried : session.Steady
        { session with transport, receiver := session.receiver.started, hasCarriedTraffic := true } := ⟨rfl, rfl⟩
    exact tried.trans (steady_terminate _ _)

theorem Posts.steady {op : Operation} {controls : List Control} {timeout : Nat}
    {result : Except Error Handle} {after : Session}
    (posted : session.Posts op controls timeout result after) : session.Steady after := by
  have opened : session.Steady session.opened := ⟨rfl, rfl⟩
  cases posted with
  | refused _ _ refused =>
    cases refused with
    | idle => exact .refl session
    | unbound => exact steady_release session
  | exhausted => exact .refl session
  | failed _ sent _ _ sends => exact (opened.trans sends.steady).trans ⟨rfl, rfl⟩
  | posted _ _ _ sends => exact opened.trans sends.steady

theorem Receives.steady {handle : Handle} {result : Except Error Message} {after : Session}
    (received : session.Receives handle result after) : session.Steady after := by
  cases received <;> exact ⟨rfl, rfl⟩

theorem steady_exchange (op : Operation) (controls : List Control) (timeout : Nat) :
    (exchange op controls timeout).Relates Steady := by
  have submitted : (submit op controls timeout).Relates Steady := fun session =>
    (post_cases session op controls timeout).steady.trans (steady_takeIn _)
  have dropped (session : Session) (id : MessageId) : session.Steady (session.dropHandle id) := ⟨rfl, rfl⟩
  exact submitted.bind (fun handle session => (receive_cases session handle).steady.trans (dropped _ _))
    Steady.trans

theorem steady_requestBind (name : String) (credentials : Credentials) (session : Session) :
    session.Steady ((requestBind name credentials).run session).2 := by
  have exchanged := steady_exchange (.bindRequest session.config.protocolVersion name credentials) []
    session.config.operationTimeout session
  rw [requestBind, SessionM.run_bind, run_get]
  dsimp only
  rw [SessionM.run_bind]
  generalize (exchange _ [] session.config.operationTimeout).run session = answer at exchanged ⊢
  obtain ⟨result, after⟩ := answer
  cases result with
  | error error => exact exchanged
  | ok message =>
    dsimp only
    split <;> exact exchanged

/-- What a verdict says of the client holds from then on, and without one nothing changes; unless the session has
ended meanwhile, by something that happens in these steps. -/
structure Concludes (before : Session) (verdict : Option Verdict) (steps : List Step) (after : Session) : Prop where
  identity : after.identity = verdict.elim before.identity Verdict.identity
  phase : after.phase = verdict.elim before.phase (fun known => .ofIdentity known.identity) ∨
    after.phase = .unbound ∧ ¬Unbroken steps before

theorem Settles.concludes {verdict : Option Verdict} {steps : List Step} (sound : session.IsSound)
    (settles : session.Settles verdict (run steps session))
    (identity : (run steps session).identity = verdict.elim session.identity Verdict.identity)
    (unknown : session.phase = .unbound → verdict = none) :
    session.Concludes verdict steps (run steps session) := by
  refine ⟨identity, ?_⟩
  cases settles with
  | past ended =>
    by_cases gone : session.phase = .unbound
    · left
      rw [unknown gone]
      exact ended.trans gone.symm
    · exact .inr ⟨ended, not_unbroken_of_unbound sound gone ended⟩
  | unmoved phase => exact .inl phase
  | settled phase => exact .inl phase

theorem identity_enter (session : Session) (phase : Phase) : (session.enter phase).identity = session.identity := by
  unfold enter
  split <;> rfl

theorem identity_finishBind (name : String) (outcome : Outcome) (session : Session) :
    ((finishBind name outcome).run session).2.identity = (Verdict.mk name outcome).identity := by
  unfold finishBind
  by_cases accepted : outcome.code.isSuccess = true
  · rw [if_pos accepted]
    by_cases nameless : name.isEmpty = true
    · rw [if_pos nameless, run_modify, identity_enter]
      simp [Verdict.identity, String.isEmpty_iff.mp nameless]
    · rw [if_neg nameless, run_modify, identity_enter]
      simpa [Verdict.identity, accepted] using nameless
  · rw [if_neg accepted]
    have unknown : (Verdict.mk name outcome).identity = none := by simp [Verdict.identity, accepted]
    rw [unknown]
    exact identity_enter { session with identity := none } .connected

theorem finishBind_accepted {outcome : Outcome} (accepted : outcome.code.isSuccess = true) (name : String)
    (session : Session) : ((finishBind name outcome).run session).1 = .ok () := by
  rw [finishBind, if_pos accepted]
  split <;> rfl

theorem finishBind_refused {outcome : Outcome} (refused : ¬outcome.code.isSuccess = true) (name : String)
    (session : Session) : ((finishBind name outcome).run session).1 =
      .error (.authentication outcome.code outcome.diagnostic) := by
  rw [finishBind, if_neg refused]
  rfl

theorem finishSasl_ends (mechanism : Mechanism) (heard : List Octets) {outcome : Outcome}
    (challenge : Option Octets) (final : outcome.code ≠ .saslBindInProgress) (session : Session) :
    mechanism.Ends heard (some (.ok (outcome, challenge)))
      (finishSasl mechanism heard outcome challenge session).1
      (finalVerdict? mechanism heard outcome challenge) := by
  by_cases accepted : outcome.code.isSuccess = true
  · have told (heard : List Octets) := finishBind_accepted accepted (mechanism.identity heard) session
    cases challenge with
    | none =>
      have ends : mechanism.Ends heard (some (.ok (outcome, none))) _ _ := .accepted accepted nofun
      simpa [finishSasl, finalVerdict?, accepted, told] using ends
    | some proof =>
      cases answered : mechanism.answer (heard ++ [proof]) with
      | error error =>
        simpa [finishSasl, finalVerdict?, accepted, answered, Except.isOk, Except.toBool]
          using Mechanism.Ends.doubted accepted answered
      | ok response =>
        have believed : ∀ last ∈ some proof, (mechanism.answer (heard ++ [last])).isOk = true := by
          rintro _ ⟨⟩
          rw [answered]
          rfl
        simpa [finishSasl, finalVerdict?, accepted, answered, told, Except.isOk, Except.toBool]
          using Mechanism.Ends.accepted accepted believed
  · have told := finishBind_refused accepted (mechanism.identity heard) session
    have ends : mechanism.Ends heard (some (.ok (outcome, challenge))) _ _ :=
      .refused (Bool.eq_false_iff.mpr accepted) final
    simpa [finishSasl, finalVerdict?, accepted, told] using ends

theorem identity_finishSasl (mechanism : Mechanism) (heard : List Octets) (outcome : Outcome)
    (challenge : Option Octets) (session : Session) :
    (finishSasl mechanism heard outcome challenge session).2.identity =
      (finalVerdict? mechanism heard outcome challenge).elim session.identity Verdict.identity := by
  have known (heard : List Octets) := identity_finishBind (mechanism.identity heard) outcome session
  unfold finishSasl finalVerdict?
  dsimp only
  generalize (if outcome.code.isSuccess then heard ++ challenge.toList else heard) = told
  by_cases asked : outcome.code.isSuccess ∧ challenge.isSome
  · cases answered : mechanism.answer told with
    | error error => simp [asked, Except.isOk, Except.toBool]
    | ok response => simpa [asked, Except.isOk, Except.toBool] using known told
  · have unasked : ¬(outcome.code.isSuccess ∧ challenge.isSome ∧ !(mechanism.answer told).isOk) :=
      fun refused => asked ⟨refused.1, refused.2.1⟩
    rw [if_neg asked, if_neg unasked]
    exact known told

/-- The client is known as the verdict on the rounds says, or as before if there is none. -/
theorem identity_saslRounds (mechanism : Mechanism) (heard : List Octets) (response : Option Octets)
    (session : Session) :
    (saslRounds mechanism heard response session).2.identity =
      (roundsVerdict? mechanism heard response session).elim session.identity Verdict.identity := by
  have asked (response : Option Octets) (session : Session) :=
    (steady_requestBind "" (.sasl mechanism.name response) session).identity
  fun_induction saslRounds mechanism heard response session with
  | case1 _ response session _ _ failed =>
    have same := asked response session
    rw [failed] at same
    rw [roundsVerdict?_failed failed]
    exact same
  | case2 _ response session _ _ _ answered going _ _ refused =>
    have same := asked response session
    rw [answered] at same
    rw [roundsVerdict?_answered answered, if_pos going, refused]
    exact same
  | case3 _ response session _ _ _ answered going _ _ accepted ih =>
    have same : _ = session.identity := asked response session
    rw [answered] at same
    rw [roundsVerdict?_answered answered, if_pos going, accepted, ih, same]
  | case4 _ response session _ _ _ answered final =>
    have same : _ = session.identity := asked response session
    rw [answered] at same
    rw [roundsVerdict?_answered answered, if_neg final, identity_finishSasl, same]

theorem roundsVerdict?_of_not_live {mechanism : Mechanism} {heard : List Octets} {response : Option Octets}
    (dead : session.phase.isLive = false) : roundsVerdict? mechanism heard response session = none := by
  cases asked : (requestBind "" (.sasl mechanism.name response)).run session with
  | mk result after =>
    cases result with
    | error error => exact roundsVerdict?_failed asked
    | ok answer =>
      rw [requestBind_ok_live asked] at dead
      cases dead

/-- How the rounds of an exchange go, after some challenges that were heard before: which replies ask for
more, and what becomes of the last request, if there is one after them. -/
structure Rounds (session : Session) (mechanism : Mechanism) (heard : List Octets) (steps : List Step)
    (progress : List BindReply) (last : Option (Except Error BindReply)) : Prop where
  going : ∀ reply ∈ progress, reply.1.code = .saslBindInProgress
  answered : List.Forall₂ Submission.Brings (submissions steps session) (progress.map .ok ++ last.toList)
  /-- Each request carries what the mechanism answers to all that it has heard by then. -/
  sent : ∀ (k : Nat) (bind : Submission), (submissions steps session)[k]? = some bind →
    ∃ credentials, mechanism.credentials (heard ++ challenges (progress.take k)) = .ok credentials ∧
      bind.op = .bindRequest session.config.protocolVersion "" (.sasl mechanism.name credentials) ∧
      bind.controls = []
  written : written steps session = (submissions steps session).flatMap Submission.writes

namespace Rounds

variable {mechanism : Mechanism} {heard : List Octets} {response : Option Octets}

theorem submissions_bind (mechanism : Mechanism) (response : Option Octets) (session : Session) :
    submissions ((bindRequest session.config "" (.sasl mechanism.name response)).steps session) session =
      [session.bindSubmission mechanism response] :=
  ignores_submissions.exchange _ [] _ session

theorem written_bind (mechanism : Mechanism) (response : Option Octets) (session : Session) :
    Session.written ((bindRequest session.config "" (.sasl mechanism.name response)).steps session) session =
      (session.bindSubmission mechanism response).writes :=
  ignores_writes.exchange _ [] _ session

theorem silent_settling (verdict : Option Verdict) (session : Session) :
    submissions (settling verdict) session = [] ∧ Session.written (settling verdict) session = [] := by
  cases verdict <;> exact ⟨rfl, rfl⟩

theorem nil : session.Rounds mechanism heard [] [] none where
  going := by simp
  answered := .nil
  sent := by simp [submissions, along]
  written := rfl

/-- The last request, and what is left to do once it is answered. -/
theorem last {result : Except Error BindReply} {tail : List Step}
    (ready : mechanism.credentials heard = .ok response)
    (brings : (session.bindSubmission mechanism response).Brings result)
    (silent : ∀ session, submissions tail session = [] ∧ Session.written tail session = []) :
    session.Rounds mechanism heard
      ((bindRequest session.config "" (.sasl mechanism.name response)).steps session ++ tail) []
      (some result) := by
  have asked : submissions ((bindRequest session.config "" (.sasl mechanism.name response)).steps session ++ tail)
      session = [session.bindSubmission mechanism response] := by
    rw [submissions_append, submissions_bind, (silent _).1, List.append_nil]
  constructor
  · simp
  · rw [asked]
    exact .cons brings .nil
  · intro k bind found
    rw [asked] at found
    obtain ⟨rfl, rfl⟩ : k = 0 ∧ session.bindSubmission mechanism response = bind := by
      cases k with
      | zero => exact ⟨rfl, by simpa using found⟩
      | succ k => simp at found
    exact ⟨response, by simpa [challenges] using ready, rfl, rfl⟩
  · rw [asked, written_append, written_bind, (silent _).2, List.flatMap_singleton, List.append_nil]

/-- One more round before the others. -/
theorem cons {reply : BindReply} {tail : List Step} {after : Session} {progress : List BindReply}
    {result : Option (Except Error BindReply)} (ready : mechanism.credentials heard = .ok response)
    (brings : (session.bindSubmission mechanism response).Brings (.ok reply))
    (going : reply.1.code = .saslBindInProgress) (config : after.config = session.config)
    (ran : run ((bindRequest session.config "" (.sasl mechanism.name response)).steps session) session = after)
    (rest : after.Rounds mechanism (heard ++ [reply.2.getD []]) tail progress result) :
    session.Rounds mechanism heard
      ((bindRequest session.config "" (.sasl mechanism.name response)).steps session ++ tail)
      (reply :: progress) result := by
  have asked : submissions ((bindRequest session.config "" (.sasl mechanism.name response)).steps session ++ tail)
      session = session.bindSubmission mechanism response :: submissions tail after := by
    rw [submissions_append, ran, submissions_bind, List.singleton_append]
  constructor
  · exact List.forall_mem_cons.mpr ⟨going, rest.going⟩
  · rw [asked]
    exact .cons brings rest.answered
  · intro k bind found
    rw [asked] at found
    cases k with
    | zero =>
      obtain rfl : session.bindSubmission mechanism response = bind := by simpa using found
      exact ⟨response, by simpa [challenges] using ready, rfl, rfl⟩
    | succ k =>
      obtain ⟨credentials, answered, op, controls⟩ := rest.sent k bind (by simpa using found)
      rw [config] at op
      exact ⟨credentials, by simpa [challenges] using answered, op, controls⟩
  · rw [asked, written_append, ran, written_bind, rest.written, List.flatMap_cons]

end Rounds

theorem exists_rounds (sound : session.IsSound) (mechanism : Mechanism) {heard : List Octets}
    {response : Option Octets} (ready : mechanism.credentials heard = .ok response) :
    ∃ progress last,
      session.Rounds mechanism heard (roundsSteps mechanism heard response session) progress last ∧
      mechanism.Ends (heard ++ challenges progress) last (saslRounds mechanism heard response session).1
        (roundsVerdict? mechanism heard response session) := by
  have config (response : Option Octets) (session : Session) :=
    (steady_requestBind "" (.sasl mechanism.name response) session).config
  have ends_nil {heard : List Octets} {last : Option (Except Error BindReply)} {exchange : SaslExchange}
      {verdict : Option Verdict} (ends : mechanism.Ends heard last exchange verdict) :
      mechanism.Ends (heard ++ challenges []) last exchange verdict := by
    rwa [challenges, List.map_nil, List.append_nil]
  fun_induction saslRounds mechanism heard response session with
  | case1 heard response session error after failed =>
    have rounds : session.Rounds mechanism heard (_ ++ []) [] (some (.error error)) :=
      .last ready (brings_of_requestBind sound failed) fun _ => ⟨rfl, rfl⟩
    rw [List.append_nil] at rounds
    rw [roundsSteps_failed failed, roundsVerdict?_failed failed]
    exact ⟨[], _, rounds, ends_nil (.unanswered error)⟩
  | case2 heard response session outcome challenge after answered going _ error refused =>
    have settings := config response session
    have ran := run_bindRequest "" (.sasl mechanism.name response) session
    rw [answered] at settings ran
    have unready : mechanism.credentials (heard ++ [challenge.getD []]) = .error error := by
      rw [Mechanism.credentials_append]
      exact refused
    rw [roundsSteps_answered answered, roundsVerdict?_answered answered, if_pos going, if_pos going, refused]
    exact ⟨[(outcome, challenge)], none,
      .cons ready (brings_of_requestBind sound answered) going settings ran .nil, .unready unready⟩
  | case3 heard response session outcome challenge after answered going _ next accepted ih =>
    have settings := config response session
    have ran := run_bindRequest "" (.sasl mechanism.name response) session
    rw [answered] at settings ran
    have later : after.IsSound := by
      have evolves := run_evolves
        ((bindRequest session.config "" (.sasl mechanism.name response)).steps session) session
      rw [ran] at evolves
      exact evolves.sound sound
    have readied : mechanism.credentials (heard ++ [challenge.getD []]) = .ok next := by
      rw [Mechanism.credentials_append]
      exact accepted
    obtain ⟨progress, last, rounds, ends⟩ := ih later readied
    rw [roundsSteps_answered answered, roundsVerdict?_answered answered, if_pos going, if_pos going, accepted]
    refine ⟨(outcome, challenge) :: progress, last, ?_, ?_⟩
    · exact .cons ready (brings_of_requestBind sound answered) going settings ran rounds
    · rwa [List.append_assoc] at ends
  | case4 heard response session outcome challenge after answered final =>
    rw [roundsSteps_answered answered, roundsVerdict?_answered answered, if_neg final, if_neg final]
    exact ⟨[], _, .last ready (brings_of_requestBind sound answered) (Rounds.silent_settling _),
      ends_nil (finishSasl_ends mechanism heard challenge final after)⟩

/-- The exchange comes to what its verdict says, or the session ends while it goes on. -/
theorem concludes_saslRounds (sound : session.IsSound) (mechanism : Mechanism) (response : Option Octets) :
    session.Concludes (roundsVerdict? mechanism [] response session) (roundsSteps mechanism [] response session)
      (saslRounds mechanism [] response session).2 := by
  have settles := settles_saslRounds mechanism [] response session
  have identity := identity_saslRounds mechanism [] response session
  rw [← run_roundsSteps] at settles identity ⊢
  exact settles.concludes sound identity fun past => roundsVerdict?_of_not_live (by rw [past]; rfl)

/-- The requests of a bind by mechanism, and what it does with the replies. The first request carries the
initial response of the mechanism and each further one its answer to the challenges so far, of which there is
one for each reply that asks for more; the first other reply is the last. A request that is answered was
written once, and nothing else is written. The mechanism hears the proof of a success too, and has to accept
it. Then the server's last word decides who the client is. If there is none, or if the mechanism fails,
nothing is known that was not known before. The session ends only by what breaks it on the way. -/
theorem sasl_exchange_follows_replies (sound : session.IsSound) (mechanism : Mechanism) :
    ∃ progress last verdict,
      session.Rounds mechanism [] (saslSteps mechanism session) progress last ∧
      (∀ bind ∈ submissions (saslSteps mechanism session) session, ∀ message, bind.Comes message →
        bind.writes = [⟨bind.session.nextId, bind.op, []⟩]) ∧
      mechanism.Ends (challenges progress) last (saslBind mechanism session).1 verdict ∧
      session.Concludes verdict (saslSteps mechanism session) (saslBind mechanism session).2 ∧
      (progress = [] → last = none → (saslBind mechanism session).2 = session) := by
  unfold saslSteps saslBind
  cases initial : mechanism.initial with
  | error error =>
    refine ⟨[], none, none, .nil, ?_, .unready ?_, ⟨rfl, .inl rfl⟩, fun _ _ => rfl⟩
    · simp [submissions, along]
    · exact initial
  | ok response =>
    have ready : mechanism.credentials [] = .ok response := initial
    obtain ⟨progress, last, rounds, ends⟩ := exists_rounds sound mechanism ready
    refine ⟨progress, last, _, rounds, ?_, ends, concludes_saslRounds sound mechanism response, ?_⟩
    · intro bind member message comes
      obtain ⟨k, found⟩ := List.mem_iff_getElem?.mp member
      obtain ⟨_, _, _, plain⟩ := rounds.sent k bind found
      rw [Submission.writes_of_comes (sound_of_mem_submissions sound bind member) comes, plain]
    · rintro rfl rfl
      obtain ⟨error, unready⟩ := ends.unready_of_none
      cases ready.symm.trans unready

def echo : Mechanism where
  name := "ECHO"
  initial := .ok none
  answer heard := if heard.length ≤ 3 then .ok (some heard.flatten) else .error (.authentication ⟨49⟩ "enough")
  identity _ := "cn=echo"

def curious : Session :=
  establish
    { script :=
        [.actions [.message none (.bindResponse ⟨.saslBindInProgress, "", "", []⟩ (some [7])) []],
          .actions [.message none (.bindResponse ⟨.success, "", "", []⟩ (some [8, 9])) []]] } {}

def questioned : Session := ((requestBind "" (.sasl echo.name none)).run curious).2

theorem sasl_exchange_curious :
    curious.IsSound ∧
      (∃ progress last verdict,
        curious.Rounds echo [] (saslSteps echo curious) progress last ∧
        echo.Ends (challenges progress) last (saslBind echo curious).1 verdict ∧
        curious.Concludes verdict (saslSteps echo curious) (saslBind echo curious).2) ∧
      (saslBind echo curious).1.challenges = [[7], [8, 9]] ∧
      (saslBind echo curious).2.identity = some "cn=echo" := by
  have sound : curious.IsSound := IsNew.isSound ⟨_, _, .inr rfl⟩
  obtain ⟨progress, last, verdict, rounds, _, ends, concludes, _⟩ := sasl_exchange_follows_replies sound echo
  have first : ((requestBind "" (.sasl echo.name none)).run curious).1 =
      .ok (⟨.saslBindInProgress, "", "", []⟩, some [7]) := by
    decide +kernel
  have second : ((requestBind "" (.sasl echo.name (some [7]))).run questioned).1 =
      .ok (⟨.success, "", "", []⟩, some [8, 9]) := by
    decide +kernel
  have again : saslRounds echo [] none curious = saslRounds echo [[7]] (some [7]) questioned :=
    saslRounds_again (Prod.ext first rfl) rfl rfl
  have final : saslRounds echo [[7]] (some [7]) questioned = finishSasl echo [[7]]
      ⟨.success, "", "", []⟩ (some [8, 9]) ((requestBind "" (.sasl echo.name (some [7]))).run questioned).2 :=
    saslRounds_final (Prod.ext second rfl) nofun
  refine ⟨sound, ⟨progress, last, verdict, rounds, ends, concludes⟩, ?_⟩
  have begun : saslBind echo curious = saslRounds echo [] none curious := rfl
  rw [begun, again, final]
  decide +kernel

end Session

end Directory
