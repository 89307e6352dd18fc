import Directory.Proofs.Session.Agreement
/-!
Runs side by side. What is done with two sessions that are alike is replied to alike, and does alike to their
transports, as long as what the receivers and the exchanges for security find comes to the same.
-/
namespace Directory.Session

open SessionM

def Step.isBlind : Step → Bool
  | arrive _ | takeIn | secure _ => false
  | _ => true

/-- A step on each of two sessions: the same but for what arrives and for the upgrades, and what is read in it
comes to the same. -/
inductive Step.Matches (manner : Manner) (one other : Session) : Step → Step → Prop where
  | arrive (some others : List Action) :
      manner.streams (some.flatMap (Action.arrivals 0)) (others.flatMap (Action.arrivals 0)) →
      Matches manner one other (.arrive some) (.arrive others)
  | takeIn : TakesInAlike manner one other → Matches manner one other .takeIn .takeIn
  | secure (upgrade upgraded : Upgrade) : AsksAlike manner one other →
      UpgradesAlike manner upgrade upgraded one other →
      Matches manner one other (.secure upgrade) (.secure upgraded)
  | blind (step : Step) : step.isBlind = true → Matches manner one other step step

variable {manner : Manner} {one other : Session}

theorem Alike.untouched_iff (alike : one.Alike manner other) : other.IsUntouched ↔ one.IsUntouched := by
  cases alike
  constructor
  · rintro ⟨live, plain, quiet, unread, held, left⟩
    exact ⟨live, plain, quiet, unread, held, left⟩
  · rintro ⟨live, plain, quiet, unread, held, left⟩
    exact ⟨live, plain, quiet, unread, held, left⟩

theorem Alike.frames_secure (alike : one.Alike manner other) (upgrade upgraded : Upgrade) :
    (Step.secure upgrade).frames one = (Step.secure upgraded).frames other := by
  have same : other.securityRequest = one.securityRequest := by
    cases alike
    rfl
  simp only [Step.frames, same, alike.untouched_iff]

theorem Alike.frames_blind (alike : one.Alike manner other) {step : Step} (blind : step.isBlind = true) :
    step.frames one = step.frames other := by
  cases alike with
  | intro transport transports =>
    cases transports
    cases step with
    | secure => cases blind
    | _ => rfl

namespace Step.Matches

variable {step paired : Step}

theorem alike (steps : step.Matches manner one other paired) (alike : one.Alike manner other) :
    (step.perform one).Alike manner (paired.perform other) := by
  cases steps with
  | arrive some others more =>
    cases alike with
    | intro transport transports => exact .intro _ (transports.deliver more)
  | takeIn reads => exact alike.takeIn reads
  | secure upgrade upgraded reads upgrades => exact (alike.startSecurity reads upgrades).2.2.2
  | blind step blind =>
    cases step with
    | number => exact (agrees_nextRequestId alike).2
    | post op controls timeout => exact (agrees_post op controls timeout alike).2
    | receive handle => exact (agrees_receive handle alike).2
    | drop id => exact alike.dropHandle id
    | giveUp target => exact (agrees_giveUp target alike).2
    | settle name outcome =>
      dsimp only [perform]
      rw [alike.phase]
      split
      · exact alike
      · exact (agrees_finishBind name outcome alike).2
    | close => exact alike.close
    | _ => cases blind

theorem reply (steps : step.Matches manner one other paired) (alike : one.Alike manner other) :
    step.reply one = paired.reply other := by
  cases steps with
  | arrive => rfl
  | takeIn => rfl
  | secure upgrade upgraded reads upgrades =>
    obtain ⟨given, result, _⟩ := alike.startSecurity reads upgrades
    rw [Step.reply, Step.reply, given, result]
  | blind step blind =>
    cases step with
    | number => exact congrArg Reply.number (agrees_nextRequestId alike).1
    | post op controls timeout => exact congrArg Reply.handle (agrees_post op controls timeout alike).1
    | receive handle => exact congrArg Reply.message (agrees_receive handle alike).1
    | giveUp target => rw [Step.reply, Step.reply, (agrees_giveUp target alike).1]
    | secure => cases blind
    | _ => rfl

/-- The same is done to the transports of both. -/
theorem deeds (steps : step.Matches manner one other paired) (alike : one.Alike manner other) :
    step.deeds one = paired.deeds other := by
  have after := (steps.alike alike).held
  have frames : step.frames one = paired.frames other := by
    cases steps with
    | arrive => rfl
    | takeIn => rfl
    | secure upgrade upgraded => exact alike.frames_secure upgrade upgraded
    | blind _ blind => exact alike.frames_blind blind
  have forfeits : step.forfeits one = paired.forfeits other := by
    cases steps with
    | arrive => rfl
    | takeIn => rfl
    | secure upgrade upgraded reads upgrades => exact (alike.startSecurity reads upgrades).2.2.1
    | blind step blind =>
      cases step with
      | secure => cases blind
      | _ => rfl
  rw [Step.deeds, Step.deeds, frames, forfeits, after, alike.held]

end Step.Matches

inductive StepsMatch (manner : Manner) : Session → Session → List Step → List Step → Prop where
  | nil (one other : Session) : StepsMatch manner one other [] []
  | cons {one other : Session} {step paired : Step} {rest others : List Step} :
      step.Matches manner one other paired →
      StepsMatch manner (step.perform one) (paired.perform other) rest others →
      StepsMatch manner one other (step :: rest) (paired :: others)

namespace StepsMatch

theorem alike {steps others : List Step} (matched : StepsMatch manner one other steps others)
    (alike : one.Alike manner other) :
    (run steps one).Alike manner (run others other) ∧ deeds steps one = deeds others other := by
  induction matched with
  | nil => exact ⟨alike, rfl⟩
  | cons first _ ih =>
    obtain ⟨later, done⟩ := ih (first.alike alike)
    exact ⟨later, by rw [deeds, deeds, done, first.deeds alike]⟩

theorem append {first second : List Step}
    (matched : StepsMatch manner one other (first ++ second) (first ++ second)) :
    StepsMatch manner one other first first ∧
      StepsMatch manner (run first one) (run first other) second second := by
  induction first generalizing one other with
  | nil => exact ⟨.nil one other, matched⟩
  | cons step rest ih =>
    cases matched with
    | cons now later =>
      obtain ⟨early, late⟩ := ih later
      exact ⟨.cons now early, late⟩

end StepsMatch

theorem stepsMatch_self {steps : List Step}
    (each : ∀ step ∈ steps, ∀ one other, step.Matches manner one other step) (one other : Session) :
    StepsMatch manner one other steps steps := by
  induction steps generalizing one other with
  | nil => exact .nil one other
  | cons step rest ih =>
    rw [List.forall_mem_cons] at each
    exact .cons (each.1 one other) (ih each.2 _ _)

theorem isBlind_gatherSteps (handle : Handle) (session : Session) :
    ∀ step ∈ gatherSteps handle session, step.isBlind = true := by
  intro step member
  rw [gatherSteps_receives handle session step member]
  rfl

def Request.ask (session : Session) : Request → Session
  | exchange op controls timeout => ((post op controls timeout).run session).2
  | search timeout request controls => ((post (.searchRequest request) controls timeout).run session).2
  | abandon target => ((giveUp target).run session).2

theorem stepsMatch_submit {op : Operation} {controls : List Control} {timeout : Nat}
    {reads : Handle → Session → List Step}
    (blind : ∀ handle session, ∀ step ∈ reads handle session, step.isBlind = true)
    (found : TakesInAlike manner ((post op controls timeout).run one).2
      ((post op controls timeout).run other).2) :
    StepsMatch manner one other (submitSteps op controls timeout reads one)
      (submitSteps op controls timeout reads one) := by
  refine .cons (.blind _ rfl) (.cons (.takeIn found) (stepsMatch_self ?_ _ _))
  cases (submit op controls timeout).run one with
  | mk result after =>
    cases result with
    | error error => simp
    | ok handle =>
      intro step member _ _
      rcases List.mem_append.mp member with reading | dropped
      · exact .blind step (blind handle after step reading)
      · rw [List.mem_singleton.mp dropped]
        exact .blind _ rfl

/-- All that is read for a request is read once it was written. -/
theorem Request.stepsMatch (request : Request)
    (found : TakesInAlike manner (request.ask one) (request.ask other)) :
    StepsMatch manner one other (request.steps one) (request.steps one) := by
  cases request with
  | exchange op controls timeout =>
    refine stepsMatch_submit ?_ found
    simp [Step.isBlind]
  | search timeout request controls => exact stepsMatch_submit isBlind_gatherSteps found
  | abandon target => exact .cons (.blind _ rfl) (.cons (.takeIn found) (.nil _ _))

/-- A request is submitted alike where what is taken in then comes to the same. -/
theorem Alike.submit (alike : one.Alike manner other) {op : Operation} {controls : List Control} {timeout : Nat}
    (found : TakesInAlike manner ((post op controls timeout).run one).2
      ((post op controls timeout).run other).2) :
    ((submit op controls timeout).run one).1 = ((submit op controls timeout).run other).1 ∧
      ((submit op controls timeout).run one).2.Alike manner ((submit op controls timeout).run other).2 := by
  obtain ⟨same, posted⟩ := agrees_post op controls timeout alike
  exact ⟨same, posted.takeIn found⟩

/-- A request that is read in the same way on both sides brings the same. -/
theorem submitSteps_agrees {op : Operation} {controls : List Control} {timeout : Nat}
    {use : Handle → SessionM α} {reads : Handle → Session → List Step}
    (each : ∀ handle ⦃one other : Session⦄, one.Alike manner other →
      ((use handle).run one).1 = ((use handle).run other).1 ∧ reads handle other = reads handle one)
    (alike : one.Alike manner other)
    (matched : StepsMatch manner one other (submitSteps op controls timeout reads one)
      (submitSteps op controls timeout reads one)) :
    ((do
        let handle ← submit op controls timeout
        releasing handle (use handle)).run one).1 =
      ((do
        let handle ← submit op controls timeout
        releasing handle (use handle)).run other).1 ∧
      submitSteps op controls timeout reads other = submitSteps op controls timeout reads one := by
  -- The second step takes in the answer, which is no blind step.
  have found : TakesInAlike manner ((post op controls timeout).run one).2
      ((post op controls timeout).run other).2 := by
    unfold submitSteps at matched
    cases matched with
    | cons _ later =>
      cases later with
      | cons second _ =>
        cases second with
        | takeIn reads => exact reads
        | blind _ blind => cases blind
  obtain ⟨same, submitted⟩ := alike.submit found
  obtain ⟨result, left, right, first, second⟩ := exists_of_fst_eq same
  rw [first, second] at submitted
  rw [SessionM.run_bind, SessionM.run_bind, submitSteps, submitSteps, first, second]
  cases result with
  | error error => exact ⟨rfl, rfl⟩
  | ok handle =>
    obtain ⟨used, read⟩ := each handle submitted
    dsimp only
    rw [read, releasing_run, releasing_run]
    exact ⟨used, rfl⟩

variable {session : Session}

theorem gather_failed {handle : Handle} {error : Error} {after : Session}
    (received : (receive handle).run session = (.error error, after)) :
    gather handle session = (.error error, after) := by
  rw [gather]
  split
  · next found =>
    rw [received] at found
    cases found
    rfl
  · next found =>
    rw [received] at found
    cases found

def added : Operation → SearchResult → SearchResult
  | .searchEntry entry, found => { found with entries := entry :: found.entries }
  | .searchReference urls, found => { found with referrals := urls ++ found.referrals }
  | _, found => found

theorem gather_more {handle : Handle} {message : Message} {after : Session}
    (received : (receive handle).run session = (.ok message, after)) (more : message.op.isPartial = true) :
    gather handle session = ((gather handle after).1.map (added message.op), (gather handle after).2) := by
  conv => lhs; rw [gather]
  split
  · next found =>
    rw [received] at found
    cases found
  · next found =>
    rw [received] at found
    cases found
    cases op : message.op with
    | searchEntry | searchReference => rfl
    | _ =>
      rw [op] at more
      cases more

def gathered : Operation → Except Error SearchResult
  | .searchDone outcome paging =>
    if outcome.endsSearch then .ok ⟨[], [], outcome, (paging.map Paging.cookie).getD []⟩
    else .error (Error.ofOutcome outcome)
  | op => .error (op.unexpected .searchDone)

theorem gather_last {handle : Handle} {message : Message} {after : Session}
    (received : (receive handle).run session = (.ok message, after)) (last : message.op.isPartial = false) :
    gather handle session = (gathered message.op, after) := by
  rw [gather]
  split
  · next found =>
    rw [received] at found
    cases found
  · next found =>
    rw [received] at found
    cases found
    cases op : message.op with
    | searchEntry | searchReference =>
      rw [op] at last
      cases last
    | searchDone outcome paging =>
      dsimp only [gathered]
      split <;> rfl
    | _ => rfl

theorem gatherSteps_failed {handle : Handle} {error : Error} {after : Session}
    (received : (receive handle).run session = (.error error, after)) :
    gatherSteps handle session = [.receive handle] :=
  gatherSteps_last (by simp [received])

theorem gatherSteps_whole {handle : Handle} {message : Message} {after : Session}
    (received : (receive handle).run session = (.ok message, after)) (last : message.op.isPartial = false) :
    gatherSteps handle session = [.receive handle] := by
  apply gatherSteps_last
  intro other _ found
  rw [received] at found
  cases found
  exact last

theorem gather_agrees (handle : Handle) ⦃one other : Session⦄ (alike : one.Alike manner other) :
    ((gather handle).run one).1 = ((gather handle).run other).1 ∧
      gatherSteps handle other = gatherSteps handle one := by
  change (gather handle one).1 = (gather handle other).1 ∧ _
  induction one using gatherSteps.induct handle generalizing other with
  | case1 one ih =>
    obtain ⟨same, later⟩ := agrees_receive handle alike
    obtain ⟨result, left, right, first, second⟩ := exists_of_fst_eq same
    rw [first, second] at later
    cases result with
    | error error =>
      rw [gather_failed first, gather_failed second, gatherSteps_failed first, gatherSteps_failed second]
      exact ⟨rfl, rfl⟩
    | ok message =>
      cases more : message.op.isPartial with
      | false =>
        rw [gather_last first more, gather_last second more, gatherSteps_whole first more,
          gatherSteps_whole second more]
        exact ⟨rfl, rfl⟩
      | true =>
        obtain ⟨rest, steps⟩ := ih message left first later
        rw [gather_more first more, gather_more second more, gatherSteps_more first more,
          gatherSteps_more second more, steps, rest]
        exact ⟨rfl, rfl⟩

/-- A request brings the same on sessions that are alike, and takes the same steps. -/
theorem Request.agrees (request : Request) (alike : one.Alike manner other)
    (matched : StepsMatch manner one other (request.steps one) (request.steps one)) :
    (request.perform.run one).1 = (request.perform.run other).1 ∧
      request.steps other = request.steps one := by
  cases request with
  | exchange op controls timeout =>
    exact submitSteps_agrees (fun handle _ _ alike => ⟨(agrees_receive handle alike).1, rfl⟩) alike matched
  | search timeout request controls => exact submitSteps_agrees gather_agrees alike matched
  | abandon target => exact ⟨(agrees_giveUp target alike).1, rfl⟩

/-- An action of one request comes to the same on sessions that are alike. -/
theorem requestSteps_agrees {action : SessionM α} {request : Option Request} (alike : one.Alike manner other)
    (makes : action.Makes one.config request)
    (matched : StepsMatch manner one other (requestSteps one request) (requestSteps one request)) :
    (action.run one).1 = (action.run other).1 ∧ requestSteps other request = requestSteps one request := by
  cases makes with
  | nothing result comes =>
    rw [comes one rfl, comes other alike.config]
    exact ⟨rfl, rfl⟩
  | request made read makes =>
    obtain ⟨same, steps⟩ := made.agrees alike matched
    rw [makes one rfl, makes other alike.config, same]
    exact ⟨rfl, steps⟩

/-- The same with the sessions after it, and with steps that follow. -/
theorem run_agrees {action : SessionM α} {request : Option Request} {rest : List Step}
    (alike : one.Alike manner other) (makes : action.Makes one.config request)
    (matched : StepsMatch manner one other (requestSteps one request ++ rest)
      (requestSteps one request ++ rest)) :
    ∃ result left right, action.run one = (result, left) ∧ action.run other = (result, right) ∧
      left.Alike manner right ∧ requestSteps other request = requestSteps one request ∧
      StepsMatch manner left right rest rest := by
  -- Both runs are along the steps that the first one takes, so these can be cut off.
  obtain ⟨asked, later⟩ := matched.append
  obtain ⟨same, steps⟩ := requestSteps_agrees alike makes asked
  obtain ⟨result, left, right, first, second⟩ := exists_of_fst_eq same
  have after := (asked.alike alike).1
  have others : run (requestSteps one request) other = (action.run other).2 := by
    rw [← steps]
    exact run_requestSteps (alike.config ▸ makes)
  rw [run_requestSteps makes, others, first, second] at later after
  exact ⟨result, left, right, first, second, after, steps, later⟩

/-- The request of a bind, and what is left to do after it. -/
theorem requestBind_agrees {name : String} {credentials : Credentials} {rest : List Step}
    (alike : one.Alike manner other)
    (matched : StepsMatch manner one other ((bindRequest one.config name credentials).steps one ++ rest)
      ((bindRequest one.config name credentials).steps one ++ rest)) :
    ∃ result left right, (requestBind name credentials).run one = (result, left) ∧
      (requestBind name credentials).run other = (result, right) ∧ left.Alike manner right ∧
      (bindRequest other.config name credentials).steps other =
        (bindRequest one.config name credentials).steps one ∧
      StepsMatch manner left right rest rest := by
  rw [alike.config]
  exact run_agrees alike (makes_requestBind name credentials) matched

theorem simpleBind_agrees (name password : String) (alike : one.Alike manner other)
    (matched : StepsMatch manner one other (simpleBindSteps name password one)
      (simpleBindSteps name password one)) :
    ((simpleBind name password).run one).1 = ((simpleBind name password).run other).1 ∧
      simpleBindSteps name password other = simpleBindSteps name password one := by
  obtain ⟨result, left, right, first, second, after, steps, _⟩ := requestBind_agrees alike matched
  rw [simpleBindSteps, simpleBindSteps, steps, simpleVerdict?, simpleVerdict?, first, second, simpleBind,
    SessionM.run_bind, SessionM.run_bind, first, second]
  cases result with
  | error error => exact ⟨rfl, rfl⟩
  | ok answer => exact ⟨(agrees_finishBind name answer.1 after).1, rfl⟩

theorem saslRounds_failed {mechanism : Mechanism} {challenges : List Octets} {response : Option Octets}
    {error : Error} {after : Session}
    (failed : (requestBind "" (.sasl mechanism.name response)).run session = (.error error, after)) :
    saslRounds mechanism challenges response session = (⟨challenges, .error error⟩, after) := by
  rw [saslRounds]
  split
  · next found =>
    rw [failed] at found
    cases found
    rfl
  · next found =>
    rw [failed] at found
    cases found

section Answered

variable {mechanism : Mechanism} {challenges : List Octets} {response : Option Octets} {outcome : Outcome}
  {challenge : Option Octets} {after : Session}

theorem saslRounds_final (answered : (requestBind "" (.sasl mechanism.name response)).run session =
      (.ok (outcome, challenge), after)) (final : outcome.code ≠ .saslBindInProgress) :
    saslRounds mechanism challenges response session =
      finishSasl mechanism challenges outcome challenge after := by
  rw [saslRounds]
  split
  · next found =>
    rw [answered] at found
    cases found
  · next found =>
    rw [answered] at found
    cases found
    exact if_neg final

theorem saslRounds_refused {error : Error}
    (answered : (requestBind "" (.sasl mechanism.name response)).run session =
      (.ok (outcome, challenge), after)) (going : outcome.code = .saslBindInProgress)
    (refused : mechanism.answer (challenges ++ [challenge.getD []]) = .error error) :
    saslRounds mechanism challenges response session =
      (⟨challenges ++ [challenge.getD []], .error error⟩, after) := by
  rw [saslRounds]
  split
  · next found =>
    rw [answered] at found
    cases found
  · next found =>
    rw [answered] at found
    cases found
    rw [if_pos going]
    dsimp only
    rw [refused]

theorem saslRounds_again {reaction : Option Octets}
    (answered : (requestBind "" (.sasl mechanism.name response)).run session =
      (.ok (outcome, challenge), after)) (going : outcome.code = .saslBindInProgress)
    (accepted : mechanism.answer (challenges ++ [challenge.getD []]) = .ok reaction) :
    saslRounds mechanism challenges response session =
      saslRounds mechanism (challenges ++ [challenge.getD []]) reaction after := by
  conv => lhs; rw [saslRounds]
  split
  · next found =>
    rw [answered] at found
    cases found
  · next found =>
    rw [answered] at found
    cases found
    rw [if_pos going]
    dsimp only
    rw [accepted]

end Answered

theorem finishSasl_agrees (mechanism : Mechanism) (challenges : List Octets) (outcome : Outcome)
    (challenge : Option Octets) (alike : one.Alike manner other) :
    (finishSasl mechanism challenges outcome challenge one).1 =
      (finishSasl mechanism challenges outcome challenge other).1 := by
  unfold finishSasl
  dsimp only
  split
  · rfl
  · have same (name : String) := (agrees_finishBind name outcome alike).1
    dsimp only
    rw [same]

theorem rounds_agree (mechanism : Mechanism) (challenges : List Octets) (response : Option Octets)
    (alike : one.Alike manner other)
    (matched : StepsMatch manner one other (roundsSteps mechanism challenges response one)
      (roundsSteps mechanism challenges response one)) :
    (saslRounds mechanism challenges response one).1 = (saslRounds mechanism challenges response other).1 ∧
      roundsSteps mechanism challenges response other = roundsSteps mechanism challenges response one := by
  -- What is heard so far is the same on both sides, and so is what the mechanism makes of it.
  fun_induction saslRounds mechanism challenges response one generalizing other with
  | case1 challenges response one error after failed =>
    rw [roundsSteps_failed failed, ← List.append_nil (Request.steps _ _)] at matched
    obtain ⟨_, _, _, first, second, _, steps, _⟩ := requestBind_agrees alike matched
    rw [failed] at first
    cases first
    rw [saslRounds_failed second, roundsSteps_failed second, roundsSteps_failed failed, steps]
    exact ⟨rfl, rfl⟩
  | case2 challenges response one outcome challenge after answered going heard error =>
    rename_i refused
    rw [roundsSteps_answered answered] at matched
    obtain ⟨_, _, _, first, second, _, steps, _⟩ := requestBind_agrees alike matched
    rw [answered] at first
    cases first
    rw [saslRounds_refused second going refused, roundsSteps_answered second, roundsSteps_answered answered,
      steps, if_pos going, if_pos going, refused]
    exact ⟨rfl, rfl⟩
  | case3 challenges response one outcome challenge after answered going heard reaction =>
    rename_i accepted ih
    rw [roundsSteps_answered answered] at matched
    obtain ⟨_, _, _, first, second, later, steps, rest⟩ := requestBind_agrees alike matched
    rw [answered] at first
    cases first
    rw [if_pos going, accepted] at rest
    obtain ⟨same, again⟩ := ih later rest
    rw [saslRounds_again second going accepted, roundsSteps_answered second, roundsSteps_answered answered,
      steps, if_pos going, if_pos going, accepted]
    exact ⟨same, congrArg _ again⟩
  | case4 challenges response one outcome challenge after answered final =>
    rw [roundsSteps_answered answered] at matched
    obtain ⟨_, _, _, first, second, later, steps, _⟩ := requestBind_agrees alike matched
    rw [answered] at first
    cases first
    rw [saslRounds_final second final, roundsSteps_answered second, roundsSteps_answered answered, steps,
      if_neg final, if_neg final]
    exact ⟨finishSasl_agrees mechanism challenges outcome challenge later, rfl⟩

/-- What is fetched for the next entry is the same, and so is the entry. -/
theorem pages_agree (entries : PagedEntries) (alike : one.Alike manner other)
    (matched : StepsMatch manner one other (entries.steps one) (entries.steps one)) :
    (entries.next one).1 = (entries.next other).1 ∧ entries.steps other = entries.steps one := by
  fun_induction PagedEntries.next entries one generalizing other with
  | case1 entries one entry rest buffered =>
    have full : entries.buffer ≠ [] := by simp [buffered]
    rw [PagedEntries.steps, PagedEntries.steps, if_pos (.inl full), if_pos (.inl full), PagedEntries.next,
      buffered]
    exact ⟨rfl, rfl⟩
  | case2 entries one empty spent =>
    have ended : entries.hasFailed = true ∨ entries.cursor.isExhausted = true := by simpa using spent
    rw [PagedEntries.steps, PagedEntries.steps, if_pos (.inr ended), if_pos (.inr ended), PagedEntries.next,
      empty]
    dsimp only
    rw [if_pos spent]
    exact ⟨rfl, rfl⟩
  | case3 entries one empty going error after failed =>
    rw [PagedEntries.steps_failed empty going failed, ← List.append_nil (requestSteps _ _)] at matched
    obtain ⟨_, _, _, first, second, _, steps, _⟩ :=
      run_agrees alike (entries.cursor.makes_fetch entries.timeout entries.request) matched
    rw [failed] at first
    cases first
    rw [PagedEntries.next_failed empty going second, PagedEntries.steps_failed empty going second,
      PagedEntries.steps_failed empty going failed]
    exact ⟨rfl, steps⟩
  | case4 entries one empty going page cursor after fetched ih =>
    rw [PagedEntries.steps_fetched empty going fetched] at matched
    obtain ⟨_, _, _, first, second, later, steps, rest⟩ :=
      run_agrees alike (entries.cursor.makes_fetch entries.timeout entries.request) matched
    rw [fetched] at first
    cases first
    obtain ⟨next, again⟩ := ih later rest
    rw [PagedEntries.next_fetched empty going second, PagedEntries.steps_fetched empty going second,
      PagedEntries.steps_fetched empty going fetched, again]
    exact ⟨next, congrArg (· ++ _) steps⟩

theorem clientBind_agrees (name password : String) (alike : one.Alike manner other)
    (matched : StepsMatch manner one other ((Act.call (.bind name password)).steps one)
      ((Act.call (.bind name password)).steps one)) :
    ((Client.Call.bind name password).answer.run one).1 =
        ((Client.Call.bind name password).answer.run other).1 ∧
      (Act.call (.bind name password)).steps other = (Act.call (.bind name password)).steps one := by
  rw [Client.Call.answer, Client.bind, SessionM.run_bind, SessionM.run_bind]
  unfold Act.steps at matched ⊢
  dsimp only at matched ⊢
  by_cases unproven : name ≠ "" ∧ password = ""
  · rw [if_pos unproven, if_pos unproven, if_pos (by simpa [String.isEmpty_iff] using unproven)]
    exact ⟨rfl, rfl⟩
  · rw [if_neg unproven] at matched ⊢
    rw [if_neg unproven, if_neg (by simpa [String.isEmpty_iff] using unproven)]
    obtain ⟨same, steps⟩ := simpleBind_agrees name password alike matched
    obtain ⟨result, left, right, first, second⟩ := exists_of_fst_eq same
    rw [first, second]
    refine ⟨?_, steps⟩
    cases result <;> rfl

/-- A whole act is replied to alike where all that is read in it comes to the same, and takes the same steps. -/
theorem Act.agrees (act : Act) (alike : one.Alike manner other)
    (matched : StepsMatch manner one other (act.steps one) (act.steps one)) :
    act.reply one = act.reply other ∧ act.steps other = act.steps one := by
  cases act with
  | step taken =>
    cases matched with
    | cons first _ => exact ⟨first.reply alike, rfl⟩
  | query timeout asked =>
    obtain ⟨same, steps⟩ := requestSteps_agrees alike (asked.makes timeout) matched
    exact ⟨congrArg Reply.answer same, steps⟩
  | simpleBind name password =>
    obtain ⟨same, steps⟩ := simpleBind_agrees name password alike matched
    exact ⟨by rw [reply, reply, same], steps⟩
  | saslBind mechanism =>
    dsimp only [Act.steps, reply] at matched ⊢
    unfold saslSteps Session.saslBind at *
    cases initial : mechanism.initial with
    | error error => exact ⟨rfl, rfl⟩
    | ok response =>
      rw [initial] at matched
      obtain ⟨same, steps⟩ := rounds_agree mechanism [] response alike matched
      exact ⟨congrArg Reply.exchange same, steps⟩
  | pagedSearch base scope filter attributes pageSize =>
    obtain ⟨same, _⟩ := requestSteps_agrees alike
      (Client.makes_pagedSearch base scope filter attributes pageSize) matched
    exact ⟨congrArg Reply.pages same, rfl⟩
  | next entries =>
    obtain ⟨same, steps⟩ := pages_agree entries alike matched
    exact ⟨by rw [reply, reply, same], steps⟩
  | call called =>
    by_cases bind : ∃ name password, called = .bind name password
    · obtain ⟨name, password, rfl⟩ := bind
      obtain ⟨same, steps⟩ := clientBind_agrees name password alike matched
      exact ⟨congrArg Reply.answer same, steps⟩
    · have plain : ∀ name password, called ≠ .bind name password :=
        fun name password same => bind ⟨name, password, same⟩
      rw [steps_call plain] at matched ⊢
      obtain ⟨same, steps⟩ := requestSteps_agrees alike (Client.Call.makes plain) matched
      rw [steps_call plain, alike.config]
      exact ⟨congrArg Reply.answer same, steps⟩

inductive Act.Matches (manner : Manner) (one other : Session) : Act → Act → Prop where
  | step {step paired : Step} : step.Matches manner one other paired →
      Matches manner one other (.step step) (.step paired)
  | whole (act : Act) : StepsMatch manner one other (act.steps one) (act.steps one) →
      Matches manner one other act act

namespace Act.Matches

variable {act paired : Act}

/-- The steps of both, pair by pair. -/
theorem steps (acts : act.Matches manner one other paired) (alike : one.Alike manner other) :
    StepsMatch manner one other (act.steps one) (paired.steps other) := by
  cases acts with
  | step steps => exact .cons steps (.nil _ _)
  | whole act matched =>
    rw [(act.agrees alike matched).2]
    exact matched

theorem alike (acts : act.Matches manner one other paired) (alike : one.Alike manner other) :
    (act.perform one).Alike manner (paired.perform other) := by
  rw [← act.run_steps, ← paired.run_steps]
  exact ((acts.steps alike).alike alike).1

theorem reply (acts : act.Matches manner one other paired) (alike : one.Alike manner other) :
    act.reply one = paired.reply other := by
  cases acts with
  | step steps => exact steps.reply alike
  | whole act matched => exact (act.agrees alike matched).1

end Act.Matches

theorem deeds_append (first second : List Step) (session : Session) :
    deeds (first ++ second) session = deeds first session ++ deeds second (run first session) := by
  induction first generalizing session with
  | nil => rfl
  | cons step rest ih =>
    rw [List.cons_append, deeds, ih, ← List.append_assoc]
    rfl

inductive ActsMatch (manner : Manner) : Session → Session → List Act → List Act → Prop where
  | nil (one other : Session) : ActsMatch manner one other [] []
  | cons {one other : Session} {act paired : Act} {rest others : List Act} :
      act.Matches manner one other paired →
      ActsMatch manner (act.perform one) (paired.perform other) rest others →
      ActsMatch manner one other (act :: rest) (paired :: others)

/-- What is done with two sessions that are alike is replied to alike, does the same to their transports, and
leaves them alike. -/
theorem ActsMatch.alike {acts others : List Act} (matched : ActsMatch manner one other acts others)
    (alike : one.Alike manner other) :
    replies acts one = replies others other ∧
      deeds (course acts one) one = deeds (course others other) other ∧
      (enact acts one).Alike manner (enact others other) := by
  induction matched with
  | nil => exact ⟨rfl, rfl, alike⟩
  | @cons one other act paired _ _ first _ ih =>
    obtain ⟨replied, done, later⟩ := ih (first.alike alike)
    obtain ⟨steps, deeds⟩ := (first.steps alike).alike alike
    refine ⟨by rw [replies, replies, first.reply alike, replied], ?_, later⟩
    rw [course, course, deeds_append, deeds_append, deeds, act.run_steps, paired.run_steps, done]

theorem ActsMatch.take {acts others : List Act} (matched : ActsMatch manner one other acts others) (n : Nat) :
    ActsMatch manner one other (acts.take n) (others.take n) := by
  induction matched generalizing n with
  | nil one other =>
    rw [List.take_nil]
    exact .nil one other
  | cons first _ ih =>
    cases n with
    | zero => exact .nil _ _
    | succ n => exact .cons first (ih n)

/-- Nobody can tell the sessions apart before something is read. -/
structure Indistinct (one other : Session) : Prop where
  phase : one.phase = other.phase
  ending : one.ending = other.ending
  identity : one.identity = other.identity
  waiters : one.waiters = other.waiters
  pendingCount : one.pendingCount = other.pendingCount
  sent : one.transport.sent = other.transport.sent
  shutdowns : one.transport.shutdowns = other.transport.shutdowns

theorem Alike.indistinct (alike : one.Alike manner other) : one.Indistinct other := by
  cases alike with
  | intro transport transports =>
    cases transports
    exact ⟨rfl, rfl, rfl, rfl, rfl, rfl, rfl⟩

structure GoesAlike (one other : Session) (acts others : List Act) : Prop where
  replies : replies acts one = replies others other
  deeds : deeds (course acts one) one = deeds (course others other) other
  indistinct (n : Nat) : (enact (acts.take n) one).Indistinct (enact (others.take n) other)

theorem ActsMatch.goesAlike {acts others : List Act} (matched : ActsMatch manner one other acts others)
    (alike : one.Alike manner other) : one.GoesAlike other acts others := by
  obtain ⟨replied, done, _⟩ := matched.alike alike
  exact ⟨replied, done, fun n => ((matched.take n).alike alike).2.2.indistinct⟩

end Directory.Session
