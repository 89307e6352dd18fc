import Directory.Proofs.Session.Identity
import Directory.Proofs.Session.Numbers
import Directory.Proofs.Session.Requests
/-!
The course of operations. Whatever is done with a session, the steps that it takes can be listed one after
the other, so that what is said of steps is said of whole operations.
-/
namespace Directory

open SessionM

def Operation.isPartial : Operation → Bool
  | searchEntry _ | searchReference _ => true
  | _ => false

namespace Session

variable {session : Session}

def gatherSteps (handle : Handle) (session : Session) : List Step :=
  .receive handle ::
    match _received : (receive handle).run session with
    | (.ok message, after) => if message.op.isPartial then gatherSteps handle after else []
    | (.error _, _) => []
termination_by (session.inbox handle.id).length
decreasing_by
  rw [(receive_ok _received).1]
  exact Nat.lt_succ_self _

def submitSteps (op : Operation) (controls : List Control) (timeout : Nat)
    (reads : Handle → Session → List Step) (session : Session) : List Step :=
  .post op controls timeout :: .takeIn ::
    match (submit op controls timeout).run session with
    | (.ok handle, after) => reads handle after ++ [.drop handle.id]
    | (.error _, _) => []

theorem mem_submitSteps {op : Operation} {controls : List Control} {timeout : Nat}
    {reads : Handle → Session → List Step} {step : Step}
    (member : step ∈ submitSteps op controls timeout reads session) :
    step = .post op controls timeout ∨ step = .takeIn ∨
      ∃ handle after, (submit op controls timeout).run session = (.ok handle, after) ∧
        (step ∈ reads handle after ∨ step = .drop handle.id) := by
  unfold submitSteps at member
  cases outcome : (submit op controls timeout).run session with
  | mk result after =>
    rw [outcome] at member
    cases result with
    | error error => simpa using member
    | ok handle =>
      simp only [List.mem_cons, List.mem_append, List.not_mem_nil, or_false] at member
      rcases member with posted | taken | later
      · exact .inl posted
      · exact .inr (.inl taken)
      · exact .inr (.inr ⟨handle, after, rfl, later⟩)

def Request.steps (session : Session) : Request → List Step
  | exchange op controls timeout =>
    submitSteps op controls timeout (fun handle _ => [.receive handle]) session
  | search timeout request controls =>
    submitSteps (.searchRequest request) controls timeout gatherSteps session
  | abandon target => [.giveUp target, .takeIn]

theorem gatherSteps_more {handle : Handle} {message : Message} {after : Session}
    (received : (receive handle).run session = (.ok message, after)) (more : message.op.isPartial = true) :
    gatherSteps handle session = .receive handle :: gatherSteps handle after := by
  rw [gatherSteps]
  split
  · next found =>
    rw [received] at found
    cases found
    rw [if_pos more]
  · next found =>
    rw [received] at found
    cases found

theorem gatherSteps_last {handle : Handle}
    (last : ∀ message after, (receive handle).run session = (.ok message, after) →
      message.op.isPartial = false) : gatherSteps handle session = [.receive handle] := by
  rw [gatherSteps]
  split
  · next found => rw [last _ _ found, if_neg Bool.false_ne_true]
  · rfl

theorem gatherSteps_receives (handle : Handle) (session : Session) :
    ∀ step ∈ gatherSteps handle session, step = .receive handle := by
  fun_induction gatherSteps handle session with
  | case1 session ih =>
    rw [List.forall_mem_cons]
    refine ⟨rfl, ?_⟩
    split
    · next message after received =>
      split
      · exact ih message after received
      · simp
    · simp

theorem run_gatherSteps (handle : Handle) (session : Session) :
    run (gatherSteps handle session) session = ((gather handle).run session).2 := by
  change run (gatherSteps handle session) session = (gather handle session).2
  have first {session after : Session} {result : Except Error Message}
      (received : (receive handle).run session = (result, after)) (rest : List Step) :
      run (.receive handle :: rest) session = run rest after := by
    rw [show after = ((receive handle).run session).2 by rw [received]]
    rfl
  fun_induction gather handle session with
  | case1 session error after received =>
    rw [gatherSteps_last (by simp [received]), first received]
    rfl
  | case2 session message after received entry op result last rest ih
  | case3 session message after received entry op result last rest ih =>
    rw [gatherSteps_more received (by rw [op]; rfl), first received, ih, rest]
  | case4 session message after received outcome paging op
  | case5 session message after received outcome paging op =>
    have last : gatherSteps handle session = [.receive handle] := by
      apply gatherSteps_last
      intro other _ found
      rw [received] at found
      cases found
      rw [op]
      rfl
    rw [last, first received]
    rfl
  | case6 session message after received notEntry notReference =>
    have last : gatherSteps handle session = [.receive handle] := by
      apply gatherSteps_last
      intro other _ found
      rw [received] at found
      cases found
      unfold Operation.isPartial
      split
      · next entry => exact absurd entry (notEntry _)
      · next urls => exact absurd urls (notReference _)
      · rfl
    rw [last, first received]
    rfl

theorem run_submitSteps {op : Operation} {controls : List Control} {timeout : Nat}
    {reads : Handle → Session → List Step} {use : Handle → SessionM α}
    (each : ∀ handle session, run (reads handle session) session = ((use handle).run session).2) :
    run (submitSteps op controls timeout reads session) session =
      ((do
        let handle ← submit op controls timeout
        releasing handle (use handle)).run session).2 := by
  have submitted : run [.post op controls timeout, .takeIn] session =
      ((submit op controls timeout).run session).2 := rfl
  rw [submitSteps, SessionM.run_bind]
  cases outcome : (submit op controls timeout).run session with
  | mk result after =>
    rw [outcome] at submitted
    cases result with
    | error error => exact submitted
    -- The steps of submitting, reading and dropping are run one after the other.
    | ok handle =>
      change run ([.post op controls timeout, .takeIn] ++ (reads handle after ++ [.drop handle.id])) session = _
      rw [run_append, submitted, run_append, each]
      rfl

theorem Request.run_steps (request : Request) (session : Session) :
    run (request.steps session) session = (request.perform.run session).2 := by
  cases request with
  | exchange op controls timeout => exact run_submitSteps fun _ _ => rfl
  | search timeout request controls => exact run_submitSteps run_gatherSteps
  | abandon target => rfl

def requestSteps (session : Session) : Option Request → List Step
  | some request => request.steps session
  | none => []

theorem run_requestSteps {action : SessionM α} {request : Option Request}
    (makes : action.Makes session.config request) :
    run (requestSteps session request) session = (action.run session).2 := by
  cases makes with
  | nothing result comes =>
    rw [comes session rfl]
    rfl
  | request made read makes =>
    rw [makes session rfl]
    exact made.run_steps session

def settling : Option Verdict → List Step
  | some verdict => [.settle verdict.name verdict.outcome]
  | none => []

theorem run_settle (used : session.phase ≠ .idle) (name : String) (outcome : Outcome) :
    run [.settle name outcome] session = ((finishBind name outcome).run session).2 :=
  if_neg used

def simpleBindSteps (name password : String) (session : Session) : List Step :=
  (bindRequest session.config name (.simple (Octets.ofText password))).steps session ++
    settling (simpleVerdict? name password session)

def roundsSteps (mechanism : Mechanism) (challenges : List Octets) (response : Option Octets)
    (session : Session) : List Step :=
  (bindRequest session.config "" (.sasl mechanism.name response)).steps session ++
    match _answered : (requestBind "" (.sasl mechanism.name response)).run session with
    | (.error _, _) => []
    | (.ok (outcome, challenge), after) =>
      if outcome.code = .saslBindInProgress then
        match mechanism.answer (challenges ++ [challenge.getD []]) with
        | .error _ => []
        | .ok response => roundsSteps mechanism (challenges ++ [challenge.getD []]) response after
      else settling (finalVerdict? mechanism challenges outcome challenge)
termination_by session.toCome
decreasing_by exact (requestBind_advances _answered).lex

def saslSteps (mechanism : Mechanism) (session : Session) : List Step :=
  match mechanism.initial with
  | .error _ => []
  | .ok response => roundsSteps mechanism [] response session

theorem run_bindRequest (name : String) (credentials : Credentials) (session : Session) :
    run ((bindRequest session.config name credentials).steps session) session =
      ((requestBind name credentials).run session).2 :=
  run_requestSteps (makes_requestBind name credentials)

theorem run_simpleBindSteps (name password : String) (session : Session) :
    run (simpleBindSteps name password session) session = ((simpleBind name password).run session).2 := by
  rw [simpleBindSteps, run_append, run_bindRequest, simpleBind, run_bind, simpleVerdict?]
  cases answered : (requestBind name (.simple (Octets.ofText password))).run session with
  | mk result after =>
    cases result with
    | error error => rfl
    | ok answer => exact run_settle (requestBind_ok_used answered) name answer.1

theorem roundsSteps_failed {mechanism : Mechanism} {challenges : List Octets} {response : Option Octets}
    {error : Error} {after : Session}
    (failed : (requestBind "" (.sasl mechanism.name response)).run session = (.error error, after)) :
    roundsSteps mechanism challenges response session =
      (bindRequest session.config "" (.sasl mechanism.name response)).steps session := by
  rw [roundsSteps]
  split
  · exact List.append_nil _
  · next answered =>
    rw [failed] at answered
    cases answered

theorem roundsSteps_answered {mechanism : Mechanism} {challenges : List Octets} {response : Option Octets}
    {outcome : Outcome} {challenge : Option Octets} {after : Session}
    (answered : (requestBind "" (.sasl mechanism.name response)).run session =
      (.ok (outcome, challenge), after)) :
    roundsSteps mechanism challenges response session =
      (bindRequest session.config "" (.sasl mechanism.name response)).steps session ++
        if outcome.code = .saslBindInProgress then
          match mechanism.answer (challenges ++ [challenge.getD []]) with
          | .error _ => []
          | .ok response => roundsSteps mechanism (challenges ++ [challenge.getD []]) response after
        else settling (finalVerdict? mechanism challenges outcome challenge) := by
  conv => lhs; unfold roundsSteps
  split
  · next failed =>
    rw [answered] at failed
    cases failed
  · next found =>
    rw [answered] at found
    cases found
    rfl

theorem run_finishSasl (mechanism : Mechanism) (challenges : List Octets) (outcome : Outcome)
    (challenge : Option Octets) (used : session.phase ≠ .idle) :
    run (settling (finalVerdict? mechanism challenges outcome challenge)) session =
      (finishSasl mechanism challenges outcome challenge session).2 := by
  unfold finishSasl finalVerdict?
  dsimp only
  generalize (if outcome.code.isSuccess then challenges ++ challenge.toList else challenges) = heard
  by_cases asked : outcome.code.isSuccess ∧ challenge.isSome
  · cases answered : mechanism.answer heard with
    | error error =>
      rw [if_pos asked, if_pos ⟨asked.1, asked.2, rfl⟩]
      rfl
    | ok response =>
      rw [if_pos asked, if_neg (by simp [Except.isOk, Except.toBool])]
      exact run_settle used _ outcome
  · have unasked : ¬(outcome.code.isSuccess ∧ challenge.isSome ∧ !(mechanism.answer heard).isOk) :=
      fun refused => asked ⟨refused.1, refused.2.1⟩
    rw [if_neg asked, if_neg unasked]
    exact run_settle used _ outcome

theorem run_roundsSteps (mechanism : Mechanism) (challenges : List Octets) (response : Option Octets)
    (session : Session) :
    run (roundsSteps mechanism challenges response session) session =
      (saslRounds mechanism challenges response session).2 := by
  fun_induction saslRounds mechanism challenges response session with
  | case1 _ _ _ _ _ failed =>
    rw [roundsSteps_failed failed, run_bindRequest, failed]
  | case2 _ _ _ _ _ _ answered going _ _ refused =>
    rw [roundsSteps_answered answered, if_pos going, refused, List.append_nil, run_bindRequest, answered]
  | case3 _ _ _ _ _ _ answered going _ _ accepted ih =>
    rw [roundsSteps_answered answered, if_pos going, accepted, run_append, run_bindRequest, answered]
    exact ih
  | case4 _ _ _ _ _ _ answered final =>
    rw [roundsSteps_answered answered, if_neg final, run_append, run_bindRequest, answered]
    exact run_finishSasl mechanism _ _ _ (requestBind_ok_used answered)

theorem run_saslSteps (mechanism : Mechanism) (session : Session) :
    run (saslSteps mechanism session) session = (saslBind mechanism session).2 := by
  unfold saslSteps saslBind
  cases mechanism.initial with
  | error error => rfl
  | ok response => exact run_roundsSteps mechanism [] response session

end Session

open Session

namespace PagedEntries

def request? (entries : PagedEntries) : Option Request :=
  (Query.fetch entries.request entries.cursor).request? entries.timeout

def steps (entries : PagedEntries) (session : Session) : List Step :=
  if entries.buffer ≠ [] ∨ entries.hasFailed = true ∨ entries.cursor.isExhausted = true then []
  else
    requestSteps session entries.request? ++
      match _fetched : (entries.cursor.fetch entries.timeout entries.request).run session with
      | (.error _, _) => []
      | (.ok (page, cursor), after) => steps { entries with cursor, buffer := page.entries } after
termination_by session.toCome
decreasing_by exact (Cursor.fetch_advances _fetched).lex

variable {entries : PagedEntries} {session : Session}

theorem steps_failed (empty : entries.buffer = [])
    (going : ¬(entries.hasFailed || entries.cursor.isExhausted) = true) {error : Error} {after : Session}
    (failed : (entries.cursor.fetch entries.timeout entries.request).run session = (.error error, after)) :
    entries.steps session = requestSteps session entries.request? := by
  rw [steps, if_neg (by simpa [empty] using going)]
  split
  · exact List.append_nil _
  · next found =>
    rw [failed] at found
    cases found

theorem steps_fetched (empty : entries.buffer = [])
    (going : ¬(entries.hasFailed || entries.cursor.isExhausted) = true) {page : SearchResult}
    {cursor : Cursor} {after : Session}
    (fetched : (entries.cursor.fetch entries.timeout entries.request).run session =
      (.ok (page, cursor), after)) :
    entries.steps session = requestSteps session entries.request? ++
      steps { entries with cursor, buffer := page.entries } after := by
  conv => lhs; rw [steps, if_neg (by simpa [empty] using going)]
  split
  · next found =>
    rw [fetched] at found
    cases found
  · next found =>
    rw [fetched] at found
    cases found
    rfl

theorem next_failed (empty : entries.buffer = [])
    (going : ¬(entries.hasFailed || entries.cursor.isExhausted) = true) {error : Error} {after : Session}
    (failed : (entries.cursor.fetch entries.timeout entries.request).run session = (.error error, after)) :
    entries.next session = ((some (.error error), { entries with hasFailed := true }), after) := by
  rw [next, empty]
  dsimp only
  rw [if_neg going]
  split
  · next found =>
    rw [failed] at found
    cases found
    rfl
  · next found =>
    rw [failed] at found
    cases found

theorem next_fetched (empty : entries.buffer = [])
    (going : ¬(entries.hasFailed || entries.cursor.isExhausted) = true) {page : SearchResult}
    {cursor : Cursor} {after : Session}
    (fetched : (entries.cursor.fetch entries.timeout entries.request).run session =
      (.ok (page, cursor), after)) :
    entries.next session = { entries with cursor, buffer := page.entries }.next after := by
  conv => lhs; rw [next, empty]
  dsimp only
  rw [if_neg going]
  split
  · next found =>
    rw [fetched] at found
    cases found
  · next found =>
    rw [fetched] at found
    cases found
    rfl

theorem run_fetch (entries : PagedEntries) (session : Session) :
    run (requestSteps session entries.request?) session =
      ((entries.cursor.fetch entries.timeout entries.request).run session).2 :=
  run_requestSteps (entries.cursor.makes_fetch entries.timeout entries.request)

theorem run_steps (entries : PagedEntries) (session : Session) :
    run (entries.steps session) session = (entries.next session).2 := by
  fun_induction next entries session with
  | case1 entries session entry rest buffered =>
    rw [steps, if_pos (.inl (by simp [buffered]))]
    rfl
  | case2 entries session empty spent =>
    rw [steps, if_pos (.inr (by simpa using spent))]
    rfl
  | case3 entries session empty going error after failed =>
    rw [steps_failed empty going failed, run_fetch, failed]
  | case4 entries session empty going page cursor after fetched ih =>
    rw [steps_fetched empty going fetched, run_append, run_fetch, fetched]
    exact ih

end PagedEntries

namespace Session

namespace Act

def steps (session : Session) : Act → List Step
  | step taken => [taken]
  | query timeout asked => requestSteps session (asked.request? timeout)
  | call (.bind name password) =>
    if name ≠ "" ∧ password = "" then [] else simpleBindSteps name password session
  | call called => requestSteps session (called.request? session.config)
  | simpleBind name password => simpleBindSteps name password session
  | saslBind mechanism => saslSteps mechanism session
  | pagedSearch _ _ _ _ _ => []
  | next entries => entries.steps session

theorem steps_call {called : Client.Call} (other : ∀ name password, called ≠ .bind name password)
    (session : Session) :
    steps session (call called) = requestSteps session (called.request? session.config) := by
  cases called with
  | bind name password => exact absurd rfl (other name password)
  | _ => rfl

/-- An act is the run of its steps. -/
theorem run_steps (act : Act) (session : Session) : run (act.steps session) session = act.perform session := by
  cases act with
  | step taken => rfl
  | query timeout asked => exact run_requestSteps (asked.makes timeout)
  | simpleBind name password => exact run_simpleBindSteps name password session
  | saslBind mechanism => exact run_saslSteps mechanism session
  | pagedSearch base scope filter attributes pageSize =>
    exact run_requestSteps (Client.makes_pagedSearch base scope filter attributes pageSize)
  | next entries => exact entries.run_steps session
  | call called =>
    by_cases bind : ∃ name password, called = .bind name password
    · obtain ⟨name, password, rfl⟩ := bind
      rw [steps, perform, Client.Call.answer, run_before_quiet fun _ => quiet_pure _, Client.bind]
      by_cases unproven : name ≠ "" ∧ password = ""
      · rw [if_pos unproven, if_pos (by simpa [String.isEmpty_iff] using unproven)]
        rfl
      · rw [if_neg unproven, if_neg (by simpa [String.isEmpty_iff] using unproven), run_simpleBindSteps]
    · have other : ∀ name password, called ≠ .bind name password :=
        fun name password same => bind ⟨name, password, same⟩
      rw [steps_call other]
      exact run_requestSteps (Client.Call.makes other)

end Act

def course : List Act → Session → List Step
  | [], _ => []
  | act :: rest, session => act.steps session ++ course rest (act.perform session)

end Session

end Directory
