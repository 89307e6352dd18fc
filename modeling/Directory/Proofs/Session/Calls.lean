import Directory.Proofs.Session.Asking
/-!
Every operation of a client is a run of steps. It reads and drops no handle but those that it took out
itself, so that whatever holds of all steps holds of all operations.
-/
namespace Directory

open Session SessionM

def Session.Step.Spares (first : MessageId) : Step → Prop
  | .receive handle => first ≤ handle.id
  | .drop id => first ≤ id
  | _ => True

theorem Session.Step.Spares.mono {first later : MessageId} {step : Step} (h : first ≤ later)
    (spares : step.Spares later) : step.Spares first := by
  cases step with
  | receive handle => exact UInt32.le_trans h spares
  | drop id => exact UInt32.le_trans h spares
  | _ => trivial

/-- The later session is reached by steps that spare all earlier handles. -/
def Session.Leads (before after : Session) : Prop :=
  ∃ steps, run steps before = after ∧ ∀ step ∈ steps, step.Spares before.nextId

namespace Session.Leads

theorem refl (session : Session) : session.Leads session := ⟨[], rfl, by simp⟩

theorem step {session : Session} (step : Step) (spares : step.Spares session.nextId) :
    session.Leads (step.perform session) :=
  ⟨[step], rfl, by simpa using spares⟩

theorem exists_run {before after : Session} (leads : before.Leads after) :
    ∃ steps, run steps before = after := by
  obtain ⟨steps, ran, _⟩ := leads
  exact ⟨steps, ran⟩

theorem evolves {before after : Session} (leads : before.Leads after) : before.Evolves after := by
  obtain ⟨steps, rfl, _⟩ := leads
  exact run_evolves steps before

theorem trans {a b c : Session} (first : a.Leads b) (second : b.Leads c) : a.Leads c := by
  have numbers := first.evolves.numbers
  obtain ⟨before, rfl, early⟩ := first
  obtain ⟨after, rfl, late⟩ := second
  refine ⟨before ++ after, run_append .., fun step member => ?_⟩
  rcases List.mem_append.mp member with member | member
  · exact early step member
  · exact (late step member).mono numbers

end Session.Leads

namespace SessionM

def Stepwise (action : SessionM α) : Prop := ∀ session : Session, session.Leads (action.run session).2

theorem stepwise_still {action : SessionM α} (still : ∀ session, (action.run session).2 = session) :
    action.Stepwise := by
  intro session
  rw [still session]
  exact .refl session

theorem Stepwise.bind {action : SessionM α} {next : α → SessionM β} (first : action.Stepwise)
    (second : ∀ a, (next a).Stepwise) : (action >>= next).Stepwise :=
  Relates.bind first second Leads.trans

end SessionM

namespace Session

open SessionM

variable {session : Session}

theorem id_of_post_ok {op : Operation} {controls : List Control} {timeout : Nat} {handle : Handle}
    {after : Session} (posted : session.Posts op controls timeout (.ok handle) after) :
    handle.id = session.nextId ∧ session.phase.isLive = true := by
  cases posted with
  | posted after live left sends => exact ⟨rfl, live⟩

theorem leads_submit (op : Operation) (controls : List Control) (timeout : Nat) :
    session.Leads ((submit op controls timeout).run session).2 :=
  ⟨[.post op controls timeout, .takeIn], rfl, by simp [Step.Spares]⟩

theorem stepwise_submit (op : Operation) (controls : List Control) (timeout : Nat) :
    (submit op controls timeout).Stepwise :=
  fun _ => leads_submit op controls timeout

/-- A request that was submitted has the number that was next, on a session that was live. -/
theorem submit_ok_id {op : Operation} {controls : List Control} {timeout : Nat} {handle : Handle}
    {after : Session} (h : (submit op controls timeout).run session = (.ok handle, after)) :
    handle.id = session.nextId ∧ session.phase.isLive = true := by
  rw [submit, attending_run, Prod.mk.injEq] at h
  have posted := post_cases session op controls timeout
  rw [h.1] at posted
  exact id_of_post_ok posted

theorem stepwise_releasing {op : Operation} {controls : List Control} {timeout : Nat}
    {use : Handle → SessionM α}
    (reads : ∀ handle session, ∃ steps, run steps session = ((use handle).run session).2 ∧
      ∀ step ∈ steps, step = .receive handle) :
    (do
      let handle ← submit op controls timeout
      releasing handle (use handle)).Stepwise := by
  intro session
  have leads := stepwise_submit op controls timeout session
  rw [run_bind]
  cases submitted : (submit op controls timeout).run session with
  | mk result after =>
    rw [submitted] at leads
    cases result with
    | error error => exact leads
    | ok handle =>
      obtain ⟨mine, _⟩ := submit_ok_id submitted
      obtain ⟨before, rfl, spares⟩ := leads
      obtain ⟨receives, used, only⟩ := reads handle (run before session)
      -- The handle is new, so that reading and dropping it spares all that were there before.
      refine ⟨before ++ receives ++ [.drop handle.id], ?_, fun step member => ?_⟩
      · rw [run_append, run_append, used]
        rfl
      · rw [List.mem_append, List.mem_append, List.mem_singleton] at member
        rcases member with (early | reading) | rfl
        · exact spares step early
        · rw [only step reading]
          exact UInt32.le_of_eq mine.symm
        · exact UInt32.le_of_eq mine.symm

theorem stepwise_exchange (op : Operation) (controls : List Control) (timeout : Nat) :
    (exchange op controls timeout).Stepwise :=
  stepwise_releasing fun handle session => ⟨[.receive handle], rfl, by simp⟩

theorem gather_receives (handle : Handle) (session : Session) :
    ∃ steps, run steps session = ((gather handle).run session).2 ∧ ∀ step ∈ steps, step = .receive handle := by
  have first (current : Session) : ∃ steps, run steps current = ((receive handle).run current).2 ∧
      ∀ step ∈ steps, step = .receive handle := ⟨[.receive handle], rfl, by simp⟩
  change ∃ steps, run steps session = (gather handle session).2 ∧ _
  fun_induction gather handle session with
  | case1 session error after received => simpa [received] using first session
  | case2 session message after received _ _ result last rest ih
  | case3 session message after received _ _ result last rest ih =>
    obtain ⟨steps, ran, only⟩ := ih
    rw [rest] at ran
    refine ⟨.receive handle :: steps, ?_, by simpa using only⟩
    rw [← ran, show after = ((receive handle).run session).2 by rw [received]]
    rfl
  | case4 session _ _ received | case5 session _ _ received | case6 session _ _ received =>
    simpa [received] using first session

theorem stepwise_search (timeout : Nat) (request : SearchRequest) (controls : List Control) :
    (search timeout request controls).Stepwise :=
  stepwise_releasing gather_receives

theorem stepwise_abandon (target : MessageId) : (abandon target).Stepwise :=
  fun _ => ⟨[.giveUp target, .takeIn], rfl, by simp [Step.Spares]⟩

theorem respected_leads : Respected Leads where
  refl := .refl
  trans := .trans
  exchange := stepwise_exchange
  search := stepwise_search
  abandon := stepwise_abandon

theorem stepwise_requestBind (name : String) (credentials : Credentials) :
    (requestBind name credentials).Stepwise :=
  (inquires_requestBind name credentials).relates respected_leads

theorem exchange_ok_live {op : Operation} {controls : List Control} {timeout : Nat} {message : Message}
    {after : Session} (h : (exchange op controls timeout).run session = (.ok message, after)) :
    session.phase.isLive = true := by
  rw [exchange, run_bind] at h
  split at h
  · next submitted => exact (submit_ok_id submitted).2
  · cases h

theorem requestBind_ok_live {name : String} {credentials : Credentials}
    {answer : Outcome × Option Octets} {after : Session}
    (h : (requestBind name credentials).run session = (.ok answer, after)) : session.phase.isLive = true := by
  simp only [requestBind, run_bind, run_get] at h
  split at h
  · next exchanged => exact exchange_ok_live exchanged
  · cases h

theorem requestBind_ok_used {name : String} {credentials : Credentials}
    {answer : Outcome × Option Octets} {after : Session}
    (h : (requestBind name credentials).run session = (.ok answer, after)) : after.phase ≠ .idle := by
  have live := requestBind_ok_live h
  have leads := stepwise_requestBind name credentials session
  rw [h] at leads
  apply leads.evolves.used
  intro idle
  simp [idle, Phase.isLive] at live

theorem leads_finishBind (name : String) (outcome : Outcome) (used : session.phase ≠ .idle) :
    session.Leads ((finishBind name outcome).run session).2 := by
  have settled := Leads.step (.settle name outcome) (show Step.Spares session.nextId _ from trivial)
  simpa only [Step.perform, if_neg used] using settled

theorem stepwise_simpleBind (name password : String) : (simpleBind name password).Stepwise := by
  intro session
  have leads := stepwise_requestBind name (.simple (Octets.ofText password)) session
  rw [simpleBind, run_bind]
  cases bound : (requestBind name (.simple (Octets.ofText password))).run session with
  | mk result after =>
    rw [bound] at leads
    cases result with
    | error error => exact leads
    -- Only a session that was connected gets an answer, so that settling it is a step.
    | ok answer => exact leads.trans (leads_finishBind name answer.1 (requestBind_ok_used bound))

theorem leads_finishSasl (mechanism : Mechanism) (challenges : List Octets) (outcome : Outcome)
    (challenge : Option Octets) (used : session.phase ≠ .idle) :
    session.Leads (finishSasl mechanism challenges outcome challenge session).2 := by
  unfold finishSasl
  dsimp only
  split
  · exact .refl session
  · exact leads_finishBind _ outcome used

theorem leads_saslRounds (mechanism : Mechanism) (challenges : List Octets) (response : Option Octets)
    (session : Session) : session.Leads (saslRounds mechanism challenges response session).2 := by
  have asked (response : Option Octets) (session : Session) :=
    stepwise_requestBind "" (.sasl mechanism.name response) session
  fun_induction saslRounds mechanism challenges response session with
  | case1 _ response session _ _ failed =>
    have leads := asked response session
    rwa [failed] at leads
  | case2 _ response session after _ _ answered _ _ _ _ =>
    have leads := asked response session
    rwa [answered] at leads
  | case3 _ response session after _ _ answered _ _ _ _ ih =>
    have leads := asked response session
    rw [answered] at leads
    exact leads.trans ih
  | case4 _ response session _ _ _ answered _ =>
    have leads := asked response session
    rw [answered] at leads
    exact leads.trans (leads_finishSasl mechanism _ _ _ (requestBind_ok_used answered))

theorem leads_saslBind (mechanism : Mechanism) (session : Session) :
    session.Leads (saslBind mechanism session).2 := by
  unfold saslBind
  split
  · exact .refl session
  · exact leads_saslRounds mechanism [] _ session

end Session

theorem Asks.stepwise {action : SessionM α} (asks : Asks action) : action.Stepwise := by
  induction asks with
  | inquires inquires => exact inquires.relates respected_leads
  | simpleBind name password => exact stepwise_simpleBind name password
  | before quiet _ ih => exact (stepwise_still quiet.2).bind ih
  | after _ quiet ih => exact ih.bind fun a => stepwise_still (quiet a).2

theorem Client.Call.stepwise (call : Call) : call.answer.Stepwise := by
  cases call with
  | bind name password => exact (asks (by simp)).stepwise
  | _ => exact Call.relates respected_leads fun _ _ same => by cases same

namespace Session

variable {session : Session} {act : Act}

/-- Every act is a run of steps, and an operation spares the handles of others. -/
theorem Act.leads (composed : ∀ taken, act ≠ .step taken) : session.Leads (act.perform session) := by
  cases act with
  | step taken => exact absurd rfl (composed taken)
  | query timeout asked => exact asked.relates respected_leads timeout session
  | call called => exact called.stepwise session
  | simpleBind name password => exact stepwise_simpleBind name password session
  | saslBind mechanism => exact leads_saslBind mechanism session
  | pagedSearch base scope filter attributes pageSize =>
    exact stepwise_still (Client.quiet_pagedSearch base scope filter attributes pageSize).2 session
  | next entries => exact entries.respects_next respected_leads session

theorem Act.exists_run (act : Act) (session : Session) : ∃ steps, run steps session = act.perform session := by
  cases act with
  | step taken => exact ⟨[taken], rfl⟩
  | _ => exact (Act.leads fun _ same => by cases same).exists_run

theorem Act.evolves (act : Act) (session : Session) : session.Evolves (act.perform session) := by
  obtain ⟨steps, ran⟩ := act.exists_run session
  rw [← ran]
  exact run_evolves steps session

/-- Whatever is done with a session is a run of steps. -/
theorem exists_run_of_enact (acts : List Act) (session : Session) :
    ∃ steps, run steps session = enact acts session := by
  induction acts generalizing session with
  | nil => exact ⟨[], rfl⟩
  | cons act rest ih =>
    obtain ⟨before, reached⟩ := act.exists_run session
    obtain ⟨after, ended⟩ := ih (act.perform session)
    refine ⟨before ++ after, ?_⟩
    rw [run_append, reached, ended]
    rfl

theorem enact_evolves (acts : List Act) (session : Session) : session.Evolves (enact acts session) := by
  obtain ⟨steps, ran⟩ := exists_run_of_enact acts session
  rw [← ran]
  exact run_evolves steps session

end Session

end Directory
