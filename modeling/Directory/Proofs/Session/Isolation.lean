import Directory.Proofs.Session.Traffic
/-!
Security is asked for before anything else is written, and once at most. What goes to the plain transport is
that one request; after the exchange everything goes to the transport that the upgrade returned.
-/
namespace Directory.Session

variable {session : Session}

theorem Step.handles_of_secured (step : Step) (secured : session.isSecured = true) :
    session.Handles (step.frames session) (step.perform session) := by
  rcases step.handles_or_exchanges session with kept | ⟨_, _, _, exchanged⟩
  · exact kept
  · rw [exchanged.untouched.plain] at secured
    cases secured

theorem run_handles_of_secured (steps : List Step) (secured : session.isSecured = true) :
    session.Handles (frames steps session) (run steps session) := by
  induction steps generalizing session with
  | nil => exact .refl session
  | cons step rest ih =>
    have first := step.handles_of_secured secured
    exact first.trans (ih (first.secured.trans secured))

theorem Exchanges.isSecured {upgrade : Upgrade} {returned : Transport}
    (exchanged : session.Exchanges upgrade returned) :
    ((Step.secure upgrade).perform session).isSecured = true := by
  rw [Step.perform, exchanged.secured]

theorem Exchanges.transport {upgrade : Upgrade} {returned : Transport}
    (exchanged : session.Exchanges upgrade returned) :
    ((Step.secure upgrade).perform session).transport = returned := by
  rw [Step.perform, exchanged.secured]

/-- As long as there was no exchange, the frames of a run went to the transport it began with. -/
theorem run_handles_of_plain (steps : List Step) (plain : (run steps session).isSecured = false) :
    session.Handles (frames steps session) (run steps session) := by
  induction steps generalizing session with
  | nil => exact .refl session
  | cons step rest ih =>
    have later := ih plain
    rcases step.handles_or_exchanges session with kept | ⟨upgrade, returned, rfl, exchanged⟩
    · exact kept.trans later
    -- What is secure once stays so, and in the end it is not.
    · have secured := later.secured.trans exchanged.isSecured
      exact absurd (plain.symm.trans secured) Bool.false_ne_true

theorem isLive_of_run (steps : List Step) (live : (run steps session).phase.isLive = true) :
    session.phase.isLive = true := by
  have evolves := run_evolves steps session
  apply isLive_of_ne
  · intro idle
    rcases evolves.idle idle with still | past
    · rw [still] at live
      cases live
    · exact ne_unbound_of_isLive live past
  · intro past
    exact ne_unbound_of_isLive live (evolves.unbound past)

/-- A session that is untouched always was, and nothing was written. -/
theorem untouched_of_run (steps : List Step) (untouched : (run steps session).IsUntouched) :
    session.IsUntouched ∧ frames steps session = [] := by
  have kept := run_handles_of_plain steps untouched.plain
  constructor
  · constructor
    · exact isLive_of_run steps untouched.live
    · exact kept.secured.symm.trans untouched.plain
    · rw [← Bool.not_eq_true]
      intro carried
      simpa [untouched.quiet] using kept.carried carried
    · apply Classical.byContradiction
      intro started
      exact kept.started started untouched.unread
    · rw [← Bool.not_eq_false]
      intro released
      simpa [untouched.held] using kept.released released
    · exact UInt32.le_trans (run_evolves steps session).numbers untouched.left
  · apply Classical.byContradiction
    intro some
    rcases kept.noted some with carried | released
    · rw [untouched.quiet] at carried
      cases carried
    · rw [untouched.held] at released
      cases released

theorem exists_exchange {steps : List Step} (plain : session.isSecured = false)
    (secured : (run steps session).isSecured = true) :
    ∃ before upgrade later returned, steps = before ++ .secure upgrade :: later ∧
      (run before session).Exchanges upgrade returned := by
  induction steps generalizing session with
  | nil => exact absurd (plain.symm.trans secured) Bool.false_ne_true
  | cons step rest ih =>
    rcases step.handles_or_exchanges session with kept | ⟨upgrade, returned, rfl, exchanged⟩
    · obtain ⟨before, upgrade, later, returned, rfl, exchanged⟩ := ih (kept.secured.trans plain) secured
      exact ⟨step :: before, upgrade, later, returned, rfl, exchanged⟩
    · exact ⟨[], upgrade, rest, returned, rfl, exchanged⟩

/-- How a run came to be secure: by an exchange of the plain transport for the one that was returned. -/
structure SecuredBy (start : Session) (before : List Step) (upgrade : Upgrade) (later : List Step)
    (plain returned : Transport) : Prop where
  silent : frames before start = []
  unread : ∀ done rest, before = done ++ rest → (run done start).receiver = .notStarted
  asked : start.transport.Carries [(run before start).securityRequest] plain
  written : plain.written = start.transport.written ++ (run before start).securityRequest
  handed : (startSecurity upgrade (run before start)).1 = ⟨some plain, .ok ()⟩
  upgraded : upgrade plain = .ok returned
  exchanged : (run (before ++ [.secure upgrade]) start).transport = returned
  unstarted : (run (before ++ [.secure upgrade]) start).receiver = .notStarted
  /-- At any later time the transport is the one that was returned, after the frames written since. -/
  since : ∀ done rest, later = done ++ rest →
    returned.Carries (frames done (run (before ++ [.secure upgrade]) start))
      (run (before ++ .secure upgrade :: done) start).transport

theorem Exchanges.securedBy {start : Session} {before : List Step} {upgrade : Upgrade}
    {returned : Transport} (exchanged : (run before start).Exchanges upgrade returned)
    (later : List Step) :
    SecuredBy start before upgrade later (run before start).askSecurity.2 returned := by
  have silent := (untouched_of_run before exchanged.untouched).2
  have early := (run_handles_of_plain before exchanged.untouched.plain).carries
  rw [silent] at early
  have last : run (before ++ [.secure upgrade]) start = (Step.secure upgrade).perform (run before start) := by
    rw [run_append]
    rfl
  obtain ⟨response, answered⟩ := exchanged.answered
  constructor
  · exact silent
  · rintro done rest rfl
    have untouched := exchanged.untouched
    rw [run_append] at untouched
    exact (untouched_of_run rest untouched).1.unread
  · exact early.trans (Transport.carries_converse _ _ _ _ _)
  · rw [← early.written_eq rfl]
    exact Transport.written_converse answered
  · rw [exchanged.secured]
  · exact exchanged.upgraded
  · rw [last]
    exact exchanged.transport
  · rw [last, Step.perform, exchanged.secured]
    exact exchanged.untouched.unread
  · intro done rest _
    have kept := (run_handles_of_secured done exchanged.isSecured).carries
    rw [exchanged.transport, ← last, ← run_append] at kept
    simpa using kept

theorem readConsent_ok {op : Operation} (consent : readConsent op = .ok ()) :
    ∃ outcome name value, op = .extendedResponse outcome name value ∧ outcome.code.isSuccess = true := by
  unfold readConsent at consent
  split at consent
  · next outcome name value =>
    split at consent
    · next success => exact ⟨outcome, name, value, rfl, success⟩
    · cases consent
  · cases consent

/-- A transport is handed over only after the server's consent was read from it. -/
theorem handedOver_consent {upgrade : Upgrade} {plain : Transport}
    (handed : (startSecurity upgrade session).1.handedOver = some plain) :
    plain = session.askSecurity.2 ∧ ∃ response ∈ session.askReads, response.id = session.nextId ∧
      ∃ outcome name value, response.op = .extendedResponse outcome name value ∧
        outcome.code.isSuccess = true := by
  have asked : session.IsUntouched ∧ ∃ response, session.askSecurity.1 = .ok response := by
    have secures := startSecurity_cases session upgrade
    generalize startSecurity upgrade session = attempt at secures handed
    obtain ⟨⟨handedOver, result⟩, after⟩ := attempt
    cases secures with
    | failed message _ untouched asked => exact ⟨untouched, message, asked⟩
    | secured message _ untouched asked => exact ⟨untouched, message, asked⟩
    | _ => cases handed
  obtain ⟨untouched, response, asked⟩ := asked
  rw [untouched.startSecurity_run asked] at handed
  obtain ⟨read, mine⟩ := (askSecurity_ok_iff response).mp asked
  cases consent : readConsent response.op with
  | error error =>
    rw [consent] at handed
    cases handed
  | ok _ =>
    rw [consent] at handed
    cases handed
    exact ⟨rfl, response, read, mine, readConsent_ok consent⟩

theorem IsNew.plain {start : Session} (new : start.IsNew) : start.isSecured = false := by
  obtain ⟨transport, config, rfl | rfl⟩ := new <;> rfl

theorem untouched_of_secure_frames {upgrade : Upgrade} (some : (Step.secure upgrade).frames session ≠ []) :
    session.IsUntouched := by
  apply Classical.byContradiction
  intro touched
  exact some (if_neg touched)

/-- A session that is secure wrote nothing but one request for security before the plain transport was
handed over, had no receiver by then, and has had to do with nothing but the returned transport since. In
no run is security asked for twice or after another frame, and the upgrade is called only after the server
consented under the number of the request. -/
theorem secured_isolated {start : Session} (new : start.IsNew) (steps : List Step) :
    ((run steps start).isSecured = false →
        start.transport.Carries (frames steps start) (run steps start).transport) ∧
      ((run steps start).isSecured = true → ∃ before upgrade later plain returned,
        steps = before ++ .secure upgrade :: later ∧
          SecuredBy start before upgrade later plain returned) ∧
      (∀ before upgrade later, steps = before ++ .secure upgrade :: later →
        (Step.secure upgrade).frames (run before start) ≠ [] →
          (Step.secure upgrade).frames (run before start) = [(run before start).securityRequest] ∧
          frames before start = [] ∧
          ∀ middle other rest, later = middle ++ .secure other :: rest →
            (Step.secure other).frames (run (before ++ .secure upgrade :: middle) start) = []) ∧
      ∀ before upgrade later plain, steps = before ++ .secure upgrade :: later →
        (startSecurity upgrade (run before start)).1.handedOver = some plain →
          plain = (run before start).askSecurity.2 ∧
          ∃ response ∈ (run before start).askReads, response.id = (run before start).nextId ∧
            ∃ outcome name value, response.op = .extendedResponse outcome name value ∧
              outcome.code.isSuccess = true := by
  refine ⟨?_, ?_, ?_, ?_⟩
  · intro plain
    exact (run_handles_of_plain steps plain).carries
  · intro secured
    obtain ⟨before, upgrade, later, returned, split, exchanged⟩ := exists_exchange new.plain secured
    exact ⟨before, upgrade, later, _, returned, split, exchanged.securedBy later⟩
  · intro before upgrade later _ asked
    have untouched := untouched_of_secure_frames asked
    refine ⟨secure_frames untouched upgrade, (untouched_of_run before untouched).2, ?_⟩
    intro middle other rest _
    apply Classical.byContradiction
    intro again
    -- To ask again the session would have to be untouched, and then nothing was written, nor asked before.
    have silent := (untouched_of_run _ (untouched_of_secure_frames again)).2
    rw [frames_append, frames] at silent
    have both := List.append_eq_nil_iff.mp silent
    exact asked (List.append_eq_nil_iff.mp both.2).1
  · intro before upgrade later plain _ handed
    exact handedOver_consent handed

def discreet : List Step := [.secure .ok, .post (.deleteRequest .root) [] 10]

def consenting : Session :=
  establish { script := [.actions [.message none (.extendedResponse ⟨.success, "", "", []⟩ none none) []]] } {}

theorem securedBy_discreet :
    consenting.IsNew ∧ (run discreet consenting).isSecured = true ∧
      ∃ before upgrade later plain returned, discreet = before ++ .secure upgrade :: later ∧
        SecuredBy consenting before upgrade later plain returned := by
  have new : consenting.IsNew := ⟨_, _, .inr rfl⟩
  have secured : (run discreet consenting).isSecured = true := by decide +kernel
  exact ⟨new, secured, (secured_isolated new discreet).2.1 secured⟩

end Directory.Session
