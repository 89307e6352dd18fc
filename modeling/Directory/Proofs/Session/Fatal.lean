import Directory.Proofs.Session.Calls
/-!
Fatal errors. An operation that fails with one has ended the session, but for three ways: no read handle could be
opened, no receiver could be run on it, and an identity that is no text. All leave the session as usable as it was.
-/
namespace Directory

namespace Session

variable {session : Session}

def IsUnreadable (session : Session) : Prop :=
  session.receiver = .notStarted ∧ session.transport.startFailure? ≠ none

def LacksReader (session : Session) : Prop :=
  session.receiver = .notStarted ∧ session.transport.readerFailure ≠ none

def LacksReceiver (session : Session) : Prop :=
  session.receiver = .notStarted ∧ session.transport.readerFailure = none ∧
    session.transport.receiverFailure ≠ none

theorem isUnreadable_iff : session.IsUnreadable ↔ session.LacksReader ∨ session.LacksReceiver := by
  unfold IsUnreadable LacksReader LacksReceiver Transport.startFailure?
  cases session.transport.readerFailure <;> cases session.transport.receiverFailure <;> simp

theorem not_unreadable (readable : session.receiver = .notStarted →
    session.transport.startFailure? = none) : ¬session.IsUnreadable :=
  fun unreadable => unreadable.2 (readable unreadable.1)

theorem takeIn_of_unread (unread : session.receiver = .notStarted) : session.takeIn = session := by
  unfold takeIn
  rw [if_neg (by simp [unread])]

theorem Refuses.mild {error : Error} {after : Session} (refused : session.Refuses error after) :
    error.isFatal = false := by
  cases refused <;> rfl

theorem Sends.readable {message : Message} {after : Session}
    (sent : session.Sends message (.ok ()) after) : ¬session.IsUnreadable := by
  cases sent with
  | sent _ _ readable => exact not_unreadable readable

theorem unbound_takeIn_of_ended (sound : session.IsSound) (ended : session.ending.isSome = true) :
    session.takeIn.phase = .unbound :=
  (evolves_takeIn session).unbound (sound.unbound_iff.mpr ended)

theorem ne_unbound_of_isLive (live : session.phase.isLive = true) : session.phase ≠ .unbound := by
  intro past
  simp [past, Phase.isLive] at live

/-- Writing failed on a live session, with a fatal error. After that nothing is taken in, or the session
has ended. -/
theorem Sends.fatal {message : Message} {error : Error} {after later : Session}
    (sent : session.Sends message (.error error) after) (fatal : error.isFatal = true)
    (live : session.phase.isLive = true) (sound : later.IsSound) (receiver : later.receiver = after.receiver)
    (phase : later.phase = after.phase) (ending : later.ending = after.ending) :
    later.takeIn.phase = .unbound ↔ ¬session.IsUnreadable := by
  cases sent with
  | released => simp [Error.isFatal] at fatal
  | unreadable text _ unread failing =>
    have unreadable : session.IsUnreadable := ⟨unread, by simp [failing]⟩
    rw [takeIn_of_unread (receiver.trans unread), phase]
    exact iff_of_false (ne_unbound_of_isLive live) (not_not_intro unreadable)
  | unwritten _ _ _ readable =>
    have ended : later.ending.isSome = true := by rw [ending, isSome_ending_terminate]
    exact iff_of_true (unbound_takeIn_of_ended sound ended) (not_unreadable readable)

theorem Posts.fatal {op : Operation} {controls : List Control} {timeout : Nat} {error : Error}
    {after : Session} (sound : session.IsSound)
    (posted : session.Posts op controls timeout (.error error) after) (fatal : error.isFatal = true) :
    after.takeIn.phase = .unbound ↔ ¬session.IsUnreadable := by
  have later := posted.evolves.sound sound
  cases posted with
  | refused _ _ refused => simp [refused.mild] at fatal
  | exhausted => simp [Error.isFatal] at fatal
  | failed _ _ live _ sends => exact sends.fatal fatal live later rfl rfl rfl

theorem GivesUp.fatal {target : MessageId} {error : Error} {after : Session} (sound : session.IsSound)
    (given : session.GivesUp target (.error error) after) (fatal : error.isFatal = true) :
    after.takeIn.phase = .unbound ↔ ¬session.IsUnreadable := by
  have later := given.evolves.sound sound
  cases given with
  | refused _ _ refused => simp [refused.mild] at fatal
  | exhausted => simp [Error.isFatal] at fatal
  | told _ _ live _ sends => exact sends.fatal fatal live later rfl rfl rfl

theorem lastWord_fatal {id : MessageId} (fatal : (session.lastWord id).isFatal = true) :
    session.ending.isSome = true := by
  unfold lastWord at fatal
  split at fatal
  · next ended => rw [ended]; rfl
  · simp [Error.isFatal] at fatal

theorem Receives.fatal {handle : Handle} {error : Error} {after : Session} (sound : session.IsSound)
    (received : session.Receives handle (.error error) after) (fatal : error.isFatal = true) :
    after.phase = .unbound := by
  cases received with
  | timedOut => simp [Error.isFatal] at fatal
  | spent => exact sound.unbound_iff.mpr (lastWord_fatal fatal)

end Session

open Session

namespace SessionM

def Ends (action : SessionM α) : Prop :=
  ∀ session error after, session.IsSound → action.run session = (.error error, after) →
    error.isFatal = true → after.phase = .unbound

/-- A fatal error of this action means that the session has ended, unless it could not be read before. -/
def Faithful (action : SessionM α) : Prop :=
  ∀ session error after, session.IsSound → action.run session = (.error error, after) →
    error.isFatal = true → (after.phase = .unbound ↔ ¬session.IsUnreadable)

theorem Mild.faithful {action : SessionM α} (mild : action.Mild) : action.Faithful := by
  intro session error after _ failed fatal
  rw [mild session error after failed] at fatal
  cases fatal

theorem Faithful.bind {action : SessionM α} {next : α → SessionM β} (first : action.Faithful)
    (second : ∀ a, (next a).Mild) : (action >>= next).Faithful := by
  intro session error after sound failed fatal
  rcases run_bind_error failed with early | ⟨a, middle, _, late⟩
  · exact first session error after sound early fatal
  · rw [second a middle error after late] at fatal
    cases fatal

theorem Quiet.before {action : SessionM α} {next : α → SessionM β} (first : action.Quiet)
    (second : ∀ a, (next a).Faithful) : (action >>= next).Faithful := by
  intro session error after sound failed fatal
  rcases run_bind_error failed with early | ⟨a, middle, ran, late⟩
  · rw [first.1 session error after early] at fatal
    cases fatal
  · have same := first.2 session
    rw [ran] at same
    subst same
    exact second a middle error after sound late fatal

end SessionM

namespace Session

open SessionM

variable {session : Session}

theorem faithful_submit (op : Operation) (controls : List Control) (timeout : Nat) :
    (submit op controls timeout).Faithful := by
  intro session error after sound failed fatal
  rw [submit, attending_run, Prod.mk.injEq] at failed
  obtain ⟨result, rfl⟩ := failed
  have posted := post_cases session op controls timeout
  rw [result] at posted
  exact posted.fatal sound fatal

theorem faithful_abandon (target : MessageId) : (abandon target).Faithful := by
  intro session error after sound failed fatal
  rw [abandon, attending_run, Prod.mk.injEq] at failed
  obtain ⟨result, rfl⟩ := failed
  have given := giveUp_cases session target
  rw [result] at given
  exact given.fatal sound fatal

theorem submit_ok_readable {op : Operation} {controls : List Control} {timeout : Nat} {handle : Handle}
    {after : Session} (submitted : (submit op controls timeout).run session = (.ok handle, after)) :
    ¬session.IsUnreadable := by
  rw [submit, attending_run, Prod.mk.injEq] at submitted
  have posted := post_cases session op controls timeout
  rw [submitted.1] at posted
  cases posted with
  | posted _ _ _ sends => exact sends.readable

theorem faithful_releasing {op : Operation} {controls : List Control} {timeout : Nat}
    {use : Handle → SessionM α} (ends : ∀ handle, (use handle).Ends) :
    (do
      let handle ← submit op controls timeout
      releasing handle (use handle)).Faithful := by
  intro session error after sound failed fatal
  rcases run_bind_error failed with early | ⟨handle, middle, submitted, late⟩
  · exact faithful_submit op controls timeout session error after sound early fatal
  · rw [releasing_run, Prod.mk.injEq] at late
    obtain ⟨result, rfl⟩ := late
    have leads := stepwise_submit op controls timeout session
    rw [submitted] at leads
    have past := ends handle middle error _ (leads.evolves.sound sound) (Prod.ext result rfl) fatal
    exact iff_of_true past (submit_ok_readable submitted)

theorem ends_receive (handle : Handle) : (receive handle).Ends := by
  intro session error after sound failed fatal
  have received := receive_cases session handle
  rw [failed] at received
  exact received.fatal sound fatal

theorem faithful_exchange (op : Operation) (controls : List Control) (timeout : Nat) :
    (exchange op controls timeout).Faithful :=
  faithful_releasing ends_receive

theorem ends_gather (handle : Handle) : (gather handle).Ends := by
  intro session error after sound failed fatal
  change gather handle session = _ at failed
  have sound_receive (current : Session) (sound : current.IsSound) :
      ((receive handle).run current).2.IsSound := (receive_cases current handle).evolves.sound sound
  -- The first read fails, or the rest does on a session that is sound as well, or the server refuses.
  fun_induction gather handle session with
  | case1 session early middle received =>
    cases failed
    exact ends_receive handle session _ _ sound received fatal
  | case2 session message middle received _ _ result last rest ih
  | case3 session message middle received _ _ result last rest ih =>
    have later := sound_receive session sound
    rw [received] at later
    rw [rest] at ih
    rw [Prod.mk.injEq] at failed
    obtain ⟨mapped, rfl⟩ := failed
    cases result with
    | ok found => cases mapped
    | error early =>
      cases mapped
      exact ih later rfl
  | case4 => cases failed
  | case5 =>
    cases failed
    simp [Error.ofOutcome, Error.isFatal] at fatal
  | case6 =>
    cases failed
    simp [Operation.unexpected, Error.isFatal] at fatal

theorem faithful_search (timeout : Nat) (request : SearchRequest) (controls : List Control) :
    (search timeout request controls).Faithful :=
  faithful_releasing ends_gather

theorem mild_finishBind (name : String) (outcome : Outcome) : (finishBind name outcome).Mild := by
  unfold finishBind
  split
  · split
    · exact mild_modify _
    · exact mild_modify _
  · exact (mild_modify _).bind fun _ => mild_throw rfl

end Session

theorem Inquires.faithful {action : SessionM α} (inquires : Inquires action) : action.Faithful := by
  induction inquires with
  | quiet quiet => exact quiet.1.faithful
  | exchange op controls timeout => exact faithful_exchange op controls timeout
  | search timeout request controls => exact faithful_search timeout request controls
  | abandon target => exact faithful_abandon target
  | before quiet _ ih => exact quiet.before ih
  | after _ quiet ih => exact ih.bind fun a => (quiet a).1

theorem Session.faithful_simpleBind (name password : String) : (simpleBind name password).Faithful :=
  (inquires_requestBind _ _).faithful.bind fun _ => mild_finishBind _ _

theorem Asks.faithful {action : SessionM α} (asks : Asks action) : action.Faithful := by
  induction asks with
  | inquires inquires => exact inquires.faithful
  | simpleBind name password => exact faithful_simpleBind name password
  | before quiet _ ih => exact quiet.before ih
  | after _ quiet ih => exact ih.bind fun a => (quiet a).1

namespace Session

open SessionM

variable {session : Session}

/-- The server names, with success, an identity that is no text, and nothing else ends the session. -/
def IsMisnamed (session : Session) : Prop :=
  ∃ result value after,
    (extended session.config.operationTimeout Oid.whoAmI none).run session = (.ok result, after) ∧
      result.value = some value ∧ Octets.text? value = none ∧ after.phase ≠ .unbound

theorem extended_ok_readable {timeout : Nat} {name : String} {value : Option Octets}
    {result : ExtendedResult} {after : Session}
    (answered : (extended timeout name value).run session = (.ok result, after)) :
    ¬session.IsUnreadable := by
  simp only [extended, exchange, run_bind] at answered
  split at answered
  · next message exchanged =>
    split at exchanged
    · next submitted => exact submit_ok_readable submitted
    · cases exchanged
  · cases answered

theorem whoAmI_fatal {error : Error} {after : Session} (sound : session.IsSound)
    (failed : Client.whoAmI.run session = (.error error, after)) (fatal : error.isFatal = true) :
    after.phase = .unbound ↔ ¬session.IsUnreadable ∧ ¬session.IsMisnamed := by
  have asked : (whoAmI session.config.operationTimeout).run session = (.error error, after) := failed
  rcases run_bind_error asked with early | ⟨result, middle, answered, late⟩
  -- Without an answer there is nothing to misread.
  · have named : ¬session.IsMisnamed := by
      rintro ⟨_, _, _, answered, _⟩
      rw [early] at answered
      cases answered
    rw [and_iff_left named]
    exact (inquires_extended _ _ _).faithful session error after sound early fatal
  · have readable := extended_ok_readable answered
    rw [and_iff_right readable]
    split at late
    · cases late
    · next value present =>
      split at late
      · cases late
      -- The error comes from the answer, and only what came with the answer can have ended the session.
      · next garbled =>
        cases late
        constructor
        · rintro past ⟨other, _, final, same, _, _, going⟩
          rw [answered] at same
          cases same
          exact going past
        · intro named
          apply Classical.byContradiction
          intro going
          exact named ⟨result, value, _, answered, present, garbled, going⟩

/-- An operation that fails with a fatal error leaves the session ended, but for three cases: no read handle could
be opened, no receiver could be run on it, or the client asked who it is and was told something that is no text. -/
theorem fatal_ends_iff {start session after : Session} (new : start.IsNew) (acts : List Act)
    (reached : enact acts start = session) (call : Client.Call) {error : Error}
    (failed : call.answer.run session = (.error error, after)) (fatal : error.isFatal = true) :
    after.phase = .unbound ↔
      ¬session.LacksReader ∧ ¬session.LacksReceiver ∧ ¬(call = .whoAmI ∧ session.IsMisnamed) := by
  rw [← and_assoc, ← not_or, ← isUnreadable_iff]
  have sound := (enact_evolves acts start).sound new.isSound
  rw [reached] at sound
  by_cases asks : call = .whoAmI
  · subst asks
    rcases run_bind_error failed with asked | ⟨name, middle, _, done⟩
    · simpa using whoAmI_fatal sound asked fatal
    · cases done
  · have ends := (Client.Call.asks asks).faithful session error after sound failed fatal
    simpa [asks] using ends

def mute : Session := establish { script := [.writeFailure "broken pipe"] } {}

theorem unbound_mute :
    mute.IsNew ∧ ((Client.Call.delete "dc=example").answer.run mute).1 =
        .error (.connection "write to server failed: broken pipe") ∧
      ((Client.Call.delete "dc=example").answer.run mute).2.phase = .unbound := by
  have new : mute.IsNew := ⟨_, _, .inr rfl⟩
  have failed : ((Client.Call.delete "dc=example").answer.run mute).1 =
      .error (.connection "write to server failed: broken pipe") := by
    decide +kernel
  have opened : ¬mute.LacksReader := fun lacks => lacks.2 rfl
  have run : ¬mute.LacksReceiver := fun lacks => lacks.2.2 rfl
  have ends := fatal_ends_iff new [] rfl (.delete "dc=example") (Prod.ext failed rfl) rfl
  exact ⟨new, failed, ends.mpr ⟨opened, run, by simp⟩⟩

def deaf : Session := establish { readerFailure := some "no handle" } {}

def unattended : Session := establish { receiverFailure := some "no thread" } {}

def misnaming : Session :=
  establish
    { script := [.actions [.message none (.extendedResponse ⟨.success, "", "", []⟩ none (some [255])) []]] } {}

/-- Three fatal errors that leave a new session connected. -/
theorem connected_after_fatal :
    (deaf.IsNew ∧ ((Client.Call.delete "dc=example").answer.run deaf).1 =
        .error (.connection "cannot open read handle: no handle") ∧
      (Error.connection "cannot open read handle: no handle").isFatal = true ∧
      ((Client.Call.delete "dc=example").answer.run deaf).2.phase = .connected) ∧
    (unattended.IsNew ∧ ((Client.Call.delete "dc=example").answer.run unattended).1 =
        .error (.connection "cannot start receive loop: no thread") ∧
      (Error.connection "cannot start receive loop: no thread").isFatal = true ∧
      ((Client.Call.delete "dc=example").answer.run unattended).2.phase = .connected) ∧
    (misnaming.IsNew ∧ (Client.Call.whoAmI.answer.run misnaming).1 =
        .error (.malformed "authorization identity is not UTF-8") ∧
      (Error.malformed "authorization identity is not UTF-8").isFatal = true ∧
      (Client.Call.whoAmI.answer.run misnaming).2.phase = .connected) := by
  refine ⟨?_, ?_, ?_⟩
  · exact ⟨⟨_, _, .inr rfl⟩, by decide +kernel, rfl, by decide +kernel⟩
  · exact ⟨⟨_, _, .inr rfl⟩, by decide +kernel, rfl, by decide +kernel⟩
  · exact ⟨⟨_, _, .inr rfl⟩, by decide +kernel, rfl, by decide +kernel⟩

end Session

end Directory
