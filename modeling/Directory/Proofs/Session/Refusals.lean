import Directory.Proofs.Paging.Cookies
import Directory.Proofs.Session.Listening
/-!
What is refused leaves no trace. Every operation looks at its arguments and at the session before it does
anything, in whatever order, so that a call that comes too early or too late, or makes no sense, changes nothing.
-/
namespace Directory

open Session SessionM

namespace Session

/-- Nothing was written, numbered or settled on the session, and nobody waits for more or less than before. -/
structure Inert (before after : Session) : Prop where
  written : after.transport.written = before.transport.written
  numbers : after.nextId = before.nextId
  waiters : after.waiters = before.waiters
  identity : after.identity = before.identity
  phase : after.phase = before.phase
  ending : after.ending = before.ending
  traffic : after.hasCarriedTraffic = before.hasCarriedTraffic
  secured : after.isSecured = before.isSecured
  -- A receiver that was left running may come to the end of its stream, but none is started.
  receiver : after.receiver = before.receiver ∨ before.receiver = .running ∧ after.receiver = .stopped

namespace Inert

theorem refl (session : Session) : session.Inert session := ⟨rfl, rfl, rfl, rfl, rfl, rfl, rfl, rfl, .inl rfl⟩

theorem trans {a b c : Session} (first : a.Inert b) (second : b.Inert c) : a.Inert c where
  written := second.written.trans first.written
  numbers := second.numbers.trans first.numbers
  waiters := second.waiters.trans first.waiters
  identity := second.identity.trans first.identity
  phase := second.phase.trans first.phase
  ending := second.ending.trans first.ending
  traffic := second.traffic.trans first.traffic
  secured := second.secured.trans first.secured
  receiver := by
    rcases second.receiver with same | ⟨running, stopped⟩
    · rw [same]
      exact first.receiver
    · rcases first.receiver with same | ⟨_, early⟩
      · exact .inr ⟨same ▸ running, stopped⟩
      · rw [early] at running
        cases running

end Inert

variable {session : Session}

theorem inert_read {transport : Transport} (does : session.transport.Does [] transport) :
    session.Inert { session with transport } :=
  ⟨does.carries.written_eq rfl, rfl, rfl, rfl, rfl, rfl, rfl, rfl, .inl rfl⟩

theorem inert_release (session : Session) : session.Inert session.release := by
  unfold release
  split
  · exact ⟨(Transport.Does.shutdown _).carries.written_eq rfl, rfl, rfl, rfl, rfl, rfl, rfl, rfl, .inl rfl⟩
  · exact .refl session

/-- A session that has ended passes over what it still reads. -/
theorem route_of_closed (closed : ∀ waiter ∈ session.waiters, waiter.isOpen = false) (message : Message) :
    session.route message = session := by
  have same : session.waiters.map (fun waiter =>
      if waiter.id = message.id then waiter.take message else waiter) = session.waiters := by
    conv_rhs => rw [← List.map_id session.waiters]
    apply List.map_congr_left
    intro waiter member
    rw [take_of_closed message (closed waiter member), ite_self]
    rfl
  rw [route, updateWaiter, same]

theorem terminate_of_ended (ended : session.ending.isSome = true) (reason : Termination) :
    session.terminate reason = session := if_pos ended

/-- What the receiver of an ended session comes upon makes no difference any more. -/
theorem inert_takeIn (ended : session.ending.isSome = true)
    (closed : ∀ waiter ∈ session.waiters, waiter.isOpen = false) : session.Inert session.takeIn := by
  fun_induction takeIn session with
  | case1 session _ message transport next ih =>
    have shut : ∀ waiter ∈ { session with transport }.waiters, waiter.isOpen = false := closed
    rw [route_of_closed shut] at ih ⊢
    exact (inert_read (.read (nextMessage?_readsTo next))).trans (ih ended closed)
  | case2 session running reason transport next =>
    have stopped : { session with transport }.Inert { session with transport, receiver := .stopped } :=
      ⟨rfl, rfl, rfl, rfl, rfl, rfl, rfl, rfl, .inr ⟨running, rfl⟩⟩
    have past : { session with transport, receiver := .stopped }.ending.isSome = true := ended
    rw [stop, terminate_of_ended past]
    exact ((inert_read (.read (nextMessage?_readsTo next))).trans stopped).trans (inert_release _)
  | case3 => exact .refl _
  | case4 => exact .refl _

/-- A refused request is inert, also when what the server sent in the meantime is taken in. -/
theorem Refuses.inert (sound : session.IsSound) (unread : session.phase = .idle → session.receiver = .notStarted)
    {error : Error} {after : Session} (refused : session.Refuses error after) :
    session.Inert after ∧ session.Inert after.takeIn := by
  cases refused with
  | idle idle =>
    rw [takeIn_of_unread (unread idle)]
    exact ⟨.refl session, .refl session⟩
  | unbound text past =>
    have released := inert_release session
    have ended := sound.unbound_iff.mp past
    refine ⟨released, released.trans (inert_takeIn ?_ ?_)⟩
    · rw [released.ending]
      exact ended
    · rw [released.waiters]
      exact sound.closed ended

section Refused

variable {error : Error} {after : Session}

theorem submit_refused (refusal : checkOperational.run session = (.error error, after)) (op : Operation)
    (controls : List Control) (timeout : Nat) (use : Handle → SessionM α) :
    (submit op controls timeout >>= use).run session = (.error error, after.takeIn) := by
  rw [run_bind, submit, attending_run, post_refused refusal]

/-- Whatever is asked for, it is refused. -/
theorem Request.refused (refusal : checkOperational.run session = (.error error, after)) (request : Request) :
    request.perform.run session = (.error error, after.takeIn) := by
  cases request with
  | exchange op controls timeout => exact submit_refused refusal op controls timeout _
  | search timeout request controls => exact submit_refused refusal _ controls timeout _
  | abandon target =>
    change (attending (giveUp target)).run session = _
    rw [attending_run, giveUp_refused refusal]
    rfl

theorem refused_of_makes {action : SessionM α} {request : Request}
    (makes : action.Makes session.config (some request))
    (refusal : checkOperational.run session = (.error error, after)) :
    action.run session = (.error error, after.takeIn) := by
  cases makes with
  | request _ read makes =>
    rw [makes session rfl, request.refused refusal]
    rfl

theorem requestBind_refused (refusal : checkOperational.run session = (.error error, after)) (name : String)
    (credentials : Credentials) :
    (requestBind name credentials).run session = (.error error, after.takeIn) :=
  refused_of_makes (makes_requestBind name credentials) refusal

end Refused

/-- A session that was never connected reads nothing. -/
theorem Step.unread (step : Step) (unread : session.phase = .idle → session.receiver = .notStarted) :
    (step.perform session).phase = .idle → (step.perform session).receiver = .notStarted := by
  intro idle
  have before : session.phase = .idle := by
    apply Classical.byContradiction
    intro used
    exact (step.evolves session).used used idle
  have quiet := unread before
  by_cases reading : step = .takeIn
  · rw [reading, perform, takeIn_of_unread quiet]
    exact quiet
  by_cases leaving : step = .close
  · rw [leaving, perform, receiver_close]
    exact quiet
  · exact (step.still_of_idle before reading leaving).2.trans quiet

theorem IsNew.unread {start : Session} (new : start.IsNew) (steps : List Step) :
    (run steps start).phase = .idle → (run steps start).receiver = .notStarted := by
  have kept {session : Session} (unread : session.phase = .idle → session.receiver = .notStarted) :
      (run steps session).phase = .idle → (run steps session).receiver = .notStarted := by
    induction steps generalizing session with
    | nil => exact unread
    | cons step rest ih => exact ih (step.unread unread)
  obtain ⟨transport, config, rfl | rfl⟩ := new
  · exact kept fun _ => rfl
  · exact kept fun _ => rfl

def failure? : Except Error α → Option Error
  | .ok _ => none
  | .error error => some error

def Reply.error? : Reply → Option Error
  | nothing => none
  | number given => failure? given
  | handle given => failure? given
  | message given => failure? given
  | answer given => failure? given
  | exchange challenges => failure? challenges.result
  | pages given => failure? given
  | entry handed _ => handed.bind failure?
  | security _ result => failure? result

namespace Act

def IsSenseless : Act → Prop
  | call (.bind name password) => name ≠ "" ∧ password = ""
  | call (.add dn _) | call (.delete dn) | call (.compare dn _ _) => Client.name? dn = none
  | call (.applyChanges dn changes) => Client.name? dn = none ∨ changes = []
  | call (.search base _ filter _) => (Dn.parse base).isOk = false ∨ (Filter.parse filter).isOk = false
  | call (.extended name _) => name = ""
  | pagedSearch base _ filter _ pageSize =>
    pageSize = 0 ∨ (Dn.parse base).isOk = false ∨ (Filter.parse filter).isOk = false
  | _ => False

/-- The operation cannot begin for another reason that has nothing to do with the session: the cursor is at its
end, or the mechanism has nothing to begin with. -/
def IsSpent : Act → Prop
  | query _ (.fetch _ cursor) | call (.fetch _ _ cursor) => cursor.isExhausted = true
  | saslBind mechanism => mechanism.initial.isOk = false
  | _ => False

/-- Something is asked of the server. A paged search does so once its pages are fetched. -/
def NeedsSession : Act → Prop
  | step (.post _ _ _) | step (.giveUp _) | step (.secure _) => True
  | step _ | pagedSearch _ _ _ _ _ => False
  | next entries => entries.buffer = [] ∧ entries.hasFailed = false ∧ entries.cursor.isExhausted = false
  | _ => True

end Act

end Session

theorem Query.exists_request {query : Query} {timeout : Nat} (unspent : ¬(Act.query timeout query).IsSpent) :
    ∃ request, query.request? timeout = some request := by
  cases query with
  | fetch request cursor =>
    cases standing : cursor.position.cookie? with
    | none => exact absurd ((Cursor.isExhausted_iff cursor).mpr standing) unspent
    | some cookie =>
      rw [request?, standing]
      exact ⟨_, rfl⟩
  | _ => exact ⟨_, rfl⟩

theorem Query.refused {query : Query} {timeout : Nat} (unspent : ¬(Act.query timeout query).IsSpent)
    {session after : Session} {error : Error} (refusal : checkOperational.run session = (.error error, after)) :
    (query.answer timeout).run session = (.error error, after.takeIn) := by
  obtain ⟨request, asked⟩ := exists_request unspent
  have makes : (query.answer timeout).Makes session.config (query.request? timeout) := query.makes timeout
  rw [asked] at makes
  exact refused_of_makes makes refusal

namespace Client

variable {session : Session}

theorem searchRequest_refused {base filter : String}
    (refused : (Dn.parse base).isOk = false ∨ (Filter.parse filter).isOk = false) (scope : Scope)
    (attributes : List String) : ∃ error, searchRequest base scope filter attributes = .error error := by
  unfold searchRequest
  cases named : Dn.parse base with
  | error error => exact ⟨error, rfl⟩
  | ok dn =>
    cases read : Filter.parse filter with
    | error error => exact ⟨error, rfl⟩
    | ok filter =>
      rw [named, read] at refused
      simp [Except.isOk, Except.toBool] at refused

theorem searchRequest_accepted {base filter : String}
    (accepted : ¬((Dn.parse base).isOk = false ∨ (Filter.parse filter).isOk = false)) (scope : Scope)
    (attributes : List String) : ∃ request, searchRequest base scope filter attributes = .ok request := by
  unfold searchRequest
  cases named : Dn.parse base with
  | error error => simp [named, Except.isOk, Except.toBool] at accepted
  | ok dn =>
    cases read : Filter.parse filter with
    | error error => simp [read, Except.isOk, Except.toBool] at accepted
    | ok filter => exact ⟨_, rfl⟩

theorem entryName_refused {text : String} (nameless : name? text = none) :
    ∃ error, ∀ session, (entryName text).run session = (.error error, session) := by
  unfold name? at nameless
  unfold entryName
  cases parsed : Dn.parse text with
  | error error => exact ⟨error, fun _ => rfl⟩
  | ok dn =>
    rw [parsed] at nameless
    have root : dn.isRoot = true := by simpa [Except.toOption] using nameless
    refine ⟨.invalidDn "DN must not be empty", fun session => ?_⟩
    rw [run_bind, run_lift]
    dsimp only
    rw [if_pos root]
    rfl

theorem name?_eq_some_iff {text : String} {dn : Dn} :
    name? text = some dn ↔ Dn.parse text = .ok dn ∧ dn.isRoot = false := by
  unfold name?
  cases Dn.parse text with
  | error error => simp [Except.toOption]
  | ok other => simp only [Except.toOption, Option.filter_eq_some_iff, Option.some.injEq, Except.ok.injEq,
      Bool.not_eq_true']

theorem entryName_named {text : String} {dn : Dn} (named : name? text = some dn) (session : Session) :
    (entryName text).run session = (.ok dn, session) := by
  obtain ⟨read, leaf⟩ := name?_eq_some_iff.mp named
  rw [entryName, run_bind, run_lift, read]
  dsimp only
  rw [if_neg (by simp [leaf])]
  rfl

def Declines (action : SessionM α) : Prop := ∃ error, ∀ session, action.run session = (.error error, session)

theorem Declines.bind {action : SessionM α} (declines : Declines action) (next : α → SessionM β) :
    Declines (action >>= next) := by
  obtain ⟨error, fails⟩ := declines
  exact ⟨error, fun session => by rw [run_bind, fails]⟩

/-- It fails with an error, and the session after it is the session before it. -/
theorem Declines.fails {action : SessionM α} (declines : Declines action) :
    ∃ error, ∀ session, failure? (action.run session).1 = some error ∧ (action.run session).2 = session := by
  obtain ⟨error, fails⟩ := declines
  refine ⟨error, fun session => ?_⟩
  rw [fails]
  exact ⟨rfl, rfl⟩

theorem declines_throw (error : Error) : Declines (throw error : SessionM α) := ⟨error, fun _ => rfl⟩

theorem declines_lift {result : Except Error α} (failed : ∃ error, result = .error error) :
    Declines (liftM result : SessionM α) := by
  obtain ⟨error, rfl⟩ := failed
  exact ⟨error, fun session => run_lift _ session⟩

/-- Whether there is a name is found out first, and whether there are changes after that. -/
theorem declines_applyChanges {dn : String} {changes : List Modification}
    (senseless : name? dn = none ∨ changes = []) : Declines (Client.applyChanges dn changes) := by
  cases named : name? dn with
  | none => exact Declines.bind (entryName_refused named) _
  | some name =>
    obtain rfl : changes = [] := senseless.resolve_left (by simp [named])
    refine ⟨.invalidArgument s!"no modifications for {name.print}", fun session => ?_⟩
    rw [Client.applyChanges, run_bind, entryName_named named]
    rfl

theorem Call.declines {called : Call} (senseless : (Act.call called).IsSenseless) :
    Declines called.answer := by
  cases called with
  | bind name password =>
    obtain ⟨named, bare⟩ := senseless
    have unproven : (!name.isEmpty && password.isEmpty) = true := by simp [named, bare, String.isEmpty_iff]
    apply Declines.bind
    unfold Client.bind
    rw [if_pos unproven]
    exact (declines_throw _).bind _
  | add dn attributes => exact Declines.bind (Declines.bind (entryName_refused senseless) _) _
  | applyChanges dn changes => exact (declines_applyChanges senseless).bind _
  | delete dn => exact Declines.bind (Declines.bind (entryName_refused senseless) _) _
  | compare dn attr value => exact Declines.bind (Declines.bind (entryName_refused senseless) _) _
  | search base scope filter attributes =>
    have refused := declines_lift (searchRequest_refused senseless scope attributes)
    exact (refused.bind _).bind _
  | extended name value =>
    have empty : name.isEmpty = true := by rw [String.isEmpty_iff]; exact senseless
    apply Declines.bind
    unfold Client.extended
    rw [if_pos empty]
    exact (declines_throw _).bind _
  | searchFor | fetch | whoAmI | cancel | abandon => exact absurd senseless id

/-- The page size is looked at first, and the base and the filter after that. -/
theorem declines_pagedSearch {base filter : String} {pageSize : UInt32}
    (senseless : pageSize = 0 ∨ (Dn.parse base).isOk = false ∨ (Filter.parse filter).isOk = false)
    (scope : Scope) (attributes : List String) :
    Declines (Client.pagedSearch base scope filter attributes pageSize) := by
  unfold Client.pagedSearch
  by_cases zero : pageSize = 0
  · exact (declines_lift ⟨_, dif_pos zero⟩).bind _
  · obtain ⟨error, refused⟩ := searchRequest_refused (senseless.resolve_left zero) scope attributes
    refine ⟨error, fun session => ?_⟩
    rw [run_bind, run_lift, Cursor.ofPageSize, dif_neg zero]
    dsimp only
    rw [run_bind, run_lift, refused]

/-- A call whose arguments make sense asks the session for something. -/
theorem Call.exists_request {called : Call} (other : ∀ name password, called ≠ .bind name password)
    (sensible : ¬(Act.call called).IsSenseless) (unspent : ¬(Act.call called).IsSpent) (config : Config) :
    ∃ request, called.request? config = some request := by
  have named {text : String} (some : name? text ≠ none) : ∃ dn, name? text = .some dn :=
    Option.ne_none_iff_exists'.mp some
  cases called with
  | bind name password => exact absurd rfl (other name password)
  | add dn attributes | delete dn | compare dn attr value =>
    obtain ⟨name, found⟩ := named sensible
    rw [request?, found]
    exact ⟨_, rfl⟩
  | applyChanges dn changes =>
    obtain ⟨nameless, unchanged⟩ := not_or.mp sensible
    obtain ⟨name, found⟩ := named nameless
    rw [request?, found, Option.bind_some, if_neg (by simpa using unchanged)]
    exact ⟨_, rfl⟩
  | search base scope filter attributes =>
    obtain ⟨request, made⟩ := searchRequest_accepted sensible scope attributes
    rw [request?, made]
    exact ⟨_, rfl⟩
  | fetch timeout request cursor =>
    have going : ¬(Act.query timeout (.fetch request cursor)).IsSpent := unspent
    exact Query.exists_request going
  | extended name value =>
    have given : ¬name.isEmpty = true := by rw [String.isEmpty_iff]; exact sensible
    rw [request?, if_neg given]
    exact ⟨_, rfl⟩
  | searchFor | whoAmI | cancel | abandon => exact ⟨_, rfl⟩

/-- With a name there is a password. -/
theorem Call.proven {name password : String} (sensible : ¬(Act.call (.bind name password)).IsSenseless) :
    ¬(!name.isEmpty && password.isEmpty) = true := by
  simpa [String.isEmpty_iff, Act.IsSenseless] using sensible

theorem Call.refused {called : Call} (sensible : ¬(Act.call called).IsSenseless)
    (unspent : ¬(Act.call called).IsSpent) {error : Error} {after : Session}
    (refusal : checkOperational.run session = (.error error, after)) :
    called.answer.run session = (.error error, after.takeIn) := by
  by_cases bind : ∃ name password, called = .bind name password
  · obtain ⟨name, password, rfl⟩ := bind
    rw [answer, run_bind, Client.bind, if_neg (proven sensible), simpleBind, run_bind, requestBind_refused refusal]
  · have other : ∀ name password, called ≠ .bind name password :=
      fun name password same => bind ⟨name, password, same⟩
    obtain ⟨request, asked⟩ := Call.exists_request other sensible unspent session.config
    have makes : called.answer.Makes session.config (called.request? session.config) := Call.makes other
    rw [asked] at makes
    exact refused_of_makes makes refusal

end Client

namespace Session

/-- Arguments that make no sense are found out before anything is done, on whatever session. -/
theorem Act.error_of_senseless {act : Act} (senseless : act.IsSenseless) :
    ∃ error, ∀ session, (act.reply session).error? = some error ∧ act.perform session = session := by
  cases act with
  | call called => exact (called.declines senseless).fails
  | pagedSearch base scope filter attributes pageSize =>
    exact (Client.declines_pagedSearch senseless scope attributes).fails
  | step | query | simpleBind | saslBind | next => exact absurd senseless id

theorem Act.error_of_spent {act : Act} (spent : act.IsSpent) :
    ∃ error, ∀ session, (act.reply session).error? = some error ∧ act.perform session = session := by
  have fetched {cursor : Cursor} (spent : cursor.isExhausted = true) (timeout : Nat) (request : SearchRequest) :
      Client.Declines ((Query.fetch request cursor).answer timeout) := by
    have declines : Client.Declines (cursor.fetch timeout request) :=
      ⟨.cursorExhausted, Cursor.fetch_exhausted spent timeout request⟩
    exact declines.bind _
  cases act with
  | query timeout asked =>
    cases asked with
    | fetch request cursor => exact (fetched spent timeout request).fails
    | _ => exact absurd spent id
  | call called =>
    cases called with
    | fetch timeout request cursor => exact (fetched spent timeout request).fails
    | _ => exact absurd spent id
  | saslBind mechanism =>
    cases begun : mechanism.initial with
    | error error =>
      refine ⟨error, fun session => ?_⟩
      rw [reply, perform, Session.saslBind, begun]
      exact ⟨rfl, rfl⟩
    | ok response => simp [IsSpent, begun, Except.isOk, Except.toBool] at spent
  | step | simpleBind | pagedSearch | next => exact absurd spent id

/-- What asks for something is refused by a session that is not live. -/
theorem Act.refused {act : Act} (sensible : ¬act.IsSenseless) (unspent : ¬act.IsSpent)
    (needs : act.NeedsSession) {error : Error} {after : Session}
    (refusal : checkOperational.run session = (.error error, after)) :
    (act.reply session).error? = some error ∧
      (act.perform session = after ∨ act.perform session = after.takeIn) := by
  cases act with
  | step taken =>
    cases taken with
    | post op controls timeout =>
      rw [reply, perform, Step.reply, Step.perform, post_refused refusal]
      exact ⟨rfl, .inl rfl⟩
    | giveUp target =>
      rw [reply, perform, Step.reply, Step.perform, giveUp_refused refusal]
      exact ⟨rfl, .inl rfl⟩
    | secure upgrade =>
      rw [reply, perform, Step.reply, Step.perform, startSecurity_refused refusal]
      exact ⟨rfl, .inl rfl⟩
    | _ => exact absurd needs id
  | query timeout asked =>
    rw [reply, perform, Query.refused unspent refusal]
    exact ⟨rfl, .inr rfl⟩
  | call called =>
    rw [reply, perform, called.refused sensible unspent refusal]
    exact ⟨rfl, .inr rfl⟩
  | simpleBind name password =>
    rw [reply, perform, Session.simpleBind, run_bind, requestBind_refused refusal]
    exact ⟨rfl, .inr rfl⟩
  | saslBind mechanism =>
    cases begun : mechanism.initial with
    | error error =>
      apply absurd _ unspent
      rw [IsSpent, begun]
      rfl
    | ok response =>
      rw [reply, perform, Session.saslBind, begun]
      dsimp only
      rw [saslRounds_failed (requestBind_refused refusal "" _)]
      exact ⟨rfl, .inr rfl⟩
  | pagedSearch => exact absurd needs id
  | next entries =>
    obtain ⟨empty, unfailed, going⟩ := needs
    have more : ¬(entries.hasFailed || entries.cursor.isExhausted) = true := by simp [unfailed, going]
    have unspent : ¬(Act.query entries.timeout (.fetch entries.request entries.cursor)).IsSpent := by
      simp [IsSpent, going]
    obtain ⟨request, asked⟩ := Query.exists_request unspent
    have makes : (entries.cursor.fetch entries.timeout entries.request).Makes session.config
        ((Query.fetch entries.request entries.cursor).request? entries.timeout) := entries.cursor.makes_fetch _ _
    rw [asked] at makes
    rw [reply, perform, entries.next_failed empty more (refused_of_makes makes refusal)]
    exact ⟨rfl, .inr rfl⟩

end Session

namespace Client

/-- Where a session is not connected or not any longer, or where the arguments make no sense, an act
returns an error and does nothing: it writes and numbers no request, nobody waits for more or less, and the
session and the client's identity stay what they were. Without such arguments the error is about the state of
the session, unless the operation cannot begin for a reason of its own. -/
theorem refused_without_trace {start session : Session} (new : start.IsNew) (steps : List Step)
    (reached : run steps start = session) {act : Act}
    (rejected : act.IsSenseless ∨ (session.phase = .idle ∨ session.phase = .unbound) ∧ act.NeedsSession) :
    ∃ error, (act.reply session).error? = some error ∧ session.Inert (act.perform session) ∧
      (¬act.IsSenseless → ¬act.IsSpent → ∃ text, error = .sessionState text) := by
  subst reached
  by_cases unfit : act.IsSenseless ∨ act.IsSpent
  · obtain ⟨error, declined⟩ := unfit.elim Act.error_of_senseless Act.error_of_spent
    obtain ⟨fails, same⟩ := declined (run steps start)
    refine ⟨error, fails, ?_, fun sensible unspent => absurd unfit (not_or.mpr ⟨sensible, unspent⟩)⟩
    rw [same]
    exact .refl _
  · obtain ⟨sensible, unspent⟩ := not_or.mp unfit
    obtain ⟨past, needs⟩ := rejected.resolve_left sensible
    have dead : (run steps start).phase.isLive = false := by
      rcases past with idle | unbound
      · rw [idle]
        rfl
      · rw [unbound]
        rfl
    obtain ⟨text, after, refused, refusal⟩ := exists_refused dead
    obtain ⟨fails, left⟩ := act.refused sensible unspent needs refusal
    obtain ⟨now, later⟩ := refused.inert (new.isSound_run steps) (new.unread steps)
    refine ⟨_, fails, ?_, fun _ _ => ⟨text, rfl⟩⟩
    rcases left with same | taken
    · rw [same]
      exact now
    · rw [taken]
      exact later

theorem refused_early_and_late :
    (∃ error, ((Act.call .whoAmI).reply (Session.ofTransport {} {})).error? = some error ∧
        ∃ text, error = .sessionState text) ∧
      (∃ error, ((Act.step (.secure .ok)).reply (Session.establish {} {}).close).error? = some error ∧
        ∃ text, error = .sessionState text) ∧
      (Session.establish {} {}).Inert ((Act.call (.delete "")).perform (Session.establish {} {})) := by
  have idle : (Session.ofTransport {} {}).IsNew := ⟨{}, {}, .inl rfl⟩
  have connected : (Session.establish {} {}).IsNew := ⟨{}, {}, .inr rfl⟩
  have closed : (Session.establish {} {}).close.phase = .unbound := by decide +kernel
  obtain ⟨early, fails, _, unready⟩ :=
    refused_without_trace idle [] rfl (.inr ⟨.inl rfl, show (Act.call .whoAmI).NeedsSession from trivial⟩)
  obtain ⟨late, ends, _, gone⟩ :=
    refused_without_trace connected [.close] rfl
      (.inr ⟨.inr closed, show (Act.step (.secure .ok)).NeedsSession from trivial⟩)
  obtain ⟨_, _, inert, _⟩ :=
    refused_without_trace connected [] rfl
      (.inl (show (Act.call (.delete "")).IsSenseless from (by decide : name? "" = none)))
  exact ⟨⟨early, fails, unready id id⟩, ⟨late, ends, gone id id⟩, inert⟩

end Client

end Directory
