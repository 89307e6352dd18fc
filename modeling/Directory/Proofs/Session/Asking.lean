import Directory.Proofs.Session.Acts
/-!
The shape of operations. Each sends one request, of which it makes its result; before and after that it
leaves the session alone and can only fail with an error that harms nothing. What holds of the requests
themselves and of such actions holds of all operations.
-/
namespace Directory

namespace SessionM

def FailsOnly (action : SessionM α) (kind : Error → Prop) : Prop :=
  ∀ session error after, action.run session = (.error error, after) → kind error

def Mild (action : SessionM α) : Prop :=
  ∀ session error after, action.run session = (.error error, after) → error.isFatal = false

def Quiet (action : SessionM α) : Prop := action.Mild ∧ ∀ session, (action.run session).2 = session

theorem run_bind_error {action : SessionM α} {next : α → SessionM β} {session after : Session}
    {error : Error} (failed : (action >>= next).run session = (.error error, after)) :
    action.run session = (.error error, after) ∨
      ∃ a middle, action.run session = (.ok a, middle) ∧ (next a).run middle = (.error error, after) := by
  rw [run_bind] at failed
  split at failed
  · next a middle ran => exact .inr ⟨a, middle, ran, failed⟩
  · next early =>
    cases failed
    exact .inl early

variable {kind : Error → Prop}

theorem failsOnly_pure (a : α) : (pure a : SessionM α).FailsOnly kind := by
  intro session error after failed
  cases failed

theorem failsOnly_throw {error : Error} (of : kind error) : (throw error : SessionM α).FailsOnly kind := by
  intro session _ after failed
  cases failed
  exact of

theorem failsOnly_lift {result : Except Error α} (each : ∀ error, result = .error error → kind error) :
    (liftM result : SessionM α).FailsOnly kind := by
  intro session error after failed
  rw [run_lift, Prod.mk.injEq] at failed
  exact each error failed.1

theorem failsOnly_modify (change : Session → Session) : (modify change : SessionM Unit).FailsOnly kind := by
  intro session error after failed
  cases failed

theorem failsOnly_get : (get : SessionM Session).FailsOnly kind := by
  intro session error after failed
  cases failed

theorem FailsOnly.bind {action : SessionM α} {next : α → SessionM β} (first : action.FailsOnly kind)
    (second : ∀ a, (next a).FailsOnly kind) : (action >>= next).FailsOnly kind := by
  intro session error after failed
  rcases run_bind_error failed with early | ⟨a, middle, _, late⟩
  · exact first session error after early
  · exact second a middle error after late

theorem mild_pure (a : α) : (pure a : SessionM α).Mild := failsOnly_pure a

theorem mild_throw {error : Error} (mild : error.isFatal = false) : (throw error : SessionM α).Mild :=
  failsOnly_throw mild

theorem mild_modify (change : Session → Session) : (modify change : SessionM Unit).Mild := failsOnly_modify change

theorem Mild.bind {action : SessionM α} {next : α → SessionM β} (first : action.Mild)
    (second : ∀ a, (next a).Mild) : (action >>= next).Mild :=
  FailsOnly.bind first second

theorem quiet_pure (a : α) : (pure a : SessionM α).Quiet := ⟨mild_pure a, fun _ => rfl⟩

theorem quiet_get : (get : SessionM Session).Quiet := ⟨failsOnly_get, fun _ => rfl⟩

theorem quiet_throw {error : Error} (mild : error.isFatal = false) : (throw error : SessionM α).Quiet :=
  ⟨mild_throw mild, fun _ => rfl⟩

theorem quiet_lift {result : Except Error α} (mild : ∀ error, result = .error error → error.isFatal = false) :
    (liftM result : SessionM α).Quiet := by
  refine ⟨failsOnly_lift mild, fun session => ?_⟩
  rw [run_lift]

theorem Quiet.bind {action : SessionM α} {next : α → SessionM β} (first : action.Quiet)
    (second : ∀ a, (next a).Quiet) : (action >>= next).Quiet := by
  constructor
  · exact first.1.bind fun a => (second a).1
  · intro session
    have same := first.2 session
    rw [run_bind]
    split
    · next a middle ran =>
      rw [ran] at same
      subst same
      exact (second a).2 middle
    · next ran =>
      rw [ran] at same
      exact same

theorem run_before_quiet {next : α → SessionM β} (quiet : ∀ a, (next a).Quiet) (action : SessionM α)
    (session : Session) : ((action >>= next).run session).2 = (action.run session).2 := by
  rw [run_bind]
  split
  · next a middle ran => rw [(quiet a).2 middle, ran]
  · next ran => rw [ran]

def Relates (action : SessionM α) (R : Session → Session → Prop) : Prop :=
  ∀ session, R session (action.run session).2

variable {R : Session → Session → Prop}

theorem Quiet.relates {action : SessionM α} (quiet : action.Quiet) (refl : ∀ session, R session session) :
    action.Relates R := by
  intro session
  rw [quiet.2 session]
  exact refl session

theorem Relates.bind {action : SessionM α} {next : α → SessionM β} (first : action.Relates R)
    (second : ∀ a, (next a).Relates R) (trans : ∀ {a b c}, R a b → R b c → R a c) :
    (action >>= next).Relates R := by
  intro session
  have early := first session
  rw [run_bind]
  generalize action.run session = outcome at early ⊢
  obtain ⟨result, after⟩ := outcome
  cases result with
  | ok a => exact trans early (second a after)
  | error error => exact early

end SessionM

open SessionM

/-- One request of a client, with what leaves the session alone around it. -/
inductive Inquires : {α : Type} → SessionM α → Prop where
  | quiet {action : SessionM α} : action.Quiet → Inquires action
  | exchange (op : Operation) (controls : List Control) (timeout : Nat) :
      Inquires (Session.exchange op controls timeout)
  | search (timeout : Nat) (request : SearchRequest) (controls : List Control) :
      Inquires (Session.search timeout request controls)
  | abandon (target : MessageId) : Inquires (Session.abandon target)
  | before {first : SessionM α} {next : α → SessionM β} : first.Quiet → (∀ a, Inquires (next a)) →
      Inquires (first >>= next)
  | after {first : SessionM α} {next : α → SessionM β} : Inquires first → (∀ a, (next a).Quiet) →
      Inquires (first >>= next)

/-- A relation between a session and a later one that all requests of a client respect. -/
structure Session.Respected (R : Session → Session → Prop) : Prop where
  refl (session : Session) : R session session
  trans {a b c : Session} : R a b → R b c → R a c
  exchange (op : Operation) (controls : List Control) (timeout : Nat) :
    (exchange op controls timeout).Relates R
  search (timeout : Nat) (request : SearchRequest) (controls : List Control) :
    (search timeout request controls).Relates R
  abandon (target : MessageId) : (abandon target).Relates R

theorem Inquires.relates {R : Session → Session → Prop} {action : SessionM α} (inquires : Inquires action)
    (respected : Session.Respected R) : action.Relates R := by
  induction inquires with
  | quiet quiet => exact quiet.relates respected.refl
  | exchange op controls timeout => exact respected.exchange op controls timeout
  | search timeout request controls => exact respected.search timeout request controls
  | abandon target => exact respected.abandon target
  | before quiet _ ih => exact (quiet.relates respected.refl).bind ih respected.trans
  | after _ quiet ih => exact ih.bind (fun a => (quiet a).relates respected.refl) respected.trans

inductive Asks : {α : Type} → SessionM α → Prop where
  | inquires {action : SessionM α} : Inquires action → Asks action
  -- A bind settles who the client is, and does not leave the session alone after its answer.
  | simpleBind (name password : String) : Asks (Session.simpleBind name password)
  | before {first : SessionM α} {next : α → SessionM β} : first.Quiet → (∀ a, Asks (next a)) →
      Asks (first >>= next)
  | after {first : SessionM α} {next : α → SessionM β} : Asks first → (∀ a, (next a).Quiet) →
      Asks (first >>= next)

namespace Session

theorem quiet_check (outcome : Outcome) : outcome.check.Quiet := by
  unfold Outcome.check
  split
  · exact quiet_pure ()
  · exact quiet_throw rfl

theorem inquires_requestBind (name : String) (credentials : Credentials) :
    Inquires (requestBind name credentials) := by
  apply Inquires.before quiet_get
  intro session
  apply (Inquires.exchange _ _ _).after
  intro message
  split
  · exact quiet_pure _
  · exact quiet_throw rfl

theorem inquires_add (timeout : Nat) (entry : Entry) : Inquires (add timeout entry) := by
  apply (Inquires.exchange _ _ _).after
  intro message
  split
  · exact quiet_check _
  · exact quiet_throw rfl

theorem inquires_applyChanges (timeout : Nat) (dn : Dn) (changes : List Modification) :
    Inquires (applyChanges timeout dn changes) := by
  apply (Inquires.exchange _ _ _).after
  intro message
  split
  · exact quiet_check _
  · exact quiet_throw rfl

theorem inquires_delete (timeout : Nat) (dn : Dn) : Inquires (delete timeout dn) := by
  apply (Inquires.exchange _ _ _).after
  intro message
  split
  · exact quiet_check _
  · exact quiet_throw rfl

theorem inquires_compare (timeout : Nat) (dn : Dn) (attr : String) (value : Octets) :
    Inquires (compare timeout dn attr value) := by
  apply (Inquires.exchange _ _ _).after
  intro message
  split
  · split
    · exact quiet_pure true
    · split
      · exact quiet_pure false
      · exact quiet_throw rfl
  · exact quiet_throw rfl

theorem inquires_extended (timeout : Nat) (name : String) (value : Option Octets) :
    Inquires (extended timeout name value) := by
  apply (Inquires.exchange _ _ _).after
  intro message
  split
  · apply (quiet_check _).bind
    intro _
    exact quiet_pure _
  · exact quiet_throw rfl

theorem inquires_cancel (timeout : Nat) (target : MessageId) : Inquires (cancel timeout target) := by
  apply (Inquires.exchange _ _ _).after
  intro message
  split
  · split
    · exact quiet_pure ()
    · exact quiet_throw rfl
  · exact quiet_throw rfl

end Session

theorem Cursor.inquires_fetch (timeout : Nat) (request : SearchRequest) (cursor : Cursor) :
    Inquires (cursor.fetch timeout request) := by
  unfold fetch
  split
  · exact .quiet (quiet_throw rfl)
  · apply (Inquires.search _ _ _).after
    intro page
    exact quiet_pure _

theorem Session.relates_whoAmI {R : Session → Session → Prop} (respected : Session.Respected R) (timeout : Nat) :
    (Session.whoAmI timeout).Relates R := by
  apply ((Session.inquires_extended timeout Oid.whoAmI none).relates respected).bind _ respected.trans
  intro result
  split
  · exact (quiet_pure _).relates respected.refl
  · split
    · exact (quiet_pure _).relates respected.refl
    · exact fun session => respected.refl session

theorem Query.inquires {query : Query} (other : query ≠ .whoAmI) (timeout : Nat) :
    Inquires (query.answer timeout) := by
  cases query with
  | add entry => exact (Session.inquires_add timeout entry).after fun _ => quiet_pure _
  | applyChanges dn changes => exact (Session.inquires_applyChanges timeout dn changes).after fun _ => quiet_pure _
  | delete dn => exact (Session.inquires_delete timeout dn).after fun _ => quiet_pure _
  | compare dn attr value => exact (Session.inquires_compare timeout dn attr value).after fun _ => quiet_pure _
  | search request controls => exact (Inquires.search timeout request controls).after fun _ => quiet_pure _
  | fetch request cursor => exact (cursor.inquires_fetch timeout request).after fun _ => quiet_pure _
  | extended name value => exact (Session.inquires_extended timeout name value).after fun _ => quiet_pure _
  | whoAmI => exact absurd rfl other
  | cancel target => exact (Session.inquires_cancel timeout target).after fun _ => quiet_pure _

theorem Query.relates {R : Session → Session → Prop} (respected : Session.Respected R) (query : Query)
    (timeout : Nat) : (query.answer timeout).Relates R := by
  by_cases whoAmI : query = .whoAmI
  · subst whoAmI
    exact (Session.relates_whoAmI respected timeout).bind (fun _ => (quiet_pure _).relates respected.refl) respected.trans
  · exact (Query.inquires whoAmI timeout).relates respected

theorem PagedEntries.respects_next {R : Session → Session → Prop} (respected : Session.Respected R)
    (entries : PagedEntries) (session : Session) : R session (entries.next session).2 := by
  have fetched (entries : PagedEntries) :=
    (entries.cursor.inquires_fetch entries.timeout entries.request).relates respected
  fun_induction next entries session with
  | case1 => exact respected.refl _
  | case2 => exact respected.refl _
  | case3 entries session _ _ error after failed =>
    have early := fetched entries session
    rwa [failed] at early
  | case4 entries session _ _ after page cursor found ih =>
    have early := fetched entries session
    rw [found] at early
    exact respected.trans early ih

namespace Client

theorem mild_parse_dn {text : String} {error : Error} (refused : Dn.parse text = .error error) :
    error.isFatal = false := by
  unfold Dn.parse at refused
  cases read : Dn.ofChars text.toList with
  | ok dn =>
    rw [read] at refused
    cases refused
  | error fault =>
    rw [read] at refused
    cases refused
    rfl

theorem mild_parse_filter {text : String} {error : Error} (refused : Filter.parse text = .error error) :
    error.isFatal = false := by
  unfold Filter.parse at refused
  dsimp only at refused
  split at refused
  · cases refused
    rfl
  · cases read : Filter.ofChars (trim text.toList) with
    | ok filter =>
      rw [read] at refused
      cases refused
    | error stop =>
      rw [read] at refused
      cases refused
      rfl

theorem mild_searchRequest {base : String} {scope : Scope} {filter : String} {attributes : List String}
    {error : Error} (refused : searchRequest base scope filter attributes = .error error) :
    error.isFatal = false := by
  unfold searchRequest at refused
  cases named : Dn.parse base with
  | error early =>
    rw [named] at refused
    cases refused
    exact mild_parse_dn named
  | ok dn =>
    cases read : Filter.parse filter with
    | error early =>
      rw [named, read] at refused
      cases refused
      exact mild_parse_filter read
    | ok filter =>
      rw [named, read] at refused
      cases refused

theorem quiet_timeout : timeout.Quiet := by
  apply quiet_get.bind
  intro session
  exact quiet_pure _

theorem quiet_entryName (text : String) : (entryName text).Quiet := by
  apply (quiet_lift fun _ => mild_parse_dn).bind
  intro dn
  split
  · exact (quiet_throw rfl).bind fun _ => quiet_pure dn
  · exact quiet_pure dn

theorem asks_bind (name password : String) : Asks (Client.bind name password) := by
  unfold Client.bind
  split
  · exact .before (quiet_throw rfl) fun _ => .simpleBind name password
  · exact .simpleBind name password

theorem inquires_onEntry (text : String) {use : Dn → Nat → SessionM α}
    (each : ∀ dn timeout, Inquires (use dn timeout)) :
    Inquires (do
      let dn ← entryName text
      use dn (← timeout)) := by
  apply Inquires.before (quiet_entryName text)
  intro dn
  apply Inquires.before quiet_timeout
  intro timeout
  exact each dn timeout

theorem inquires_applyChanges (text : String) (changes : List Modification) :
    Inquires (applyChanges text changes) := by
  apply Inquires.before (quiet_entryName text)
  intro dn
  have applied : Inquires (do Session.applyChanges (← timeout) dn changes) :=
    .before quiet_timeout fun timeout => Session.inquires_applyChanges timeout dn changes
  split
  · exact .before (quiet_throw rfl) fun _ => applied
  · exact applied

theorem inquires_searchFor (request : SearchRequest) : Inquires (searchFor request) :=
  .before quiet_timeout fun timeout => .search timeout request []

theorem inquires_search (base : String) (scope : Scope) (filter : String) (attributes : List String) :
    Inquires (search base scope filter attributes) :=
  .before (quiet_lift fun _ => mild_searchRequest) inquires_searchFor

theorem inquires_extended (name : String) (value : Option Octets) : Inquires (extended name value) := by
  have asked : Inquires (do Session.extended (← timeout) name value) :=
    .before quiet_timeout fun timeout => Session.inquires_extended timeout name value
  unfold extended
  split
  · exact .before (quiet_throw rfl) fun _ => asked
  · exact asked

theorem mild_ofPageSize {pageSize : UInt32} {error : Error} (refused : Cursor.ofPageSize pageSize = .error error) :
    error.isFatal = false := by
  unfold Cursor.ofPageSize at refused
  split at refused
  · cases refused
    rfl
  · cases refused

theorem quiet_pagedSearch (base : String) (scope : Scope) (filter : String) (attributes : List String)
    (pageSize : UInt32) : (pagedSearch base scope filter attributes pageSize).Quiet := by
  apply (quiet_lift fun _ => mild_ofPageSize).bind
  intro cursor
  apply (quiet_lift fun _ => mild_searchRequest).bind
  intro request
  apply quiet_timeout.bind
  intro timeout
  exact quiet_pure _

-- Who the client is may come back as something that is no text, and that is a fatal error.
theorem Call.inquires {call : Call} (other : call ≠ .whoAmI)
    (unbinding : ∀ name password, call ≠ .bind name password) : Inquires call.answer := by
  cases call with
  | bind name password => exact absurd rfl (unbinding name password)
  | add dn attributes =>
    have added := inquires_onEntry dn fun dn timeout => Session.inquires_add timeout ⟨dn, attributes⟩
    exact added.after fun _ => quiet_pure _
  | applyChanges dn changes => exact (inquires_applyChanges dn changes).after fun _ => quiet_pure _
  | delete dn =>
    have deleted := inquires_onEntry dn fun dn timeout => Session.inquires_delete timeout dn
    exact deleted.after fun _ => quiet_pure _
  | compare dn attr value =>
    have compared := inquires_onEntry dn fun dn timeout => Session.inquires_compare timeout dn attr value
    exact compared.after fun _ => quiet_pure _
  | search base scope filter attributes =>
    exact (inquires_search base scope filter attributes).after fun _ => quiet_pure _
  | searchFor request => exact (inquires_searchFor request).after fun _ => quiet_pure _
  | fetch timeout request cursor => exact (cursor.inquires_fetch timeout request).after fun _ => quiet_pure _
  | extended name value => exact (inquires_extended name value).after fun _ => quiet_pure _
  | whoAmI => exact absurd rfl other
  | cancel target =>
    have cancelled := Inquires.before quiet_timeout fun timeout => Session.inquires_cancel timeout target
    exact cancelled.after fun _ => quiet_pure _
  | abandon target => exact (Inquires.abandon target).after fun _ => quiet_pure _

theorem Call.relates {R : Session → Session → Prop} (respected : Session.Respected R) {call : Call}
    (unbinding : ∀ name password, call ≠ .bind name password) : call.answer.Relates R := by
  by_cases whoAmI : call = .whoAmI
  · subst whoAmI
    have asked : Client.whoAmI.Relates R :=
      (quiet_timeout.relates respected.refl).bind (Session.relates_whoAmI respected) respected.trans
    exact asked.bind (fun _ => (quiet_pure _).relates respected.refl) respected.trans
  · exact (Call.inquires whoAmI unbinding).relates respected

theorem Call.asks {call : Call} (other : call ≠ .whoAmI) : Asks call.answer := by
  cases call with
  | bind name password => exact (asks_bind name password).after fun _ => quiet_pure _
  | _ => exact .inquires (Call.inquires other fun _ _ same => by cases same)

end Client

end Directory
