import Directory.Proofs.Session.Asking
/-!
The requests of operations. An operation looks at its arguments, makes one request at most, and makes its
result of what the request brings, always in the same way.
-/
namespace Directory

namespace Session

inductive Request where
  | exchange (op : Operation) (controls : List Control) (timeout : Nat)
  | search (timeout : Nat) (request : SearchRequest) (controls : List Control)
  | abandon (target : MessageId)

namespace Request

def Finding : Request → Type
  | exchange _ _ _ => Message
  | search _ _ _ => SearchResult
  | abandon _ => Unit

def perform : (request : Request) → SessionM request.Finding
  | exchange op controls timeout => Session.exchange op controls timeout
  | search timeout request controls => Session.search timeout request controls
  | abandon target => Session.abandon target

end Request

end Session

open Session

namespace Query

def request? (timeout : Nat) : Query → Option Request
  | add entry => some (.exchange (.addRequest entry) [] timeout)
  | applyChanges dn changes => some (.exchange (.modifyRequest dn changes) [] timeout)
  | delete dn => some (.exchange (.deleteRequest dn) [] timeout)
  | compare dn attr value => some (.exchange (.compareRequest dn attr value) [] timeout)
  | search request controls => some (.search timeout request controls)
  | fetch request cursor =>
    cursor.position.cookie?.map fun cookie => .search timeout (cursor.pageRequest request cookie) []
  | extended name value => some (.exchange (.extendedRequest name value) [] timeout)
  | whoAmI => some (.exchange (.extendedRequest Oid.whoAmI none) [] timeout)
  | cancel target =>
    let value := (Wire.Item.group Wire.Tag.sequence [.number Wire.Tag.integer target]).write
    some (.exchange (.extendedRequest Oid.cancel (some value)) [] timeout)

theorem request?_ne_abandon {query : Query} {timeout : Nat} {target : MessageId} :
    query.request? timeout ≠ some (.abandon target) := by
  cases query <;> simp [request?]

end Query

namespace Client

def name? (text : String) : Option Dn := (Dn.parse text).toOption.filter fun dn => !dn.isRoot

namespace Call

def request? (config : Config) : Call → Option Request
  | bind _ _ => none
  | add dn attributes =>
    (name? dn).bind fun dn => (Query.add ⟨dn, attributes⟩).request? config.operationTimeout
  | applyChanges dn changes =>
    (name? dn).bind fun dn =>
      if changes.isEmpty then none else (Query.applyChanges dn changes).request? config.operationTimeout
  | delete dn => (name? dn).bind fun dn => (Query.delete dn).request? config.operationTimeout
  | compare dn attr value =>
    (name? dn).bind fun dn => (Query.compare dn attr value).request? config.operationTimeout
  | search base scope filter attributes =>
    (searchRequest base scope filter attributes).toOption.bind fun request =>
      (Query.search request []).request? config.operationTimeout
  | searchFor request => (Query.search request []).request? config.operationTimeout
  | fetch timeout request cursor => (Query.fetch request cursor).request? timeout
  | extended name value =>
    if name.isEmpty then none else (Query.extended name value).request? config.operationTimeout
  | whoAmI => Query.whoAmI.request? config.operationTimeout
  | cancel target => (Query.cancel target).request? config.operationTimeout
  | abandon target => some (.abandon target)

theorem eq_abandon {config : Config} {call : Call} {target : MessageId}
    (asked : call.request? config = some (.abandon target)) : call = .abandon target := by
  cases call with
  | bind name password => cases asked
  | abandon other =>
    cases asked
    rfl
  | applyChanges dn changes =>
    obtain ⟨_, _, same⟩ := Option.bind_eq_some_iff.mp asked
    split at same
    · cases same
    · exact absurd same Query.request?_ne_abandon
  | extended name value =>
    dsimp only [request?] at asked
    split at asked
    · cases asked
    · exact absurd asked Query.request?_ne_abandon
  | add | delete | compare | search =>
    obtain ⟨_, _, same⟩ := Option.bind_eq_some_iff.mp asked
    exact absurd same Query.request?_ne_abandon
  | fetch timeout request cursor =>
    have same : (Query.fetch request cursor).request? timeout = some (.abandon target) := asked
    exact absurd same Query.request?_ne_abandon
  | searchFor | whoAmI | cancel => cases asked

end Call

end Client

namespace SessionM

def Steady (action : SessionM α) : Prop := ∃ result, ∀ session : Session, action.run session = (result, session)

def Comes (config : Config) (action : SessionM α) (result : Except Error α) : Prop :=
  ∀ session : Session, session.config = config → action.run session = (result, session)

/-- On sessions of this configuration the action makes this request, if any, and its result is made of what
the request brings. -/
inductive Makes (config : Config) (action : SessionM α) : Option Request → Prop where
  | nothing (result : Except Error α) : action.Comes config result → Makes config action none
  | request (made : Request) (read : made.Finding → Except Error α) :
      (∀ session : Session, session.config = config → action.run session =
        ((made.perform.run session).1 >>= read, (made.perform.run session).2)) →
      Makes config action (some made)

variable {config : Config}

theorem steady_pure (a : α) : (pure a : SessionM α).Steady := ⟨.ok a, fun _ => rfl⟩

theorem steady_throw (error : Error) : (throw error : SessionM α).Steady := ⟨.error error, fun _ => rfl⟩

theorem Steady.bind {action : SessionM α} {next : α → SessionM β} (first : action.Steady)
    (second : ∀ a, (next a).Steady) : (action >>= next).Steady := by
  obtain ⟨result, comes⟩ := first
  cases result with
  | error error =>
    refine ⟨.error error, fun session => ?_⟩
    rw [run_bind, comes]
  | ok a =>
    obtain ⟨later, goes⟩ := second a
    refine ⟨later, fun session => ?_⟩
    rw [run_bind, comes]
    exact goes session

theorem steady_check (outcome : Outcome) : outcome.check.Steady := by
  unfold Outcome.check
  split
  · exact steady_pure ()
  · exact steady_throw _

theorem comes_lift (result : Except Error α) : (liftM result : SessionM α).Comes config result :=
  fun session _ => run_lift result session

theorem comes_throw (error : Error) : (throw error : SessionM α).Comes config (.error error) := fun _ _ => rfl

theorem comes_timeout : Client.timeout.Comes config (.ok config.operationTimeout) := by
  rintro session rfl
  rfl

theorem Comes.bind {action : SessionM α} {next : α → SessionM β} {result : Except Error β} {a : α}
    (first : action.Comes config (.ok a)) (second : (next a).Comes config result) :
    (action >>= next).Comes config result := by
  intro session same
  rw [run_bind, first session same]
  exact second session same

theorem Comes.bind_error {action : SessionM α} {next : α → SessionM β} {error : Error}
    (first : action.Comes config (.error error)) : (action >>= next).Comes config (.error error) := by
  intro session same
  rw [run_bind, first session same]

namespace Makes

theorem before {action : SessionM α} {next : α → SessionM β} {request : Option Request} {a : α}
    (first : action.Comes config (.ok a)) (second : (next a).Makes config request) :
    (action >>= next).Makes config request := by
  cases second with
  | nothing result comes => exact .nothing result (first.bind comes)
  | request made read makes =>
    refine .request made read fun session same => ?_
    rw [run_bind, first session same]
    exact makes session same

theorem refused {action : SessionM α} {next : α → SessionM β} {error : Error}
    (first : action.Comes config (.error error)) : (action >>= next).Makes config none :=
  .nothing _ first.bind_error

theorem after {action : SessionM α} {next : α → SessionM β} {request : Option Request}
    (first : action.Makes config request) (second : ∀ a, (next a).Steady) :
    (action >>= next).Makes config request := by
  cases first with
  | nothing result comes =>
    cases result with
    | error error => exact refused comes
    | ok a =>
      obtain ⟨later, goes⟩ := second a
      exact .nothing later (comes.bind fun session _ => goes session)
  | request made read makes =>
    -- What follows does not look at the session, so its result belongs to the reading of what was found.
    have goes (a : α) := (second a).choose_spec
    refine .request made (fun finding => read finding >>= fun a => (second a).choose) fun session same => ?_
    rw [run_bind, makes session same]
    rcases (made.perform.run session).1 with error | finding
    · rfl
    · dsimp only [bind, Except.bind]
      rcases read finding with error | a
      · rfl
      · exact goes a _

/-- Only the configuration of the session is looked at. -/
theorem onConfig {next : Session → SessionM α} {request : Option Request}
    (same : ∀ one other : Session, one.config = other.config → next one = next other)
    (each : ∀ session : Session, session.config = config → (next session).Makes config request) :
    (get >>= next : SessionM α).Makes config request := by
  have found := each (.ofTransport {} config) rfl
  have goes (session : Session) (known : session.config = config) :
      (get >>= next : SessionM α).run session = (next (.ofTransport {} config)).run session := by
    rw [run_bind, run_get, same (.ofTransport {} config) session known.symm]
  cases found with
  | nothing result comes =>
    exact .nothing result fun session known => (goes session known).trans (comes session known)
  | request made read makes =>
    exact .request made read fun session known => (goes session known).trans (makes session known)

/-- The request itself, and nothing made of what it brings. -/
theorem perform (made : Request) : made.perform.Makes config (some made) := by
  refine .request made .ok fun session _ => ?_
  rcases made.perform.run session with ⟨_ | _, _⟩ <;> rfl

end Makes

end SessionM

open SessionM

namespace Session

variable {config : Config}

theorem makes_exchange (op : Operation) (controls : List Control) (timeout : Nat) :
    (exchange op controls timeout).Makes config (some (.exchange op controls timeout)) :=
  .perform (.exchange op controls timeout)

theorem makes_search (timeout : Nat) (request : SearchRequest) (controls : List Control) :
    (search timeout request controls).Makes config (some (.search timeout request controls)) :=
  .perform (.search timeout request controls)

def bindRequest (config : Config) (name : String) (credentials : Credentials) : Request :=
  .exchange (.bindRequest config.protocolVersion name credentials) [] config.operationTimeout

theorem makes_requestBind (name : String) (credentials : Credentials) :
    (requestBind name credentials).Makes config (some (bindRequest config name credentials)) := by
  apply Makes.onConfig
  · intro one other same
    rw [same]
  · rintro session rfl
    apply (makes_exchange _ _ _).after
    intro message
    split
    · exact steady_pure _
    · exact steady_throw _

theorem makes_add (timeout : Nat) (entry : Entry) :
    (add timeout entry).Makes config (some (.exchange (.addRequest entry) [] timeout)) := by
  apply (makes_exchange _ _ _).after
  intro message
  split
  · exact steady_check _
  · exact steady_throw _

theorem makes_applyChanges (timeout : Nat) (dn : Dn) (changes : List Modification) :
    (applyChanges timeout dn changes).Makes config
      (some (.exchange (.modifyRequest dn changes) [] timeout)) := by
  apply (makes_exchange _ _ _).after
  intro message
  split
  · exact steady_check _
  · exact steady_throw _

theorem makes_delete (timeout : Nat) (dn : Dn) :
    (delete timeout dn).Makes config (some (.exchange (.deleteRequest dn) [] timeout)) := by
  apply (makes_exchange _ _ _).after
  intro message
  split
  · exact steady_check _
  · exact steady_throw _

theorem makes_compare (timeout : Nat) (dn : Dn) (attr : String) (value : Octets) :
    (compare timeout dn attr value).Makes config
      (some (.exchange (.compareRequest dn attr value) [] timeout)) := by
  apply (makes_exchange _ _ _).after
  intro message
  split
  · split
    · exact steady_pure true
    · split
      · exact steady_pure false
      · exact steady_throw _
  · exact steady_throw _

theorem makes_extended (timeout : Nat) (name : String) (value : Option Octets) :
    (extended timeout name value).Makes config
      (some (.exchange (.extendedRequest name value) [] timeout)) := by
  apply (makes_exchange _ _ _).after
  intro message
  split
  · apply (steady_check _).bind
    intro _
    exact steady_pure _
  · exact steady_throw _

theorem makes_whoAmI (timeout : Nat) :
    (whoAmI timeout).Makes config (some (.exchange (.extendedRequest Oid.whoAmI none) [] timeout)) := by
  apply (makes_extended timeout Oid.whoAmI none).after
  intro result
  split
  · exact steady_pure _
  · split
    · exact steady_pure _
    · exact steady_throw _

theorem makes_cancel (timeout : Nat) (target : MessageId) :
    (cancel timeout target).Makes config ((Query.cancel target).request? timeout) := by
  apply (makes_exchange _ _ _).after
  intro message
  split
  · split
    · exact steady_pure ()
    · exact steady_throw _
  · exact steady_throw _

end Session

theorem Cursor.makes_fetch {config : Config} (timeout : Nat) (request : SearchRequest) (cursor : Cursor) :
    (cursor.fetch timeout request).Makes config ((Query.fetch request cursor).request? timeout) := by
  unfold fetch Query.request?
  dsimp only
  cases cursor.position.cookie? with
  | none => exact .nothing (.error .cursorExhausted) fun _ _ => rfl
  | some cookie =>
    apply (Session.makes_search _ _ _).after
    intro page
    exact steady_pure _

theorem Query.makes {config : Config} (query : Query) (timeout : Nat) :
    (query.answer timeout).Makes config (query.request? timeout) := by
  cases query with
  | add entry => exact (makes_add timeout entry).after fun _ => steady_pure _
  | applyChanges dn changes => exact (makes_applyChanges timeout dn changes).after fun _ => steady_pure _
  | delete dn => exact (makes_delete timeout dn).after fun _ => steady_pure _
  | compare dn attr value => exact (makes_compare timeout dn attr value).after fun _ => steady_pure _
  | search request controls => exact (makes_search timeout request controls).after fun _ => steady_pure _
  | fetch request cursor => exact (cursor.makes_fetch timeout request).after fun _ => steady_pure _
  | extended name value => exact (makes_extended timeout name value).after fun _ => steady_pure _
  | whoAmI => exact (makes_whoAmI timeout).after fun _ => steady_pure _
  | cancel target => exact (makes_cancel timeout target).after fun _ => steady_pure _

namespace Client

variable {config : Config}

theorem makes_onEntry (text : String) {use : Dn → SessionM α} {request : Dn → Option Request}
    (each : ∀ dn, (use dn).Makes config (request dn)) :
    (do use (← entryName text)).Makes config ((name? text).bind request) := by
  unfold name?
  cases parsed : Dn.parse text with
  | error error =>
    have refused : (entryName text).Comes config (.error error) := by
      rw [entryName, parsed]
      exact (comes_lift (.error error)).bind_error
    exact .refused refused
  | ok dn =>
    by_cases root : dn.isRoot = true
    · have refused : (entryName text).Comes config (.error (.invalidDn "DN must not be empty")) := by
        rw [entryName, parsed]
        apply (comes_lift (.ok dn)).bind
        rw [if_pos root]
        exact (comes_throw _).bind_error
      have none : (some dn).filter (fun dn => !dn.isRoot) = none := by simp [root]
      rw [Except.toOption, none]
      exact .refused refused
    · have named : (entryName text).Comes config (.ok dn) := by
        rw [entryName, parsed]
        apply (comes_lift (.ok dn)).bind
        rw [if_neg root]
        intro session _
        rfl
      have kept : (some dn).filter (fun dn => !dn.isRoot) = some dn := by simp [root]
      rw [Except.toOption, kept]
      exact .before named (each dn)

theorem makes_timed {use : Nat → SessionM α} {request : Option Request}
    (each : (use config.operationTimeout).Makes config request) :
    (do use (← timeout)).Makes config request :=
  .before comes_timeout each

/-- Nothing is asked for before the first entry is. -/
theorem makes_pagedSearch (base : String) (scope : Scope) (filter : String) (attributes : List String)
    (pageSize : UInt32) : (pagedSearch base scope filter attributes pageSize).Makes config none := by
  unfold pagedSearch
  cases Cursor.ofPageSize pageSize with
  | error error => exact .refused (comes_lift (.error error))
  | ok cursor =>
    apply Makes.before (comes_lift (.ok cursor))
    cases searchRequest base scope filter attributes with
    | error error => exact .refused (comes_lift (.error error))
    | ok request =>
      apply Makes.before (comes_lift (.ok request))
      exact makes_timed (.nothing (.ok _) fun _ _ => rfl)

theorem Call.makes {call : Call} (other : ∀ name password, call ≠ .bind name password) :
    call.answer.Makes config (call.request? config) := by
  cases call with
  | bind name password => exact absurd rfl (other name password)
  | add dn attributes =>
    exact (makes_onEntry dn fun dn => makes_timed (makes_add _ ⟨dn, attributes⟩)).after fun _ => steady_pure _
  | applyChanges dn changes =>
    have applied (dn : Dn) : (do Session.applyChanges (← timeout) dn changes).Makes config
        ((Query.applyChanges dn changes).request? config.operationTimeout) :=
      makes_timed (makes_applyChanges _ dn changes)
    refine Makes.after (makes_onEntry dn fun dn => ?_) fun _ => steady_pure _
    split
    · exact .refused (comes_throw _)
    · exact applied dn
  | delete dn =>
    exact (makes_onEntry dn fun dn => makes_timed (makes_delete _ dn)).after fun _ => steady_pure _
  | compare dn attr value =>
    exact (makes_onEntry dn fun dn => makes_timed (makes_compare _ dn attr value)).after fun _ => steady_pure _
  | search base scope filter attributes =>
    refine Makes.after ?_ fun _ => steady_pure _
    unfold Client.search
    dsimp only [request?]
    cases searchRequest base scope filter attributes with
    | error error => exact .refused (comes_lift (.error error))
    | ok request => exact .before (comes_lift (.ok request)) (makes_timed (makes_search _ request []))
  | searchFor request => exact (makes_timed (makes_search _ request [])).after fun _ => steady_pure _
  | fetch timeout request cursor => exact (Query.fetch request cursor).makes timeout
  | extended name value =>
    have asked : (do Session.extended (← timeout) name value).Makes config
        ((Query.extended name value).request? config.operationTimeout) :=
      makes_timed (makes_extended _ name value)
    refine Makes.after ?_ fun _ => steady_pure _
    unfold Client.extended
    dsimp only [request?]
    split
    · exact .refused (comes_throw _)
    · exact asked
  | whoAmI => exact (makes_timed (makes_whoAmI _)).after fun _ => steady_pure _
  | cancel target => exact (makes_timed (makes_cancel _ target)).after fun _ => steady_pure _
  | abandon target => exact (Makes.perform (.abandon target)).after fun _ => steady_pure _

end Client

end Directory
