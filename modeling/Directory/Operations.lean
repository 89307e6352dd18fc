import Directory.Session.Progress
/-! Operations of a directory: each is one request on a session, and its answer tells whether it was done.
Every operation takes its timeout in milliseconds. -/
namespace Directory

structure ExtendedResult where
  outcome : Outcome
  name : Option String
  value : Option Octets
  deriving DecidableEq, Repr

namespace Outcome

def check (outcome : Outcome) : SessionM Unit :=
  if outcome.code.isSuccess then return else throw (Error.ofOutcome outcome)

/-- A search that was cut short by a limit still has a result. -/
def endsSearch (outcome : Outcome) : Bool :=
  outcome.code.isSuccess || outcome.code == .sizeLimitExceeded || outcome.code == .timeLimitExceeded

end Outcome

namespace Session

def add (timeout : Nat) (entry : Entry) : SessionM Unit := do
  match (← exchange (.addRequest entry) [] timeout).op with
  | .addResponse outcome => outcome.check
  | op => throw (op.unexpected .addResponse)

def applyChanges (timeout : Nat) (dn : Dn) (changes : List Modification) : SessionM Unit := do
  match (← exchange (.modifyRequest dn changes) [] timeout).op with
  | .modifyResponse outcome => outcome.check
  | op => throw (op.unexpected .modifyResponse)

def delete (timeout : Nat) (dn : Dn) : SessionM Unit := do
  match (← exchange (.deleteRequest dn) [] timeout).op with
  | .deleteResponse outcome => outcome.check
  | op => throw (op.unexpected .deleteResponse)

def compare (timeout : Nat) (dn : Dn) (attr : String) (value : Octets) : SessionM Bool := do
  match (← exchange (.compareRequest dn attr value) [] timeout).op with
  | .compareResponse outcome =>
    if outcome.code = .compareTrue then return true
    else if outcome.code = .compareFalse then return false
    else throw (Error.ofOutcome outcome)
  | op => throw (op.unexpected .compareResponse)

def extended (timeout : Nat) (name : String) (value : Option Octets) : SessionM ExtendedResult := do
  match (← exchange (.extendedRequest name value) [] timeout).op with
  | .extendedResponse outcome name value => do
    outcome.check
    return ⟨outcome, name, value⟩
  | op => throw (op.unexpected .extendedResponse)

def whoAmI (timeout : Nat) : SessionM String := do
  match (← extended timeout Oid.whoAmI none).value with
  | none => return ""
  | some value =>
    match Octets.text? value with
    | some identity => return identity
    | none => throw (.malformed "authorization identity is not UTF-8")

/-- Ask the server to give a request up. It answers both that request and this one. -/
def cancel (timeout : Nat) (target : MessageId) : SessionM Unit := do
  let value := (Wire.Item.group Wire.Tag.sequence [.number Wire.Tag.integer target]).write
  match (← exchange (.extendedRequest Oid.cancel (some value)) [] timeout).op with
  | .extendedResponse outcome _ _ =>
    if outcome.code = .canceled ∨ outcome.code.isSuccess then return
    else throw (Error.ofOutcome outcome)
  | op => throw (op.unexpected .extendedResponse)

def gather (handle : Handle) : SessionM SearchResult := fun session =>
  match _received : (receive handle).run session with
  | (.error error, after) => (.error error, after)
  | (.ok message, after) =>
    match message.op with
    | .searchEntry entry =>
      let (result, last) := gather handle after
      (result.map fun found => { found with entries := entry :: found.entries }, last)
    | .searchReference urls =>
      let (result, last) := gather handle after
      (result.map fun found => { found with referrals := urls ++ found.referrals }, last)
    | .searchDone outcome paging =>
      if outcome.endsSearch then
        (.ok ⟨[], [], outcome, (paging.map Paging.cookie).getD []⟩, after)
      else (.error (Error.ofOutcome outcome), after)
    | op => (.error (op.unexpected .searchDone), after)
termination_by session => (session.inbox handle.id).length
decreasing_by
  all_goals
    rw [(receive_ok _received).1]
    exact Nat.lt_succ_self _

def search (timeout : Nat) (request : SearchRequest) (controls : List Control := []) :
    SessionM SearchResult := do
  let handle ← submit (.searchRequest request) controls timeout
  releasing handle (gather handle)

theorem receive_transport (handle : Handle) (session : Session) :
    ((receive handle).run session).2.transport = session.transport := by
  dsimp only [receive, SessionM.run]
  split
  · rfl
  · rfl
  · split <;> rfl

theorem gather_transport (handle : Handle) (session : Session) :
    ((gather handle).run session).2.transport = session.transport := by
  have received := receive_transport handle session
  change (gather handle session).2.transport = _
  fun_induction gather handle session with
  | case1 => simp_all
  | case2 _ _ _ found _ _ _ _ rest ih =>
    rw [found] at received
    rw [rest] at ih
    exact (ih (receive_transport ..)).trans received
  | case3 _ _ _ found _ _ _ _ rest ih =>
    rw [found] at received
    rw [rest] at ih
    exact (ih (receive_transport ..)).trans received
  | case4 => simp_all
  | case5 => simp_all
  | case6 => simp_all

theorem gather_ok {handle : Handle} {session after : Session} {result : SearchResult}
    (h : (gather handle).run session = (.ok result, after)) : session.inbox handle.id ≠ [] := by
  change gather handle session = _ at h
  unfold gather at h
  split at h
  · cases h
  · next received => simp [(receive_ok received).1]

theorem search_advances {timeout : Nat} {request : SearchRequest} {controls : List Control}
    {session after : Session} {result : SearchResult}
    (h : (search timeout request controls).run session = (.ok result, after)) :
    session.Advances after := by
  rw [search, SessionM.run_bind] at h
  split at h
  · next handle submitted sent =>
    simp only [releasing_run, Prod.mk.injEq] at h
    refine (submit_advances sent (gather_ok (Prod.ext h.1 rfl))).of_transport_eq ?_
    rw [← h.2]
    exact gather_transport handle submitted
  · cases h

end Session

end Directory
