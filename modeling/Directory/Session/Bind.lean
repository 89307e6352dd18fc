import Directory.Session.Progress
/-! Binding: the client says who it is and proves it, at once or in rounds. -/
namespace Directory

/-- One way to prove who is asking. The answers depend on all challenges so far, the latest at the end. -/
structure Mechanism where
  name : String
  initial : Except Error (Option Octets)
  answer : List Octets → Except Error (Option Octets)
  /-- Who the client is once the exchange has succeeded. -/
  identity : List Octets → String

namespace Session

def finishBind (name : String) (outcome : Outcome) : SessionM Unit := do
  if outcome.code.isSuccess then
    if name.isEmpty then modify fun session => { session with identity := none }.enter .connected
    else modify fun session => { session with identity := some name }.enter .bound
  else do
    modify fun session => { session with identity := none }.enter .connected
    throw (.authentication outcome.code outcome.diagnostic)

def requestBind (name : String) (credentials : Credentials) :
    SessionM (Outcome × Option Octets) := do
  let config := (← get).config
  let request := .bindRequest config.protocolVersion name credentials
  match (← exchange request [] config.operationTimeout).op with
  | .bindResponse outcome challenge => return (outcome, challenge)
  | op => throw (op.unexpected .bindResponse)

theorem requestBind_advances {name : String} {credentials : Credentials} {session after : Session}
    {answer : Outcome × Option Octets}
    (h : (requestBind name credentials).run session = (.ok answer, after)) :
    session.Advances after := by
  simp only [requestBind, SessionM.run_bind, SessionM.run_get] at h
  split at h
  · next exchanged =>
    split at h <;> cases h
    exact exchange_advances exchanged
  · cases h

def simpleBind (name password : String) : SessionM Unit := do
  let (outcome, _) ← requestBind name (.simple (Octets.ofText password))
  finishBind name outcome

structure SaslExchange where
  challenges : List Octets
  result : Except Error Unit

/-- The last word of the server. Its success may bring a challenge too; the answer to that is not sent. -/
def finishSasl (mechanism : Mechanism) (challenges : List Octets) (outcome : Outcome)
    (challenge : Option Octets) : StateM Session SaslExchange := fun session =>
  let heard := if outcome.code.isSuccess then challenges ++ challenge.toList else challenges
  let verified :=
    if outcome.code.isSuccess ∧ challenge.isSome then mechanism.answer heard else .ok none
  match verified with
  | .error error => (⟨heard, .error error⟩, session)
  | .ok _ =>
    let (result, after) := (finishBind (mechanism.identity heard) outcome).run session
    (⟨heard, result⟩, after)

def saslRounds (mechanism : Mechanism) (challenges : List Octets) (response : Option Octets) :
    StateM Session SaslExchange := fun session =>
  match _answered : (requestBind "" (.sasl mechanism.name response)).run session with
  | (.error error, after) => (⟨challenges, .error error⟩, after)
  | (.ok (outcome, challenge), after) =>
    if outcome.code = .saslBindInProgress then
      let heard := challenges ++ [challenge.getD []]
      match mechanism.answer heard with
      | .error error => (⟨heard, .error error⟩, after)
      | .ok response => saslRounds mechanism heard response after
    else finishSasl mechanism challenges outcome challenge after
termination_by session => session.toCome
decreasing_by exact (requestBind_advances _answered).lex

def saslBind (mechanism : Mechanism) : StateM Session SaslExchange := fun session =>
  match mechanism.initial with
  | .error error => (⟨[], .error error⟩, session)
  | .ok response => saslRounds mechanism [] response session

end Session

end Directory
