import Directory.Session.Request
/-! Every request that is answered takes something away from what the server has yet to say, so that a run
of answered requests comes to an end. -/
namespace Directory.Session

/-- Less is left of the server's script, or of what it has sent while the script is the same. -/
def Advances (before after : Session) : Prop :=
  after.transport.script.length < before.transport.script.length ∨
    after.transport.script.length = before.transport.script.length ∧
      after.transport.incoming.length < before.transport.incoming.length

theorem Advances.trans {a b c : Session} (first : a.Advances b) (second : b.Advances c) :
    a.Advances c := by
  unfold Advances at first second ⊢
  omega

def toCome (session : Session) : Nat × Nat :=
  (session.transport.script.length, session.transport.incoming.length)

theorem Advances.lex {before after : Session} (h : before.Advances after) :
    Prod.Lex (· < ·) (· < ·) after.toCome before.toCome := by
  unfold toCome
  rcases h with shorter | ⟨same, shorter⟩
  · exact .left _ _ shorter
  · rw [same]
    exact .right _ shorter

theorem Advances.of_transport_eq {before after later : Session} (h : before.Advances after)
    (same : later.transport = after.transport) : before.Advances later := by
  unfold Advances at h ⊢
  rwa [same]

theorem checkOperational_ok {session after : Session}
    (h : checkOperational.run session = (.ok (), after)) : after = session := by
  dsimp only [checkOperational, SessionM.run] at h
  split at h <;> cases h <;> rfl

theorem nextRequestId_ok {session after : Session} {id : MessageId}
    (h : nextRequestId.run session = (.ok id, after)) :
    id = session.nextId ∧ after = { session with nextId := session.nextId + 1 } := by
  dsimp only [nextRequestId, SessionM.run] at h
  split at h <;> cases h
  exact ⟨rfl, rfl⟩

theorem startReceiver_ok {session after : Session}
    (h : startReceiver.run session = (.ok (), after)) :
    ∃ receiver, after = { session with receiver } := by
  dsimp only [startReceiver, SessionM.run] at h
  split at h <;> cases h <;> exact ⟨_, rfl⟩

/-- A frame that was written went to the transport as it was. -/
theorem send_ok {message : Message} {session after : Session}
    (h : (send message).run session = (.ok (), after)) :
    ∃ transport receiver, session.transport.send message.encode = (.ok (), transport) ∧
      after = { session with transport, receiver, hasCarriedTraffic := true } := by
  simp only [send, SessionM.run_bind, SessionM.run_modify] at h
  split at h
  · next checked =>
    split at h
    · next started =>
      dsimp only [checkTransport, SessionM.run] at checked
      split at checked <;> cases checked
      obtain ⟨receiver, rfl⟩ := startReceiver_ok started
      dsimp only [writeFrame, SessionM.run] at h
      split at h <;> cases h
      next transport sent => exact ⟨transport, receiver, sent, rfl⟩
    · cases h
  · cases h

theorem attending_run {use : SessionM α} {session : Session} :
    (attending use).run session = ((use.run session).1, (use.run session).2.takeIn) := rfl

/-- A request that was written: the frame took its reaction off the script, and the waiter is empty. -/
theorem post_ok {op : Operation} {controls : List Control} {timeout : Nat} {session after : Session}
    {handle : Handle} (h : (post op controls timeout).run session = (.ok handle, after)) :
    after.transport.script = session.transport.script.tail ∧
      (session.transport.script = [] → after.transport.incoming = session.transport.incoming) ∧
      after.inbox handle.id = [] := by
  simp only [post, SessionM.run_bind, SessionM.run_modify] at h
  split at h
  · next checked =>
    obtain rfl := checkOperational_ok checked
    split at h
    · next id numbered counted =>
      obtain ⟨rfl, rfl⟩ := nextRequestId_ok counted
      dsimp only [SessionM.run] at h
      split at h <;> cases h
      next sent =>
      obtain ⟨transport, receiver, written, rfl⟩ := send_ok sent
      obtain ⟨script, incoming⟩ := Transport.send_ok written
      exact ⟨script, incoming, inbox_register _ _⟩
    · cases h
  · cases h

/-- A request that was sent: it was written, and what arrived was taken in. -/
theorem submit_ok {op : Operation} {controls : List Control} {timeout : Nat} {session after : Session}
    {handle : Handle} (h : (submit op controls timeout).run session = (.ok handle, after)) :
    ∃ sent : Session, after = sent.takeIn ∧
      sent.transport.script = session.transport.script.tail ∧
      (session.transport.script = [] → sent.transport.incoming = session.transport.incoming) ∧
      sent.inbox handle.id = [] := by
  rw [submit, attending_run, Prod.mk.injEq] at h
  exact ⟨_, h.2.symm, post_ok (Prod.ext h.1 rfl)⟩

theorem receive_ok {handle : Handle} {session after : Session} {message : Message}
    (h : (receive handle).run session = (.ok message, after)) :
    session.inbox handle.id = message :: after.inbox handle.id ∧
      after.transport = session.transport := by
  dsimp only [receive, SessionM.run] at h
  split at h
  · next id message rest _ found =>
    cases h
    obtain rfl : id = handle.id := by simpa using List.find?_some found
    have later := waiter?_updateWaiter session handle.id handle.id
      (fun waiter => { waiter with inbox := rest }) fun _ => rfl
    exact ⟨by simp [inbox, later, found], rfl⟩
  · cases h
  · split at h <;> cases h

theorem releasing_run {handle : Handle} {use : SessionM α} {session : Session} :
    (releasing handle use).run session =
      ((use.run session).1, (use.run session).2.dropHandle handle.id) := rfl

/-- What arrives for a request that was just sent takes something away from what is to come. -/
theorem submit_advances {op : Operation} {controls : List Control} {timeout : Nat}
    {session after : Session} {handle : Handle}
    (sent : (submit op controls timeout).run session = (.ok handle, after))
    (arrived : after.inbox handle.id ≠ []) : session.Advances after := by
  obtain ⟨middle, rfl, script, incoming, nothing⟩ := submit_ok sent
  unfold Advances
  rw [script_takeIn, script]
  cases left : session.transport.script with
  | cons _ rest => simp
  | nil =>
    right
    rw [← incoming left]
    refine ⟨rfl, (inbox_takeIn middle handle.id).resolve_left fun same => arrived ?_⟩
    rw [same, nothing]

theorem exchange_advances {op : Operation} {controls : List Control} {timeout : Nat}
    {session after : Session} {message : Message}
    (h : (exchange op controls timeout).run session = (.ok message, after)) :
    session.Advances after := by
  unfold exchange at h
  rw [SessionM.run_bind] at h
  split at h
  · next handle submitted sent =>
    simp only [releasing_run, Prod.mk.injEq] at h
    obtain ⟨arrived, same⟩ := receive_ok (Prod.ext h.1 rfl)
    refine (submit_advances sent (by simp [arrived])).of_transport_eq ?_
    rw [← h.2]
    exact same
  · cases h

end Directory.Session
