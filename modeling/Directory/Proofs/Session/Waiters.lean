import Directory.Session.Request
/-!
What each small change of a session means for the waiter of a number. Everything that is said about
answers is said through `waiter?`; the list of waiters itself is not looked at again.
-/
namespace Directory.Session

variable {session : Session} {id other : MessageId}

theorem waiter?_congr {left right : Session} (same : left.waiters = right.waiters) (id : MessageId) :
    left.waiter? id = right.waiter? id := by
  rw [waiter?, waiter?, same]

theorem id_of_waiter? {waiter : Waiter} (found : session.waiter? id = some waiter) : waiter.id = id := by
  simpa using List.find?_some found

theorem mem_of_waiter? {waiter : Waiter} (found : session.waiter? id = some waiter) :
    waiter ∈ session.waiters :=
  List.mem_of_find?_eq_some found

theorem waiter?_updateWaiter_self {change : Waiter → Waiter}
    (keeps : ∀ waiter, (change waiter).id = waiter.id) :
    (session.updateWaiter id change).waiter? id = (session.waiter? id).map change := by
  rw [waiter?_updateWaiter session id id change keeps]
  cases found : session.waiter? id with
  | none => rfl
  | some waiter => simp [id_of_waiter? found]

theorem waiter?_updateWaiter_ne {change : Waiter → Waiter} (different : other ≠ id)
    (keeps : ∀ waiter, (change waiter).id = waiter.id) :
    (session.updateWaiter id change).waiter? other = session.waiter? other := by
  rw [waiter?_updateWaiter session id other change keeps]
  cases found : session.waiter? other with
  | none => rfl
  | some waiter => simp [id_of_waiter? found, different]

theorem waiter?_read {waiter : Waiter} (found : session.waiter? id = some waiter) (rest : List Message) :
    (session.updateWaiter id fun waiter => { waiter with inbox := rest }).waiter? id =
      some { waiter with inbox := rest } := by
  have updated : (session.updateWaiter id fun waiter => { waiter with inbox := rest }).waiter? id =
      (session.waiter? id).map fun waiter => { waiter with inbox := rest } :=
    waiter?_updateWaiter_self fun _ => rfl
  rw [updated, found, Option.map_some]

theorem id_take (message : Message) (waiter : Waiter) : (waiter.take message).id = waiter.id := by
  unfold Waiter.take
  split <;> rfl

theorem waiter?_route_self (message : Message) :
    (session.route message).waiter? message.id =
      (session.waiter? message.id).map (Waiter.take message) :=
  waiter?_updateWaiter_self (id_take message)

theorem waiter?_route_ne {message : Message} (different : id ≠ message.id) :
    (session.route message).waiter? id = session.waiter? id :=
  waiter?_updateWaiter_ne different (id_take message)

theorem waiter?_forget_self : (session.forget id).waiter? id = (session.waiter? id).map Waiter.close :=
  waiter?_updateWaiter_self fun _ => rfl

theorem waiter?_forget_ne (different : other ≠ id) :
    (session.forget id).waiter? other = session.waiter? other :=
  waiter?_updateWaiter_ne different fun _ => rfl

theorem waiter?_dropHandle_self : (session.dropHandle id).waiter? id = none := by
  simp [waiter?, dropHandle]

theorem waiter?_dropHandle_ne (different : other ≠ id) :
    (session.dropHandle id).waiter? other = session.waiter? other := by
  rw [waiter?, waiter?, dropHandle, List.find?_filter]
  congr
  funext waiter
  by_cases same : waiter.id = other <;> simp_all

theorem waiter?_register_self : (session.register id).waiter? id = some ⟨id, [], true⟩ := by
  have nothing : (session.dropHandle id).waiters.find? (fun waiter => waiter.id == id) = none :=
    waiter?_dropHandle_self
  simp [waiter?, register, List.find?_append, nothing]

theorem waiter?_register_ne (different : other ≠ id) :
    (session.register id).waiter? other = session.waiter? other := by
  have last : ([⟨id, [], true⟩] : List Waiter).find? (fun waiter => waiter.id == other) = none := by
    simp [Ne.symm different]
  have before : (session.dropHandle id).waiters.find? (fun waiter => waiter.id == other) =
      session.waiter? other := waiter?_dropHandle_ne different
  rw [waiter?, register, List.find?_append, last, Option.or_none, before]

theorem waiter?_map_close (id : MessageId) :
    { session with waiters := session.waiters.map Waiter.close }.waiter? id =
      (session.waiter? id).map Waiter.close := by
  simp only [waiter?, List.find?_map]
  rfl

end Directory.Session
