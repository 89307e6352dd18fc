import Directory.Proofs.Session.Calls
/-!
The end of a session. It comes once and its reason stays; nobody waits after it. A handle that was still
held gives out what had arrived for it, and from then on the reason.
-/
namespace Directory.Session

def Step.Avoids (id : MessageId) : Step → Prop
  | .receive handle => handle.id ≠ id
  | .drop other => other ≠ id
  | _ => True

variable {id : MessageId} {session : Session}

theorem Step.Spares.avoids {first : MessageId} {step : Step} (spares : step.Spares first)
    (older : id < first) : step.Avoids id := by
  cases step with
  | receive handle => exact (UInt32.ne_of_lt (UInt32.lt_of_lt_of_le older spares)).symm
  | drop other => exact (UInt32.ne_of_lt (UInt32.lt_of_lt_of_le older spares)).symm
  | _ => trivial

/-- The waiter of a number stays with all that has arrived for it, and after the end of the session it
stays as it is. -/
structure Retains (id : MessageId) (before after : Session) : Prop where
  evolves : before.Evolves after
  waiter : ∀ waiter, before.waiter? id = some waiter → ∃ later, after.waiter? id = some later ∧
    waiter.inbox <+: later.inbox ∧ (before.IsSound → before.ending.isSome = true → later = waiter)

namespace Retains

theorem of_same {before after : Session} (evolves : before.Evolves after)
    (same : after.waiter? id = before.waiter? id) : Retains id before after := by
  constructor
  · exact evolves
  · intro waiter found
    exact ⟨waiter, same.trans found, List.prefix_refl _, fun _ _ => rfl⟩

theorem refl (session : Session) : Retains id session session := of_same (.refl session) rfl

theorem trans {a b c : Session} (first : Retains id a b) (second : Retains id b c) : Retains id a c := by
  constructor
  · exact first.evolves.trans second.evolves
  · intro waiter found
    obtain ⟨middle, present, arrived, unchanged⟩ := first.waiter waiter found
    obtain ⟨later, kept, more, still⟩ := second.waiter middle present
    refine ⟨later, kept, arrived.trans more, fun sound ended => ?_⟩
    obtain ⟨reason, known⟩ := Option.isSome_iff_exists.mp ended
    have past : b.ending.isSome = true := by rw [first.evolves.lasts reason known]; rfl
    rw [still (first.evolves.sound sound) past, unchanged sound ended]

theorem of_map {before after : Session} {change : Waiter → Waiter} (evolves : before.Evolves after)
    (changed : after.waiter? id = (before.waiter? id).map change)
    (keeps : ∀ waiter : Waiter, waiter.inbox <+: (change waiter).inbox)
    (idle : ∀ waiter : Waiter, waiter.isOpen = false → change waiter = waiter) :
    Retains id before after := by
  constructor
  · exact evolves
  · intro waiter found
    refine ⟨change waiter, by rw [changed, found]; rfl, keeps waiter, fun sound ended => ?_⟩
    exact idle waiter (sound.closed ended waiter (mem_of_waiter? found))

end Retains

theorem close_of_closed {waiter : Waiter} (closed : waiter.isOpen = false) : waiter.close = waiter := by
  cases waiter
  subst closed
  rfl

theorem prefix_inbox_take (message : Message) (waiter : Waiter) :
    waiter.inbox <+: (waiter.take message).inbox := by
  unfold Waiter.take
  split
  · exact List.prefix_append _ _
  · exact List.prefix_refl _

theorem take_of_closed (message : Message) {waiter : Waiter} (closed : waiter.isOpen = false) :
    waiter.take message = waiter := by
  simp [Waiter.take, closed]

theorem Continues.retains {before after : Session} (continues : before.Continues after) :
    Retains id before after := by
  have evolves := continues.evolves
  cases continues with
  | same _ _ _ waiters => exact .of_same evolves (waiter?_congr waiters id)
  | ended _ _ _ _ closed =>
    have shut := (waiter?_congr closed id).trans (waiter?_map_close id)
    exact .of_map evolves shut (fun _ => List.prefix_refl _) fun _ => close_of_closed

theorem retains_route (message : Message) : Retains id session (session.route message) := by
  by_cases mine : id = message.id
  · subst mine
    exact .of_map (evolves_route message) (waiter?_route_self message) (prefix_inbox_take message)
      fun _ => take_of_closed message
  · exact .of_same (evolves_route message) (waiter?_route_ne mine)

theorem retains_forget (target : MessageId) : Retains id session (session.forget target) := by
  by_cases mine : id = target
  · subst mine
    exact .of_map (evolves_forget id) waiter?_forget_self (fun _ => List.prefix_refl _)
      fun _ => close_of_closed
  · exact .of_same (evolves_forget target) (waiter?_forget_ne mine)

theorem retains_dropHandle {other : MessageId} (different : other ≠ id) :
    Retains id session (session.dropHandle other) :=
  .of_same (evolves_dropHandle other) (waiter?_dropHandle_ne different.symm)

theorem retains_takeIn (session : Session) : Retains id session session.takeIn := by
  fun_induction takeIn session with
  | case1 session _ message transport _ ih =>
    have taken : session.Continues { session with transport } := continues_transport transport
    exact taken.retains.trans ((retains_route message).trans ih)
  | case2 session _ reason transport _ =>
    have taken : session.Continues { session with transport } := continues_transport transport
    exact (taken.trans (continues_stop reason)).retains
  | case3 => exact .refl _
  | case4 => exact .refl _

theorem Posts.retains {op : Operation} {controls : List Control} {timeout : Nat}
    {result : Except Error Handle} {after : Session} (issued : id < session.nextId)
    (posted : session.Posts op controls timeout result after) : Retains id session after := by
  have other : id ≠ session.nextId := UInt32.ne_of_lt issued
  have opened (live : session.phase.isLive = true) (left : session.nextId ≤ Message.maxId) :
      Retains id session session.opened :=
    .of_same (evolves_opened live left) (waiter?_register_ne other)
  cases posted with
  | refused _ _ refused => exact refused.continues.retains
  | exhausted => exact .refl _
  | failed _ sent live left sends =>
    exact (opened live left).trans (sends.continues.retains.trans (retains_dropHandle other.symm))
  | posted _ live left sends => exact (opened live left).trans sends.continues.retains

theorem GivesUp.retains {target : MessageId} {result : Except Error Unit} {after : Session}
    (given : session.GivesUp target result after) : Retains id session after := by
  rcases given.continues with ⟨_, refused⟩ | ⟨_, forgotten⟩
  · exact refused.retains
  · exact (retains_forget target).trans forgotten.retains

theorem Receives.retains {handle : Handle} {result : Except Error Message} {after : Session}
    (different : handle.id ≠ id) (received : session.Receives handle result after) :
    Retains id session after := by
  have evolves := received.evolves
  cases received with
  | message => exact .of_same evolves (waiter?_updateWaiter_ne different.symm fun _ => rfl)
  | timedOut => exact retains_forget handle.id
  | spent => exact .refl _

theorem Step.retains {step : Step} (avoids : step.Avoids id) (issued : id < session.nextId) :
    Retains id session (step.perform session) := by
  cases step with
  | arrive actions => exact (continues_transport _).retains
  | takeIn => exact retains_takeIn session
  | number => exact continues_number.retains
  | post op controls timeout => exact (post_cases session op controls timeout).retains issued
  | receive handle => exact (receive_cases session handle).retains avoids
  | drop other => exact retains_dropHandle avoids
  | giveUp target => exact (giveUp_cases session target).retains
  | settle name outcome => exact (continues_settle name outcome).retains
  | secure upgrade => exact (startSecurity_cases session upgrade).continues.retains
  | close => exact continues_close.retains

theorem run_retains {steps : List Step} (avoid : ∀ step ∈ steps, step.Avoids id)
    (issued : id < session.nextId) : Retains id session (run steps session) := by
  induction steps generalizing session with
  | nil => exact .refl session
  | cons step rest ih =>
    have first := Step.retains (avoid step List.mem_cons_self) issued
    have later := ih (fun next member => avoid next (List.mem_cons_of_mem step member))
      (UInt32.lt_of_lt_of_le issued first.evolves.numbers)
    exact first.trans later

theorem Leads.retains {later : Session} (leads : session.Leads later) (issued : id < session.nextId) :
    Retains id session later := by
  obtain ⟨steps, rfl, spare⟩ := leads
  exact run_retains (fun step member => (spare step member).avoids issued) issued

theorem issued_of_waiter? (sound : session.IsSound) {waiter : Waiter}
    (found : session.waiter? id = some waiter) : id < session.nextId := by
  rw [← id_of_waiter? found]
  exact sound.numbered waiter (mem_of_waiter? found)

def Act.answer? (id : MessageId) (session : Session) : Act → Option (Except Error Message)
  | step (.receive handle) => if handle.id = id then some ((Session.receive handle).run session).1 else none
  | _ => none

def answers (id : MessageId) : List Act → Session → List (Except Error Message)
  | [], _ => []
  | act :: rest, session => (act.answer? id session).toList ++ answers id rest (act.perform session)

theorem Act.retains {act : Act} (issued : id < session.nextId) (kept : act ≠ .step (.drop id))
    (silent : act.answer? id session = none) : Retains id session (act.perform session) := by
  cases act with
  | step taken =>
    apply Step.retains _ issued
    cases taken with
    | receive handle =>
      intro mine
      simp [answer?, mine] at silent
    | drop other =>
      rintro rfl
      exact kept rfl
    | _ => trivial
  | _ => exact (Act.leads fun _ same => by cases same).retains issued

theorem exists_receive_of_answer? {act : Act} {answer : Except Error Message}
    (told : act.answer? id session = some answer) :
    ∃ timeout, act = .step (.receive ⟨id, timeout⟩) ∧
      answer = ((receive ⟨id, timeout⟩).run session).1 := by
  cases act with
  | step taken =>
    cases taken with
    | receive handle =>
      obtain ⟨other, timeout⟩ := handle
      by_cases mine : other = id
      · subst mine
        simp only [Act.answer?, if_pos, Option.some.injEq] at told
        exact ⟨timeout, rfl, told.symm⟩
      · simp [Act.answer?, mine] at told
    | _ => cases told
  | _ => cases told

theorem Receives.waiter {timeout : Nat} {result : Except Error Message} {after : Session} {waiter : Waiter}
    (received : session.Receives ⟨id, timeout⟩ result after) (found : session.waiter? id = some waiter) :
    ∃ later, after.waiter? id = some later := by
  cases received with
  | message _ _ rest => exact ⟨_, waiter?_read found rest⟩
  | timedOut =>
    have closed : (session.forget id).waiter? id = some waiter.close := by
      rw [waiter?_forget_self, found, Option.map_some]
    exact ⟨_, closed⟩
  | spent => exact ⟨waiter, found⟩

theorem enact_held {acts : List Act} (sound : session.IsSound) {waiter : Waiter}
    (found : session.waiter? id = some waiter) (kept : .step (.drop id) ∉ acts) :
    ∃ later, (enact acts session).waiter? id = some later := by
  induction acts generalizing session waiter with
  | nil => exact ⟨waiter, found⟩
  | cons act rest ih =>
    rw [List.mem_cons, not_or] at kept
    obtain ⟨undropped, others⟩ := kept
    have still : ∃ later, (act.perform session).waiter? id = some later := by
      cases told : act.answer? id session with
      | none =>
        have retains := Act.retains (issued_of_waiter? sound found) (Ne.symm undropped) told
        obtain ⟨later, present, _⟩ := retains.waiter waiter found
        exact ⟨later, present⟩
      | some answer =>
        obtain ⟨timeout, rfl, _⟩ := exists_receive_of_answer? told
        exact (receive_cases session ⟨id, timeout⟩).waiter found
    obtain ⟨later, present⟩ := still
    exact ih ((act.evolves session).sound sound) present others

theorem Receives.ended {timeout : Nat} {result : Except Error Message} {after : Session} {waiter : Waiter}
    {reason : Termination} (received : session.Receives ⟨id, timeout⟩ result after)
    (found : session.waiter? id = some waiter) (closed : waiter.isOpen = false)
    (ended : session.ending = some reason) :
    (∃ message rest, waiter.inbox = message :: rest ∧ result = .ok message ∧
        after.waiter? id = some { waiter with inbox := rest }) ∨
      waiter.inbox = [] ∧ result = .error reason.toError ∧ after.waiter? id = some waiter := by
  cases received with
  | message message other rest present first =>
    obtain rfl : waiter = other := Option.some.inj (found.symm.trans present)
    exact .inl ⟨message, rest, first, rfl, waiter?_read found rest⟩
  | timedOut other present _ open_ =>
    obtain rfl : waiter = other := Option.some.inj (found.symm.trans present)
    rw [closed] at open_
    cases open_
  | spent empty =>
    have word : session.lastWord id = reason.toError := by rw [lastWord, ended]
    exact .inr ⟨(empty waiter found).1, by rw [word], found⟩

/-- After the end a handle gives out what lies in its inbox, and then the reason for ever. -/
theorem answers_ended {acts : List Act} (sound : session.IsSound) {waiter : Waiter}
    {reason : Termination} (ended : session.ending = some reason)
    (found : session.waiter? id = some waiter) (kept : .step (.drop id) ∉ acts) :
    answers id acts session <+:
      waiter.inbox.map .ok ++ List.replicate acts.length (.error reason.toError) := by
  induction acts generalizing session waiter with
  | nil => exact List.nil_prefix
  | cons act rest ih =>
    rw [List.mem_cons, not_or] at kept
    obtain ⟨undropped, others⟩ := kept
    have past : session.ending.isSome = true := by rw [ended]; rfl
    have closed := sound.closed past waiter (mem_of_waiter? found)
    have evolves := act.evolves session
    have still := evolves.lasts reason ended
    have more (inbox : List Message) :
        inbox.map Except.ok ++ List.replicate rest.length (.error reason.toError) <+:
          inbox.map Except.ok ++ List.replicate (rest.length + 1) (.error reason.toError) := by
      rw [List.prefix_append_right_inj, List.replicate_succ']
      exact List.prefix_append _ _
    rw [answers, List.length_cons]
    cases told : act.answer? id session with
    | none =>
      have retains := Act.retains (issued_of_waiter? sound found) (Ne.symm undropped) told
      obtain ⟨later, present, _, unchanged⟩ := retains.waiter waiter found
      -- The waiter is closed, so that nothing but the handle itself changes it.
      rw [unchanged sound past] at present
      exact (ih (evolves.sound sound) still present others).trans (more _)
    | some answer =>
      obtain ⟨timeout, rfl, rfl⟩ := exists_receive_of_answer? told
      have received := (receive_cases session ⟨id, timeout⟩).ended found closed ended
      rcases received with ⟨message, inbox, first, result, present⟩ | ⟨empty, result, present⟩
      -- One message fewer is left for the acts to come, or none was left and none will be.
      · rw [result, first, List.map_cons, List.cons_append, Option.toList_some, List.singleton_append,
          List.cons_prefix_cons]
        exact ⟨rfl, (ih (evolves.sound sound) still present others).trans (more _)⟩
      · have later := ih (evolves.sound sound) still present others
        rw [empty] at later ⊢
        rw [result, List.replicate_succ, Option.toList_some, List.singleton_append, List.map_nil,
          List.nil_append, List.cons_prefix_cons]
        exact ⟨rfl, later⟩

theorem IsSound.pendingCount (sound : session.IsSound) (ended : session.ending.isSome = true) :
    session.pendingCount = 0 := by
  rw [Session.pendingCount, List.countP_eq_zero]
  intro waiter member
  simp [sound.closed ended waiter member]

/-- The end of a session comes once, with its reason, and for good. Nobody waits any longer, and a session
that was never connected comes to nothing else. A handle stays with all that has arrived for it, and after
the end it gives that out, then the reason, and never says that it waited in vain. -/
theorem ended_for_good {start session : Session} (new : start.IsNew) (acts : List Act)
    (reached : enact acts start = session) :
    (session.phase = .unbound ↔ session.ending.isSome = true) ∧
      (session.phase = .unbound → session.pendingCount = 0) ∧
      (start.phase = .idle → session.phase = .idle ∨ session.phase = .unbound) ∧
      (∀ reason, session.ending = some reason → ∀ later,
        (enact later session).phase = .unbound ∧ (enact later session).ending = some reason) ∧
      (∀ id waiter, session.waiter? id = some waiter →
        (∀ act : Act, act ≠ .step (.drop id) → act.answer? id session = none →
          ∃ after, (act.perform session).waiter? id = some after ∧ waiter.inbox <+: after.inbox) ∧
        ∀ later : List Act, .step (.drop id) ∉ later →
          (∃ after, (enact later session).waiter? id = some after) ∧
          ∀ reason, session.ending = some reason →
            answers id later session <+:
              waiter.inbox.map .ok ++ List.replicate later.length (.error reason.toError) ∧
            ∀ milliseconds, .error (.timeout milliseconds) ∉ answers id later session) := by
  have evolves := enact_evolves acts start
  rw [reached] at evolves
  have sound := evolves.sound new.isSound
  refine ⟨sound.unbound_iff, ?_, evolves.idle, ?_, ?_⟩
  · intro past
    exact sound.pendingCount (sound.unbound_iff.mp past)
  · intro reason ended later
    have lasts := enact_evolves later session
    have past : session.ending.isSome = true := by rw [ended]; rfl
    exact ⟨lasts.unbound (sound.unbound_iff.mpr past), lasts.lasts reason ended⟩
  · intro id waiter found
    constructor
    · intro act undropped silent
      have retains := Act.retains (issued_of_waiter? sound found) undropped silent
      obtain ⟨after, present, more, _⟩ := retains.waiter waiter found
      exact ⟨after, present, more⟩
    · intro later kept
      constructor
      · exact enact_held sound found kept
      · intro reason ended
        have told := answers_ended sound ended found kept
        refine ⟨told, fun milliseconds member => ?_⟩
        rcases List.mem_append.mp (told.subset member) with queued | final
        · obtain ⟨_, _, same⟩ := List.mem_map.mp queued
          cases same
        · have same := (List.mem_replicate.mp final).2
          rw [Except.error.injEq] at same
          exact toError_ne_timeout reason milliseconds same.symm

def cutShort : List Act :=
  [.step (.post (.deleteRequest .root) [] 10), .step (.post (.deleteRequest .root) [] 10),
    .step (.arrive [.message (some 1) (.deleteResponse ⟨.success, "", "", []⟩) [], .close]),
    .step .takeIn]

theorem answers_cutShort :
    (establish {} {}).IsNew ∧ answers 1 [.step (.receive ⟨1, 10⟩), .step .close, .step (.receive ⟨1, 10⟩)]
        (enact cutShort (establish {} {})) <+:
      [.ok ⟨1, .deleteResponse ⟨.success, "", "", []⟩, []⟩] ++
        List.replicate 3 (.error (.connection "connection to server closed")) := by
  have new : (establish {} {}).IsNew := ⟨{}, {}, .inr rfl⟩
  have ended : (enact cutShort (establish {} {})).ending = some (.lost "connection to server closed") := by
    decide +kernel
  have found : (enact cutShort (establish {} {})).waiter? 1 =
      some ⟨1, [⟨1, .deleteResponse ⟨.success, "", "", []⟩, []⟩], false⟩ := by
    decide +kernel
  have lasting := ended_for_good new cutShort rfl
  have told := (lasting.2.2.2.2 1 _ found).2 [.step (.receive ⟨1, 10⟩), .step .close, .step (.receive ⟨1, 10⟩)]
    (by simp)
  exact ⟨new, (told.2 _ ended).1⟩

end Directory.Session
