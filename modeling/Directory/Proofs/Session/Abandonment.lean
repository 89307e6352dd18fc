import Directory.Proofs.Session.Pending
/-!
What ends the wait for a request, and what its handle is told afterwards. The wait ends once, by one event: the
final answer, the patience of the caller, the request being given up, or the end of the session. A handle that has
nothing left to return does not tell the first three apart.
-/
namespace Directory

namespace History

variable {id : MessageId} {event : Event} {early late history : History}

theorem since_registered (fresh : .registered id ∉ early) (late : History) :
    since id (early ++ .registered id :: late) = late := by
  induction early with
  | nil => simp [since]
  | cons first rest ih =>
    rw [List.mem_cons, not_or] at fresh
    rw [List.cons_append, since, if_neg (Ne.symm fresh.1), ih fresh.2]

theorem exists_append_since (known : .registered id ∈ history) :
    ∃ early, .registered id ∉ early ∧ history = early ++ .registered id :: history.since id := by
  obtain ⟨early, late, rfl, fresh⟩ := List.eq_append_cons_of_mem known
  exact ⟨early, fresh, by rw [since_registered fresh]⟩

/-- The request was waited for up to this event, which ended the wait. -/
def ClosedBy (id : MessageId) (event : Event) (history : History) : Prop :=
  ∃ early late, history = early ++ event :: late ∧ early.Awaits id ∧ event.closes id = true

theorem ClosedBy.mem (closed : history.ClosedBy id event) : event ∈ history := by
  obtain ⟨early, late, rfl, -⟩ := closed
  simp

theorem ClosedBy.closes (closed : history.ClosedBy id event) : event.closes id = true := by
  obtain ⟨_, _, _, _, closes⟩ := closed
  exact closes

theorem Awaits.not_closes (awaits : (early ++ event :: late).Awaits id) (known : .registered id ∈ early) :
    event.closes id = false := by
  apply (awaits_iff.mp awaits).2
  rw [since_append_of_mem known]
  simp

theorem Awaits.eq_of_longer {other : Event} {between after : History} (awaits : early.Awaits id)
    (closes : event.closes id = true) (still : (early ++ between).Awaits id)
    (rest : event :: late = between ++ other :: after) : event = other := by
  cases between with
  | nil => exact (List.cons.inj rest).1
  | cons first more =>
    obtain ⟨rfl, -⟩ := List.cons.inj rest
    rw [still.not_closes awaits.held.1] at closes
    cases closes

/-- Nothing but one event ends the wait. -/
theorem ClosedBy.unique {other : Event} (closed : history.ClosedBy id event)
    (too : history.ClosedBy id other) : event = other := by
  obtain ⟨early, late, rfl, awaits, closes⟩ := closed
  obtain ⟨before, after, same, waited, ends⟩ := too
  rcases List.append_eq_append_iff.mp same with ⟨between, rfl, rest⟩ | ⟨between, rfl, rest⟩
  · exact awaits.eq_of_longer closes waited rest
  · exact (waited.eq_of_longer ends awaits rest).symm

/-- A request that is held and not waited for was waited for until some event. -/
theorem exists_closedBy (held : history.IsHeld id) (closed : ¬history.Awaits id) :
    ∃ event, history.ClosedBy id event := by
  obtain ⟨before, fresh, whole⟩ := exists_append_since held.1
  cases found : (history.since id).find? (Event.closes id) with
  | none =>
    have open_ : ∀ event ∈ history.since id, event.closes id = false := by simpa using found
    exact absurd (awaits_iff.mpr ⟨held, open_⟩) closed
  | some event =>
    obtain ⟨closes, open_, late, split, unclosed⟩ := List.find?_eq_some_iff_append.mp found
    have later : since id (before ++ .registered id :: open_) = open_ := since_registered fresh open_
    refine ⟨event, before ++ .registered id :: open_, late, ?_, awaits_iff.mpr ⟨⟨by simp, ?_⟩, ?_⟩, closes⟩
    · rw [whole, split]
      simp
    · rw [later]
      intro dropped
      exact held.2 (split ▸ List.mem_append_left _ dropped)
    · rw [later]
      simpa using unclosed

theorem ClosedBy.not_awaits (closed : history.ClosedBy id event) : ¬history.Awaits id := by
  obtain ⟨early, late, rfl, awaits, closes⟩ := closed
  intro still
  rw [still.not_closes awaits.held.1] at closes
  cases closes

/-- Of what is due to the request the last is what closed it, if that was a message. -/
theorem due_of_closes (awaits : early.Awaits id) (closes : event.closes id = true) :
    due id (early ++ event :: late) =
      due id early ++ match event with | .processed message => [message] | _ => [] := by
  have registered : (View.after id early).isRegistered = true :=
    (View.isRegistered_foldl {} early).mpr (.inr awaits.held.1)
  have waiting : (View.after id early).awaits = true :=
    (View.awaits_after id early).mpr ⟨awaits.held.1, (awaits_iff.mp awaits).2⟩
  have still : ((View.after id early).next id event).isRegistered = true :=
    (View.isRegistered_foldl _ [event]).mpr (.inl registered)
  have closed : ((View.after id early).next id event).awaits = false := by
    rw [View.awaits_next registered, closes]
    simp
  rw [← View.due_after, View.after, List.foldl_append, List.foldl_cons]
  change (late.foldl _ ((View.after id early).next id event)).due = _
  rw [View.due_foldl_closed still closed, ← View.due_after]
  cases event with
  | processed message =>
    have mine : message.id = id := by simpa using And.left (Bool.and_eq_true_iff.mp closes)
    simp [View.next, waiting, mine]
  | registered | returned | dropped => cases closes
  | timedOut | abandoned => simp [View.next, apply_ite]
  | ended => simp [View.next]

theorem Awaits.not_final {message : Message} (awaits : history.Awaits id) (member : message ∈ history.due id) :
    message.op.isFinal = false := by
  obtain ⟨mine, processed⟩ := heard_id (mem_of_mem_upToFinal member)
  exact awaits.unanswered message (List.takeWhile_subset _ processed) mine

/-- The final answer is there if it is what ended the wait. -/
theorem ClosedBy.answered_iff (closed : history.ClosedBy id event) :
    (∃ message ∈ history.due id, message.op.isFinal = true) ↔ ∃ message, event = .processed message := by
  obtain ⟨early, late, rfl, awaits, closes⟩ := closed
  rw [due_of_closes awaits closes]
  constructor
  · rintro ⟨message, member, final⟩
    rcases List.mem_append.mp member with before | now
    · rw [awaits.not_final before] at final
      cases final
    · cases event with
      | processed message => exact ⟨message, rfl⟩
      | _ => cases now
  · rintro ⟨message, rfl⟩
    have final : message.op.isFinal = true := And.right (Bool.and_eq_true_iff.mp closes)
    exact ⟨message, by simp, final⟩

end History

namespace Session

variable {start session : Session} {id : MessageId} {steps : List Step}

theorem Step.events_of_mark {step : Step} {mark event : Event} {now later : History}
    (one : step.marks session = [mark]) (lasting : event ≠ .ended)
    (split : step.events session = now ++ event :: later) : now = [] ∧ event = mark := by
  have only : event ∉ session.endings (step.perform session) := by
    unfold endings
    split <;> simp [lasting]
  rw [Step.events, one, List.singleton_append] at split
  cases now with
  | nil => exact ⟨rfl, (List.cons.inj split).1.symm⟩
  | cons first rest =>
    rw [List.cons_append] at split
    have last := (List.cons.inj split).2
    exact absurd (last ▸ List.mem_append_right rest List.mem_cons_self) only

theorem history_of_mark {done : List Step} {step : Step} {mark : Event}
    (one : step.marks (run done start) = [mark]) (rest : List Step) :
    ∃ late, history (done ++ step :: rest) start = history done start ++ mark :: late := by
  rw [history_append, history, Step.events, one]
  exact ⟨_, rfl⟩

theorem Step.isLive_of_registered {step : Step} (member : .registered id ∈ step.events session) :
    session.phase.isLive = true := by
  rw [mem_events (by simp)] at member
  cases step with
  | post op controls timeout =>
    have posted := post_cases session op controls timeout
    simp only [marks] at member
    generalize ((Session.post op controls timeout).run session).1 = result at posted member
    generalize ((Session.post op controls timeout).run session).2 = after at posted
    cases posted with
    | posted _ live => exact live
    | _ => cases member
  | takeIn | receive | giveUp | drop =>
    simp only [marks] at member
    grind
  | _ => cases member

theorem Step.exists_ending_of_ended {step : Step} (member : .ended ∈ step.events session) :
    ∃ reason, (step.perform session).ending = some reason := by
  rcases List.mem_append.mp member with marked | ends
  · cases step with
    | takeIn | post | receive | giveUp | drop =>
      simp only [marks] at marked
      grind
    | _ => cases marked
  · unfold endings at ends
    split at ends
    · next lies => exact Option.ne_none_iff_exists'.mp lies.2
    · cases ends

/-- A session whose history tells of its end has ended. -/
theorem not_mem_history_of_going (going : (run steps session).ending = none) :
    .ended ∉ history steps session := by
  intro member
  obtain ⟨done, step, rest, rfl, ended⟩ := exists_step_of_mem_history member
  obtain ⟨reason, known⟩ := Step.exists_ending_of_ended ended
  rw [run_append] at going
  have lasts := (run_evolves rest _).lasts reason known
  change (run rest _).ending = none at going
  rw [going] at lasts
  cases lasts

theorem Step.isLive_of_abandoned (member : .abandoned id ∈ (giveUp id).events session) :
    session.phase.isLive = true := by
  rw [mem_events (by simp), marks] at member
  split at member
  · next live => exact live
  · cases member

theorem receive_timeout_iff {handle : Handle} {milliseconds : Nat} :
    ((receive handle).run session).1 = .error (.timeout milliseconds) ↔
      milliseconds = handle.timeout ∧
        ∃ waiter, session.waiter? handle.id = some waiter ∧ waiter.inbox = [] ∧ waiter.isOpen = true := by
  have received := receive_cases session handle
  generalize ((receive handle).run session).1 = result at received ⊢
  generalize ((receive handle).run session).2 = after at received
  cases received with
  | message message waiter rest found first => simp [found, first]
  | timedOut waiter found nothing waits =>
    rw [and_iff_left ⟨waiter, found, nothing, waits⟩, Except.error.injEq, Error.timeout.injEq, eq_comm]
  | spent spent =>
    have word := session.lastWord_ne_timeout handle.id milliseconds
    constructor
    · intro same
      exact absurd (Except.error.inj same) word
    · rintro ⟨-, waiter, found, -, waits⟩
      rw [(spent waiter found).2] at waits
      cases waits

theorem receive_abandoned_iff {handle : Handle} :
    ((receive handle).run session).1 = .error (.abandoned handle.id) ↔
      session.ending = none ∧
        ∀ waiter, session.waiter? handle.id = some waiter → waiter.inbox = [] ∧ waiter.isOpen = false := by
  have received := receive_cases session handle
  generalize ((receive handle).run session).1 = result at received ⊢
  generalize ((receive handle).run session).2 = after at received
  cases received with
  | message message waiter rest found first => simp [found, first]
  | timedOut waiter found nothing waits => simp [found, waits]
  | spent spent =>
    rw [and_iff_left spent, lastWord]
    cases session.ending with
    | none => simp
    | some reason => cases reason <;> simp [Termination.toError]

/-- Only a live session waits for anything. -/
theorem IsNew.isLive_of_isPending (new : start.IsNew) (steps : List Step)
    (pending : (run steps start).isPending id = true) : (run steps start).phase.isLive = true := by
  have awaits := (new.isPending_iff steps id).mp pending
  have sound := new.isSound_run steps
  obtain ⟨done, step, rest, rfl, registers⟩ := exists_step_of_mem_history awaits.held.1
  have was : (run done start).phase.isLive = true := Step.isLive_of_registered registers
  -- It was live when the request was registered, and once it has ended it waits for nothing.
  apply isLive_of_ne
  · rw [run_append]
    apply (run_evolves _ _).used
    intro idle
    simp [idle, Phase.isLive] at was
  · intro past
    have ended := sound.unbound_iff.mp past
    obtain ⟨waiter, member, waits⟩ := List.any_eq_true.mp pending
    simp [sound.closed ended waiter member] at waits

def GivenUp (id : MessageId) (steps : List Step) (start : Session) : Prop :=
  ∃ done rest, steps = done ++ .giveUp id :: rest ∧ (run done start).isPending id = true

def WaitedInVain (id : MessageId) (steps : List Step) (start : Session) : Prop :=
  ∃ done timeout rest, steps = done ++ .receive ⟨id, timeout⟩ :: rest ∧
    ((receive ⟨id, timeout⟩).run (run done start)).1 = .error (.timeout timeout)

def Answered (id : MessageId) (steps : List Step) (start : Session) : Prop :=
  ∃ message ∈ (history steps start).returned id, message.op.isFinal = true

theorem IsNew.closedBy_abandoned_iff (new : start.IsNew) :
    (history steps start).ClosedBy id (.abandoned id) ↔ GivenUp id steps start := by
  constructor
  · rintro ⟨early, late, split, awaits, -⟩
    obtain ⟨done, step, rest, now, later, rfl, rfl, events⟩ := exists_step_of_history_eq split
    have member : .abandoned id ∈ step.events (run done start) := by
      rw [events]
      simp
    obtain rfl := Step.eq_of_abandoned member
    have one : (Step.giveUp id).marks (run done start) = [.abandoned id] :=
      if_pos (Step.isLive_of_abandoned member)
    obtain ⟨rfl, -⟩ := Step.events_of_mark one (by simp) events
    rw [List.append_nil] at awaits
    exact ⟨done, rest, rfl, (new.isPending_iff done id).mpr awaits⟩
  · rintro ⟨done, rest, rfl, pending⟩
    have one : (Step.giveUp id).marks (run done start) = [.abandoned id] :=
      if_pos (new.isLive_of_isPending done pending)
    obtain ⟨later, split⟩ := history_of_mark one rest
    exact ⟨_, later, split, (new.isPending_iff done id).mp pending, by simp [Event.closes]⟩

theorem IsNew.closedBy_timedOut_iff (new : start.IsNew) :
    (history steps start).ClosedBy id (.timedOut id) ↔ WaitedInVain id steps start := by
  constructor
  · rintro ⟨early, late, split, awaits, -⟩
    obtain ⟨done, step, rest, now, later, rfl, rfl, events⟩ := exists_step_of_history_eq split
    have member : .timedOut id ∈ step.events (run done start) := by
      rw [events]
      simp
    obtain ⟨timeout, rfl⟩ := Step.exists_of_timedOut member
    refine ⟨done, timeout, rest, rfl, ?_⟩
    rw [Step.mem_events (by simp), Step.marks] at member
    split at member
    · cases List.mem_singleton.mp member
    · next milliseconds failed =>
      rw [failed, (receive_timeout_iff.mp failed).1]
    · cases member
  · rintro ⟨done, timeout, rest, rfl, late⟩
    have one : (Step.receive ⟨id, timeout⟩).marks (run done start) = [.timedOut id] := by
      simp only [Step.marks, late]
    obtain ⟨-, waiter, found, -, waits⟩ := receive_timeout_iff.mp late
    have pending := (Session.isPending_iff (new.ids_nodup done)).mpr ⟨waiter, found, waits⟩
    obtain ⟨later, split⟩ := history_of_mark one rest
    exact ⟨_, later, split, (new.isPending_iff done id).mp pending, by simp [Event.closes]⟩

theorem IsNew.exists_closedBy_of_answered (new : start.IsNew) (held : (history steps start).IsHeld id)
    (answered : Answered id steps start) : ∃ message, (history steps start).ClosedBy id (.processed message) := by
  obtain ⟨message, returned, final⟩ := answered
  have due := (returned_prefix_due new steps id).1.subset returned
  have closed : ¬(history steps start).Awaits id := by
    intro awaits
    rw [awaits.not_final due] at final
    cases final
  obtain ⟨event, closes⟩ := History.exists_closedBy held closed
  obtain ⟨last, rfl⟩ := closes.answered_iff.mp ⟨message, due, final⟩
  exact ⟨last, closes⟩

/-- A handle that has returned all that was due, of a request that nobody waits for, on a session that goes on. -/
theorem IsNew.receive_abandoned_iff (new : start.IsNew) (held : (history steps start).IsHeld id) (timeout : Nat) :
    ((receive ⟨id, timeout⟩).run (run steps start)).1 = .error (.abandoned id) ↔
      (run steps start).ending = none ∧ (history steps start).returned id = (history steps start).due id ∧
        ¬(history steps start).Awaits id := by
  have tracks := new.tracks_history steps id
  obtain ⟨waiter, found⟩ := tracks.exists_waiter held
  obtain ⟨-, inbox, isOpen⟩ := tracks.held waiter found
  rw [View.due_after, View.returned_after] at inbox
  have empty : waiter.inbox = [] ↔ (history steps start).returned id = (history steps start).due id := by
    rw [inbox]
    simp
  have shut : waiter.isOpen = false ↔ ¬(history steps start).Awaits id := by
    rw [isOpen, ← Bool.not_eq_true, View.awaits_after, History.awaits_iff]
    simp [held, held.1]
  rw [Session.receive_abandoned_iff, ← empty, ← shut]
  simp [found]

/-- If the session goes on and the handle has returned all that was due, three things can have ended the wait. -/
theorem IsNew.not_awaits_iff (new : start.IsNew) (held : (history steps start).IsHeld id)
    (going : (run steps start).ending = none)
    (whole : (history steps start).returned id = (history steps start).due id) :
    ¬(history steps start).Awaits id ↔
      GivenUp id steps start ∨ Answered id steps start ∨ WaitedInVain id steps start := by
  rw [← new.closedBy_abandoned_iff, ← new.closedBy_timedOut_iff]
  constructor
  · intro closed
    obtain ⟨event, closes⟩ := History.exists_closedBy held closed
    have ends := closes.closes
    -- Of all that closes a wait the end of the session is ruled out, and the rest are the three.
    cases event with
    | processed message =>
      have answered := closes.answered_iff.mpr ⟨message, rfl⟩
      rw [← whole] at answered
      exact .inr (.inl answered)
    | abandoned other =>
      obtain rfl : other = _ := eq_of_beq ends
      exact .inl closes
    | timedOut other =>
      obtain rfl : other = _ := eq_of_beq ends
      exact .inr (.inr closes)
    | ended => exact absurd closes.mem (not_mem_history_of_going going)
    | registered | returned | dropped => cases ends
  · rintro (given | answered | waited)
    · exact given.not_awaits
    · obtain ⟨message, closes⟩ := new.exists_closedBy_of_answered held answered
      exact closes.not_awaits
    · exact waited.not_awaits

/-- When a handle says that its request was abandoned. The session goes on, the handle has returned all that was
due, and of three things exactly one happened: the request was given up while it was pending, the final answer was
returned, or the handle had waited in vain before. Only the first is what the handle says. -/
theorem abandoned_reported_iff (new : start.IsNew) (steps : List Step) (held : (history steps start).IsHeld id)
    (timeout : Nat) :
    (((receive ⟨id, timeout⟩).run (run steps start)).1 = .error (.abandoned id) ↔
        (run steps start).ending = none ∧ (history steps start).returned id = (history steps start).due id ∧
          (GivenUp id steps start ∨ Answered id steps start ∨ WaitedInVain id steps start)) ∧
      ¬(GivenUp id steps start ∧ Answered id steps start) ∧
      ¬(GivenUp id steps start ∧ WaitedInVain id steps start) ∧
      ¬(Answered id steps start ∧ WaitedInVain id steps start) := by
  refine ⟨?_, ?_, ?_, ?_⟩
  · rw [new.receive_abandoned_iff held]
    exact and_congr_right fun going => and_congr_right fun whole => new.not_awaits_iff held going whole
  · rintro ⟨given, answered⟩
    obtain ⟨message, closes⟩ := new.exists_closedBy_of_answered held answered
    cases closes.unique (new.closedBy_abandoned_iff.mpr given)
  · rintro ⟨given, waited⟩
    cases (new.closedBy_abandoned_iff.mpr given).unique (new.closedBy_timedOut_iff.mpr waited)
  · rintro ⟨answered, waited⟩
    obtain ⟨message, closes⟩ := new.exists_closedBy_of_answered held answered
    cases closes.unique (new.closedBy_timedOut_iff.mpr waited)

def oneDeletion : Step := .post (.deleteRequest .root) [] 10

theorem abandoned_reported_givenUp :
    (establish {} {}).IsNew ∧ (history [oneDeletion, .giveUp 1] (establish {} {})).IsHeld 1 ∧
      ((receive ⟨1, 10⟩).run (run [oneDeletion, .giveUp 1] (establish {} {}))).1 = .error (.abandoned 1) ∧
      ¬Answered 1 [oneDeletion, .giveUp 1] (establish {} {}) := by
  have new : (establish {} {}).IsNew := ⟨{}, {}, .inr rfl⟩
  have held : (history [oneDeletion, .giveUp 1] (establish {} {})).IsHeld 1 := by decide +kernel
  have given : GivenUp 1 [oneDeletion, .giveUp 1] (establish {} {}) := ⟨[oneDeletion], [], rfl, by decide +kernel⟩
  obtain ⟨reported, apart, -⟩ := abandoned_reported_iff new [oneDeletion, .giveUp 1] held 10
  refine ⟨new, held, reported.mpr ⟨by decide +kernel, by decide +kernel, .inl given⟩, ?_⟩
  exact fun answered => apart ⟨given, answered⟩

def answeredAndRead : List Step :=
  [oneDeletion, .arrive [.message (some 1) (deleted 0) []], .takeIn, .receive ⟨1, 10⟩]

def overdue : List Step := [oneDeletion, .receive ⟨1, 10⟩]

theorem not_givenUp_of_not_mem (never : ∀ step ∈ steps, ∀ target, step ≠ .giveUp target) :
    ¬GivenUp id steps start := by
  rintro ⟨done, rest, rfl, -⟩
  exact never (.giveUp id) (by simp) id rfl

/-- Nobody gave these requests up, and their handles say that they were abandoned. -/
theorem abandoned_without_being_given_up :
    (establish {} {}).IsNew ∧
      ((history answeredAndRead (establish {} {})).IsHeld 1 ∧ ¬GivenUp 1 answeredAndRead (establish {} {}) ∧
        ((receive ⟨1, 10⟩).run (run answeredAndRead (establish {} {}))).1 = .error (.abandoned 1)) ∧
      (history overdue (establish {} {})).IsHeld 1 ∧ ¬GivenUp 1 overdue (establish {} {}) ∧
        ((receive ⟨1, 10⟩).run (run overdue (establish {} {}))).1 = .error (.abandoned 1) := by
  refine ⟨⟨{}, {}, .inr rfl⟩, ⟨by decide +kernel, ?_, by decide +kernel⟩, by decide +kernel, ?_,
    by decide +kernel⟩
  · exact not_givenUp_of_not_mem (by simp [answeredAndRead, oneDeletion])
  · exact not_givenUp_of_not_mem (by simp [overdue, oneDeletion])

end Session

end Directory
