import Directory.Message
/-!
Histories of a session: what was registered, processed and returned, in the order of time. What is due to
a request is read off the history alone. The same is kept up to date event by event in a view, which is
what a session can be compared with.
-/
namespace Directory

inductive Event where
  | registered (id : MessageId)
  | processed (message : Message)
  | returned (id : MessageId) (message : Message)
  | timedOut (id : MessageId)
  | abandoned (id : MessageId)
  | dropped (id : MessageId)
  | ended
  deriving DecidableEq

def Event.cuts (id : MessageId) : Event → Bool
  | timedOut other | abandoned other => other == id
  | ended => true
  | _ => false

abbrev History := List Event

namespace History

def since (id : MessageId) : History → History
  | [] => []
  | event :: later => if event = .registered id then later else since id later

def untilCut (id : MessageId) (history : History) : History := history.takeWhile fun event => !event.cuts id

def heard (id : MessageId) : History → List Message
  | [] => []
  | .processed message :: later =>
    if message.id = id then message :: heard id later else heard id later
  | _ :: later => heard id later

def upToFinal : List Message → List Message
  | [] => []
  | message :: later => message :: if message.op.isFinal then [] else upToFinal later

/-- What is due to the handle of a request. -/
def due (id : MessageId) (history : History) : List Message :=
  upToFinal (heard id (untilCut id (since id history)))

def returned (id : MessageId) : History → List Message
  | [] => []
  | .returned other message :: later =>
    if other = id then message :: returned id later else returned id later
  | _ :: later => returned id later

def IsHeld (id : MessageId) (history : History) : Prop :=
  .registered id ∈ history ∧ .dropped id ∉ history.since id

instance (id : MessageId) (history : History) : Decidable (history.IsHeld id) :=
  inferInstanceAs (Decidable (_ ∧ _))

theorem heard_id {id : MessageId} {history : History} {message : Message}
    (member : message ∈ heard id history) : message.id = id ∧ .processed message ∈ history := by
  induction history with
  | nil => simp [heard] at member
  | cons event later ih =>
    have rest (member : message ∈ heard id later) :
        message.id = id ∧ .processed message ∈ event :: later :=
      ⟨(ih member).1, List.mem_cons_of_mem event (ih member).2⟩
    cases event with
    | processed first =>
      by_cases same : first.id = id
      · simp only [heard, if_pos same, List.mem_cons] at member
        rcases member with rfl | member
        · exact ⟨same, List.mem_cons_self⟩
        · exact rest member
      · simp only [heard, if_neg same] at member
        exact rest member
    | _ => exact rest member

theorem mem_of_mem_upToFinal {messages : List Message} {message : Message}
    (member : message ∈ upToFinal messages) : message ∈ messages := by
  induction messages with
  | nil => exact member
  | cons first later ih =>
    rcases List.mem_cons.mp member with rfl | member
    · exact List.mem_cons_self
    · split at member
      · cases member
      · exact List.mem_cons_of_mem first (ih member)

theorem upToFinal_last {messages before after : List Message} {message : Message}
    (split : upToFinal messages = before ++ message :: after) (final : message.op.isFinal = true) :
    after = [] := by
  induction messages generalizing before with
  | nil => simp [upToFinal] at split
  | cons first later ih =>
    cases before with
    | nil =>
      obtain ⟨rfl, rest⟩ := List.cons.inj split
      rw [if_pos final] at rest
      exact rest.symm
    | cons second before =>
      obtain ⟨rfl, rest⟩ := List.cons.inj split
      by_cases done : first.op.isFinal = true
      · simp [done] at rest
      · rw [if_neg done] at rest
        exact ih rest

theorem mem_of_mem_since {id : MessageId} {history : History} {event : Event}
    (member : event ∈ since id history) : event ∈ history := by
  induction history with
  | nil => exact member
  | cons first later ih =>
    unfold since at member
    split at member
    · exact List.mem_cons_of_mem first member
    · exact List.mem_cons_of_mem first (ih member)

theorem due_id {id : MessageId} {history : History} {message : Message}
    (member : message ∈ due id history) : message.id = id ∧ .processed message ∈ history := by
  obtain ⟨same, processed⟩ := heard_id (mem_of_mem_upToFinal member)
  exact ⟨same, mem_of_mem_since (List.takeWhile_subset _ processed)⟩

end History

structure View where
  isRegistered : Bool := false
  awaits : Bool := false
  due : List Message := []
  returned : List Message := []
  isDropped : Bool := false

namespace View

def next (id : MessageId) (view : View) : Event → View
  | .registered other =>
    if other = id ∧ view.isRegistered = false then { view with isRegistered := true, awaits := true } else view
  | .processed message =>
    if view.awaits = true ∧ message.id = id then
      { view with due := view.due ++ [message], awaits := !message.op.isFinal }
    else view
  | .returned other message =>
    if other = id then { view with returned := view.returned ++ [message] } else view
  | .timedOut other | .abandoned other => if other = id then { view with awaits := false } else view
  | .dropped other => if other = id ∧ view.isRegistered = true then { view with isDropped := true } else view
  | .ended => { view with awaits := false }

def after (id : MessageId) (history : History) : View := history.foldl (next id) {}

variable {id : MessageId}

theorem returned_foldl (view : View) (history : History) :
    (history.foldl (next id) view).returned = view.returned ++ history.returned id := by
  induction history generalizing view with
  | nil => simp [History.returned]
  | cons event later ih =>
    rw [List.foldl_cons, ih]
    cases event with
    | returned other message =>
      by_cases same : other = id
      · simp [next, History.returned, same]
      · simp [next, History.returned, same]
    | _ => grind [next, History.returned]

theorem returned_after (id : MessageId) (history : History) :
    (after id history).returned = history.returned id := by
  rw [after, returned_foldl]
  rfl

theorem due_foldl_closed {view : View} (registered : view.isRegistered = true)
    (closed : view.awaits = false) (history : History) :
    (history.foldl (next id) view).due = view.due := by
  induction history generalizing view with
  | nil => rfl
  | cons event later ih =>
    have kept : (view.next id event).isRegistered = true ∧ (view.next id event).awaits = false ∧
        (view.next id event).due = view.due := by
      cases event <;> grind [next]
    rw [List.foldl_cons, ih kept.1 kept.2.1, kept.2.2]

theorem next_of_cuts {view : View} {event : Event} (cut : event.cuts id = true) :
    view.next id event = { view with awaits := false } := by
  cases event with
  | timedOut other | abandoned other =>
    have same : other = id := eq_of_beq cut
    simp [next, same]
  | ended => rfl
  | _ => cases cut

theorem next_of_not_cuts {view : View} {event : Event} (registered : view.isRegistered = true)
    (uncut : event.cuts id = false) (silent : ∀ message, event = .processed message → message.id ≠ id) :
    (view.next id event).isRegistered = true ∧ (view.next id event).awaits = view.awaits ∧
      (view.next id event).due = view.due := by
  cases event with
  | registered other => simp [next, registered]
  | processed message => simp [next, registered, silent message rfl]
  | timedOut other | abandoned other =>
    have different : other ≠ id := ne_of_beq_false uncut
    simp [next, registered, different]
  | returned other message =>
    by_cases mine : other = id <;> simp [next, registered, mine]
  | dropped other =>
    by_cases mine : other = id <;> simp [next, registered, mine]
  | ended => cases uncut

theorem heard_of_silent {event : Event} (silent : ∀ message, event = .processed message → message.id ≠ id)
    (later : History) : History.heard id (event :: later) = History.heard id later := by
  cases event with
  | processed message => rw [History.heard, if_neg (silent message rfl)]
  | _ => rfl

/-- A request that awaits messages gets them up to its final one, until it is cut off. -/
theorem due_foldl_open {view : View} (registered : view.isRegistered = true) (open_ : view.awaits = true)
    (history : History) :
    (history.foldl (next id) view).due =
      view.due ++ History.upToFinal (History.heard id (History.untilCut id history)) := by
  induction history generalizing view with
  | nil => simp [History.untilCut, History.heard, History.upToFinal]
  | cons event later ih =>
    rw [List.foldl_cons, History.untilCut, List.takeWhile_cons]
    cases cut : event.cuts id with
    | true =>
      have closed : (later.foldl (next id) { view with awaits := false }).due = view.due := by
        apply due_foldl_closed
        · exact registered
        · rfl
      rw [next_of_cuts cut, closed]
      simp [History.heard, History.upToFinal]
    | false =>
      rw [Bool.not_false, if_pos rfl]
      by_cases mine : ∃ message, event = .processed message ∧ message.id = id
      · obtain ⟨message, rfl, same⟩ := mine
        rw [History.heard, if_pos same, History.upToFinal]
        -- A final message closes the request; what is processed later is for nobody.
        by_cases final : message.op.isFinal = true
        · rw [due_foldl_closed (by simp [next, open_, same, registered]) (by simp [next, open_, same, final])]
          simp [next, open_, same, final]
        · rw [ih (by simp [next, open_, same, registered]) (by simp [next, open_, same, final])]
          simp [next, open_, same, final, History.untilCut]
      · have silent : ∀ message, event = .processed message → message.id ≠ id :=
          fun message same other => mine ⟨message, same, other⟩
        obtain ⟨still, awaits, due⟩ := next_of_not_cuts registered cut silent
        rw [ih still (awaits.trans open_), due, heard_of_silent silent]
        rfl

theorem due_foldl_unregistered {view : View} (unregistered : view.isRegistered = false)
    (closed : view.awaits = false) (nothing : view.due = []) (history : History) :
    (history.foldl (next id) view).due = history.due id := by
  induction history generalizing view with
  | nil => exact nothing
  | cons event later ih =>
    rw [List.foldl_cons, History.due, History.since]
    by_cases first : event = .registered id
    · rw [if_pos first, first]
      rw [due_foldl_open (by simp [next, unregistered]) (by simp [next, unregistered])]
      simp [next, unregistered, nothing]
    · rw [if_neg first]
      have kept : (view.next id event).isRegistered = false ∧ (view.next id event).awaits = false ∧
          (view.next id event).due = [] := by
        cases event <;> grind [next]
      exact ih kept.1 kept.2.1 kept.2.2

theorem due_after (id : MessageId) (history : History) : (after id history).due = history.due id :=
  due_foldl_unregistered rfl rfl rfl history

theorem isRegistered_foldl (view : View) (history : History) :
    (history.foldl (next id) view).isRegistered = true ↔
      view.isRegistered = true ∨ .registered id ∈ history := by
  induction history generalizing view with
  | nil => simp
  | cons event later ih =>
    rw [List.foldl_cons, ih, List.mem_cons, ← or_assoc]
    have one : (view.next id event).isRegistered = true ↔
        view.isRegistered = true ∨ .registered id = event := by
      cases event <;> grind [next]
    rw [one]

theorem isDropped_foldl {view : View} (history : History) :
    (history.foldl (next id) view).isDropped = true ↔
      view.isDropped = true ∨
        .dropped id ∈ if view.isRegistered = true then history else history.since id := by
  induction history generalizing view with
  | nil => simp [History.since]
  | cons event later ih =>
    rw [List.foldl_cons, ih, History.since]
    cases event <;> grind [next]

end View

end Directory
