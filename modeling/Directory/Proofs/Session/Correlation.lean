import Directory.Proofs.Session.History
import Directory.Proofs.Session.Steps
/-!
Each answer reaches the handle of its own request. A run of a session writes a history; the view that the
history gives of a request is compared with the waiter of that request, event by event. What is due and not
yet returned is what lies in the inbox.
-/
namespace Directory.Session

def heard (session : Session) : List Message :=
  if session.receiver = .running then
    match _next : session.nextMessage? with
    | some (.ok message, transport) => message :: ({ session with transport }.route message).heard
    | _ => []
  else []
termination_by session.transport.incoming.length
decreasing_by exact nextMessage?_length _next

theorem heard_cons {session : Session} {message : Message} {transport : Transport}
    (running : session.receiver = .running)
    (next : session.nextMessage? = some (.ok message, transport)) :
    session.heard = message :: ({ session with transport }.route message).heard := by
  rw [heard, if_pos running]
  split
  · next found =>
    rw [next] at found
    cases found
    rfl
  · next none => exact absurd next (none _ _)

theorem heard_nil {session : Session} (silent : session.receiver = .running →
    ∀ message transport, session.nextMessage? ≠ some (.ok message, transport)) : session.heard = [] := by
  rw [heard]
  split
  · next running =>
    split
    · next found => exact absurd found (silent running _ _)
    · rfl
  · rfl

def endings (before after : Session) : History :=
  if before.ending = none ∧ after.ending ≠ none then [.ended] else []

namespace Step

def marks (session : Session) : Step → History
  | takeIn => session.heard.map .processed
  | post op controls timeout =>
    match ((Session.post op controls timeout).run session).1 with
    | .ok handle => [.registered handle.id]
    | .error _ => []
  | receive handle =>
    match ((Session.receive handle).run session).1 with
    | .ok message => [.returned handle.id message]
    | .error (.timeout _) => [.timedOut handle.id]
    | .error _ => []
  | drop id => [.dropped id]
  | giveUp target => if session.phase.isLive then [.abandoned target] else []
  | _ => []

def events (session : Session) (step : Step) : History :=
  step.marks session ++ session.endings (step.perform session)

end Step

def history : List Step → Session → History
  | [], _ => []
  | step :: rest, session => step.events session ++ history rest (step.perform session)

/-- The waiter of a request is as the view of the request says. -/
structure Tracks (id : MessageId) (view : View) (session : Session) : Prop where
  issued : view.isRegistered = true → id < session.nextId
  unknown : view.isRegistered = false → view.awaits = false ∧ view.due = []
  held : ∀ waiter, session.waiter? id = some waiter →
    view.isRegistered = true ∧ view.due = view.returned ++ waiter.inbox ∧ waiter.isOpen = view.awaits
  gone : session.waiter? id = none →
    view.returned <+: view.due ∧ (view.isRegistered = true → view.isDropped = true)

variable {id : MessageId} {view : View} {session : Session}

namespace Tracks

theorem congr {later : Session} (tracks : Tracks id view session) (numbers : session.nextId ≤ later.nextId)
    (same : later.waiter? id = session.waiter? id) : Tracks id view later where
  issued registered := UInt32.lt_of_lt_of_le (tracks.issued registered) numbers
  unknown := tracks.unknown
  held := same ▸ tracks.held
  gone := same ▸ tracks.gone

theorem change {next : View} {later : Session} {change : Waiter → Waiter} (tracks : Tracks id view session)
    (numbers : session.nextId ≤ later.nextId) (waiter : later.waiter? id = (session.waiter? id).map change)
    (registered : next.isRegistered = view.isRegistered) (dropped : next.isDropped = view.isDropped)
    (unknown : view.isRegistered = false → next.awaits = false ∧ next.due = [])
    (held : ∀ waiter, view.due = view.returned ++ waiter.inbox → waiter.isOpen = view.awaits →
      next.due = next.returned ++ (change waiter).inbox ∧ (change waiter).isOpen = next.awaits)
    (gone : session.waiter? id = none → view.returned <+: view.due → next.returned <+: next.due) :
    Tracks id next later where
  issued known := UInt32.lt_of_lt_of_le (tracks.issued (registered ▸ known)) numbers
  unknown fresh := unknown (registered ▸ fresh)
  held := by
    intro found present
    rw [waiter] at present
    obtain ⟨before, was, rfl⟩ := Option.map_eq_some_iff.mp present
    obtain ⟨known, due, open_⟩ := tracks.held before was
    exact ⟨registered.trans known, held before due open_⟩
  gone := by
    intro none
    rw [waiter, Option.map_eq_none_iff] at none
    rw [registered, dropped]
    exact ⟨gone none (tracks.gone none).1, (tracks.gone none).2⟩

theorem route (tracks : Tracks id view session) (message : Message) :
    Tracks id (view.next id (.processed message)) (session.route message) := by
  by_cases mine : message.id = id
  · subst mine
    apply tracks.change _ (waiter?_route_self message)
    · grind [View.next]
    · grind [View.next]
    · intro fresh
      grind [View.next, tracks.unknown fresh]
    · intro waiter due open_
      grind [View.next, Waiter.take]
    · intro _ part
      have longer := part.trans (List.prefix_append view.due [message])
      grind [View.next]
    · exact UInt32.le_refl _
  · have skipped : view.next id (.processed message) = view := by simp [View.next, mine]
    rw [skipped]
    exact tracks.congr (UInt32.le_refl _) (waiter?_route_ne (Ne.symm mine))

theorem close {later : Session} {event : Event} (tracks : Tracks id view session)
    (numbers : session.nextId ≤ later.nextId)
    (waiter : later.waiter? id = (session.waiter? id).map Waiter.close)
    (cuts : view.next id event = { view with awaits := false }) : Tracks id (view.next id event) later := by
  rw [cuts]
  apply tracks.change numbers waiter
  · rfl
  · rfl
  · intro fresh
    exact ⟨rfl, (tracks.unknown fresh).2⟩
  · intro waiter due _
    exact ⟨due, rfl⟩
  · intro _ part
    exact part

theorem forget (tracks : Tracks id view session) (target : MessageId) :
    Tracks id (view.next id (.abandoned target)) (session.forget target) := by
  by_cases mine : target = id
  · subst mine
    apply tracks.close _ waiter?_forget_self
    · simp [View.next]
    · exact UInt32.le_refl _
  · have skipped : view.next id (.abandoned target) = view := by simp [View.next, mine]
    rw [skipped]
    exact tracks.congr (UInt32.le_refl _) (waiter?_forget_ne (Ne.symm mine))

theorem returned_prefix (tracks : Tracks id view session) : view.returned <+: view.due := by
  cases found : session.waiter? id with
  | none => exact (tracks.gone found).1
  | some waiter => exact ⟨waiter.inbox, (tracks.held waiter found).2.1.symm⟩

theorem dropHandle (tracks : Tracks id view session) (target : MessageId) :
    Tracks id (view.next id (.dropped target)) (session.dropHandle target) := by
  by_cases mine : target = id
  · subst mine
    constructor
    · intro registered
      exact tracks.issued (by grind [View.next])
    · intro fresh
      have same := tracks.unknown (by grind [View.next])
      grind [View.next]
    · intro waiter found
      rw [waiter?_dropHandle_self] at found
      cases found
    · intro _
      have part := tracks.returned_prefix
      grind [View.next]
  · have skipped : view.next id (.dropped target) = view := by simp [View.next, mine]
    rw [skipped]
    exact tracks.congr (UInt32.le_refl _) (waiter?_dropHandle_ne (Ne.symm mine))

theorem opened (tracks : Tracks id view session) (left : session.nextId ≤ Message.maxId) :
    Tracks id (view.next id (.registered session.nextId)) session.opened := by
  have succ := nextId_lt_succ left
  by_cases mine : session.nextId = id
  · subst mine
    have fresh : view.isRegistered = false :=
      Bool.eq_false_iff.mpr fun registered => UInt32.lt_irrefl _ (tracks.issued registered)
    obtain ⟨closed, nothing⟩ := tracks.unknown fresh
    have none : view.returned = [] := by
      have part := tracks.returned_prefix
      rw [nothing] at part
      exact List.prefix_nil.mp part
    have waiting : session.opened.waiter? session.nextId = some ⟨session.nextId, [], true⟩ :=
      waiter?_register_self
    constructor
    · intro _
      exact succ
    · intro unknown
      simp [View.next, fresh] at unknown
    · intro waiter found
      rw [waiting] at found
      cases found
      simp [View.next, fresh, nothing, none]
    · intro missing
      rw [waiting] at missing
      cases missing
  · have skipped : view.next id (.registered session.nextId) = view := by simp [View.next, mine]
    rw [skipped]
    exact tracks.congr (UInt32.le_of_lt succ) (waiter?_register_ne (Ne.symm mine))

theorem receive (tracks : Tracks id view session) {handle : Handle} {message : Message} {waiter : Waiter}
    {rest : List Message} (found : session.waiter? handle.id = some waiter)
    (first : waiter.inbox = message :: rest) :
    Tracks id (view.next id (.returned handle.id message))
      (session.updateWaiter handle.id fun waiter => { waiter with inbox := rest }) := by
  by_cases mine : handle.id = id
  · subst mine
    have updated := waiter?_read found rest
    have sorted := tracks.held waiter found
    constructor
    · intro registered
      exact tracks.issued (by grind [View.next])
    · intro fresh
      grind [View.next]
    · intro later present
      rw [updated, Option.some.injEq] at present
      subst present
      grind [View.next]
    · intro missing
      rw [updated] at missing
      cases missing
  · have skipped : view.next id (.returned handle.id message) = view := by simp [View.next, mine]
    rw [skipped]
    exact tracks.congr (UInt32.le_refl _) (waiter?_updateWaiter_ne (Ne.symm mine) fun _ => rfl)

end Tracks

namespace Continues

theorem tracks {later : Session} (continues : session.Continues later) (tracks : Tracks id view session) :
    Tracks id ((session.endings later).foldl (View.next id) view) later := by
  cases continues with
  | same numbers _ ending waiters =>
    have none : session.endings later = [] := by simp [endings, ending]
    rw [none]
    exact tracks.congr numbers (waiter?_congr waiters id)
  | ended numbers _ live past closed =>
    have one : session.endings later = [.ended] := by simp [endings, live, past]
    rw [one, List.foldl_cons, List.foldl_nil]
    apply tracks.close numbers
    · exact (waiter?_congr closed id).trans (waiter?_map_close id)
    · rfl

end Continues

namespace Tracks

/-- The receiver processes what has arrived, one message after the other, and may then end the session. -/
theorem takeIn (tracks : Tracks id view session) :
    Tracks id ((session.heard.map Event.processed ++ session.endings session.takeIn).foldl (View.next id) view)
      session.takeIn := by
  fun_induction Session.takeIn session generalizing view with
  | case1 session running message transport next ih =>
    have read : Tracks id view { session with transport } := tracks.congr (UInt32.le_refl _) rfl
    rw [heard_cons running next]
    exact ih (read.route message)
  | case2 session running reason transport next =>
    have read : session.Continues { session with transport } := continues_transport transport
    rw [heard_nil fun _ _ _ found => by simp [next] at found]
    exact (read.trans (continues_stop reason)).tracks tracks
  | case3 session running next =>
    rw [heard_nil fun _ _ _ found => by simp [next] at found]
    exact (Continues.refl session).tracks tracks
  | case4 session stopped =>
    rw [heard_nil fun running => absurd running stopped]
    exact (Continues.refl session).tracks tracks

end Tracks

theorem dropHandle_opened (sound : session.IsSound) :
    (session.opened.dropHandle session.nextId).waiters = session.waiters := by
  have others : session.waiters.filter (fun waiter => waiter.id != session.nextId) = session.waiters := by
    rw [List.filter_eq_self]
    intro waiter member
    simpa using UInt32.ne_of_lt (sound.numbered waiter member)
  simp [opened, register, dropHandle, others]

theorem Posts.continues {op : Operation} {controls : List Control} {timeout : Nat} {error : Error}
    {after : Session} (sound : session.IsSound)
    (posted : session.Posts op controls timeout (.error error) after) : session.Continues after := by
  cases posted with
  | refused _ _ refused => exact refused.continues
  | exhausted => exact .refl session
  | failed _ after live left sends =>
    have numbers := nextId_le_succ left
    have kept := dropHandle_opened sound
    cases sends.continues with
    | same more phase ending waiters =>
      have same : (after.dropHandle session.nextId).waiters = session.waiters := by
        rw [← kept, dropHandle, dropHandle, waiters]
      exact .same (UInt32.le_trans numbers more) phase ending same
    | ended more unbound open_ past closed =>
      have shut : (after.dropHandle session.nextId).waiters = session.waiters.map Waiter.close := by
        rw [← kept, dropHandle, dropHandle, closed, List.filter_map]
        rfl
      exact .ended (UInt32.le_trans numbers more) unbound open_ past shut

namespace Step

theorem foldl_events (step : Step) (id : MessageId) (view : View) (session : Session) :
    (step.events session).foldl (View.next id) view =
      (session.endings (step.perform session)).foldl (View.next id)
        ((step.marks session).foldl (View.next id) view) :=
  List.foldl_append

/-- Every step changes view and waiter alike. -/
theorem tracks (step : Step) (sound : session.IsSound) (tracks : Tracks id view session) :
    Tracks id ((step.events session).foldl (View.next id) view) (step.perform session) := by
  rw [foldl_events]
  cases step with
  | arrive actions => exact (continues_transport _).tracks tracks
  | takeIn =>
    rw [← List.foldl_append]
    exact tracks.takeIn
  | number => exact continues_number.tracks tracks
  | settle name outcome => exact (continues_settle name outcome).tracks tracks
  | secure upgrade => exact (startSecurity_cases session upgrade).continues.tracks tracks
  | close => exact continues_close.tracks tracks
  | drop other => exact (Continues.refl (session.dropHandle other)).tracks (tracks.dropHandle other)
  | post op controls timeout =>
    have posted := post_cases session op controls timeout
    simp only [marks, perform]
    generalize ((Session.post op controls timeout).run session).1 = result at posted ⊢
    generalize ((Session.post op controls timeout).run session).2 = after at posted ⊢
    cases result with
    | error error => exact (posted.continues sound).tracks tracks
    | ok handle =>
      cases posted with
      | posted _ live left sends =>
        have opened := sends.continues.tracks (tracks.opened left)
        exact opened
  | receive handle =>
    have received := receive_cases session handle
    simp only [marks, perform]
    generalize ((Session.receive handle).run session).1 = result at received ⊢
    generalize ((Session.receive handle).run session).2 = after at received ⊢
    cases received with
    | message message waiter rest found first =>
      exact (Continues.refl _).tracks (tracks.receive found first)
    | timedOut => exact (Continues.refl _).tracks (tracks.forget handle.id)
    | spent =>
      have silent : (match (Except.error (session.lastWord handle.id) : Except Error Message) with
          | .ok message => [Event.returned handle.id message]
          | .error (.timeout _) => [.timedOut handle.id]
          | .error _ => []) = [] := by
        have word := session.lastWord_ne_timeout handle.id
        grind
      rw [silent]
      exact (Continues.refl session).tracks tracks
  | giveUp target =>
    have given := giveUp_cases session target
    simp only [marks, perform]
    generalize ((Session.giveUp target).run session).1 = result at given ⊢
    generalize ((Session.giveUp target).run session).2 = after at given ⊢
    rcases given.continues with ⟨dead, refused⟩ | ⟨live, forgotten⟩
    · rw [if_neg (Bool.eq_false_iff.mp dead)]
      exact refused.tracks tracks
    · rw [if_pos live]
      exact forgotten.tracks (tracks.forget target)

end Step

theorem run_tracks (steps : List Step) (sound : session.IsSound) (tracks : Tracks id view session) :
    Tracks id ((history steps session).foldl (View.next id) view) (run steps session) := by
  induction steps generalizing session view with
  | nil => exact tracks
  | cons step rest ih =>
    rw [history, List.foldl_append]
    exact ih ((step.evolves session).sound sound) (step.tracks sound tracks)

theorem nextMessage?_ok {message : Message} {transport : Transport}
    (next : session.nextMessage? = some (.ok message, transport)) : message.op.isRequest = false := by
  unfold nextMessage? at next
  split at next
  · split at next
    · cases next
    · next harmless =>
      cases next
      unfold Message.ending? at harmless
      split at harmless
      · cases harmless
      · next response => exact Bool.eq_false_iff.mpr response
  · cases next
  · cases next
  · cases next

theorem heard_not_request {message : Message} (member : message ∈ session.heard) :
    message.op.isRequest = false := by
  fun_induction heard session with
  | case1 session running first transport next ih =>
    rcases List.mem_cons.mp member with rfl | later
    · exact nextMessage?_ok next
    · exact ih later
  | case2 => cases member
  | case3 => cases member

/-- Only messages that a server may send are processed. -/
theorem processed_not_request {steps : List Step} {message : Message}
    (member : .processed message ∈ history steps session) : message.op.isRequest = false := by
  induction steps generalizing session with
  | nil => cases member
  | cons step rest ih =>
    rw [history, Step.events, List.append_assoc, List.mem_append, List.mem_append] at member
    rcases member with marked | ended | later
    · cases step with
      | takeIn =>
        obtain ⟨_, heard, same⟩ := List.mem_map.mp marked
        cases same
        exact heard_not_request heard
      | post | receive | drop | giveUp =>
        simp only [Step.marks] at marked
        grind
      | _ => cases marked
    · unfold endings at ended
      grind
    · exact ih later

theorem IsNew.tracks (new : session.IsNew) (id : MessageId) : Tracks id {} session := by
  have nobody : session.waiter? id = none := by
    obtain ⟨transport, config, rfl | rfl⟩ := new <;> rfl
  constructor
  · simp
  · simp
  · simp [nobody]
  · simp

/-- The view of a session's history tells what is held for each number. -/
theorem IsNew.tracks_history {start : Session} (new : start.IsNew) (steps : List Step) (id : MessageId) :
    Tracks id (View.after id (history steps start)) (run steps start) :=
  run_tracks steps new.isSound (new.tracks id)

theorem Tracks.exists_waiter {history : History} (tracks : Tracks id (View.after id history) session)
    (held : history.IsHeld id) : ∃ waiter, session.waiter? id = some waiter := by
  obtain ⟨registered, kept⟩ := held
  cases found : session.waiter? id with
  | some waiter => exact ⟨waiter, rfl⟩
  | none =>
    have known := (View.isRegistered_foldl {} history).mpr (.inr registered)
    have dropped := (View.isDropped_foldl history).mp ((tracks.gone found).2 known)
    rcases dropped with before | later
    · cases before
    · exact absurd later kept

theorem receive_ok_of_inbox {waiter : Waiter} {message : Message} {rest : List Message}
    (found : session.waiter? id = some waiter) (first : waiter.inbox = message :: rest) (timeout : Nat) :
    ((receive ⟨id, timeout⟩).run session).1 = .ok message := by
  obtain ⟨other, inbox, isOpen⟩ := waiter
  subst first
  simp only [receive, SessionM.run, found]

/-- What a handle has returned is the beginning of what is due to its request, and while something is due
the handle returns it. So no answer is lost, returned twice or given to another request, none comes after
a final one, and none that is late. -/
theorem returned_prefix_due {start : Session} (new : start.IsNew) (steps : List Step) (id : MessageId) :
    (history steps start).returned id <+: (history steps start).due id ∧
      (∀ message ∈ (history steps start).returned id,
        message.id = id ∧ message.op.isRequest = false) ∧
      (∀ before message after, (history steps start).returned id = before ++ message :: after →
        message.op.isFinal = true → after = []) ∧
      ((history steps start).IsHeld id → ∀ message rest timeout,
        (history steps start).due id = (history steps start).returned id ++ message :: rest →
          ((receive ⟨id, timeout⟩).run (run steps start)).1 = .ok message) := by
  have tracks := new.tracks_history steps id
  have part := tracks.returned_prefix
  rw [View.due_after, View.returned_after] at part
  refine ⟨part, ?_, ?_, ?_⟩
  · intro message member
    obtain ⟨same, processed⟩ := History.due_id (part.subset member)
    exact ⟨same, processed_not_request processed⟩
  · intro before message after split final
    obtain ⟨rest, whole⟩ := part
    rw [split, List.append_assoc, List.cons_append] at whole
    exact (List.append_eq_nil_iff.mp (History.upToFinal_last whole.symm final)).1
  · intro held message rest timeout due
    obtain ⟨waiter, found⟩ := tracks.exists_waiter held
    have inbox := (tracks.held waiter found).2.1
    rw [View.due_after, View.returned_after, due] at inbox
    exact receive_ok_of_inbox found (List.append_cancel_left inbox).symm timeout

def deleted (code : UInt32) : Operation := .deleteResponse ⟨⟨code⟩, "", "", []⟩

def crossedAnswers : List Step :=
  [.post (.deleteRequest .root) [] 10, .post (.deleteRequest .root) [] 10,
    .arrive [.message (some 2) (deleted 32) [], .message (some 1) (deleted 0) [],
      .message (some 2) (deleted 1) []],
    .takeIn]

theorem receive_crossedAnswers :
    (establish {} {}).IsNew ∧ (history crossedAnswers (establish {} {})).IsHeld 2 ∧
      (history crossedAnswers (establish {} {})).due 2 = [⟨2, deleted 32, []⟩] ∧
      ((receive ⟨2, 10⟩).run (run crossedAnswers (establish {} {}))).1 = .ok ⟨2, deleted 32, []⟩ := by
  have new : (establish {} {}).IsNew := ⟨{}, {}, .inr rfl⟩
  have held : (history crossedAnswers (establish {} {})).IsHeld 2 := by decide +kernel
  have due : (history crossedAnswers (establish {} {})).due 2 = [⟨2, deleted 32, []⟩] := by decide +kernel
  have nothing : (history crossedAnswers (establish {} {})).returned 2 = [] := by decide +kernel
  have correlated := returned_prefix_due new crossedAnswers 2
  exact ⟨new, held, due, correlated.2.2.2 held _ [] 10 (by rw [due, nothing]; rfl)⟩

end Directory.Session
