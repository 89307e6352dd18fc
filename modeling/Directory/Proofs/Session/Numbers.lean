import Directory.Proofs.Session.Release
/-!
Message numbers. They are given out in order and each of them once, whether or not anything comes of it. So
no two handles and no two waiters share one, and nothing that is done for one of them concerns another.
-/
namespace Directory.Session

variable {session : Session}

def along (each : Session → Step → List α) : List Step → Session → List α
  | [], _ => []
  | step :: rest, session => each session step ++ along each rest (step.perform session)

theorem frames_eq_along (steps : List Step) (session : Session) :
    frames steps session = along Step.frames steps session := by
  induction steps generalizing session with
  | nil => rfl
  | cons step rest ih => rw [frames, along, ih]

theorem map_along (each : Session → Step → List α) (f : α → β) (steps : List Step) (session : Session) :
    (along each steps session).map f =
      along (fun session step => (each session step).map f) steps session := by
  induction steps generalizing session with
  | nil => rfl
  | cons step rest ih => rw [along, along, List.map_append, ih]

theorem along_sublist {each every : Session → Step → List α}
    (part : ∀ session step, (each session step).Sublist (every session step)) (steps : List Step)
    (session : Session) : (along each steps session).Sublist (along every steps session) := by
  induction steps generalizing session with
  | nil => exact .refl _
  | cons step rest ih => exact (part session step).append (ih _)

def allotted (session : Session) : List MessageId :=
  if session.phase.isLive = true ∧ session.nextId ≤ Message.maxId then [session.nextId] else []

def Step.issued (session : Session) : Step → List MessageId
  | number => (nextRequestId.run session).1.toOption.toList
  | post _ _ _ | giveUp _ => session.allotted
  | secure _ => if session.IsUntouched then [session.nextId] else []
  | close => if session.holdsTransport = true then session.allotted else []
  | _ => []

def Step.message? (session : Session) : Step → Option Message
  | post op controls _ => some ⟨session.nextId, op, controls⟩
  | giveUp target => some ⟨session.nextId, .abandonRequest target, []⟩
  | secure _ => some ⟨session.nextId, .extendedRequest Oid.startTls none, []⟩
  | close => some ⟨session.nextId, .unbindRequest, []⟩
  | _ => none

def Step.writes (session : Session) (step : Step) : List Message :=
  if step.frames session = [] then [] else (step.message? session).toList

def Step.handed (session : Session) : Step → List Handle
  | post op controls timeout => ((Session.post op controls timeout).run session).1.toOption.toList
  | _ => []

def issued : List Step → Session → List MessageId := along Step.issued

def written : List Step → Session → List Message := along Step.writes

def handed : List Step → Session → List Handle := along Step.handed

theorem requested_cases (session : Session) (op : Operation) (controls : List Control) :
    session.requested op controls = [] ∨
      session.requested op controls = [Message.encode ⟨session.nextId, op, controls⟩] ∧
        session.allotted = [session.nextId] := by
  unfold requested
  split
  · next ready => exact .inr ⟨rfl, if_pos ⟨ready.1, ready.2.1⟩⟩
  · exact .inl rfl

/-- A step writes nothing, or its message, under the number that it gives out. -/
theorem Step.frames_cases (step : Step) (session : Session) :
    step.frames session = [] ∨
      ∃ message, step.message? session = some message ∧ message.id = session.nextId ∧
        step.frames session = [message.encode] ∧ step.issued session = [session.nextId] := by
  cases step with
  | post op controls timeout =>
    rcases requested_cases session op controls with none | ⟨one, allotted⟩
    · exact .inl none
    · exact .inr ⟨_, rfl, rfl, one, allotted⟩
  | giveUp target =>
    rcases requested_cases session (.abandonRequest target) [] with none | ⟨one, allotted⟩
    · exact .inl none
    · exact .inr ⟨_, rfl, rfl, one, allotted⟩
  | secure upgrade =>
    by_cases untouched : session.IsUntouched
    · exact .inr ⟨_, rfl, rfl, if_pos untouched, if_pos untouched⟩
    · exact .inl (if_neg untouched)
  | close =>
    by_cases ready : session.phase.isLive = true ∧ session.nextId ≤ Message.maxId ∧
        session.holdsTransport = true
    · have allotted : session.allotted = [session.nextId] := if_pos ⟨ready.1, ready.2.1⟩
      exact .inr ⟨_, rfl, rfl, if_pos ready, (if_pos ready.2.2).trans allotted⟩
    · exact .inl (if_neg ready)
  | _ => exact .inl rfl

theorem Step.frames_eq (step : Step) (session : Session) :
    step.frames session = (step.writes session).map Message.encode := by
  unfold writes
  rcases step.frames_cases session with none | ⟨message, about, _, one, _⟩
  · rw [if_pos none, none, List.map_nil]
  · rw [one, if_neg (List.cons_ne_nil _ _), about]
    rfl

theorem Step.writes_issued (step : Step) (session : Session) :
    ((step.writes session).map Message.id).Sublist (step.issued session) := by
  unfold writes
  rcases step.frames_cases session with none | ⟨message, about, numbered, one, issued⟩
  · rw [if_pos none]
    exact List.nil_sublist _
  · rw [one, if_neg (List.cons_ne_nil _ _), about, issued, ← numbered]
    exact .refl _

theorem Sends.writable {message : Message} {after : Session}
    (sent : session.Sends message (.ok ()) after) : session.IsWritable := by
  cases sent with
  | sent _ held readable => exact ⟨held, readable⟩

/-- Whoever gets a handle has had a message written under its number. -/
theorem Step.handed_writes (step : Step) (session : Session) :
    ((step.handed session).map Handle.id).Sublist ((step.writes session).map Message.id) := by
  cases step with
  | post op controls timeout =>
    dsimp only [handed]
    have posted := post_cases session op controls timeout
    generalize (Session.post op controls timeout).run session = outcome at posted ⊢
    obtain ⟨result, after⟩ := outcome
    cases posted with
    | posted _ live left sends =>
      have writable : session.IsWritable := sends.writable
      have one : (Step.post op controls timeout).frames session = [_] :=
        if_pos ⟨live, left, writable⟩
      rw [writes, one, if_neg (List.cons_ne_nil _ _)]
      exact .refl _
    | _ => exact List.nil_sublist _
  | _ => exact List.nil_sublist _

theorem frames_eq_map_encode (steps : List Step) (session : Session) :
    frames steps session = (written steps session).map Message.encode := by
  have same : Step.frames = fun session step => (step.writes session).map Message.encode := by
    funext session step
    exact step.frames_eq session
  rw [frames_eq_along, written, map_along, ← same]

inductive Counts (before : Session) : List MessageId → Session → Prop where
  | still {after : Session} : after.nextId = before.nextId → Counts before [] after
  | counted {after : Session} : before.nextId ≤ Message.maxId → after.nextId = before.nextId + 1 →
      Counts before [before.nextId] after

theorem nextId_release (session : Session) : session.release.nextId = session.nextId := by
  unfold release
  split <;> rfl

theorem nextId_stop (session : Session) (reason : Termination) :
    (session.stop reason).nextId = session.nextId := by
  rw [stop, nextId_release, nextId_terminate]

theorem nextId_takeIn (session : Session) : session.takeIn.nextId = session.nextId := by
  fun_induction takeIn session with
  | case1 _ _ _ _ _ ih => exact ih
  | case2 => exact nextId_stop _ _
  | case3 => rfl
  | case4 => rfl

theorem nextId_finishBind (name : String) (outcome : Outcome) :
    ((finishBind name outcome).run session).2.nextId = session.nextId := by
  have entered (later : Session) (phase : Phase) : (later.enter phase).nextId = later.nextId := by
    unfold enter
    split <;> rfl
  unfold finishBind
  split
  · split
    · exact entered _ _
    · exact entered _ _
  · exact entered _ _

theorem Refuses.nextId {error : Error} {after : Session} (refused : session.Refuses error after) :
    after.nextId = session.nextId := by
  cases refused with
  | idle => rfl
  | unbound => exact nextId_release session

theorem Sends.nextId {message : Message} {result : Except Error Unit} {after : Session}
    (sent : session.Sends message result after) : after.nextId = session.nextId := by
  cases sent with
  | unwritten => exact nextId_terminate _ _
  | _ => rfl

theorem Receives.nextId {handle : Handle} {result : Except Error Message} {after : Session}
    (received : session.Receives handle result after) : after.nextId = session.nextId := by
  cases received <;> rfl

theorem counts_refused {error : Error} {after : Session} (refused : session.Refuses error after) :
    session.Counts session.allotted after := by
  have none : session.allotted = [] := if_neg fun ready => by simp [refused.not_live] at ready
  rw [none]
  exact .still refused.nextId

theorem counts_exhausted {after : Session} (exhausted : Message.maxId < session.nextId)
    (same : after.nextId = session.nextId) : session.Counts session.allotted after := by
  have none : session.allotted = [] := if_neg fun ready => UInt32.not_le.mpr exhausted ready.2
  rw [none]
  exact .still same

theorem counts_allotted {after : Session} (live : session.phase.isLive = true)
    (left : session.nextId ≤ Message.maxId) (next : after.nextId = session.nextId + 1) :
    session.Counts session.allotted after := by
  have one : session.allotted = [session.nextId] := if_pos ⟨live, left⟩
  rw [one]
  exact .counted left next

theorem Posts.counts {op : Operation} {controls : List Control} {timeout : Nat}
    {result : Except Error Handle} {after : Session}
    (posted : session.Posts op controls timeout result after) : session.Counts session.allotted after := by
  cases posted with
  | refused _ _ refused => exact counts_refused refused
  | exhausted _ none => exact counts_exhausted none rfl
  -- The number is used up, even though the waiter is dropped again.
  | failed _ _ live left sends => exact counts_allotted live left sends.nextId
  | posted _ live left sends => exact counts_allotted live left sends.nextId

theorem GivesUp.counts {target : MessageId} {result : Except Error Unit} {after : Session}
    (given : session.GivesUp target result after) : session.Counts session.allotted after := by
  cases given with
  | refused _ _ refused => exact counts_refused refused
  | exhausted _ none => exact counts_exhausted none rfl
  | told _ _ live left sends => exact counts_allotted live left sends.nextId

theorem Secures.counts {upgrade : Upgrade} {result : Securing} {after : Session}
    (secured : session.Secures upgrade result after) :
    session.Counts ((Step.secure upgrade).issued session) after := by
  have asked {later : Session} (untouched : session.IsUntouched)
      (next : later.nextId = session.askedSecurity.nextId) :
      session.Counts ((Step.secure upgrade).issued session) later := by
    rw [Step.issued, if_pos untouched]
    exact .counted untouched.left next
  cases secured with
  | refused _ _ refused =>
    rw [Step.issued, if_neg refused.not_untouched]
    exact .still refused.nextId
  | untimely _ touched =>
    rw [Step.issued, if_neg touched]
    exact .still rfl
  | unanswered _ untouched => exact asked untouched (nextId_terminate _ _)
  | declined _ _ untouched => exact asked untouched rfl
  | failed _ _ untouched => exact asked untouched (nextId_terminate _ _)
  | secured _ _ untouched => exact asked untouched rfl

theorem counts_number : session.Counts (Step.number.issued session) (nextRequestId.run session).2 := by
  rw [Step.issued]
  by_cases left : session.nextId ≤ Message.maxId
  · rw [nextRequestId_left left]
    exact .counted left rfl
  · rw [nextRequestId_exhausted (UInt32.not_le.mp left)]
    exact .still rfl

theorem counts_close : session.Counts (Step.close.issued session) session.close := by
  have ended (told : Session) : Session.nextId { told.terminate .closed with identity := none }.release =
      told.nextId := by
    rw [nextId_release]
    exact nextId_terminate told .closed
  rw [Step.issued, Session.close]
  by_cases held : session.holdsTransport = true
  · rw [if_pos held, if_pos held]
    by_cases live : session.phase.isLive = true
    · rw [if_pos live, sayGoodbye]
      by_cases left : session.nextId ≤ Message.maxId
      · rw [nextRequestId_left left]
        exact counts_allotted live left (ended _)
      · have exhausted := UInt32.not_le.mp left
        rw [nextRequestId_exhausted exhausted]
        exact counts_exhausted exhausted (ended _)
    · have none : session.allotted = [] := if_neg fun ready => live ready.1
      rw [if_neg live, none]
      exact .still (ended _)
  · rw [if_neg held, if_neg held]
    exact .still rfl

theorem Step.counts (step : Step) (session : Session) :
    session.Counts (step.issued session) (step.perform session) := by
  cases step with
  | arrive actions => exact .still rfl
  | takeIn => exact .still (nextId_takeIn session)
  | number => exact counts_number
  | post op controls timeout => exact (post_cases session op controls timeout).counts
  | receive handle => exact .still (receive_cases session handle).nextId
  | drop id => exact .still rfl
  | giveUp target => exact (giveUp_cases session target).counts
  | settle name outcome =>
    apply Counts.still
    dsimp only [perform]
    split
    · rfl
    · exact nextId_finishBind name outcome
  | secure upgrade => exact (startSecurity_cases session upgrade).counts
  | close => exact counts_close

/-- The numbers of a run rise, and none lies outside of the range. -/
theorem issued_rises (steps : List Step) (session : Session) :
    (issued steps session).Pairwise (· < ·) ∧
      ∀ id ∈ issued steps session, session.nextId ≤ id ∧ id ≤ Message.maxId := by
  induction steps generalizing session with
  | nil => exact ⟨.nil, by simp [issued, along]⟩
  | cons step rest ih =>
    obtain ⟨rises, within⟩ := ih (step.perform session)
    have counts := step.counts session
    rw [issued, along]
    generalize step.perform session = after at counts rises within ⊢
    generalize step.issued session = first at counts ⊢
    cases counts with
    | still same =>
      rw [same] at within
      exact ⟨rises, within⟩
    | counted left next =>
      rw [next] at within
      -- All that is given out later lies above the number that is given out now.
      constructor
      · rw [List.singleton_append, List.pairwise_cons]
        refine ⟨fun id member => ?_, rises⟩
        exact UInt32.lt_of_lt_of_le (nextId_lt_succ left) (within id member).1
      · intro id member
        rcases List.mem_cons.mp member with rfl | later
        · exact ⟨UInt32.le_refl _, left⟩
        · obtain ⟨above, below⟩ := within id later
          exact ⟨UInt32.le_trans (nextId_le_succ left) above, below⟩

/-- The numbers that are waited for, and those that were and whose handles are not dropped. -/
def ids (session : Session) : List MessageId := session.waiters.map Waiter.id

theorem Continues.ids {before after : Session} (continues : before.Continues after) :
    after.ids = before.ids := by
  cases continues with
  | same _ _ _ waiters => rw [Session.ids, waiters, Session.ids]
  | ended _ _ _ _ closed =>
    rw [Session.ids, closed, List.map_map]
    rfl

theorem ids_updateWaiter {id : MessageId} {change : Waiter → Waiter}
    (named : ∀ waiter, (change waiter).id = waiter.id) :
    (session.updateWaiter id change).ids = session.ids := by
  unfold ids updateWaiter
  rw [List.map_map]
  apply List.map_congr_left
  intro waiter _
  dsimp only [Function.comp]
  split
  · exact named waiter
  · rfl

theorem ids_takeIn (session : Session) : session.takeIn.ids = session.ids := by
  fun_induction takeIn session with
  | case1 session _ message transport _ ih => exact ih.trans (ids_updateWaiter (id_take message))
  | case2 session _ reason transport _ =>
    have taken : session.Continues { session with transport } := continues_transport transport
    exact (taken.trans (continues_stop reason)).ids
  | case3 => rfl
  | case4 => rfl

theorem ids_dropHandle (session : Session) (id : MessageId) :
    (session.dropHandle id).ids = session.ids.filter (· != id) := by
  unfold ids dropHandle
  rw [List.filter_map]
  rfl

theorem ids_opened (session : Session) :
    session.opened.ids = session.ids.filter (· != session.nextId) ++ [session.nextId] := by
  have others := ids_dropHandle session session.nextId
  unfold ids at others ⊢
  rw [← others, opened, register, List.map_append]
  rfl

theorem Posts.ids {op : Operation} {controls : List Control} {timeout : Nat}
    {result : Except Error Handle} {after : Session}
    (posted : session.Posts op controls timeout result after) :
    after.ids.Sublist (session.ids ++ result.toOption.toList.map Handle.id) := by
  cases posted with
  | refused _ _ refused =>
    rw [refused.continues.ids]
    exact List.sublist_append_left _ _
  | exhausted => exact List.sublist_append_left _ _
  -- The waiter that was made for the request is gone again, and with it any other of its number.
  | failed _ sent _ _ sends =>
    rw [ids_dropHandle, sends.continues.ids, ids_opened, List.filter_append, List.filter_filter]
    apply List.Sublist.append List.filter_sublist
    simp
  | posted _ _ _ sends =>
    rw [sends.continues.ids, ids_opened]
    exact List.filter_sublist.append_right _

theorem GivesUp.ids {target : MessageId} {result : Except Error Unit} {after : Session}
    (given : session.GivesUp target result after) : after.ids = session.ids := by
  rcases given.continues with ⟨_, refused⟩ | ⟨_, forgotten⟩
  · exact refused.ids
  · exact forgotten.ids.trans (ids_updateWaiter fun _ => rfl)

theorem Receives.ids {handle : Handle} {result : Except Error Message} {after : Session}
    (received : session.Receives handle result after) : after.ids = session.ids := by
  cases received with
  | message => exact ids_updateWaiter fun _ => rfl
  | timedOut => exact ids_updateWaiter fun _ => rfl
  | spent => rfl

/-- Only a handle that is handed out makes a step wait for a number. -/
theorem Step.waits (step : Step) (session : Session) :
    (step.perform session).ids.Sublist (session.ids ++ (step.handed session).map Handle.id) := by
  have still {after : Session} (same : after.ids = session.ids) : after.ids.Sublist (session.ids ++ []) := by
    rw [same]
    exact List.sublist_append_left _ _
  cases step with
  | arrive actions => exact still rfl
  | takeIn => exact still (ids_takeIn session)
  | number => exact still continues_number.ids
  | post op controls timeout => exact (post_cases session op controls timeout).ids
  | receive handle => exact still (receive_cases session handle).ids
  | drop id =>
    rw [perform, ids_dropHandle]
    exact List.filter_sublist.trans (List.sublist_append_left _ _)
  | giveUp target => exact still (giveUp_cases session target).ids
  | settle name outcome => exact still (continues_settle name outcome).ids
  | secure upgrade => exact still (startSecurity_cases session upgrade).continues.ids
  | close => exact still continues_close.ids

theorem run_waits (steps : List Step) (session : Session) :
    (run steps session).ids.Sublist (session.ids ++ (handed steps session).map Handle.id) := by
  induction steps generalizing session with
  | nil => exact List.sublist_append_left _ _
  | cons step rest ih =>
    have later := (ih (step.perform session)).trans ((step.waits session).append_right _)
    rw [List.append_assoc, ← List.map_append] at later
    exact later

theorem IsNew.ids {start : Session} (new : start.IsNew) : start.ids = [] := by
  obtain ⟨transport, config, rfl | rfl⟩ := new <;> rfl

theorem IsNew.nextId {start : Session} (new : start.IsNew) : start.nextId = 1 := by
  obtain ⟨transport, config, rfl | rfl⟩ := new <;> rfl

/-- The frames of a run are those of its messages, as they are seen on the transport. Their numbers are
among those that were given out, which rise from one on, whether or not anything is written under them. Each
handle has the number of a message of its own, each waiter that of a handle of its own, and dropping one
handle does nothing to the waiter of another. -/
theorem numbers_given_once {start : Session} (new : start.IsNew) (steps : List Step) :
    (∀ done step rest, steps = done ++ step :: rest → step.Shows (run done start)) ∧
      frames steps start = (written steps start).map Message.encode ∧
      ((written steps start).map Message.id).Pairwise (· < ·) ∧
      (∀ message ∈ written steps start, 1 ≤ message.id ∧ message.id ≤ Message.maxId) ∧
      ((written steps start).map Message.id).Sublist (issued steps start) ∧
      (issued steps start).Pairwise (· < ·) ∧
      ((handed steps start).map Handle.id).Sublist ((written steps start).map Message.id) ∧
      (run steps start).ids.Nodup ∧
      (run steps start).ids.Sublist ((handed steps start).map Handle.id) ∧
      (handed steps start).Pairwise fun one other =>
        one.id ≠ other.id ∧
          ((run steps start).dropHandle one.id).waiter? other.id = (run steps start).waiter? other.id ∧
          ((run steps start).dropHandle other.id).waiter? one.id = (run steps start).waiter? one.id := by
  obtain ⟨rises, within⟩ := issued_rises steps start
  have numbered : ((written steps start).map Message.id).Sublist (issued steps start) := by
    rw [written, map_along]
    exact along_sublist (fun session step => step.writes_issued session) steps start
  have answered : ((handed steps start).map Handle.id).Sublist ((written steps start).map Message.id) := by
    rw [written, handed, map_along, map_along]
    exact along_sublist (fun session step => step.handed_writes session) steps start
  have waits : (run steps start).ids.Sublist ((handed steps start).map Handle.id) := by
    simpa only [new.ids, List.nil_append] using run_waits steps start
  have distinct {numbers : List MessageId} (part : numbers.Sublist (issued steps start)) :
      numbers.Pairwise (· ≠ ·) := (rises.sublist part).imp UInt32.ne_of_lt
  refine ⟨?_, frames_eq_map_encode steps start, rises.sublist numbered, ?_, numbered, rises, answered,
    distinct (waits.trans (answered.trans numbered)), waits, ?_⟩
  · intro done step rest _
    exact step.shows (new.isSound_run done)
  · intro message member
    have inside := within message.id (numbered.subset (List.mem_map_of_mem member))
    rwa [new.nextId] at inside
  · have apart := List.pairwise_map.mp (distinct (answered.trans numbered))
    apply apart.imp
    intro one other different
    exact ⟨different, waiter?_dropHandle_ne different.symm, waiter?_dropHandle_ne different⟩

def scattered : List Step :=
  [.post (.deleteRequest .root) [] 10, .post (.deleteRequest .root) [] 10, .receive ⟨1, 10⟩, .drop 1,
    .number, .giveUp 2, .close]

theorem numbers_scattered :
    (establish {} {}).IsNew ∧ issued scattered (establish {} {}) = [1, 2, 3, 4, 5] ∧
      (written scattered (establish {} {})).map Message.id = [1, 2, 4, 5] ∧
      handed scattered (establish {} {}) = [⟨1, 10⟩, ⟨2, 10⟩] ∧
      (run scattered (establish {} {})).ids = [2] ∧
      ((run scattered (establish {} {})).dropHandle 1).waiter? 2 =
        (run scattered (establish {} {})).waiter? 2 := by
  have new : (establish {} {}).IsNew := ⟨{}, {}, .inr rfl⟩
  have handles : handed scattered (establish {} {}) = [⟨1, 10⟩, ⟨2, 10⟩] := by decide +kernel
  obtain ⟨_, _, _, _, _, _, _, _, _, apart⟩ := numbers_given_once new scattered
  rw [handles] at apart
  have kept := (List.pairwise_cons.mp apart).1 ⟨2, 10⟩ (by decide)
  exact ⟨new, by decide +kernel, by decide +kernel, handles, by decide +kernel, kept.2.1⟩

/-- A request that cannot be written uses its number up, and the session goes on to the next one. -/
example :
    let unreadable := establish { readerFailure := some "no handle" } {}
    issued [.post (.deleteRequest .root) [] 10, .close] unreadable = [1, 2] ∧
      (written [.post (.deleteRequest .root) [] 10, .close] unreadable).map Message.id = [2] := by
  decide +kernel

end Directory.Session
