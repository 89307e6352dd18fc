import Directory.Proofs.Session.Course
/-!
Requests that are waited for. A request is waited for from its registration until something ends the wait,
which can be read off the history. Operations leave nothing behind that they would have waited for.
-/
namespace Directory

def Event.closes (id : MessageId) : Event → Bool
  | processed message => message.id == id && message.op.isFinal
  | timedOut other | abandoned other => other == id
  | ended => true
  | registered _ | returned _ _ | dropped _ => false

namespace History

/-- The caller has the handle of the request, and the answer to it may still come. -/
structure Awaits (id : MessageId) (history : History) : Prop where
  held : history.IsHeld id
  unanswered : ∀ message, .processed message ∈ history.since id → message.id = id →
    message.op.isFinal = false
  patient : .timedOut id ∉ history.since id
  wanted : .abandoned id ∉ history.since id
  going : .ended ∉ history.since id

variable {id : MessageId}

theorem awaits_iff {history : History} : history.Awaits id ↔
    history.IsHeld id ∧ ∀ event ∈ history.since id, event.closes id = false := by
  constructor
  · rintro ⟨held, unanswered, patient, wanted, going⟩
    refine ⟨held, fun event member => ?_⟩
    cases event with
    | processed message =>
      by_cases mine : message.id = id
      · simp [Event.closes, unanswered message member mine]
      · simp [Event.closes, mine]
    | timedOut other =>
      have different : other ≠ id := fun same => patient (same ▸ member)
      simp [Event.closes, different]
    | abandoned other =>
      have different : other ≠ id := fun same => wanted (same ▸ member)
      simp [Event.closes, different]
    | ended => exact absurd member going
    | registered | returned | dropped => rfl
  · rintro ⟨held, open_⟩
    constructor
    · exact held
    · intro message member mine
      have unclosed := open_ _ member
      simpa [Event.closes, mine] using unclosed
    · intro member
      have unclosed := open_ _ member
      simp [Event.closes] at unclosed
    · intro member
      have unclosed := open_ _ member
      simp [Event.closes] at unclosed
    · intro member
      have unclosed := open_ _ member
      simp [Event.closes] at unclosed

theorem registered_of_mem_since {history : History} {event : Event} (member : event ∈ since id history) :
    .registered id ∈ history := by
  induction history with
  | nil => cases member
  | cons first rest ih =>
    unfold since at member
    split at member
    · next same => exact same ▸ List.mem_cons_self
    · exact List.mem_cons_of_mem first (ih member)

theorem since_append_of_mem {early : History} (known : .registered id ∈ early) (late : History) :
    since id (early ++ late) = since id early ++ late := by
  induction early with
  | nil => cases known
  | cons event rest ih =>
    by_cases first : event = .registered id
    · simp [since, first]
    · have later : .registered id ∈ rest := by simpa [Ne.symm first] using known
      simp [since, first, ih later]

end History

namespace View

variable {id : MessageId}

theorem awaits_next {view : View} (registered : view.isRegistered = true) (event : Event) :
    (view.next id event).awaits = (view.awaits && !event.closes id) := by
  cases event with
  | processed message =>
    by_cases mine : message.id = id
    · cases waiting : view.awaits <;> simp [next, Event.closes, mine, waiting]
    · simp [next, Event.closes, mine]
  | timedOut other | abandoned other =>
    by_cases mine : other = id <;> simp [next, Event.closes, mine]
  | registered other => simp [next, Event.closes, registered]
  | returned other message =>
    by_cases mine : other = id <;> simp [next, Event.closes, mine]
  | dropped other => simp [next, Event.closes, registered, apply_ite]
  | ended => simp [next, Event.closes]

theorem awaits_foldl {view : View} (registered : view.isRegistered = true) (history : History) :
    (history.foldl (next id) view).awaits = true ↔
      view.awaits = true ∧ ∀ event ∈ history, event.closes id = false := by
  induction history generalizing view with
  | nil => simp
  | cons event later ih =>
    have still : (view.next id event).isRegistered = true :=
      (isRegistered_foldl view [event]).mpr (.inl registered)
    rw [List.foldl_cons, ih still, awaits_next registered, List.forall_mem_cons]
    simp [and_assoc]

theorem awaits_foldl_unregistered {view : View} (unregistered : view.isRegistered = false)
    (closed : view.awaits = false) (history : History) :
    (history.foldl (next id) view).awaits = true ↔
      .registered id ∈ history ∧ ∀ event ∈ history.since id, event.closes id = false := by
  induction history generalizing view with
  | nil => simp [closed]
  | cons event later ih =>
    rw [List.foldl_cons, History.since]
    -- Up to the registration nothing is awaited, from then on until something closes it.
    by_cases first : event = .registered id
    · subst first
      rw [awaits_foldl (by simp [next, unregistered]), if_pos rfl]
      simp [next, unregistered]
    · have kept : (view.next id event).isRegistered = false ∧ (view.next id event).awaits = false := by
        cases event <;> grind [next]
      rw [ih kept.1 kept.2, if_neg first, List.mem_cons, or_iff_right (Ne.symm first)]

theorem awaits_after (id : MessageId) (history : History) :
    (after id history).awaits = true ↔
      .registered id ∈ history ∧ ∀ event ∈ history.since id, event.closes id = false :=
  awaits_foldl_unregistered rfl rfl history

end View

namespace Session

variable {session : Session} {id : MessageId}

/-- An event of a run is one of its steps', and what happened before it are the events of the steps before and
some of that step's own. -/
theorem exists_step_of_history_eq {steps : List Step} {early late : History} {event : Event}
    (split : history steps session = early ++ event :: late) :
    ∃ done step rest now later, steps = done ++ step :: rest ∧ early = history done session ++ now ∧
      step.events (run done session) = now ++ event :: later := by
  induction steps generalizing session early with
  | nil => simp [history] at split
  | cons step rest ih =>
    rw [history] at split
    rcases List.append_eq_append_iff.mp split with ⟨between, rfl, others⟩ | ⟨between, whole, others⟩
    · obtain ⟨done, other, last, now, later, rfl, rfl, found⟩ := ih others
      exact ⟨step :: done, other, last, now, later, rfl, by simp [history], found⟩
    · cases between with
      | nil =>
        have onwards : history rest (step.perform session) = [] ++ event :: late := others.symm
        obtain ⟨done, other, last, now, later, rfl, before, found⟩ := ih onwards
        refine ⟨step :: done, other, last, now, later, rfl, ?_, found⟩
        rw [List.append_nil] at whole
        rw [history, List.append_assoc, ← before, List.append_nil, whole]
      | cons first more =>
        obtain ⟨rfl, -⟩ := List.cons.inj others
        exact ⟨[], step, rest, early, more, rfl, rfl, whole⟩

theorem exists_step_of_mem_history {steps : List Step} {event : Event}
    (member : event ∈ history steps session) :
    ∃ done step rest, steps = done ++ step :: rest ∧ event ∈ step.events (run done session) := by
  obtain ⟨early, late, split⟩ := List.append_of_mem member
  obtain ⟨done, step, rest, now, later, whole, -, events⟩ := exists_step_of_history_eq split
  exact ⟨done, step, rest, whole, by simp [events]⟩

theorem history_append (first second : List Step) (session : Session) :
    history (first ++ second) session = history first session ++ history second (run first session) := by
  induction first generalizing session with
  | nil => rfl
  | cons step rest ih =>
    rw [List.cons_append, history, history, ih, List.append_assoc]
    rfl

theorem Step.mem_events {step : Step} {event : Event} (lasting : event ≠ .ended) :
    event ∈ step.events session ↔ event ∈ step.marks session := by
  have other : event ∉ session.endings (step.perform session) := by
    unfold endings
    split <;> simp [lasting]
  rw [Step.events, List.mem_append, or_iff_left other]

theorem Step.eq_of_dropped {step : Step} (member : .dropped id ∈ step.events session) : step = .drop id := by
  rw [mem_events (by simp)] at member
  cases step with
  | drop other => simpa [marks, eq_comm] using member
  | takeIn | post | receive | giveUp =>
    simp only [marks] at member
    grind
  | _ => cases member

theorem Step.eq_of_abandoned {step : Step} (member : .abandoned id ∈ step.events session) :
    step = .giveUp id := by
  rw [mem_events (by simp)] at member
  cases step with
  | takeIn | post | receive | giveUp | drop =>
    simp only [marks] at member
    grind
  | _ => cases member

theorem Step.exists_of_timedOut {step : Step} (member : .timedOut id ∈ step.events session) :
    ∃ timeout, step = .receive ⟨id, timeout⟩ := by
  rw [mem_events (by simp)] at member
  cases step with
  | receive handle =>
    obtain ⟨other, timeout⟩ := handle
    simp only [marks] at member
    grind
  | takeIn | post | giveUp | drop =>
    simp only [marks] at member
    grind
  | _ => cases member

theorem Step.of_registered {step : Step} (member : .registered id ∈ step.events session) :
    session.nextId = id := by
  rw [mem_events (by simp)] at member
  cases step with
  | post op controls timeout =>
    have posted := post_cases session op controls timeout
    simp only [marks] at member
    generalize ((Session.post op controls timeout).run session).1 = result at posted member
    generalize ((Session.post op controls timeout).run session).2 = after at posted
    cases posted with
    | posted => simpa [eq_comm] using member
    | _ => cases member
  | takeIn | receive | giveUp | drop =>
    simp only [marks] at member
    grind
  | _ => cases member

theorem handed_ids {handle : Handle} {step : Step} (given : handle ∈ step.handed session) :
    session.nextId = handle.id := by
  cases step with
  | post op controls timeout =>
    have posted := post_cases session op controls timeout
    dsimp only [Step.handed] at given
    generalize (Session.post op controls timeout).run session = outcome at posted given
    obtain ⟨result, after⟩ := outcome
    cases posted with
    | posted => cases List.mem_singleton.mp given; rfl
    | _ => cases given
  | _ => cases given

/-- A number that is given out is never waited for again once it is not. -/
theorem Step.not_mem_ids {step : Step} (issued : id < session.nextId) (gone : id ∉ session.ids) :
    id ∉ (step.perform session).ids := by
  intro waited
  rcases List.mem_append.mp ((step.waits session).subset waited) with before | handed
  · exact gone before
  · obtain ⟨handle, given, rfl⟩ := List.mem_map.mp handed
    exact UInt32.ne_of_lt issued (handed_ids given).symm

structure Drops (id : MessageId) (view : View) (session : Session) : Prop where
  tracks : Tracks id view session
  known : view.isDropped = true → view.isRegistered = true
  gone : view.isDropped = true → id ∉ session.ids

theorem Step.drops {view : View} (step : Step) (sound : session.IsSound) (drops : Drops id view session) :
    Drops id ((step.events session).foldl (View.next id) view) (step.perform session) := by
  have either : ((step.events session).foldl (View.next id) view).isDropped = true →
      view.isRegistered = true ∧ (view.isDropped = true ∨ step = .drop id) := by
    intro dropped
    rcases (View.isDropped_foldl _).mp dropped with before | now
    · exact ⟨drops.known before, .inl before⟩
    · split at now
      · next registered => exact ⟨registered, .inr (eq_of_dropped now)⟩
      -- The step would have to register the request as well as drop it.
      · have drop := eq_of_dropped (History.mem_of_mem_since now)
        subst drop
        have both := (mem_events (by simp)).mp (History.registered_of_mem_since now)
        simp [marks] at both
  constructor
  · exact step.tracks sound drops.tracks
  · intro dropped
    exact (View.isRegistered_foldl _ _).mpr (.inl (either dropped).1)
  · intro dropped
    obtain ⟨registered, before | now⟩ := either dropped
    · exact Step.not_mem_ids (drops.tracks.issued registered) (drops.gone before)
    · subst now
      simp [perform, ids_dropHandle]

theorem run_drops {view : View} (steps : List Step) (sound : session.IsSound) (drops : Drops id view session) :
    Drops id ((history steps session).foldl (View.next id) view) (run steps session) := by
  induction steps generalizing session view with
  | nil => exact drops
  | cons step rest ih =>
    rw [history, List.foldl_append]
    exact ih ((step.evolves session).sound sound) (step.drops sound drops)

theorem IsNew.drops {start : Session} (new : start.IsNew) (id : MessageId) : Drops id {} start := by
  constructor
  · exact new.tracks id
  · simp
  · simp

/-- No two waiters of a run have the same number. -/
theorem IsNew.ids_nodup {start : Session} (new : start.IsNew) (steps : List Step) :
    (run steps start).ids.Nodup := by
  have waits := run_waits steps start
  rw [new.ids, List.nil_append] at waits
  have answered : ((handed steps start).map Handle.id).Sublist ((written steps start).map Message.id) := by
    rw [written, handed, map_along, map_along]
    exact along_sublist (fun session step => step.handed_writes session) steps start
  have numbered : ((written steps start).map Message.id).Sublist (issued steps start) := by
    rw [written, map_along]
    exact along_sublist (fun session step => step.writes_issued session) steps start
  exact ((issued_rises steps start).1.sublist (waits.trans (answered.trans numbered))).imp UInt32.ne_of_lt

theorem isPending_iff (distinct : session.ids.Nodup) :
    session.isPending id = true ↔ ∃ waiter, session.waiter? id = some waiter ∧ waiter.isOpen = true := by
  unfold ids at distinct
  unfold isPending waiter?
  generalize session.waiters = waiters at distinct ⊢
  induction waiters with
  | nil => simp
  | cons first rest ih =>
    rw [List.map_cons, List.nodup_cons] at distinct
    have later := ih distinct.2
    by_cases mine : first.id = id
    · subst mine
      have others : rest.any (fun waiter => waiter.id == first.id && waiter.isOpen) = false := by
        rw [List.any_eq_false]
        intro waiter member both
        have same : waiter.id = first.id := by simp_all
        exact distinct.1 (same ▸ List.mem_map_of_mem member)
      simp [others]
    · simpa [mine] using later

theorem mem_ids_of_waiter? {waiter : Waiter} (found : session.waiter? id = some waiter) : id ∈ session.ids :=
  id_of_waiter? found ▸ List.mem_map_of_mem (mem_of_waiter? found)

theorem Drops.isPending_iff {history : History} (drops : Drops id (View.after id history) session)
    (distinct : session.ids.Nodup) : session.isPending id = true ↔ history.Awaits id := by
  have awaits := View.awaits_after id history
  rw [Session.isPending_iff distinct, History.awaits_iff]
  constructor
  · rintro ⟨waiter, found, isOpen⟩
    obtain ⟨_, _, same⟩ := drops.tracks.held waiter found
    obtain ⟨registered, unclosed⟩ := awaits.mp (same ▸ isOpen)
    refine ⟨⟨registered, fun dropped => ?_⟩, unclosed⟩
    have gone : (View.after id history).isDropped = true := (View.isDropped_foldl history).mpr (.inr dropped)
    exact drops.gone gone (mem_ids_of_waiter? found)
  · rintro ⟨held, unclosed⟩
    obtain ⟨waiter, found⟩ := drops.tracks.exists_waiter held
    refine ⟨waiter, found, ?_⟩
    rw [(drops.tracks.held waiter found).2.2]
    exact awaits.mpr ⟨held.1, unclosed⟩

theorem IsNew.isPending_iff {start : Session} (new : start.IsNew) (steps : List Step) (id : MessageId) :
    (run steps start).isPending id = true ↔ (history steps start).Awaits id :=
  (run_drops steps new.isSound (new.drops id)).isPending_iff (new.ids_nodup steps)

/-- Steps that leave the handles from before them alone, and no waiter that was not there before. -/
structure Tidy (before : Session) (steps : List Step) : Prop where
  spares : ∀ step ∈ steps, step.Spares before.nextId
  waits : (run steps before).ids.Sublist before.ids

namespace Tidy

theorem nil (session : Session) : session.Tidy [] := ⟨by simp, .refl _⟩

theorem append {first second : List Step} (early : session.Tidy first)
    (late : (run first session).Tidy second) : session.Tidy (first ++ second) := by
  constructor
  · intro step member
    rcases List.mem_append.mp member with before | after
    · exact early.spares step before
    · exact (late.spares step after).mono (run_evolves first session).numbers
  · rw [run_append]
    exact late.waits.trans early.waits

theorem single {step : Step} (spares : step.Spares session.nextId)
    (same : (step.perform session).ids = session.ids) : session.Tidy [step] := by
  constructor
  · simpa using spares
  · exact same ▸ .refl session.ids

end Tidy

theorem tidy_takeIn (session : Session) : session.Tidy [.takeIn] := .single trivial (ids_takeIn session)

theorem tidy_giveUp (target : MessageId) (session : Session) : session.Tidy [.giveUp target] :=
  .single trivial (giveUp_cases session target).ids

theorem tidy_settle (name : String) (outcome : Outcome) (session : Session) :
    session.Tidy [.settle name outcome] := .single trivial (continues_settle name outcome).ids

theorem tidy_secure (upgrade : Upgrade) (session : Session) : session.Tidy [.secure upgrade] :=
  .single trivial (startSecurity_cases session upgrade).continues.ids

theorem tidy_close (session : Session) : session.Tidy [.close] := .single trivial continues_close.ids

theorem ids_receives {handle : Handle} {steps : List Step} (only : ∀ step ∈ steps, step = .receive handle)
    (session : Session) : (run steps session).ids = session.ids := by
  induction steps generalizing session with
  | nil => rfl
  | cons step rest ih =>
    have first : step = .receive handle := only step List.mem_cons_self
    subst first
    exact (ih (fun step member => only step (List.mem_cons_of_mem _ member)) _).trans
      (receive_cases session handle).ids

/-- A request that was refused leaves no waiter; the handle of one that was sent is dropped. -/
theorem waits_submitSteps {op : Operation} {controls : List Control} {timeout : Nat}
    {reads : Handle → Session → List Step}
    (only : ∀ handle session, ∀ step ∈ reads handle session, step = .receive handle) (session : Session) :
    (run (submitSteps op controls timeout reads session) session).ids.Sublist session.ids := by
  have submitted : run [.post op controls timeout, .takeIn] session =
      ((submit op controls timeout).run session).2 := rfl
  have posted := (post_cases session op controls timeout).ids
  rw [show ((post op controls timeout).run session).1 = ((submit op controls timeout).run session).1 from rfl,
    ← ids_takeIn, show ((post op controls timeout).run session).2.takeIn =
      ((submit op controls timeout).run session).2 from rfl] at posted
  unfold submitSteps
  cases outcome : (submit op controls timeout).run session with
  | mk result after =>
    rw [outcome] at submitted posted
    cases result with
    | error error =>
      change (run [.post op controls timeout, .takeIn] session).ids.Sublist session.ids
      rw [submitted]
      simpa [Except.toOption] using posted
    | ok handle =>
      obtain ⟨mine, _⟩ := submit_ok_id outcome
      change (run ([.post op controls timeout, .takeIn] ++ (reads handle after ++ [.drop handle.id]))
        session).ids.Sublist session.ids
      rw [run_append, submitted, run_append]
      have kept := ids_receives (only handle after) after
      have dropped : (run [.drop handle.id] (run (reads handle after) after)).ids =
          after.ids.filter (· != handle.id) := by
        rw [← kept]
        exact ids_dropHandle _ handle.id
      rw [dropped]
      -- The one waiter that was added is the one that is dropped.
      have part := posted.filter (· != handle.id)
      simp only [Except.toOption, Option.toList, List.map_cons, List.map_nil, List.filter_append,
        List.filter_cons, bne_self_eq_false, Bool.false_eq_true, if_false, List.filter_nil,
        List.append_nil] at part
      exact part.trans List.filter_sublist

/-- A request reads and drops no handle but its own. -/
theorem tidy_submitSteps {op : Operation} {controls : List Control} {timeout : Nat}
    {reads : Handle → Session → List Step}
    (only : ∀ handle session, ∀ step ∈ reads handle session, step = .receive handle) (session : Session) :
    session.Tidy (submitSteps op controls timeout reads session) := by
  refine ⟨fun step member => ?_, waits_submitSteps only session⟩
  rcases mem_submitSteps member with rfl | rfl | ⟨handle, after, submitted, reading | rfl⟩
  · trivial
  · trivial
  · rw [only handle after step reading]
    exact UInt32.le_of_eq (submit_ok_id submitted).1.symm
  · exact UInt32.le_of_eq (submit_ok_id submitted).1.symm

theorem Request.tidy (request : Request) (session : Session) : session.Tidy (request.steps session) := by
  cases request with
  | exchange op controls timeout =>
    apply tidy_submitSteps
    simp
  | search timeout request controls => exact tidy_submitSteps gatherSteps_receives session
  | abandon target => exact (tidy_giveUp target session).append (tidy_takeIn _)

/-- What the course of an operation is made of: requests of some kind, and the ends of binds. -/
inductive Course (made : Request → Prop) : Session → List Step → Prop where
  | nil (session : Session) : Course made session []
  | request {request : Request} (session : Session) : made request → Course made session (request.steps session)
  | settle (session : Session) (name : String) (outcome : Outcome) :
      Course made session [.settle name outcome]
  | append {session : Session} {first second : List Step} : Course made session first →
      Course made (run first session) second → Course made session (first ++ second)

variable {made : Request → Prop}

theorem course_requestSteps {request : Option Request} (each : ∀ asked, request = some asked → made asked)
    (session : Session) : Course made session (requestSteps session request) := by
  cases request with
  | none => exact .nil session
  | some asked => exact .request session (each asked rfl)

theorem course_settling (session : Session) (verdict : Option Verdict) :
    Course made session (settling verdict) := by
  cases verdict with
  | none => exact .nil session
  | some verdict => exact .settle session _ _

theorem course_simpleBindSteps (binds : ∀ config name credentials, made (bindRequest config name credentials))
    (name password : String) (session : Session) : Course made session (simpleBindSteps name password session) :=
  .append (.request session (binds _ _ _)) (course_settling _ _)

theorem course_roundsSteps (binds : ∀ config name credentials, made (bindRequest config name credentials))
    (mechanism : Mechanism) (challenges : List Octets) (response : Option Octets) (session : Session) :
    Course made session (roundsSteps mechanism challenges response session) := by
  fun_induction saslRounds mechanism challenges response session with
  | case1 _ _ session _ _ failed =>
    rw [roundsSteps_failed failed]
    exact .request session (binds _ _ _)
  | case2 _ _ session _ _ _ answered going _ _ refused =>
    rw [roundsSteps_answered answered, if_pos going, refused]
    exact .append (.request session (binds _ _ _)) (.nil _)
  | case3 _ _ session _ _ _ answered going _ _ accepted ih =>
    rw [roundsSteps_answered answered, if_pos going, accepted]
    apply Course.append (.request session (binds _ _ _))
    rw [run_bindRequest, answered]
    exact ih
  | case4 _ _ session _ _ _ answered final =>
    rw [roundsSteps_answered answered, if_neg final]
    exact .append (.request session (binds _ _ _)) (course_settling _ _)

theorem course_pages (searches : ∀ timeout request controls, made (.search timeout request controls))
    (entries : PagedEntries) (session : Session) : Course made session (entries.steps session) := by
  have asked (entries : PagedEntries) (session : Session) :
      Course made session (requestSteps session entries.request?) := by
    apply course_requestSteps
    intro request same
    obtain ⟨cookie, _, rfl⟩ := Option.map_eq_some_iff.mp same
    exact searches _ _ _
  fun_induction PagedEntries.next entries session with
  | case1 entries session entry rest buffered =>
    rw [PagedEntries.steps, if_pos (.inl (by simp [buffered]))]
    exact .nil session
  | case2 entries session empty spent =>
    rw [PagedEntries.steps, if_pos (.inr (by simpa using spent))]
    exact .nil session
  | case3 entries session empty going error after failed =>
    rw [PagedEntries.steps_failed empty going failed]
    exact asked entries session
  | case4 entries session empty going page cursor after fetched ih =>
    rw [PagedEntries.steps_fetched empty going fetched]
    apply Course.append (asked entries session)
    rw [entries.run_fetch, fetched]
    exact ih

/-- The only request of an act that is no question is to give up the request that the act is about. -/
theorem Act.course {act : Act} (whole : ∀ taken, act ≠ .step taken) (session : Session) :
    Course (fun request => ∀ target, request = .abandon target → act = .call (.abandon target)) session
      (act.steps session) := by
  have binds (config : Config) (name : String) (credentials : Credentials) (target : MessageId) :
      bindRequest config name credentials = .abandon target → act = .call (.abandon target) := by
    intro same
    cases same
  have queries (timeout : Nat) (query : Query) (request : Request)
      (asked : query.request? timeout = some request) (target : MessageId) :
      request = .abandon target → act = .call (.abandon target) := by
    rintro rfl
    exact absurd asked Query.request?_ne_abandon
  cases act with
  | step taken => exact absurd rfl (whole taken)
  | query timeout asked => exact course_requestSteps (queries timeout asked) session
  | simpleBind name password => exact course_simpleBindSteps binds name password session
  | saslBind mechanism =>
    rw [steps, saslSteps]
    cases mechanism.initial with
    | error error => exact .nil session
    | ok response => exact course_roundsSteps binds mechanism [] response session
  | pagedSearch => exact .nil session
  | next entries =>
    apply course_pages
    intro _ _ _ _ same
    cases same
  | call called =>
    by_cases bind : ∃ name password, called = .bind name password
    · obtain ⟨name, password, rfl⟩ := bind
      rw [steps]
      split
      · exact .nil session
      · exact course_simpleBindSteps binds name password session
    · have other : ∀ name password, called ≠ .bind name password :=
        fun name password same => bind ⟨name, password, same⟩
      rw [steps_call other]
      apply course_requestSteps
      rintro _ asked target rfl
      rw [Client.Call.eq_abandon asked]

theorem Course.tidy {steps : List Step} (course : Course made session steps) : session.Tidy steps := by
  induction course with
  | nil session => exact .nil session
  | request session _ => exact Request.tidy _ session
  | settle session name outcome => exact tidy_settle name outcome session
  | append _ _ early late => exact early.append late

theorem not_mem_submitSteps {op : Operation} {controls : List Control} {timeout : Nat}
    {reads : Handle → Session → List Step}
    (only : ∀ handle session, ∀ step ∈ reads handle session, step = .receive handle) (target : MessageId) :
    .giveUp target ∉ submitSteps op controls timeout reads session := by
  intro member
  rcases mem_submitSteps member with same | same | ⟨handle, after, _, reading | same⟩
  · cases same
  · cases same
  · cases only handle after _ reading
  · cases same

/-- A course gives nothing up that none of its requests is about. -/
theorem Course.of_giveUp {steps : List Step} {target : MessageId} (course : Course made session steps)
    (member : .giveUp target ∈ steps) : made (.abandon target) := by
  induction course with
  | nil => cases member
  | settle => simp at member
  | append _ _ early late =>
    rcases List.mem_append.mp member with before | after
    · exact early before
    · exact late after
  | request session asked =>
    rename_i request
    cases request with
    | exchange op controls timeout => exact absurd member (not_mem_submitSteps (by simp) target)
    | search timeout request controls => exact absurd member (not_mem_submitSteps gatherSteps_receives target)
    | abandon other =>
      obtain rfl : target = other := by simpa [Request.steps] using member
      exact asked

namespace Act

def IsOperation : Act → Prop
  | step (.secure _) | step .close => True
  | step _ => False
  | _ => True

theorem tidy {act : Act} (operation : act.IsOperation) (session : Session) :
    session.Tidy (act.steps session) := by
  by_cases whole : ∃ taken, act = .step taken
  · obtain ⟨taken, rfl⟩ := whole
    cases taken with
    | secure upgrade => exact tidy_secure upgrade session
    | close => exact tidy_close session
    | _ => cases operation
  · exact (course (fun taken same => whole ⟨taken, same⟩) session).tidy

theorem eq_abandon {act : Act} (operation : act.IsOperation) {target : MessageId}
    (member : .giveUp target ∈ act.steps session) : act = .call (.abandon target) := by
  by_cases whole : ∃ taken, act = .step taken
  · obtain ⟨taken, rfl⟩ := whole
    obtain rfl : .giveUp target = taken := by simpa [steps] using member
    cases operation
  · exact (course (fun taken same => whole ⟨taken, same⟩) session).of_giveUp member target rfl

end Act

/-- The events of tidy steps do not drop an earlier handle, and no wait on one runs out. -/
theorem Tidy.undisturbed {steps : List Step} (tidy : session.Tidy steps) (earlier : id < session.nextId) :
    .dropped id ∉ history steps session ∧ .timedOut id ∉ history steps session := by
  constructor
  · intro member
    obtain ⟨done, step, rest, rfl, now⟩ := exists_step_of_mem_history member
    have spares := tidy.spares step (by simp)
    rw [Step.eq_of_dropped now] at spares
    exact UInt32.not_le.mpr earlier spares
  · intro member
    obtain ⟨done, step, rest, rfl, now⟩ := exists_step_of_mem_history member
    have spares := tidy.spares step (by simp)
    obtain ⟨timeout, same⟩ := Step.exists_of_timedOut now
    rw [same] at spares
    exact UInt32.not_le.mpr earlier spares

theorem isPending_of_not_mem_ids (gone : id ∉ session.ids) : session.isPending id = false := by
  rw [Session.isPending, List.any_eq_false]
  intro waiter member both
  have same : waiter.id = id := by simp_all
  exact gone (same ▸ List.mem_map_of_mem member)

/-- A request from before stays pending over tidy steps unless one of their events ends the wait for it. -/
theorem IsNew.isPending_tidy {start : Session} (new : start.IsNew) {done steps : List Step}
    (tidy : (run done start).Tidy steps) (earlier : id < (run done start).nextId) :
    (run steps (run done start)).isPending id = true ↔
      (run done start).isPending id = true ∧
        ∀ event ∈ history steps (run done start), event.closes id = false := by
  obtain ⟨kept, _⟩ := tidy.undisturbed earlier
  rw [← run_append, new.isPending_iff, new.isPending_iff, history_append, History.awaits_iff,
    History.awaits_iff, History.IsHeld, History.IsHeld]
  by_cases registered : .registered id ∈ history done start
  · rw [History.since_append_of_mem registered]
    simp only [List.mem_append, registered, kept, or_false, true_or, true_and, or_imp, forall_and, and_assoc]
  -- A request that comes later has a number of its own.
  · have never : .registered id ∉ history steps (run done start) := by
      intro member
      obtain ⟨before, step, rest, rfl, now⟩ := exists_step_of_mem_history member
      have numbers := (run_evolves before (run done start)).numbers
      rw [Step.of_registered now] at numbers
      exact UInt32.not_le.mpr earlier numbers
    simp [registered, never]

/-- A request is pending if and only if its handle is held and nothing has ended the wait for it. An operation
leaves none of its own requests pending. Of the requests from before it, it leaves pending all but those for
which the wait ended meanwhile: they were answered in full or the session ended, unless the operation was to
give up that very request. -/
theorem pending_without_leaks {start session : Session} (new : start.IsNew) (steps : List Step)
    (reached : run steps start = session) :
    (∀ id, session.isPending id = true ↔ (history steps start).Awaits id) ∧
      ∀ act : Act, act.IsOperation →
        run (act.steps session) session = act.perform session ∧
        (∀ id, session.nextId ≤ id → (act.perform session).isPending id = false) ∧
        ∀ id < session.nextId,
          ((act.perform session).isPending id = true ↔
            session.isPending id = true ∧
              ∀ event ∈ history (act.steps session) session, event.closes id = false) ∧
          .dropped id ∉ history (act.steps session) session ∧
          .timedOut id ∉ history (act.steps session) session ∧
          (.abandoned id ∈ history (act.steps session) session → act = .call (.abandon id)) := by
  subst reached
  refine ⟨new.isPending_iff steps, fun act operation => ?_⟩
  have tidy := act.tidy operation (run steps start)
  refine ⟨act.run_steps _, ?_, ?_⟩
  · intro id later
    apply isPending_of_not_mem_ids
    intro waited
    rw [← act.run_steps] at waited
    obtain ⟨waiter, member, rfl⟩ := List.mem_map.mp (tidy.waits.subset waited)
    have sound := new.isSound_run steps
    exact UInt32.not_le.mpr (sound.numbered waiter member) later
  · intro id earlier
    obtain ⟨kept, patient⟩ := tidy.undisturbed earlier
    refine ⟨?_, kept, patient, ?_⟩
    · rw [← act.run_steps]
      exact new.isPending_tidy tidy earlier
    · intro member
      obtain ⟨done, step, rest, split, now⟩ := exists_step_of_mem_history member
      have given := Step.eq_of_abandoned now
      subst given
      apply Act.eq_abandon operation
      rw [split]
      simp

def halfAnswered : List Step :=
  [.post (.deleteRequest .root) [] 10, .post (.deleteRequest .root) [] 10,
    .arrive [.message (some 2) (.deleteResponse ⟨.success, "", "", []⟩) []], .takeIn]

theorem pending_halfAnswered :
    (establish {} {}).IsNew ∧
      (history halfAnswered (establish {} {})).Awaits 1 ∧ ¬(history halfAnswered (establish {} {})).Awaits 2 ∧
      (Act.query 10 (.delete .root)).IsOperation ∧
      ((Act.query 10 (.delete .root)).perform (run halfAnswered (establish {} {}))).isPending 1 = true ∧
      ((Act.query 10 (.delete .root)).perform (run halfAnswered (establish {} {}))).isPending 3 = false := by
  have new : (establish {} {}).IsNew := ⟨{}, {}, .inr rfl⟩
  obtain ⟨awaits, operations⟩ := pending_without_leaks new halfAnswered rfl
  obtain ⟨_, own, others⟩ := operations (.query 10 (.delete .root)) trivial
  have waiting : (run halfAnswered (establish {} {})).isPending 1 = true := by decide +kernel
  refine ⟨new, (awaits 1).mp waiting, fun still => ?_, trivial, ?_, own 3 (by decide +kernel)⟩
  · exact absurd ((awaits 2).mpr still) (by decide +kernel)
  · exact (others 1 (by decide +kernel)).1.mpr ⟨waiting, by decide +kernel⟩

/-- To give the first request up ends the wait for it, and what comes for it later is for nobody. -/
example :
    let after := (Act.call (.abandon 1)).perform (run halfAnswered (establish {} {}))
    after.isPending 1 = false ∧
      (run [.arrive [.message (some 1) (.deleteResponse ⟨.success, "", "", []⟩) []], .takeIn] after).inbox 1 =
        [] := by
  decide +kernel

end Session

end Directory
