import Directory.Proofs.Paging.Pursuit
import Directory.Proofs.Session.Meaning
/-!
What a client sends is what it was asked for. The peer of a live session gets one frame for a call, which it reads
as the operation that the call is about; and for a paged search one frame for each page that is asked for.
-/
namespace Directory

open SessionM Session Inquiry

namespace Session

variable {session : Session}

/-- A number that was given out is never the next one again. -/
theorem issued_lt_nextId (steps : List Step) (session : Session) :
    ∀ given ∈ issued steps session, given < (run steps session).nextId := by
  induction steps generalizing session with
  | nil => exact List.forall_mem_nil _
  | cons step rest ih =>
    intro given member
    rcases List.mem_append.mp member with now | later
    · have counts := step.counts session
      cases found : step.issued session with
      | nil =>
        rw [found] at now
        cases now
      | cons number others =>
        rw [found] at counts now
        cases counts with
        | counted left next =>
          obtain rfl := List.mem_singleton.mp now
          have above : session.nextId < (step.perform session).nextId := next ▸ nextId_lt_succ left
          exact UInt32.lt_of_lt_of_le above (run_evolves rest _).numbers
    · exact ih _ given later

theorem written_issued (steps : List Step) (session : Session) :
    ((written steps session).map Message.id).Sublist (issued steps session) := by
  rw [written, map_along]
  exact along_sublist (fun session step => step.writes_issued session) steps session

/-- The peer gets these messages, each as one frame that is read as it was meant, without controls and under
numbers of their own. -/
structure Delivers (session : Session) (messages : List Message) (after : Session) : Prop where
  sent : after.transport.sent = session.transport.sent ++ messages.map Message.encode
  rising : (messages.map Message.id).Pairwise (· < ·)
  fresh : ∀ message ∈ messages, session.nextId ≤ message.id ∧ message.id ≤ Message.maxId
  bare : ∀ message ∈ messages, message.controls = []
  legible : ∀ message ∈ messages, message.encode.length < Wire.lengthLimit →
    Message.decode message.encode = .ok message

theorem Delivers.none {after : Session} (same : after.transport.sent = session.transport.sent) :
    session.Delivers [] after where
  sent := same.trans (List.append_nil _).symm
  rising := .nil
  fresh := List.forall_mem_nil _
  bare := List.forall_mem_nil _
  legible := List.forall_mem_nil _

theorem decode_encode_bare {id : MessageId} {op : Operation} (inRange : id ≤ Message.maxId) (legal : op.WellFormed)
    (short : (Message.mk id op []).encode.length < Wire.lengthLimit) :
    Message.decode (Message.mk id op []).encode = .ok ⟨id, op, []⟩ :=
  Message.decode_encode_of_isPlain ⟨inRange, legal⟩ (fun _ => List.forall_mem_nil _) short

theorem Delivers.one {op : Operation} (legal : op.WellFormed) (left : session.nextId ≤ Message.maxId)
    {after : Session}
    (sent : after.transport.sent = session.transport.sent ++ [Message.encode ⟨session.nextId, op, []⟩]) :
    session.Delivers [⟨session.nextId, op, []⟩] after where
  sent := sent
  rising := List.pairwise_singleton ..
  fresh := List.forall_mem_singleton.mpr ⟨UInt32.le_refl _, left⟩
  bare := List.forall_mem_singleton.mpr rfl
  legible := List.forall_mem_singleton.mpr (decode_encode_bare left legal)

theorem Tells.delivers {op : Operation} {result : Except Error α} {after : Session}
    (told : session.Tells ⟨session.nextId, op, []⟩ result after) (legal : op.WellFormed) :
    ((∃ error, result = .error error) ∧ session.Delivers [] after) ∨
      session.Delivers [⟨session.nextId, op, []⟩] after := by
  cases told with
  | nothing error same => exact .inl ⟨⟨error, rfl⟩, .none same⟩
  | whole grown ready => exact .inr (.one legal ready.2.1 grown)

theorem tells_of_makes {action : SessionM α} {made : Request} (makes : action.Makes session.config (some made))
    (answered : ∀ target, made ≠ .abandon target) (flushed : session.IsFlushed) :
    session.Tells ⟨session.nextId, made.op, made.controls⟩ (action.run session).1 (action.run session).2 := by
  cases makes with
  | request _ read same =>
    rw [same session rfl]
    exact (made.tells answered flushed).bind rfl

/-- What follows has nothing to say to the peer. -/
theorem tells_bind {action : SessionM α} {next : α → SessionM β} {message : Message}
    (told : session.Tells message (action.run session).1 (action.run session).2)
    (quiet : ∀ a after, action.run session = (.ok a, after) →
      ((next a).run after).2.transport.sent = after.transport.sent) :
    session.Tells message ((action >>= next).run session).1 ((action >>= next).run session).2 := by
  rw [run_bind]
  cases done : action.run session with
  | mk result after =>
    rw [done] at told
    cases result with
    | error error =>
      cases told with
      | nothing _ same => exact .nothing error same
      | whole grown ready => exact .whole grown ready
    | ok a =>
      obtain _ | ⟨grown, ready⟩ := told
      exact .whole ((quiet a after done).trans grown) ready

/-- What comes of a bind is settled without another word to the peer. -/
theorem tells_simpleBind (flushed : session.IsFlushed) (name password : String) :
    session.Tells ⟨session.nextId,
        .bindRequest session.config.protocolVersion name (.simple (Octets.ofText password)), []⟩
      ((simpleBind name password).run session).1 ((simpleBind name password).run session).2 := by
  apply tells_bind (tells_of_makes (makes_requestBind name _) nofun flushed)
  intro answer after answered
  have settled : after.Handles [] ((Step.settle name answer.1).perform after) := handles_settle name answer.1
  rw [Step.perform, if_neg (requestBind_ok_used answered)] at settled
  exact (settled.carries.idles rfl).1

end Session

namespace Client

variable {session : Session}

/-- A call fails without a trace with the peer, or the peer gets the operation that it is about as one frame. -/
theorem Call.tells {call : Call} (textual : call.IsTextual) (flushed : session.IsFlushed) :
    ((∃ error, (call.answer.run session).1 = .error error) ∧ (call.answer.run session).2 = session) ∨
      ∃ op, call.Means session.config op ∧
        session.Tells ⟨session.nextId, op, []⟩ (call.answer.run session).1 (call.answer.run session).2 := by
  by_cases senseless : (Act.call call).IsSenseless
  · obtain ⟨error, declines⟩ := call.declines senseless
    rw [declines]
    exact .inl ⟨⟨error, rfl⟩, rfl⟩
  right
  -- A bind does more to the session than to make one request and to read the answer.
  by_cases bind : ∃ name password, call = .bind name password
  · obtain ⟨name, password, rfl⟩ := bind
    refine ⟨_, .bind fun named bare => senseless ⟨named, bare⟩, ?_⟩
    rw [answer, Client.bind, if_neg (proven senseless)]
    exact tells_bind (tells_simpleBind flushed name password) fun _ _ _ => rfl
  · have other : ∀ name password, call ≠ .bind name password :=
      fun name password same => bind ⟨name, password, same⟩
    have unspent : ¬(Act.call call).IsSpent := by
      cases call with
      | fetch => exact absurd textual id
      | _ => exact id
    obtain ⟨request, asked⟩ := Call.exists_request other senseless unspent session.config
    have makes : call.answer.Makes session.config (call.request? session.config) := Call.makes other
    rw [asked] at makes
    obtain ⟨means, bare⟩ := means_of_request textual asked
    have answered (target : MessageId) : request ≠ .abandon target := by
      rintro rfl
      rw [eq_abandon asked] at textual
      exact textual
    have told := tells_of_makes makes answered flushed
    rw [bare] at told
    exact ⟨request.op, means, told⟩

/-- A paged search begins with what its arguments say, and asks the session for nothing. -/
theorem pagedSearch_ok {base filter : String} {scope : Scope} {attributes : List String} {pageSize : UInt32}
    {before after : Session} {entries : PagedEntries}
    (made : (pagedSearch base scope filter attributes pageSize).run before = (.ok entries, after)) :
    after = before ∧ Asks base scope filter attributes entries.request ∧
      entries.cursor.pageSize = pageSize ∧ entries.cursor.position = .notStarted := by
  unfold pagedSearch at made
  rw [run_bind, run_lift] at made
  cases sized : Cursor.ofPageSize pageSize with
  | error error =>
    rw [sized] at made
    cases made
  | ok cursor =>
    rw [sized] at made
    dsimp only at made
    rw [run_bind, run_lift] at made
    cases asked : searchRequest base scope filter attributes with
    | error error =>
      rw [asked] at made
      cases made
    | ok request =>
      rw [asked] at made
      cases made
      exact ⟨rfl, searchRequest_eq_ok_iff.mp asked, Cursor.ofPageSize_ok sized⟩

open PagedEntries

theorem Asks.wellFormed_behind {base filter : String} {scope : Scope} {attributes : List String}
    {request : SearchRequest} (asks : Asks base scope filter attributes request) (size : UInt32)
    (pages : List SearchResult) : (Operation.searchRequest (request.behind size pages)).WellFormed :=
  Operation.wellFormed_searchRequest asks.legal.1 asks.legal.2

/-- The requests that the peer gets when an entry is asked for. -/
theorem delivers_next {entries : PagedEntries} {gone : List Inquiry}
    (sent : (entries.next session).2.transport.sent =
      session.transport.sent ++ (gone.map Inquiry.message).map Message.encode)
    (part : (gone.map Inquiry.message).Sublist (written (entries.steps session) session))
    (legal : ∀ inquiry ∈ gone, (Operation.searchRequest inquiry.request).WellFormed) :
    session.Delivers (gone.map Inquiry.message) (entries.next session).2 := by
  obtain ⟨rises, within⟩ := issued_rises (entries.steps session) session
  have numbers := (part.map Message.id).trans (written_issued (entries.steps session) session)
  have fresh : ∀ message ∈ gone.map Inquiry.message,
      session.nextId ≤ message.id ∧ message.id ≤ Message.maxId := fun message member =>
    within _ (numbers.subset (List.mem_map_of_mem member))
  refine ⟨sent, rises.sublist numbers, fresh, ?_, ?_⟩
  · intro message member
    obtain ⟨inquiry, _, rfl⟩ := List.mem_map.mp member
    rfl
  · intro message member
    have inRange := (fresh message member).2
    obtain ⟨inquiry, asked, rfl⟩ := List.mem_map.mp member
    exact decode_encode_bare inRange (legal inquiry asked)

/-- A client of a live session sends what it is asked for and nothing else. A call whose arguments are given as
text fails, and the peer has nothing of it; or the peer gets one frame, and that is read as a message with a
number that was never used, without controls, and with the operation that the arguments mean. A paged search
sends nothing at first; then each call for an entry sends one such frame for each page that it asks for, up to
one that could not be sent, and each asks for a page of the size that was given, with the cookie of the last page
that came. -/
theorem client_sends_what_is_meant {start session : Session} (new : start.IsNew) {steps : List Step}
    (reached : run steps start = session) (live : session.phase.isLive = true)
    (flushes : start.Flushes steps) :
    (∀ given ∈ issued steps start, given < session.nextId) ∧
      (∀ call : Call, call.IsTextual →
        ((∃ error, (call.answer.run session).1 = .error error) ∧
            session.Delivers [] (call.answer.run session).2) ∨
          ∃ op, call.Means session.config op ∧
            session.Delivers [⟨session.nextId, op, []⟩] (call.answer.run session).2) ∧
      ∀ base scope filter attributes pageSize before after entries,
        (pagedSearch base scope filter attributes pageSize).run before = (.ok entries, after) →
        after = before ∧ Asks base scope filter attributes entries.request ∧
          ∀ earlier : List Session, ∃ gone, gone <+: (left earlier entries).inquiries session ∧
            (gone = (left earlier entries).inquiries session ∨
              ∃ error, ((left earlier entries).next session).1.1 = some (.error error)) ∧
            session.Delivers (gone.map Inquiry.message) ((left earlier entries).next session).2 ∧
            ∀ (k : Nat) inquiry, gone[k]? = some inquiry → inquiry.request =
              entries.request.behind pageSize (brought (asked earlier entries ++ gone.take k)) := by
  subst reached
  have sound : (run steps start).IsSound := new.isSound_run steps
  have flushed : (run steps start).IsFlushed := fun live => flushes.outgoing new live
  refine ⟨issued_lt_nextId steps start, fun call textual => ?_, ?_⟩
  · rcases call.tells textual flushed with ⟨fails, same⟩ | ⟨op, means, told⟩
    · exact .inl ⟨fails, .none (by rw [same])⟩
    · exact (told.delivers means.wellFormed).imp_right fun whole => ⟨op, means, whole⟩
  · intro base scope filter attributes pageSize before after entries made
    obtain ⟨rfl, asks, rfl, unopened⟩ := pagedSearch_ok made
    refine ⟨rfl, asks, fun earlier => ?_⟩
    obtain ⟨gone, front, all, sent, part⟩ := (left earlier entries).sent_next sound flushed
    have behind (k : Nat) (inquiry : Inquiry) (search : gone[k]? = some inquiry) : inquiry.request =
        entries.request.behind entries.cursor.pageSize (brought (asked earlier entries ++ gone.take k)) := by
      obtain ⟨later, whole⟩ := front
      have within : k < gone.length := (List.getElem?_eq_some_iff.mp search).1
      have found : ((left earlier entries).inquiries (run steps start))[k]? = some inquiry := by
        rw [← whole, List.getElem?_append_left within, search]
      have asks := request_of_left unopened earlier found
      rwa [← whole, List.take_append_of_le_length (Nat.le_of_lt within)] at asks
    refine ⟨gone, front, all, delivers_next sent part fun inquiry member => ?_, behind⟩
    obtain ⟨k, search⟩ := List.mem_iff_getElem?.mp member
    rw [behind k inquiry search]
    exact asks.wellFormed_behind _ _

def patient : Session :=
  establish
    { writeLimit := some 3
      script :=
        [.actions [.message none (.searchDone ⟨.success, "", "", []⟩ (some ⟨0, [7], false⟩)) []],
          .actions [.message none (.searchDone ⟨.success, "", "", []⟩ none) []]] } {}

def anyone (cookie : Octets) : SearchRequest :=
  { base := .root, scope := .base, filter := .present "a", paging := some ⟨2, cookie, false⟩ }

def leafing : PagedEntries :=
  { cursor := twoAtATime, request := { anyone [] with paging := none }, timeout := 30000 }

def leafed : Session := ((twoAtATime.fetch 30000 leafing.request).run patient).2

def leafedOnce : PagedEntries := { leafing with cursor := { twoAtATime with position := .hasMore [7] } }

theorem inquiries_patient :
    leafing.inquiries patient = [⟨patient, 30000, anyone []⟩, ⟨leafed, 30000, anyone [7]⟩] ∧
      (leafing.next patient).1.1 = none := by
  have opened : (leafing.cursor.fetch 30000 leafing.request).run patient =
      (.ok (⟨[], [], ⟨.success, "", "", []⟩, [7]⟩, leafedOnce.cursor), leafed) :=
    Prod.ext (by decide +kernel) rfl
  have closed : (leafedOnce.cursor.fetch 30000 leafing.request).run leafed =
      (.ok (⟨[], [], ⟨.success, "", "", []⟩, []⟩, { twoAtATime with position := .exhausted }),
        ((leafedOnce.cursor.fetch 30000 leafing.request).run leafed).2) :=
    Prod.ext (by decide +kernel) rfl
  have starting : ¬(leafing.hasFailed || leafing.cursor.isExhausted) = true := by decide
  have going : ¬(leafedOnce.hasFailed || leafedOnce.cursor.isExhausted) = true := by decide
  have early : leafing.inquiries patient = _ := along_fetched ignores_inquiries rfl starting rfl opened
  have late : leafedOnce.inquiries leafed = _ := along_fetched ignores_inquiries rfl going rfl closed
  have first : leafing.next patient = leafedOnce.next leafed := next_fetched rfl starting opened
  have second : leafedOnce.next leafed = _ := next_fetched rfl going closed
  rw [along_idle (.inr (.inr rfl))] at late
  constructor
  · rw [early]
    exact congrArg (_ :: ·) late
  · rw [first, second, next]
    rfl

theorem client_sends_patiently :
    patient.IsNew ∧ patient.phase.isLive = true ∧ patient.Flushes [] ∧
      patient.Delivers [⟨1, .deleteRequest ⟨[[⟨"CN", "a, b"⟩]]⟩, []⟩]
        ((Call.delete " CN = a\\2c b ").answer.run patient).2 ∧
      (pagedSearch "" .base "(a=*)" [] 2).run patient = (.ok leafing, patient) ∧
      patient.Delivers [⟨1, .searchRequest (anyone []), []⟩, ⟨2, .searchRequest (anyone [7]), []⟩]
        (leafing.next patient).2 := by
  have new : patient.IsNew := ⟨_, _, .inr rfl⟩
  have live : patient.phase.isLive = true := rfl
  have flushes : patient.Flushes [] := ⟨rfl, List.forall_mem_nil _⟩
  have here : run [] patient = patient := rfl
  obtain ⟨_, calls, searches⟩ := client_sends_what_is_meant new here live flushes
  refine ⟨new, live, flushes, ?_, ?_⟩
  · rcases calls (.delete " CN = a\\2c b ") trivial with ⟨_, silent⟩ | ⟨op, means, delivers⟩
    · exact absurd silent.sent (by decide +kernel)
    · cases means with
      | delete named =>
        have parsed : Dn.parse " CN = a\\2c b " = .ok ⟨[[⟨"CN", "a, b"⟩]]⟩ := by decide +kernel
        obtain rfl := Except.ok.inj (parsed.symm.trans named.1)
        exact delivers
  · have request : searchRequest "" .base "(a=*)" [] = .ok leafing.request := by decide +kernel
    have begun : (pagedSearch "" .base "(a=*)" [] 2).run patient = (.ok leafing, patient) := by
      rw [pagedSearch, run_bind, run_lift, show Cursor.ofPageSize 2 = .ok twoAtATime from rfl]
      dsimp only
      rw [run_bind, run_lift, request]
      rfl
    obtain ⟨_, _, each⟩ := searches _ _ _ _ _ _ _ _ begun
    obtain ⟨gone, _, whole, delivers, _⟩ := each []
    obtain ⟨asked, nothing⟩ := inquiries_patient
    have all : gone = leafing.inquiries patient := whole.resolve_right (by
      rintro ⟨error, failed⟩
      exact absurd (nothing.symm.trans failed) nofun)
    have second : leafed.nextId = 2 := by decide +kernel
    rw [all, asked, List.map_cons, List.map_singleton, Inquiry.message, Inquiry.message, second] at delivers
    exact ⟨begun, delivers⟩

end Client

end Directory
