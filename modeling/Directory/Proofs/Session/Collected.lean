import Directory.Proofs.Message.Sequence
import Directory.Proofs.Session.Listening
import Directory.Proofs.Session.Recorded
/-!
What a search collects. The stream brings its messages in between those of others; the search returns all of
them in their order, up to the first that is neither an entry nor a reference, which decides how it ends.
-/
namespace Directory

namespace Operation

def entry? : Operation → Option Entry
  | searchEntry entry => some entry
  | _ => none

def urls : Operation → List String
  | searchReference urls => urls
  | _ => []

theorem isPartial_eq (op : Operation) : op.isPartial = !op.isFinal := by cases op <;> rfl

end Operation

/-- A stream on which these messages come one after the other, the last of them under this number. None of
those before it completes the request of that number, and those of other numbers do not end the session. -/
structure Transport.Completes (transport : Transport) (limit : UInt32) (id : MessageId) (crowd : List Message)
    (last : Message) : Prop where
  read : ∃ middle after, transport.takeMessages limit crowd.length = (crowd.map .done, middle) ∧
    middle.takeMessage limit = (.done last, after)
  own : ∀ message ∈ crowd, message.id = id → message.op.isFinal = false
  others : ∀ message ∈ crowd, message.id ≠ id → message.ending? = none
  addressed : last.id = id
  final : last.op.isFinal = true

theorem Message.ending?_of_more {message : Message} (more : message.op.isFinal = false) :
    message.ending? = none := by
  obtain ⟨id, op, controls⟩ := message
  cases op with
  | searchEntry | searchReference => rfl
  | _ => cases more

/-- A notice has no number, so that a response to a request ends no session. -/
theorem Message.ending?_of_response {message : Message} (response : message.op.isRequest = false)
    (numbered : message.id ≠ 0) : message.ending? = none := by
  unfold ending? notice?
  rw [if_neg (by simp [response])]
  split
  · rw [if_neg fun notice => numbered notice.1]
    rfl
  · rfl

namespace Transport.Completes

variable {transport : Transport} {limit : UInt32} {id : MessageId} {crowd : List Message} {last : Message}

theorem harmless (completes : transport.Completes limit id crowd last) :
    ∀ message ∈ crowd, message.ending? = none := by
  intro message member
  by_cases mine : message.id = id
  · exact Message.ending?_of_more (completes.own message member mine)
  · exact completes.others message member mine

theorem partials (completes : transport.Completes limit id crowd last) :
    ∀ message ∈ crowd.filter fun message => message.id == id, message.op.isFinal = false := by
  intro message member
  obtain ⟨present, mine⟩ := List.mem_filter.mp member
  exact completes.own message present (beq_iff_eq.mp mine)

end Transport.Completes

namespace Session

variable {session : Session} {id : MessageId} {crowd : List Message} {last : Message}

def collected (answers : List Operation) : Operation → Except Error SearchResult
  | .searchDone outcome paging =>
    if outcome.code = .success ∨ outcome.code = .sizeLimitExceeded ∨ outcome.code = .timeLimitExceeded then
      .ok
        { entries := answers.filterMap Operation.entry?
          referrals := answers.flatMap Operation.urls
          outcome
          cookie := (paging.map Paging.cookie).getD [] }
    else .error (.refused outcome.code outcome.diagnostic outcome.matchedDn)
  | op => .error (.unexpectedResponse "SearchResultDone" op.name)

theorem collected_nil (last : Operation) : collected [] last = gathered last := by
  cases last with
  | searchDone outcome paging =>
    have ends : outcome.endsSearch = true ↔ outcome.code = .success ∨ outcome.code = .sizeLimitExceeded ∨
        outcome.code = .timeLimitExceeded := by
      simp [Outcome.endsSearch, ResultCode.isSuccess, or_assoc]
    simp only [collected, gathered, ends]
    rfl
  | _ => rfl

theorem collected_cons {answer : Operation} (more : answer.isPartial = true) (answers : List Operation)
    (last : Operation) :
    collected (answer :: answers) last = (collected answers last).map (added answer) := by
  cases last with
  | searchDone outcome paging =>
    dsimp only [collected]
    split
    · cases answer with
      | searchEntry | searchReference => rfl
      | _ => cases more
    · rfl
  | _ => rfl

theorem gather_collected {answers rest : List Message} {last : Message}
    (partials : ∀ message ∈ answers, message.op.isPartial = true) (final : last.op.isPartial = false)
    (waiting : session.inbox id = answers ++ last :: rest) (timeout : Nat) :
    (gather ⟨id, timeout⟩ session).1 = collected (answers.map Message.op) last.op := by
  induction answers generalizing session with
  | nil =>
    obtain ⟨after, received, _⟩ := exists_received waiting timeout
    rw [gather_last received final, List.map_nil, collected_nil]
  | cons message answers ih =>
    obtain ⟨more, others⟩ := List.forall_mem_cons.mp partials
    obtain ⟨after, received, left⟩ := exists_received waiting timeout
    rw [gather_more received more, ih others left, List.map_cons, collected_cons more]

/-- A search whose session ends before it is complete fails with the reason for that. -/
theorem gather_ended {reason : Termination} (sound : session.IsSound) (ended : session.ending = some reason)
    (partials : ∀ message ∈ session.inbox id, message.op.isPartial = true) (timeout : Nat) :
    (gather ⟨id, timeout⟩ session).1 = .error reason.toError := by
  generalize waiting : session.inbox id = answers at partials
  induction answers generalizing session with
  | nil =>
    have spent : ∀ waiter, session.waiter? id = some waiter → waiter.inbox = [] ∧ waiter.isOpen = false := by
      intro waiter found
      rw [inbox, found] at waiting
      exact ⟨waiting, sound.closed (by rw [ended]; rfl) waiter (mem_of_waiter? found)⟩
    rw [gather_failed (receive_spent ⟨id, timeout⟩ spent), lastWord, ended]
  | cons message answers ih =>
    obtain ⟨more, others⟩ := List.forall_mem_cons.mp partials
    obtain ⟨after, received, left⟩ := exists_received waiting timeout
    have evolves := (receive_cases session ⟨id, timeout⟩).evolves
    rw [received] at evolves
    rw [gather_more received more, ih (evolves.sound sound) (evolves.lasts reason ended) left others]
    rfl

/-- What is handed out is all that the receiver takes off the stream, but for what ends the session. -/
theorem heard_eq_filter (session : Session) :
    session.heard = session.taken.filter fun message => message.ending?.isNone := by
  fun_induction Session.taken session with
  | case1 session running message transport taken ends =>
    obtain ⟨reason, ending⟩ := Option.isSome_iff_exists.mp ends
    have next := nextMessage?_of_ending taken ending
    rw [heard_nil fun _ _ _ found => by simp [next] at found]
    simp [ending]
  | case2 session running message transport taken harmless ih =>
    have silent : message.ending? = none := by simpa using harmless
    rw [heard_cons running (nextMessage?_of_harmless taken silent), ih]
    simp [silent]
  | case3 session running none =>
    apply heard_nil
    intro _ message transport next
    exact none message transport (taken_of_nextMessage?_ok next).1
  | case4 session stopped => exact heard_nil fun running => absurd running stopped

theorem taken_of_done {message : Message} {transport : Transport} (running : session.receiver = .running)
    (read : session.transport.takeMessage session.config.maxMessageSize = (.done message, transport)) :
    session.taken =
      if message.ending?.isSome = true then [message]
      else message :: ({ session with transport }.route message).taken := by
  rw [taken, if_pos running]
  split
  · next same =>
    rw [read] at same
    cases same
    rfl
  · next none => exact absurd read (none _ _)

/-- What can be read off the stream is taken off it, as far as nothing ends the session. -/
theorem exists_taken {crowd : List Message} {last : Message} {middle after : Transport}
    (running : session.receiver = .running) (harmless : ∀ message ∈ crowd, message.ending? = none)
    (read : session.transport.takeMessages session.config.maxMessageSize crowd.length =
      (crowd.map .done, middle))
    (next : middle.takeMessage session.config.maxMessageSize = (.done last, after)) :
    ∃ later, session.taken = crowd ++ last :: later := by
  induction crowd generalizing session with
  | nil =>
    obtain rfl : session.transport = middle := congrArg Prod.snd read
    rw [taken_of_done running next]
    split
    · exact ⟨[], rfl⟩
    · exact ⟨_, rfl⟩
  | cons message crowd ih =>
    obtain ⟨silent, others⟩ := List.forall_mem_cons.mp harmless
    rw [List.length_cons, Transport.takeMessages] at read
    cases first : session.transport.takeMessage session.config.maxMessageSize with
    | mk taken between =>
      rw [first] at read
      obtain ⟨both, left⟩ := Prod.mk.inj read
      obtain ⟨rfl, rest⟩ := List.cons.inj both
      have routed : ({ session with transport := between }.route message).receiver = .running := running
      obtain ⟨later, found⟩ := ih routed others (Prod.ext rest left) next
      rw [taken_of_done running first, if_neg (by simp [silent]), found]
      exact ⟨later, rfl⟩

theorem upToFinal_partial {answers : List Message} (partials : ∀ message ∈ answers, message.op.isFinal = false) :
    History.upToFinal answers = answers := by
  induction answers with
  | nil => rfl
  | cons message answers ih =>
    obtain ⟨more, others⟩ := List.forall_mem_cons.mp partials
    rw [History.upToFinal, if_neg (by simp [more]), ih others]

theorem upToFinal_complete {answers : List Message} {last : Message}
    (partials : ∀ message ∈ answers, message.op.isFinal = false) (final : last.op.isFinal = true)
    (rest : List Message) : History.upToFinal (answers ++ last :: rest) = answers ++ [last] := by
  induction answers with
  | nil => rw [List.nil_append, History.upToFinal, if_pos final, List.nil_append]
  | cons message answers ih =>
    obtain ⟨more, others⟩ := List.forall_mem_cons.mp partials
    rw [List.cons_append, History.upToFinal, if_neg (by simp [more]), ih others, List.cons_append]

theorem heard_of_taken {rest : List Message} (harmless : ∀ message ∈ crowd, message.ending? = none)
    (taken : session.taken = crowd ++ rest) :
    session.heard = crowd ++ rest.filter fun message => message.ending?.isNone := by
  have kept : crowd.filter (fun message => message.ending?.isNone) = crowd :=
    List.filter_eq_self.mpr fun message member => by simp [harmless message member]
  rw [heard_eq_filter, taken, List.filter_append, kept]

/-- A request that a response completes has that response, and all that came for it before. -/
theorem coming_of_response (running : session.receiver = .running)
    (completes : session.transport.Completes session.config.maxMessageSize id crowd last)
    (response : last.op.isRequest = false) (numbered : id ≠ 0) :
    session.coming id = (crowd.filter fun message => message.id == id) ++ [last] := by
  obtain ⟨middle, after, read, next⟩ := completes.read
  obtain ⟨later, taken⟩ := exists_taken running completes.harmless read next
  have silent : last.ending? = none := Message.ending?_of_response response (completes.addressed ▸ numbered)
  rw [coming, heard_of_taken completes.harmless taken, List.filter_cons, if_pos (by simp [silent]),
    List.filter_append, List.filter_cons, if_pos (by simp [completes.addressed])]
  exact upToFinal_complete completes.partials completes.final _

/-- A request that comes from the server ends the session, and the answers before it are still handed out. -/
theorem coming_of_request (running : session.receiver = .running)
    (completes : session.transport.Completes session.config.maxMessageSize id crowd last)
    (request : last.op.isRequest = true) :
    session.coming id = crowd.filter (fun message => message.id == id) ∧
      session.takeIn.ending =
        some (session.ending.getD (.malformed s!"server sent {last.op.name}")) := by
  obtain ⟨middle, after, read, next⟩ := completes.read
  obtain ⟨later, taken⟩ := exists_taken running completes.harmless read next
  obtain ⟨whole, ending⟩ := takeIn_request (by rw [taken]; simp) request
  have heard := heard_of_taken completes.harmless taken
  rw [List.filter_cons, if_neg (by simp [Message.ending?_of_isRequest request])] at heard
  -- Something that was handed out after it would be the request itself.
  have nothing : later.filter (fun message => message.ending?.isNone) = [] := by
    cases found : later.filter fun message => message.ending?.isNone with
    | nil => rfl
    | cons first more =>
      rw [found] at heard
      rw [taken, heard, List.append_assoc, List.append_cancel_left_eq] at whole
      obtain ⟨rfl, _⟩ := List.cons.inj whole
      have member : last ∈ session.heard := by simp [heard]
      rw [heard_not_request member] at request
      cases request
  rw [nothing, List.append_nil] at heard
  refine ⟨?_, ending⟩
  rw [coming, heard]
  exact upToFinal_partial completes.partials

/-- When such a request comes for what was just written, it is the reason for which the session ends. -/
theorem ended_by_request (sound : session.IsSound) (live : session.phase.isLive = true)
    (started : session.receiver.started = .running) {transport : Transport}
    (completes : transport.Completes session.config.maxMessageSize session.nextId crowd last)
    (request : last.op.isRequest = true) :
    (session.posted transport).coming session.nextId =
        crowd.filter (fun message => message.id == session.nextId) ∧
      (session.posted transport).takeIn.ending = some (.malformed s!"server sent {last.op.name}") := by
  have running : (session.posted transport).receiver = .running := started
  obtain ⟨coming, ended⟩ := coming_of_request running completes request
  have going : session.ending = none := ending_of_isLive sound live
  change _ = some (session.ending.getD _) at ended
  rw [going, Option.getD_none] at ended
  exact ⟨coming, ended⟩

theorem search_posted {timeout : Nat} {request : SearchRequest} {controls : List Control} {handle : Handle}
    {posted : Session}
    (accepted : (post (.searchRequest request) controls timeout).run session = (.ok handle, posted)) :
    (search timeout request controls).run session =
      ((gather handle posted.takeIn).1, (gather handle posted.takeIn).2.dropHandle handle.id) := by
  rw [search, SessionM.run_bind, submit, attending_run, accepted]
  rfl

theorem sound_of_post (sound : session.IsSound) {op : Operation} {controls : List Control} {timeout : Nat}
    {handle : Handle} {posted : Session}
    (accepted : (post op controls timeout).run session = (.ok handle, posted)) : posted.takeIn.IsSound := by
  have evolves := (post_cases session op controls timeout).evolves
  rw [accepted] at evolves
  exact (evolves_takeIn posted).sound (evolves.sound sound)

/-- What ends the session while a search waits is still the end of it when the search has returned. -/
theorem search_ended {timeout : Nat} {request : SearchRequest} {controls : List Control} {handle : Handle}
    {posted : Session} (sound : session.IsSound)
    (accepted : (post (.searchRequest request) controls timeout).run session = (.ok handle, posted))
    {reason : Termination} (ended : posted.takeIn.ending = some reason) :
    ((search timeout request controls).run session).2.phase = .unbound ∧
      ((search timeout request controls).run session).2.ending = some reason := by
  have evolves := run_evolves (gatherSteps handle posted.takeIn) posted.takeIn
  rw [run_gatherSteps] at evolves
  have later : (gather handle posted.takeIn).2.ending = some reason := evolves.lasts reason ended
  have past := (evolves.sound (sound_of_post sound accepted)).unbound_iff.mpr (Option.isSome_of_eq_some later)
  rw [search_posted accepted]
  exact ⟨past, later⟩

/-- The result of a search that was written is made of what the stream brings for it. -/
theorem search_of_completes (sound : session.IsSound) (held : session.holdsTransport = true)
    (live : session.phase.isLive = true) (left : session.nextId ≤ Message.maxId)
    (numbered : 1 ≤ session.nextId) (started : session.receiver.started = .running)
    (readable : ¬session.IsUnreadable) (timeout : Nat) (request : SearchRequest) (controls : List Control)
    {transport : Transport}
    (written : session.transport.send (session.nextFrame (.searchRequest request) controls) =
      (.ok (), transport))
    (completes : transport.Completes session.config.maxMessageSize session.nextId crowd last) :
    ((search timeout request controls).run session).1 =
      if last.op.isRequest then .error (.malformed s!"server sent {last.op.name}")
      else collected ((crowd.filter fun message => message.id == session.nextId).map Message.op) last.op := by
  have served := serves sound held live left readable written timeout
  have arrived := served.arrived
  have running : (session.posted transport).receiver = .running := started
  have streamed : (session.posted transport).transport.Completes
      (session.posted transport).config.maxMessageSize session.nextId crowd last := completes
  have partials : ∀ message ∈ crowd.filter fun message => message.id == session.nextId,
      message.op.isPartial = true := by
    intro message member
    rw [Operation.isPartial_eq, completes.partials message member, Bool.not_false]
  rw [search_posted served.accepted]
  split
  · next foreign =>
    obtain ⟨coming, ended⟩ := ended_by_request sound live started completes foreign
    rw [coming] at arrived
    exact gather_ended (sound_of_post sound served.accepted) ended (by rwa [arrived]) timeout
  · next response =>
    have final : last.op.isPartial = false := by
      rw [Operation.isPartial_eq, completes.final, Bool.not_true]
    have positive : session.nextId ≠ 0 := by
      rintro zero
      rw [zero] at numbered
      exact absurd numbered (by decide)
    rw [coming_of_response running streamed (Bool.eq_false_iff.mpr response) positive] at arrived
    exact gather_collected partials final arrived timeout

theorem not_mem_ids_run (steps : List Step) (issued : id < session.nextId) (gone : id ∉ session.ids) :
    id ∉ (run steps session).ids := by
  induction steps generalizing session with
  | nil => exact gone
  | cons step rest ih =>
    exact ih (UInt32.lt_of_lt_of_le issued (step.evolves session).numbers) (step.not_mem_ids issued gone)

theorem waiter?_of_not_mem_ids (gone : id ∉ session.ids) : session.waiter? id = none := by
  cases found : session.waiter? id with
  | none => rfl
  | some waiter => exact absurd (mem_ids_of_waiter? found) gone

/-- The number of a search is given out, and not waited for once the search is over. -/
theorem search_spends {timeout : Nat} {request : SearchRequest} {controls : List Control} {handle : Handle}
    {posted : Session}
    (accepted : (post (.searchRequest request) controls timeout).run session = (.ok handle, posted)) :
    session.nextId < ((search timeout request controls).run session).2.nextId ∧
      session.nextId ∉ ((search timeout request controls).run session).2.ids := by
  have outcome := post_cases session (.searchRequest request) controls timeout
  rw [accepted] at outcome
  rw [search_posted accepted]
  cases outcome with
  | posted _ live left sends =>
    have gathered := (run_evolves (gatherSteps ⟨session.nextId, timeout⟩ posted.takeIn) posted.takeIn).numbers
    rw [run_gatherSteps, nextId_takeIn, sends.nextId] at gathered
    constructor
    · exact UInt32.lt_of_lt_of_le (nextId_lt_succ left) gathered
    · rw [ids_dropHandle]
      simp

/-- A search collects exactly what the stream brings for it. The entries among its answers are returned in their
order, and so are the places it is referred to; the message that completes it gives the outcome and the cookie of the
next page. A search that is cut short by a limit counts as done, any other failure of the server is returned as it
is, and so is the name of a response that completes no search. A request from the server ends the session for good,
and the search with it. The search is written as one frame, and whatever comes under its number later on goes
nowhere. -/
theorem search_collects_its_own {start session : Session} (new : start.IsNew) (steps : List Step)
    (reached : run steps start = session) (live : session.phase.isLive = true)
    (left : session.nextId ≤ Message.maxId) (readable : ¬session.IsUnreadable) (timeout : Nat)
    (request : SearchRequest) (controls : List Control) {transport : Transport}
    (written : session.transport.send (session.nextFrame (.searchRequest request) controls) =
      (.ok (), transport))
    {crowd : List Message} {last : Message}
    (completes : transport.Completes session.config.maxMessageSize session.nextId crowd last) :
    let found := (search timeout request controls).run session
    let answers := (crowd.filter fun message => message.id == session.nextId).map Message.op
    found.1 = (if last.op.isRequest then .error (.malformed s!"server sent {last.op.name}")
      else collected answers last.op) ∧
    (last.op.isRequest = true → found.2.phase = .unbound ∧
      found.2.ending = some (.malformed s!"server sent {last.op.name}")) ∧
    frames (Request.steps session (.search timeout request controls)) session =
      [session.nextFrame (.searchRequest request) controls] ∧
    (start.Flushes steps → found.2.transport.sent =
      session.transport.sent ++ [session.nextFrame (.searchRequest request) controls]) ∧
    ∀ more : List Step, (run more found.2).waiter? session.nextId = none ∧
      ∀ message : Message, message.id = session.nextId →
        (run more found.2).route message = run more found.2 := by
  subst reached
  have sound := new.isSound_run steps
  have held := new.held_of_isLive steps live
  have numbered : 1 ≤ (run steps start).nextId := new.nextId ▸ (run_evolves steps start).numbers
  have started := new.started steps live
  have accepted := run_post held live left readable written timeout
  have result := search_of_completes sound held live left numbered started readable timeout request controls
    written completes
  refine ⟨result, ?_, ?_, ?_, ?_⟩
  · intro request
    exact search_ended sound accepted (ended_by_request sound live started completes request).2
  · rw [Request.frames_steps]
    have writes := (arrived_of_post sound accepted).2.2
    have frames := (Step.post (.searchRequest request) controls timeout).frames_eq (run steps start)
    rw [writes] at frames
    exact frames
  · intro flushes
    have sent := Request.sent_of_post accepted (flushes.outgoing new live) gatherSteps_receives
    have onwards := Request.run_steps (.search timeout request controls) (run steps start)
    rw [← sent]
    exact congrArg (·.transport.sent) onwards.symm
  · intro more
    obtain ⟨issued, gone⟩ := search_spends accepted
    have never := not_mem_ids_run more issued gone
    refine ⟨waiter?_of_not_mem_ids never, fun message mine => route_of_not_pending ?_⟩
    exact isPending_of_not_mem_ids (mine ▸ never)

def rootSearch : SearchRequest := { base := .root, scope := .base, filter := .present "objectClass" }

def rootAnswers : List Message :=
  [⟨1, .searchReference ["ldap://b"], []⟩, ⟨7, deleted 0, []⟩, ⟨1, .searchEntry ⟨.root, .empty⟩, []⟩]

def answeredWith (last : Operation) : Session :=
  establish
    { script := [.actions
        (rootAnswers.map (fun (message : Message) => .message (some message.id) message.op message.controls) ++
          [.message none last []])] } {}

def answeredStream (last : Operation) : Transport :=
  ((answeredWith last).transport.send ((answeredWith last).nextFrame (.searchRequest rootSearch) [])).2

theorem answeredStream_completes {last : Operation} (final : last.isFinal = true)
    (read : ((answeredStream last).takeMessages 16777216 3).1 = rootAnswers.map .done)
    (next : (((answeredStream last).takeMessages 16777216 3).2.takeMessage 16777216).1 =
      .done ⟨1, last, []⟩) :
    (answeredStream last).Completes 16777216 1 rootAnswers ⟨1, last, []⟩ where
  read := ⟨_, _, Prod.ext read rfl, Prod.ext next rfl⟩
  own := by decide +kernel
  others := by decide +kernel
  addressed := rfl
  final := final

/-- A search that is cut short by a limit on the size. -/
theorem search_collects_cutShort :
    let session := answeredWith (.searchDone ⟨.sizeLimitExceeded, "", "limit", []⟩ (some ⟨0, [1, 2], true⟩))
    session.IsNew ∧ session.Flushes [] ∧
      ((search 10 rootSearch).run session).1 =
        .ok ⟨[⟨.root, .empty⟩], ["ldap://b"], ⟨.sizeLimitExceeded, "", "limit", []⟩, [1, 2]⟩ ∧
      ((search 10 rootSearch).run session).2.transport.sent =
        [Message.encode ⟨1, .searchRequest rootSearch, []⟩] := by
  intro session
  have new : session.IsNew := ⟨_, _, .inr rfl⟩
  have flushes : session.Flushes [] := ⟨rfl, by simp⟩
  have readable : ¬session.IsUnreadable := fun unreadable => unreadable.2 rfl
  have written : (session.transport.send (session.nextFrame (.searchRequest rootSearch) [])).1 = .ok () := by
    decide +kernel
  obtain ⟨result, _, _, sent, _⟩ := search_collects_its_own new [] rfl rfl (by decide) readable 10 rootSearch []
    (Prod.ext written rfl) (answeredStream_completes rfl (by decide +kernel) (by decide +kernel))
  exact ⟨new, flushes, result, sent flushes⟩

/-- A request from the server is not reported as an unexpected response. -/
theorem search_answered_by_request :
    ((search 10 rootSearch).run (answeredWith (.deleteRequest .root))).1 =
        .error (.malformed "server sent DelRequest") ∧
      ((search 10 rootSearch).run (answeredWith (.deleteRequest .root))).1 ≠
        .error (.unexpectedResponse "SearchResultDone" "DelRequest") := by
  have new : (answeredWith (.deleteRequest .root)).IsNew := ⟨_, _, .inr rfl⟩
  have readable : ¬(answeredWith (.deleteRequest .root)).IsUnreadable := fun unreadable => unreadable.2 rfl
  have written : ((answeredWith (.deleteRequest .root)).transport.send
      ((answeredWith (.deleteRequest .root)).nextFrame (.searchRequest rootSearch) [])).1 = .ok () := by
    decide +kernel
  have failed : ((search 10 rootSearch).run (answeredWith (.deleteRequest .root))).1 =
      .error (.malformed "server sent DelRequest") :=
    search_of_completes new.isSound rfl rfl (by decide) (by decide) rfl readable 10 rootSearch []
      (Prod.ext written rfl) (answeredStream_completes rfl (by decide +kernel) (by decide +kernel))
  refine ⟨failed, ?_⟩
  rw [failed]
  simp

end Session

end Directory
