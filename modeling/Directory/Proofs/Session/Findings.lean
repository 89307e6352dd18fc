import Directory.Proofs.Session.Parallel
import Directory.Proofs.Session.Resilience
/-!
What a search finds. Its result is made of the messages that come under its number, from the first one to the
one that ends the search, and of nothing else.
-/
namespace Directory

inductive SearchResult.MadeOf : SearchResult → List Operation → Prop where
  | done (outcome : Outcome) (paging : Option Paging) : outcome.endsSearch = true →
      MadeOf ⟨[], [], outcome, (paging.map Paging.cookie).getD []⟩ [.searchDone outcome paging]
  | entry {page : SearchResult} {later : List Operation} (entry : Entry) : MadeOf page later →
      MadeOf { page with entries := entry :: page.entries } (.searchEntry entry :: later)
  | reference {page : SearchResult} {later : List Operation} (urls : List String) : MadeOf page later →
      MadeOf { page with referrals := urls ++ page.referrals } (.searchReference urls :: later)

/-- The result of a search has all messages up to the final one. -/
theorem SearchResult.MadeOf.whole {page : SearchResult} {ops rest : List Operation} (made : page.MadeOf ops)
    {messages : List Message} (split : (History.upToFinal messages).map Message.op = ops ++ rest) :
    rest = [] := by
  induction made generalizing messages with
  | done outcome paging _ =>
    obtain ⟨message, others, first, op, more⟩ := List.map_eq_cons_iff.mp split
    have final : message.op.isFinal = true := by
      rw [op]
      rfl
    have last : History.upToFinal messages = [] ++ message :: others := first
    rw [History.upToFinal_last last final] at more
    exact more.symm
  | entry _ _ ih | reference _ _ ih =>
    obtain ⟨message, others, first, op, more⟩ := List.map_eq_cons_iff.mp split
    cases messages with
    | nil => cases first
    | cons other messages =>
      obtain ⟨rfl, later⟩ := List.cons.inj first
      rw [op, if_neg (by simp [Operation.isFinal, Operation.kind, OperationKind.isFinal])] at later
      exact ih (later ▸ more)

namespace Session

variable {session : Session}

theorem exists_received {id : MessageId} {message : Message} {rest : List Message}
    (first : session.inbox id = message :: rest) (timeout : Nat) :
    ∃ after, (receive ⟨id, timeout⟩).run session = (.ok message, after) ∧ after.inbox id = rest := by
  unfold inbox at first
  cases found : session.waiter? id with
  | none => simp [found] at first
  | some waiter =>
    rw [found] at first
    have received : (receive ⟨id, timeout⟩).run session =
        (.ok message, ((receive ⟨id, timeout⟩).run session).2) :=
      Prod.ext (receive_ok_of_inbox found first timeout) rfl
    have split := (receive_ok received).1
    rw [inbox, found] at split
    refine ⟨_, received, ?_⟩
    exact (List.cons.inj (split.symm.trans first)).2

/-- A handle that has the messages of a whole search gathers their result. -/
theorem gather_of_madeOf {page : SearchResult} {ops : List Operation} (made : page.MadeOf ops)
    {id : MessageId} {rest : List Operation}
    (waiting : (session.inbox id).map Message.op = ops ++ rest) (timeout : Nat) :
    (gather ⟨id, timeout⟩ session).1 = .ok page := by
  have next {session : Session} {op : Operation} {later : List Operation}
      (waiting : (session.inbox id).map Message.op = op :: later) :
      ∃ message after, message.op = op ∧ (receive ⟨id, timeout⟩).run session = (.ok message, after) ∧
        (after.inbox id).map Message.op = later := by
    obtain ⟨message, others, first, same, more⟩ := List.map_eq_cons_iff.mp waiting
    obtain ⟨after, received, left⟩ := exists_received first timeout
    exact ⟨message, after, same, received, left ▸ more⟩
  induction made generalizing session with
  | done outcome paging ends =>
    obtain ⟨message, after, op, received, _⟩ := next waiting
    rw [gather_last received (by rw [op]; rfl), op, gathered, if_pos ends]
  | entry _ _ ih | reference _ _ ih =>
    obtain ⟨message, after, op, received, left⟩ := next waiting
    rw [gather_more received (by rw [op]; rfl), op, ih left]
    rfl

theorem exists_of_map_ok {result : Except Error α} {f : α → β} {b : β} (mapped : result.map f = .ok b) :
    ∃ a, result = .ok a ∧ f a = b := by
  cases result with
  | error error => cases mapped
  | ok a => exact ⟨a, rfl, Except.ok.inj mapped⟩

/-- What a handle gathers is made of the messages that it has, the first ones of them. -/
theorem madeOf_of_gather {handle : Handle} {page : SearchResult}
    (found : (gather handle session).1 = .ok page) :
    ∃ ops rest, (session.inbox handle.id).map Message.op = ops ++ rest ∧ page.MadeOf ops := by
  fun_induction gather handle session generalizing page with
  | case1 => cases found
  | case2 session message after received entry op result last others ih =>
    obtain ⟨later, rfl, rfl⟩ := exists_of_map_ok found
    obtain ⟨ops, rest, waiting, made⟩ := ih (by rw [others])
    refine ⟨.searchEntry entry :: ops, rest, ?_, .entry entry made⟩
    rw [(receive_ok received).1, List.map_cons, waiting, op, List.cons_append]
  | case3 session message after received urls op result last others ih =>
    obtain ⟨later, rfl, rfl⟩ := exists_of_map_ok found
    obtain ⟨ops, rest, waiting, made⟩ := ih (by rw [others])
    refine ⟨.searchReference urls :: ops, rest, ?_, .reference urls made⟩
    rw [(receive_ok received).1, List.map_cons, waiting, op, List.cons_append]
  | case4 session message after received outcome paging op ends =>
    obtain rfl := Except.ok.inj found
    have made := SearchResult.MadeOf.done outcome paging ends
    refine ⟨[.searchDone outcome paging], (after.inbox handle.id).map Message.op, ?_, made⟩
    rw [(receive_ok received).1, List.map_cons, op, List.singleton_append]
  | case5 => cases found
  | case6 => cases found

/-- A request that was written has its answers once they are taken in. -/
theorem arrived_of_post (sound : session.IsSound) {op : Operation} {controls : List Control} {timeout : Nat}
    {handle : Handle} {posted : Session}
    (accepted : (post op controls timeout).run session = (.ok handle, posted)) :
    handle = ⟨session.nextId, timeout⟩ ∧
      posted.takeIn.inbox session.nextId = posted.coming session.nextId ∧
      (Step.post op controls timeout).writes session = [⟨session.nextId, op, controls⟩] := by
  have outcome := post_cases session op controls timeout
  rw [accepted] at outcome
  cases outcome with
  | posted _ live left sends =>
    cases sends with
    | sent transport held readable written =>
      have unread : ¬session.IsUnreadable := fun unread => unread.2 (readable unread.1)
      have served := serves sound held live left unread written timeout
      refine ⟨rfl, served.arrived, ?_⟩
      have ready : session.IsWritable := ⟨held, readable⟩
      rw [Step.writes, Step.frames, requested_of_live live left, if_pos ready]
      rfl

/-- The search is written on the session as it should be, and this is made of all that comes for it up to a
final message. -/
def Answers (session : Session) (timeout : Nat) (request : SearchRequest) (page : SearchResult) : Prop :=
  ∃ posted, (post (.searchRequest request) [] timeout).run session = (.ok ⟨session.nextId, timeout⟩, posted) ∧
    page.MadeOf ((posted.coming session.nextId).map Message.op)

/-- A search succeeds with what is answered, and only so. -/
theorem search_ok_iff (sound : session.IsSound) (timeout : Nat) (request : SearchRequest)
    (page : SearchResult) :
    ((search timeout request).run session).1 = .ok page ↔ session.Answers timeout request page := by
  rw [search, SessionM.run_bind, submit, attending_run]
  cases accepted : (post (.searchRequest request) [] timeout).run session with
  | mk result posted =>
    cases result with
    | error error =>
      refine iff_of_false (fun found => by cases found) ?_
      rintro ⟨_, other, _⟩
      rw [accepted] at other
      cases other
    | ok handle =>
      obtain ⟨rfl, arrived, _⟩ := arrived_of_post sound accepted
      change (gather ⟨session.nextId, timeout⟩ posted.takeIn).1 = .ok page ↔ _
      constructor
      · intro found
        obtain ⟨ops, rest, waiting, made⟩ := madeOf_of_gather found
        rw [arrived] at waiting
        refine ⟨posted, accepted, ?_⟩
        rw [waiting, made.whole waiting, List.append_nil]
        exact made
      · rintro ⟨_, other, made⟩
        rw [accepted] at other
        obtain rfl := (Prod.mk.inj other).2
        exact gather_of_madeOf made (by rw [arrived, List.append_nil]) timeout

structure Inquiry where
  session : Session
  timeout : Nat
  request : SearchRequest

namespace Inquiry

def writes (inquiry : Inquiry) : List Message :=
  (Step.post (.searchRequest inquiry.request) [] inquiry.timeout).writes inquiry.session

def Brings (inquiry : Inquiry) : Except Error SearchResult → Prop
  | .ok page => inquiry.session.Answers inquiry.timeout inquiry.request page
  | .error error => ((search inquiry.timeout inquiry.request).run inquiry.session).1 = .error error

variable {inquiry : Inquiry}

theorem brings_iff (sound : inquiry.session.IsSound) (answer : Except Error SearchResult) :
    inquiry.Brings answer ↔ ((search inquiry.timeout inquiry.request).run inquiry.session).1 = answer := by
  cases answer with
  | ok page => exact (search_ok_iff sound _ _ page).symm
  | error error => exact .rfl

theorem writes_of_brings (sound : inquiry.session.IsSound) {page : SearchResult}
    (brings : inquiry.Brings (.ok page)) :
    inquiry.writes = [⟨inquiry.session.nextId, .searchRequest inquiry.request, []⟩] := by
  obtain ⟨_, accepted, _⟩ := brings
  exact (arrived_of_post sound accepted).2.2

end Inquiry

def Step.inquiries (session : Session) : Step → List Inquiry
  | post (.searchRequest request) _ timeout => [⟨session, timeout, request⟩]
  | _ => []

def inquiries : List Step → Session → List Inquiry := along Step.inquiries

theorem along_append (each : Session → Step → List α) (first second : List Step) (session : Session) :
    along each (first ++ second) session = along each first session ++ along each second (run first session) := by
  induction first generalizing session with
  | nil => rfl
  | cons step rest ih =>
    rw [List.cons_append, along, along, ih, List.append_assoc]
    rfl

theorem along_nil {each : Session → Step → List α} {steps : List Step}
    (none : ∀ step ∈ steps, ∀ session, each session step = []) (session : Session) :
    along each steps session = [] := by
  induction steps generalizing session with
  | nil => rfl
  | cons step rest ih =>
    rw [List.forall_mem_cons] at none
    rw [along, none.1, ih none.2, List.nil_append]

/-- What a run gives was given by one of its steps. -/
theorem mem_along {each : Session → Step → List α} {steps : List Step} {a : α}
    (member : a ∈ along each steps session) :
    ∃ first step rest, steps = first ++ step :: rest ∧ a ∈ each (run first session) step := by
  induction steps generalizing session with
  | nil => cases member
  | cons step rest ih =>
    rcases List.mem_append.mp member with now | later
    · exact ⟨[], step, rest, rfl, now⟩
    · obtain ⟨first, other, more, split, found⟩ := ih later
      exact ⟨step :: first, other, more, by rw [split, List.cons_append], found⟩

theorem sound_of_mem_inquiries {steps : List Step} (sound : session.IsSound) :
    ∀ inquiry ∈ inquiries steps session, inquiry.session.IsSound := by
  intro inquiry member
  obtain ⟨first, step, _, _, found⟩ := mem_along member
  unfold Step.inquiries at found
  split at found
  · rw [List.mem_singleton.mp found]
    exact (run_evolves first session).sound sound
  · cases found

structure Ignores (each : Session → Step → List α) : Prop where
  takeIn (session : Session) : each session .takeIn = []
  receive (handle : Handle) (session : Session) : each session (.receive handle) = []
  drop (id : MessageId) (session : Session) : each session (.drop id) = []

theorem ignores_inquiries : Ignores Step.inquiries := ⟨fun _ => rfl, fun _ _ => rfl, fun _ _ => rfl⟩

theorem ignores_writes : Ignores Step.writes := ⟨fun _ => rfl, fun _ _ => rfl, fun _ _ => rfl⟩

def Step.IsReading : Step → Prop
  | takeIn | receive _ | drop _ => True
  | _ => False

theorem Ignores.reading {each : Session → Step → List α} (ignores : Ignores each) {step : Step}
    (reading : step.IsReading) (session : Session) : each session step = [] := by
  cases step with
  | takeIn => exact ignores.takeIn session
  | receive handle => exact ignores.receive handle session
  | drop id => exact ignores.drop id session
  | arrive | number | post | giveUp | settle | secure | close => exact absurd reading id

/-- A request whose answers are only read is posted first, and then its answers are read. -/
theorem exists_reading {reads : Handle → Session → List Step}
    (only : ∀ handle after, ∀ step ∈ reads handle after, step = .receive handle) (op : Operation)
    (controls : List Control) (timeout : Nat) (session : Session) :
    ∃ rest, submitSteps op controls timeout reads session = .post op controls timeout :: rest ∧
      ∀ step ∈ rest, step.IsReading := by
  refine ⟨_, rfl, fun step member => ?_⟩
  rcases List.mem_cons.mp member with rfl | member
  · trivial
  · split at member
    · next handle after _ =>
      rcases List.mem_append.mp member with read | dropped
      · rw [only handle after step read]
        trivial
      · rw [List.mem_singleton.mp dropped]
        trivial
    · cases member

/-- All that counts of a request whose answers are only read is that it is posted. -/
theorem Ignores.submit {each : Session → Step → List α} (ignores : Ignores each)
    {reads : Handle → Session → List Step}
    (only : ∀ handle after, ∀ step ∈ reads handle after, step = .receive handle) (op : Operation)
    (controls : List Control) (timeout : Nat) (session : Session) :
    along each (submitSteps op controls timeout reads session) session =
      each session (.post op controls timeout) := by
  obtain ⟨rest, steps, reading⟩ := exists_reading only op controls timeout session
  have silent : ∀ step ∈ rest, ∀ session, each session step = [] := fun step member =>
    ignores.reading (reading step member)
  rw [steps, along, along_nil silent, List.append_nil]

theorem Ignores.search {each : Session → Step → List α} (ignores : Ignores each) (timeout : Nat)
    (request : SearchRequest) (session : Session) :
    along each (Request.steps session (.search timeout request [])) session =
      each session (.post (.searchRequest request) [] timeout) :=
  ignores.submit gatherSteps_receives (.searchRequest request) [] timeout session

theorem Ignores.exchange {each : Session → Step → List α} (ignores : Ignores each) (op : Operation)
    (controls : List Control) (timeout : Nat) (session : Session) :
    along each (Request.steps session (.exchange op controls timeout)) session =
      each session (.post op controls timeout) :=
  ignores.submit (fun _ _ _ => List.mem_singleton.mp) op controls timeout session

end Session

end Directory
