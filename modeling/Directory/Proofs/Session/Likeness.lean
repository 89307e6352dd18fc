import Mathlib.Data.List.Forall2
import Directory.Proofs.Stream
import Directory.Proofs.Session.Course
/-!
Two sessions side by side. Their transports may differ in what is to be read and in how much one call moves,
and in nothing else. As long as what is read from both comes to the same for those who wait, the sessions
stay alike, and every step is answered alike on both.
-/
namespace Directory

def Message.settles (message : Message) (awaited : MessageId → Bool) (id : MessageId) : Bool :=
  awaited id && !(message.id == id && message.op.isFinal)

/-- What is read off two streams up to a message that stops the reading, or as far as there are whole frames:
the same messages, on the second stream with some between them that nobody awaits. The rest of the streams
is in the relation again. -/
inductive Interleaves (streams : List Arrival → List Arrival → Prop) (limit : UInt32) (isShut : Bool)
    (stops : Message → Bool) : (MessageId → Bool) → List Arrival → List Arrival → Prop where
  | foreign {awaited : MessageId → Bool} {one other right : List Arrival} (message : Message) :
      StreamReader.message limit isShut other = (.done message, right) → stops message = false →
      awaited message.id = false → Interleaves streams limit isShut stops awaited one right →
      Interleaves streams limit isShut stops awaited one other
  | both {awaited : MessageId → Bool} {one other left right : List Arrival} (message : Message) :
      StreamReader.message limit isShut one = (.done message, left) →
      StreamReader.message limit isShut other = (.done message, right) → stops message = false →
      Interleaves streams limit isShut stops (message.settles awaited) left right →
      Interleaves streams limit isShut stops awaited one other
  | last {awaited : MessageId → Bool} {one other left right : List Arrival} (result : Taken Message) :
      StreamReader.message limit isShut one = (result, left) →
      StreamReader.message limit isShut other = (result, right) →
      (∀ message, result = .done message → stops message = true) → streams left right →
      Interleaves streams limit isShut stops awaited one other

/-- Where two streams are read alike, and what is left of them is related again, they stay so to the end. -/
theorem interleaves_of_related {related streams : List Arrival → List Arrival → Prop} {limit : UInt32}
    {isShut : Bool} {stops : Message → Bool}
    (each : ∀ one other, related one other → ∃ result left right,
      StreamReader.message limit isShut one = (result, left) ∧
        StreamReader.message limit isShut other = (result, right) ∧ related left right)
    (ends : ∀ left right, related left right → streams left right) {one other : List Arrival}
    (start : related one other) (awaited : MessageId → Bool) :
    Interleaves streams limit isShut stops awaited one other := by
  -- Every message takes something off the first stream.
  induction bound : one.length using Nat.strongRecOn generalizing one other awaited with
  | ind bound ih =>
    subst bound
    obtain ⟨result, left, right, first, second, later⟩ := each one other start
    by_cases more : ∃ message, result = .done message ∧ stops message = false
    · obtain ⟨message, rfl, going⟩ := more
      exact .both message first second going (ih _ (Transport.message_length first) later _ rfl)
    · refine .last result first second (fun message same => ?_) (ends left right later)
      cases stopped : stops message with
      | true => rfl
      | false => exact absurd ⟨message, same, stopped⟩ more

/-- A response stops the reading for the sake of its number only, unless it is a notice, and only if it is
awaited. -/
structure PassesBy (stops : Message → Bool) (awaited : MessageId → Bool) : Prop where
  unawaited (message : Message) : message.op.isRequest = false → message.notice? = none →
    awaited message.id = false → stops message = false
  sameNumber (message other : Message) : stops message = false → other.op.isRequest = false →
    other.notice? = none → other.id = message.id → stops other = false

theorem PassesBy.settles {stops : Message → Bool} {awaited : MessageId → Bool} {message : Message}
    (passes : PassesBy stops awaited) (going : stops message = false) :
    PassesBy stops (message.settles awaited) := by
  refine ⟨fun other response silent settled => ?_, passes.sameNumber⟩
  cases waits : awaited other.id with
  | false => exact passes.unawaited other response silent waits
  | true =>
    have same : (message.id == other.id && message.op.isFinal) = true := by
      simpa [Message.settles, waits] using settled
    rw [Bool.and_eq_true, beq_iff_eq] at same
    exact passes.sameNumber message other going response silent same.1.symm

/-- A manner in which two streams may differ, and what has to hold of them where something is read. -/
structure Manner where
  streams : List Arrival → List Arrival → Prop
  reads (limit : UInt32) (isShut : Bool) (stops : Message → Bool) (awaited : MessageId → Bool) :
    List Arrival → List Arrival → Prop
  append {one other left right : List Arrival} : streams one other → streams left right →
    streams (one ++ left) (other ++ right)
  interleaves {limit : UInt32} {isShut : Bool} {stops : Message → Bool} {awaited : MessageId → Bool}
    {one other : List Arrival} : PassesBy stops awaited → streams one other →
    reads limit isShut stops awaited one other → Interleaves streams limit isShut stops awaited one other

/-- Two outcomes with the same result. -/
theorem exists_of_fst_eq {one : α × σ} {other : α × τ} (same : one.1 = other.1) :
    ∃ a left right, one = (a, left) ∧ other = (a, right) :=
  ⟨one.1, one.2, other.2, rfl, Prod.ext same.symm rfl⟩

theorem forall₂_tail {related : α → β → Prop} {left : List α} {right : List β}
    (all : List.Forall₂ related left right) : List.Forall₂ related left.tail right.tail := by
  cases all with
  | nil => exact .nil
  | cons _ later => exact later

theorem forall₂_head? {related : α → β → Prop} {left : List α} {right : List β}
    (all : List.Forall₂ related left right) :
    left.head? = none ∧ right.head? = none ∨
      ∃ a b, left.head? = some a ∧ right.head? = some b ∧ related a b := by
  cases all with
  | nil => exact .inl ⟨rfl, rfl⟩
  | cons first _ => exact .inr ⟨_, _, rfl, rfl, first⟩

variable {manner : Manner}

inductive Reaction.Alike (manner : Manner) : Reaction → Reaction → Prop where
  | actions (some others : List Action) :
      (∀ id, manner.streams (some.flatMap (Action.arrivals id)) (others.flatMap (Action.arrivals id))) →
      Alike manner (.actions some) (.actions others)
  | same (reaction : Reaction) : (∀ actions, reaction ≠ .actions actions) → Alike manner reaction reaction

namespace Transport

inductive Alike (manner : Manner) (one : Transport) : Transport → Prop where
  | intro (incoming : List Arrival) (script : List Reaction) (readLimit writeLimit : Option Nat) :
      manner.streams one.incoming incoming → List.Forall₂ (Reaction.Alike manner) one.script script →
      Alike manner one { one with incoming, script, readLimit, writeLimit }

variable {one other : Transport}

namespace Alike

theorem incoming (alike : one.Alike manner other) : manner.streams one.incoming other.incoming := by
  cases alike with
  | intro _ _ _ _ streams => exact streams

theorem isShut (alike : one.Alike manner other) : other.isShut = one.isShut := by
  cases alike
  rfl

/-- Something was read off both. -/
theorem left (alike : one.Alike manner other) {left right : List Arrival} (streams : manner.streams left right) :
    Alike manner { one with incoming := left } { other with incoming := right } := by
  cases alike with
  | intro _ script readLimit writeLimit _ scripts =>
    exact .intro right script readLimit writeLimit streams scripts

theorem deliver (alike : one.Alike manner other) {id : MessageId} {some others : List Action}
    (more : manner.streams (some.flatMap (Action.arrivals id)) (others.flatMap (Action.arrivals id))) :
    Alike manner (one.deliver id some) (other.deliver id others) := by
  cases alike with
  | intro _ _ _ _ streams scripts => exact .intro _ _ _ _ (manner.append streams more) scripts

theorem skipReaction (alike : one.Alike manner other) : one.skipReaction.Alike manner other.skipReaction := by
  cases alike with
  | intro _ _ _ _ streams scripts =>
    exact .intro _ _ _ _ streams (forall₂_tail scripts)

theorem fill (alike : one.Alike manner other) (octets : Octets) :
    (one.fill octets).1 = (other.fill octets).1 ∧ (one.fill octets).2.Alike manner (other.fill octets).2 := by
  cases alike with
  | intro _ _ _ _ streams scripts =>
    unfold Transport.fill
    dsimp only
    cases one.room with
    | none => exact ⟨rfl, .intro _ _ _ _ streams scripts⟩
    | some room => exact ⟨rfl, .intro _ _ _ _ streams scripts⟩

/-- The next reactions of both, if there are any. -/
theorem reactions (alike : one.Alike manner other) :
    one.script.head? = none ∧ other.script.head? = none ∨
      ∃ reaction reacted, one.script.head? = some reaction ∧ other.script.head? = some reacted ∧
        Reaction.Alike manner reaction reacted := by
  cases alike with
  | intro _ _ _ _ _ scripts => exact forall₂_head? scripts

theorem wrote (alike : one.Alike manner other) (octets : Octets) :
    (one.wrote octets).1 = (other.wrote octets).1 ∧
      (one.wrote octets).2.Alike manner (other.wrote octets).2 := by
  have filled := alike.fill octets
  unfold Transport.wrote
  rcases alike.reactions with ⟨none, nothing⟩ | ⟨reaction, _, some, reacted, same⟩
  · rw [none, nothing]
    exact filled
  · rw [some, reacted]
    cases same with
    | actions => exact filled
    | same =>
      cases reaction with
      | writeFailure | writeNothing => exact ⟨rfl, alike.skipReaction⟩
      | actions | flushFailure => exact filled

theorem writeAll (alike : one.Alike manner other) (octets : Octets) :
    (one.writeAll octets).1 = (other.writeAll octets).1 ∧
      (one.writeAll octets).2.Alike manner (other.writeAll octets).2 := by
  -- Nothing is written for no octets, not even a failure is met.
  cases octets with
  | nil => simpa [Transport.writeAll] using alike
  | cons octet rest =>
    rw [writeAll_eq, writeAll_eq]
    exact alike.wrote (octet :: rest)

theorem answer (alike : one.Alike manner other) (frame : Octets) {some others : List Action}
    (more : ∀ id, manner.streams (some.flatMap (Action.arrivals id)) (others.flatMap (Action.arrivals id))) :
    Alike manner (one.answer frame some) (other.answer frame others) := by
  unfold Transport.answer
  split
  · split
    · exact alike
    · exact alike.deliver (more _)
  · exact alike.deliver (more _)

theorem flushed (alike : one.Alike manner other) :
    one.outgoing = other.outgoing ∧
      Alike manner { one.skipReaction with outgoing := [], sent := one.sent ++ [one.outgoing] }
        { other.skipReaction with outgoing := [], sent := other.sent ++ [other.outgoing] } := by
  cases alike with
  | intro _ _ _ _ streams scripts => exact ⟨rfl, .intro _ _ _ _ streams (forall₂_tail scripts)⟩

theorem flush (alike : one.Alike manner other) :
    one.flush.1 = other.flush.1 ∧ one.flush.2.Alike manner other.flush.2 := by
  obtain ⟨same, flushed⟩ := alike.flushed
  unfold Transport.flush
  dsimp only
  rcases alike.reactions with ⟨none, nothing⟩ | ⟨reaction, _, some, reacted, reactions⟩
  · rw [none, nothing]
    exact ⟨rfl, flushed⟩
  · rw [some, reacted]
    cases reactions with
    | actions some others more =>
      dsimp only
      rw [← same] at flushed ⊢
      exact ⟨rfl, flushed.answer one.outgoing more⟩
    | same _ plain =>
      cases reaction with
      | actions actions => exact absurd rfl (plain actions)
      | _ => exact ⟨rfl, flushed⟩

/-- A frame comes to the same, and what is answered to it goes on to be alike. -/
theorem send (alike : one.Alike manner other) (frame : Octets) :
    (one.send frame).1 = (other.send frame).1 ∧ (one.send frame).2.Alike manner (other.send frame).2 := by
  obtain ⟨same, later⟩ := alike.writeAll frame
  obtain ⟨result, left, right, first, second⟩ := exists_of_fst_eq same
  unfold Transport.send
  rw [first, second] at later ⊢
  cases result with
  | ok _ => exact later.flush
  | error failure => exact ⟨rfl, later⟩

theorem shutdown (alike : one.Alike manner other) : one.shutdown.2.Alike manner other.shutdown.2 := by
  cases alike with
  | intro _ _ _ _ streams scripts =>
    unfold Transport.shutdown
    dsimp only
    cases one.shutdownFailure with
    | none => exact .intro _ _ _ _ streams scripts
    | some text => exact .intro _ _ _ _ streams scripts

theorem setReadTimeout (alike : one.Alike manner other) (timeout : Option Nat) :
    (one.setReadTimeout timeout).1 = (other.setReadTimeout timeout).1 ∧
      (one.setReadTimeout timeout).2.Alike manner (other.setReadTimeout timeout).2 := by
  cases alike with
  | intro _ _ _ _ streams scripts =>
    unfold Transport.setReadTimeout
    dsimp only
    cases timeout with
    | none => exact ⟨rfl, .intro _ _ _ _ streams scripts⟩
    | some most =>
      cases one.timeoutFailure with
      | none => exact ⟨rfl, .intro _ _ _ _ streams scripts⟩
      | some text => exact ⟨rfl, .intro _ _ _ _ streams scripts⟩

end Alike

def found (id : MessageId) : Taken Message → Except Error Message
  | .done message =>
    if message.id = id then .ok message
    else .error (.connection (Termination.noticeText (message.notice?.getD "")))
  | .refused fault => .error fault.toError
  | .failed failure => .error (.stream failure)
  | .waiting => .error (.stream .noAnswer)

def answers (id : MessageId) (message : Message) : Bool := message.id == id || message.notice?.isSome

variable {id : MessageId} {limit : UInt32} {left right : List Arrival}

theorem awaitResponse_skip {message : Message}
    (read : StreamReader.message limit one.isShut left = (.done message, right))
    (skipped : answers id message = false) :
    { one with incoming := left }.awaitResponse id limit =
      { one with incoming := right }.awaitResponse id limit := by
  have taken : { one with incoming := left }.takeMessage limit =
      (.done message, { one with incoming := right }) := by
    rw [takeMessage_eq, read]
  simp only [answers, Bool.or_eq_false_iff, beq_eq_false_iff_ne, Option.isSome_eq_false_iff,
    Option.isNone_iff_eq_none] at skipped
  rw [awaitResponse]
  split
  · next other after same =>
    rw [taken] at same
    cases same
    rw [if_neg skipped.1, skipped.2]
  all_goals next same =>
    rw [taken] at same
    cases same

theorem awaitResponse_found {result : Taken Message}
    (read : StreamReader.message limit one.isShut left = (result, right))
    (final : ∀ message, result = .done message → answers id message = true) :
    { one with incoming := left }.awaitResponse id limit =
      (found id result, { one with incoming := right }) := by
  have taken : { one with incoming := left }.takeMessage limit = (result, { one with incoming := right }) := by
    rw [takeMessage_eq, read]
  rw [awaitResponse]
  split
  · next message after same =>
    rw [taken] at same
    cases same
    have answering := final message rfl
    rw [found]
    by_cases mine : message.id = id
    · rw [if_pos mine, if_pos mine]
    · rw [if_neg mine, if_neg mine]
      cases notice : message.notice? with
      | some text => rfl
      | none => simp [answers, mine, notice] at answering
  all_goals next same =>
    rw [taken] at same
    cases same
    rfl

/-- The wait for a response ends alike where all between is skipped. -/
theorem awaitResponse_interleaves {awaited : MessageId → Bool} (shut : other.isShut = one.isShut)
    (alike : ∀ {left right}, manner.streams left right →
      Alike manner { one with incoming := left } { other with incoming := right })
    (interleaves : Interleaves manner.streams limit one.isShut (answers id) awaited left right) :
    ({ one with incoming := left }.awaitResponse id limit).1 =
        ({ other with incoming := right }.awaitResponse id limit).1 ∧
      ({ one with incoming := left }.awaitResponse id limit).2.Alike manner
        ({ other with incoming := right }.awaitResponse id limit).2 := by
  induction interleaves with
  | foreign message read skipped _ _ ih =>
    rw [← shut] at read
    rw [awaitResponse_skip read skipped]
    exact ih
  | both message first second skipped _ ih =>
    rw [← shut] at second
    rw [awaitResponse_skip first skipped, awaitResponse_skip second skipped]
    exact ih
  | last result first second final streams =>
    rw [← shut] at second
    rw [awaitResponse_found first final, awaitResponse_found second final]
    exact ⟨rfl, alike streams⟩

theorem passesBy_answers (id : MessageId) : PassesBy (answers id) (· == id) where
  unawaited message _ silent unawaited := by
    have other : (message.id == id) = false := unawaited
    rw [answers, other, silent]
    rfl
  sameNumber message other going _ silent same := by
    rw [answers, Bool.or_eq_false_iff] at going
    rw [answers, same, going.1, silent]
    rfl

theorem Alike.awaitResponse (alike : one.Alike manner other)
    (reads : manner.reads limit one.isShut (answers id) (· == id) one.incoming other.incoming) :
    (one.awaitResponse id limit).1 = (other.awaitResponse id limit).1 ∧
      (one.awaitResponse id limit).2.Alike manner (other.awaitResponse id limit).2 :=
  awaitResponse_interleaves alike.isShut alike.left
    (manner.interleaves (passesBy_answers id) alike.incoming reads)

theorem setReadTimeout_keeps (timeout : Option Nat) (transport : Transport) :
    (transport.setReadTimeout timeout).2.incoming = transport.incoming ∧
      (transport.setReadTimeout timeout).2.isShut = transport.isShut := by
  unfold setReadTimeout
  dsimp only
  split <;> exact ⟨rfl, rfl⟩

theorem Alike.awaitWithin (alike : one.Alike manner other)
    (reads : manner.reads limit one.isShut (answers id) (· == id) one.incoming other.incoming) (timeout : Nat) :
    (one.awaitWithin id limit timeout).1 = (other.awaitWithin id limit timeout).1 ∧
      (one.awaitWithin id limit timeout).2.Alike manner (other.awaitWithin id limit timeout).2 := by
  obtain ⟨same, bounded⟩ := alike.setReadTimeout (some timeout)
  obtain ⟨incoming, shut⟩ := setReadTimeout_keeps (some timeout) one
  obtain ⟨otherwise, _⟩ := setReadTimeout_keeps (some timeout) other
  rw [← incoming, ← otherwise, ← shut] at reads
  obtain ⟨result, left, right, first, second⟩ := exists_of_fst_eq same
  unfold Transport.awaitWithin
  rw [first, second] at bounded reads ⊢
  cases result with
  | error failure => exact ⟨rfl, bounded⟩
  | ok _ =>
    obtain ⟨answered, after⟩ := bounded.awaitResponse reads
    exact ⟨answered, (after.setReadTimeout none).2⟩

theorem Alike.converse {frame : Octets} (alike : one.Alike manner other)
    (reads : manner.reads limit (one.send frame).2.isShut (answers id) (· == id) (one.send frame).2.incoming
      (other.send frame).2.incoming) (timeout : Nat) :
    (one.converse frame id limit timeout).1 = (other.converse frame id limit timeout).1 ∧
      (one.converse frame id limit timeout).2.Alike manner (other.converse frame id limit timeout).2 := by
  obtain ⟨same, sent⟩ := alike.send frame
  obtain ⟨result, left, right, first, second⟩ := exists_of_fst_eq same
  unfold Transport.converse
  rw [first, second] at sent reads ⊢
  cases result with
  | error failure => exact ⟨rfl, sent⟩
  | ok _ => exact sent.awaitWithin reads timeout

end Transport

namespace Session

inductive Alike (manner : Manner) (one : Session) : Session → Prop where
  | intro (transport : Transport) : one.transport.Alike manner transport →
      Alike manner one { one with transport }

def facing (session : Session) (stream : List Arrival) : Session :=
  { session with transport := { session.transport with incoming := stream } }

def verdict? (peer : String) : Taken Message → Option (Except Termination Message)
  | .done message =>
    some <| match message.ending? with
      | some reason => .error reason
      | none => .ok message
  | .refused fault => some (.error (.ofFault fault))
  | .failed failure => some (.error (.ofFailure peer failure))
  | .waiting => none

theorem verdict?_eq_none {peer : String} {result : Taken Message} (none : verdict? peer result = .none) :
    result = .waiting := by
  cases result <;> simp [verdict?] at none ⊢

theorem verdict?_ne_ok {peer : String} {result : Taken Message} {message : Message}
    (final : ∀ message, result = .done message → message.ending?.isSome = true) :
    verdict? peer result ≠ some (.ok message) := by
  cases result with
  | done found =>
    obtain ⟨reason, ending⟩ := Option.isSome_iff_exists.mp (final found rfl)
    simp [verdict?, ending]
  | _ => simp [verdict?]

variable {one other session : Session} {left right : List Arrival}

theorem nextMessage?_facing (session : Session) {result : Taken Message}
    (read : StreamReader.message session.config.maxMessageSize session.transport.isShut left = (result, right)) :
    (session.facing left).nextMessage? =
      (verdict? session.peer result).map fun verdict => (verdict, (session.facing right).transport) := by
  have taken : (session.facing left).transport.takeMessage session.config.maxMessageSize =
      (result, (session.facing right).transport) := by
    rw [Transport.takeMessage_eq, facing, read]
    rfl
  unfold nextMessage?
  rw [show (session.facing left).config = session.config from rfl, taken]
  cases result with
  | done message =>
    dsimp only [verdict?]
    cases message.ending? <;> rfl
  | _ => rfl

theorem takeIn_none (next : session.nextMessage? = none) : session.takeIn = session := by
  rw [takeIn]
  split
  · split
    · next same =>
      rw [next] at same
      cases same
    · next same =>
      rw [next] at same
      cases same
    · rfl
  · rfl

theorem takeIn_facing (session : Session) (running : session.receiver = .running) {message : Message}
    (read : StreamReader.message session.config.maxMessageSize session.transport.isShut left =
      (.done message, right)) (harmless : message.ending?.isSome = false) :
    (session.facing left).takeIn = ((session.route message).facing right).takeIn := by
  have going : message.ending? = none := by simpa using harmless
  have next : (session.facing left).nextMessage? = some (.ok message, (session.facing right).transport) := by
    rw [nextMessage?_facing session read, verdict?, going]
    rfl
  exact takeIn_of_ok next running

/-- A message that nobody waits for changes nothing. -/
theorem route_of_not_pending {message : Message} (nobody : session.isPending message.id = false) :
    session.route message = session := by
  have unmoved : session.waiters.map (fun waiter =>
      if waiter.id = message.id then waiter.take message else waiter) = session.waiters := by
    rw [isPending, List.any_eq_false] at nobody
    conv => rhs; rw [← List.map_id session.waiters]
    apply List.map_congr_left
    intro waiter member
    have closed := nobody waiter member
    split
    · next mine => simp_all [Waiter.take]
    · rfl
  rw [route, updateWaiter, unmoved]

theorem isPending_route {message : Message} {id : MessageId}
    (pending : (session.route message).isPending id = true) :
    session.isPending id = true ∧ (message.id == id && message.op.isFinal) = false := by
  rw [isPending, List.any_eq_true] at pending
  obtain ⟨waiter, member, waiting⟩ := pending
  obtain ⟨before, present, rfl⟩ := List.mem_map.mp member
  rw [isPending, List.any_eq_true]
  by_cases mine : before.id = message.id
  · rw [if_pos mine] at waiting
    unfold Waiter.take at waiting
    split at waiting
    · next open_ => exact ⟨⟨before, present, by simp_all⟩, by simp_all⟩
    · next closed => simp_all
  · rw [if_neg mine] at waiting
    have same : before.id = id := by
      rw [Bool.and_eq_true] at waiting
      exact eq_of_beq waiting.1
    exact ⟨⟨before, present, waiting⟩, by simp [← same, Ne.symm mine]⟩

namespace Alike

theorem transport (alike : one.Alike manner other) : one.transport.Alike manner other.transport := by
  cases alike with
  | intro _ transports => exact transports

theorem phase (alike : one.Alike manner other) : other.phase = one.phase := by
  cases alike
  rfl

theorem ending (alike : one.Alike manner other) : other.ending = one.ending := by
  cases alike
  rfl

theorem held (alike : one.Alike manner other) : other.holdsTransport = one.holdsTransport := by
  cases alike
  rfl

theorem config (alike : one.Alike manner other) : other.config = one.config := by
  cases alike
  rfl

theorem release (alike : one.Alike manner other) : one.release.Alike manner other.release := by
  cases alike with
  | intro transport transports =>
    unfold Session.release
    dsimp only
    split
    · exact .intro _ transports.shutdown
    · exact .intro _ transports

theorem terminate (alike : one.Alike manner other) (reason : Termination) :
    (one.terminate reason).Alike manner (other.terminate reason) := by
  cases alike with
  | intro transport transports =>
    unfold Session.terminate
    dsimp only
    split <;> exact .intro _ transports

theorem stop (alike : one.Alike manner other) (reason : Termination) :
    (one.stop reason).Alike manner (other.stop reason) := by
  have stopped : Alike manner { one with receiver := .stopped } { other with receiver := .stopped } := by
    cases alike with
    | intro transport transports => exact .intro _ transports
  exact (stopped.terminate reason).release

end Alike

def beside (session : Session) (script : List Reaction) (readLimit writeLimit : Option Nat) : Session :=
  { session with transport := { session.transport with script, readLimit, writeLimit } }

/-- The receivers of two sessions do alike where all between is for nobody. -/
theorem takeIn_interleaves {limit : UInt32} {isShut : Bool} {script : List Reaction}
    {readLimit writeLimit : Option Nat} {awaited : MessageId → Bool}
    (interleaves : Interleaves manner.streams limit isShut (fun message => message.ending?.isSome) awaited left
      right)
    (running : one.receiver = .running) (limited : one.config.maxMessageSize = limit)
    (shut : one.transport.isShut = isShut)
    (scripts : List.Forall₂ (Reaction.Alike manner) one.transport.script script)
    (pending : ∀ id, one.isPending id = true → awaited id = true) :
    (one.facing left).takeIn.Alike manner ((one.beside script readLimit writeLimit).facing right).takeIn := by
  -- The session changes with every message that is for somebody, and those who wait are among the awaited.
  induction interleaves generalizing one with
  | foreign message read harmless nobody _ ih =>
    subst limited shut
    have closed : one.isPending message.id = false := by
      rw [← Bool.not_eq_true]
      intro waiting
      rw [pending _ waiting] at nobody
      cases nobody
    have skipped : ((one.beside script readLimit writeLimit).facing _).takeIn =
        ((one.route message).beside script readLimit writeLimit |>.facing _).takeIn :=
      takeIn_facing (one.beside script readLimit writeLimit) running read harmless
    rw [skipped, route_of_not_pending closed]
    exact ih running rfl rfl scripts pending
  | both message first second harmless _ ih =>
    subst limited shut
    have later : ((one.beside script readLimit writeLimit).facing _).takeIn =
        ((one.route message).beside script readLimit writeLimit |>.facing _).takeIn :=
      takeIn_facing (one.beside script readLimit writeLimit) running second harmless
    rw [takeIn_facing one running first harmless, later]
    have onwards : (one.route message).receiver = .running := running
    apply ih onwards rfl rfl scripts
    intro id waiting
    obtain ⟨before, unsettled⟩ := isPending_route waiting
    rw [Message.settles, pending id before, unsettled]
    rfl
  | last result first second final streams =>
    subst limited shut
    have alike : ∀ {left right}, manner.streams left right →
        (one.facing left).Alike manner ((one.beside script readLimit writeLimit).facing right) :=
      fun streams => .intro _ (.intro _ _ _ _ streams scripts)
    have next := nextMessage?_facing one first
    have later := nextMessage?_facing (one.beside script readLimit writeLimit) second
    change _ = (verdict? one.peer result).map _ at later
    cases verdict : verdict? one.peer result with
    | none =>
      rw [verdict] at next later
      rw [takeIn_none next, takeIn_none later]
      cases verdict?_eq_none verdict
      rw [← StreamReader.message_waiting first, ← StreamReader.message_waiting second]
      exact alike streams
    | some conclusion =>
      cases conclusion with
      | ok message => exact absurd verdict (verdict?_ne_ok final)
      | error reason =>
        rw [verdict] at next later
        rw [takeIn_of_error next running, takeIn_of_error later running]
        exact (alike streams).stop reason

theorem passesBy_ending (awaited : MessageId → Bool) :
    PassesBy (fun message => message.ending?.isSome) awaited where
  unawaited message response silent _ := by simp [Message.ending?, response, silent]
  sameNumber _ other _ response silent _ := by simp [Message.ending?, response, silent]

def TakesInAlike (manner : Manner) (one other : Session) : Prop :=
  one.receiver = .running → manner.reads one.config.maxMessageSize one.transport.isShut
    (fun message => message.ending?.isSome) one.isPending one.transport.incoming other.transport.incoming

theorem Alike.takeIn (alike : one.Alike manner other) (reads : TakesInAlike manner one other) :
    one.takeIn.Alike manner other.takeIn := by
  by_cases running : one.receiver = .running
  · have found := reads running
    cases alike with
    | intro transport transports =>
      cases transports with
      | intro incoming script readLimit writeLimit streams scripts =>
        have interleaves := manner.interleaves (passesBy_ending _) streams found
        exact takeIn_interleaves interleaves running rfl rfl scripts fun _ => id
  · have still : one.takeIn = one ∧ other.takeIn = other := by
      cases alike
      exact ⟨by rw [Session.takeIn, if_neg running], by rw [Session.takeIn, if_neg running]⟩
    rw [still.1, still.2]
    exact alike

end Session

end Directory
