import Directory.Proofs.Session.Parallel
import Directory.Proofs.Session.Pending
/-!
Octets however they come. It makes no difference to a session how many octets a call moves and how often a
call to read is interrupted.
-/
namespace Directory

/-- What is taken off two streams that are the same but for interruptions is the same. -/
theorem StreamReader.Orderly.agree {reader : StreamReader α} (orderly : reader.Orderly)
    {one other : List Arrival} (same : Arrival.uninterrupted one = Arrival.uninterrupted other) (isShut : Bool) :
    (reader isShut one).1 = (reader isShut other).1 ∧
      Arrival.uninterrupted (reader isShut one).2 = Arrival.uninterrupted (reader isShut other).2 := by
  have first := orderly.uninterrupted isShut one
  rw [same, orderly.uninterrupted isShut other, Prod.mk.injEq] at first
  exact ⟨first.1.symm, first.2.symm⟩

def Manner.chunks : Manner where
  streams one other := Arrival.uninterrupted one = Arrival.uninterrupted other
  reads _ _ _ _ _ _ := True
  append same later := by
    unfold Arrival.uninterrupted at same later ⊢
    rw [List.filter_append, List.filter_append, same, later]
  interleaves {limit isShut stops awaited one other} _ same _ := by
    have each (one other : List Arrival) (same : Arrival.uninterrupted one = Arrival.uninterrupted other) :
        ∃ result left right, StreamReader.message limit isShut one = (result, left) ∧
          StreamReader.message limit isShut other = (result, right) ∧
          Arrival.uninterrupted left = Arrival.uninterrupted right := by
      obtain ⟨taken, left⟩ := (StreamReader.orderly_message limit).agree same isShut
      exact ⟨(StreamReader.message limit isShut one).1, (StreamReader.message limit isShut one).2,
        (StreamReader.message limit isShut other).2, rfl, Prod.ext taken.symm rfl, left⟩
    exact interleaves_of_related each (fun _ _ => id) same awaited

namespace Session

/-- The same act, but for interruptions of what arrives in it, and for how much the calls of a transport move
that is made secure. -/
inductive Act.Rechunked : Act → Act → Prop where
  | arrive (some others : List Action) :
      Manner.chunks.streams (some.flatMap (Action.arrivals 0)) (others.flatMap (Action.arrivals 0)) →
      Rechunked (.step (.arrive some)) (.step (.arrive others))
  | secure (upgrade upgraded : Upgrade) : UpgradesFaithfully .chunks upgrade upgraded →
      Rechunked (.step (.secure upgrade)) (.step (.secure upgraded))
  | same (act : Act) : (∀ upgrade, act ≠ .step (.secure upgrade)) → Rechunked act act

variable {one other : Session}

/-- What is read need not be compared. -/
theorem matches_chunks {step : Step} (plain : ∀ upgrade, step ≠ .secure upgrade) (one other : Session) :
    step.Matches .chunks one other step := by
  cases step with
  | arrive actions => exact .arrive actions actions rfl
  | takeIn => exact .takeIn fun _ => trivial
  | secure upgrade => exact absurd rfl (plain upgrade)
  | _ => exact .blind _ rfl

theorem plain_submitSteps {op : Operation} {controls : List Control} {timeout : Nat}
    {reads : Handle → Session → List Step}
    (only : ∀ handle session, ∀ step ∈ reads handle session, step = .receive handle) (session : Session) :
    ∀ step ∈ submitSteps op controls timeout reads session, ∀ upgrade, step ≠ .secure upgrade := by
  intro step member upgrade
  rcases mem_submitSteps member with rfl | rfl | ⟨handle, after, _, reading | rfl⟩
  · simp
  · simp
  · simp [only handle after step reading]
  · simp

/-- No request secures the session. -/
theorem plain_requestSteps (request : Request) (session : Session) :
    ∀ step ∈ request.steps session, ∀ upgrade, step ≠ .secure upgrade := by
  cases request with
  | exchange op controls timeout =>
    apply plain_submitSteps
    simp
  | search timeout request controls => exact plain_submitSteps gatherSteps_receives session
  | abandon target => simp [Request.steps]

theorem Course.plain {made : Request → Prop} {steps : List Step} {session : Session}
    (course : Course made session steps) : ∀ step ∈ steps, ∀ upgrade, step ≠ .secure upgrade := by
  induction course with
  | nil => simp
  | request session => exact plain_requestSteps _ session
  | settle => simp
  | append _ _ early late =>
    intro step member
    rcases List.mem_append.mp member with before | after
    · exact early step before
    · exact late step after

theorem Act.matches_chunks {act : Act} (plain : ∀ upgrade, act ≠ .step (.secure upgrade))
    (one other : Session) : act.Matches .chunks one other act := by
  by_cases taken : ∃ step, act = .step step
  · obtain ⟨step, rfl⟩ := taken
    exact .step (Session.matches_chunks (fun upgrade same => plain upgrade (same ▸ rfl)) one other)
  -- An operation takes no step that secures the session.
  · have whole : ∀ step, act ≠ .step step := fun step same => taken ⟨step, same⟩
    refine .whole act (stepsMatch_self (fun step member => ?_) one other)
    exact Session.matches_chunks ((act.course whole one).plain step member)

theorem actsMatch_chunks {acts others : List Act} (rechunked : List.Forall₂ Act.Rechunked acts others)
    (alike : one.Alike .chunks other) : ActsMatch .chunks one other acts others := by
  induction rechunked generalizing one other with
  | nil => exact .nil one other
  | @cons act paired _ _ first _ ih =>
    have matched : act.Matches .chunks one other paired := by
      cases first with
      | arrive some others streams => exact .step (.arrive some others streams)
      | secure upgrade upgraded faithful =>
        exact .step (.secure upgrade upgraded (fun _ => trivial) (faithful.alike alike fun _ => trivial))
      | same _ plain => exact act.matches_chunks plain one other
    exact .cons matched (ih (matched.alike alike))

/-- Chunking does not matter: however many octets a call moves, and wherever reading is interrupted, what is
replied to every operation, what is done to the transports, and at every moment the state, the identity and the
table of pending requests are the same. -/
theorem chunking_does_not_matter {start other : Session} {acts others : List Act}
    (alike : start.Alike .chunks other) (rechunked : List.Forall₂ Act.Rechunked acts others) :
    start.GoesAlike other acts others :=
  (actsMatch_chunks rechunked alike).goesAlike alike

def deletion : List Action := [.message (some 2) (.deleteResponse ⟨.success, "", "", []⟩) []]

def haltingDeletion : List Action :=
  let frame := Message.encode ⟨2, .deleteResponse ⟨.success, "", "", []⟩, []⟩
  [.fail ⟨.interrupted, "one"⟩, .octets (frame.take 3), .fail ⟨.interrupted, "two"⟩,
    .octets (frame.drop 3)]

def fluent : Session :=
  establish
    { script :=
        [.actions [.message none (.extendedResponse ⟨.success, "", "", []⟩ none none) []],
          .actions deletion] } {}

def halting : Session :=
  establish
    { script :=
        [.actions [.fail ⟨.interrupted, "zero"⟩,
            .message none (.extendedResponse ⟨.success, "", "", []⟩ none none) []],
          .actions haltingDeletion]
      readLimit := some 1
      writeLimit := some 3 } {}

theorem fluent_alike_halting : fluent.Alike .chunks halting := by
  have pieces (id : MessageId) : Arrival.uninterrupted (deletion.flatMap (Action.arrivals id)) =
      Arrival.uninterrupted (haltingDeletion.flatMap (Action.arrivals id)) := by
    have whole : Arrival.uninterrupted (deletion.flatMap (Action.arrivals 2)) =
        Arrival.uninterrupted (haltingDeletion.flatMap (Action.arrivals 2)) := by decide +kernel
    exact whole
  refine .intro _ (.intro _ _ (some 1) (some 3) rfl (.cons ?_ (.cons ?_ .nil)))
  · exact .actions _ _ fun _ => rfl
  · exact .actions _ _ pieces

def deletionTwice (again : List Action) : List Act :=
  [.step (.secure .ok), .query 10 (.delete .root), .step (.arrive again), .step .takeIn]

theorem deletionTwice_halting :
    fluent.Alike .chunks halting ∧
      List.Forall₂ Act.Rechunked (deletionTwice deletion) (deletionTwice haltingDeletion) ∧
      replies (deletionTwice deletion) fluent = replies (deletionTwice haltingDeletion) halting ∧
      (enact (deletionTwice deletion) fluent).Indistinct (enact (deletionTwice haltingDeletion) halting) := by
  have faithful : UpgradesFaithfully .chunks .ok .ok := fun _ _ alike => .secured _ _ alike
  have rechunked : List.Forall₂ Act.Rechunked (deletionTwice deletion) (deletionTwice haltingDeletion) := by
    refine .cons (.secure .ok .ok faithful) ?_
    refine .cons (.same _ ?_) (.cons (.arrive _ _ ?_) (.cons (.same _ ?_) .nil))
    · simp
    · change Arrival.uninterrupted (deletion.flatMap (Action.arrivals 0)) =
        Arrival.uninterrupted (haltingDeletion.flatMap (Action.arrivals 0))
      decide +kernel
    · simp
  have same := chunking_does_not_matter fluent_alike_halting rechunked
  exact ⟨fluent_alike_halting, rechunked, same.replies, same.indistinct 4⟩

end Session

end Directory
