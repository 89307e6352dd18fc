import Directory.Proofs.Session.Parallel
/-!
Traffic that is for nobody. Frames between those of a conversation make no difference to it, if they are
responses to nothing that is awaited where they are read. Who is awaited changes from one read to the next, so
it is at each read that the streams are compared.
-/
namespace Directory

/-- What is read off the second stream is what is read off the first with foreign frames put in between the
others: whole frames within the limit, no requests and no notices, whose numbers nobody awaits when they are
read. Where the reading ends it ends alike, and what comes after that is not looked at. -/
inductive Laced (limit : UInt32) (isShut : Bool) (stops : Message → Bool) :
    (MessageId → Bool) → List Arrival → List Arrival → Prop where
  | same (awaited : MessageId → Bool) (stream : List Arrival) : Laced limit isShut stops awaited stream stream
  | foreign {awaited : MessageId → Bool} {one other : List Arrival} (frame : List Arrival)
      (message : Message) :
      StreamReader.message limit false frame = (.done message, []) → message.op.isRequest = false →
      message.notice? = none → awaited message.id = false → Laced limit isShut stops awaited one other →
      Laced limit isShut stops awaited one (frame ++ other)
  | frame {awaited : MessageId → Bool} {one other : List Arrival} (frame : List Arrival) (message : Message) :
      StreamReader.message limit false frame = (.done message, []) → stops message = false →
      Laced limit isShut stops (message.settles awaited) one other →
      Laced limit isShut stops awaited (frame ++ one) (frame ++ other)
  | ends {awaited : MessageId → Bool} {one other left right : List Arrival} (result : Taken Message) :
      StreamReader.message limit isShut one = (result, left) →
      StreamReader.message limit isShut other = (result, right) →
      (∀ message, result = .done message → stops message = true) →
      Laced limit isShut stops awaited one other

theorem Laced.interleaves {limit : UInt32} {isShut : Bool} {stops : Message → Bool}
    {awaited : MessageId → Bool} {one other : List Arrival}
    (laced : Laced limit isShut stops awaited one other) (passes : PassesBy stops awaited) :
    Interleaves (fun _ _ => True) limit isShut stops awaited one other := by
  -- A frame is read in the same way with more behind it.
  have onwards {frame : List Arrival} {message : Message}
      (read : StreamReader.message limit false frame = (.done message, [])) (rest : List Arrival) :
      StreamReader.message limit isShut (frame ++ rest) = (.done message, rest) :=
    (StreamReader.orderly_message limit).append read (by simp) isShut rest
  induction laced with
  | same awaited stream =>
    have each (one other : List Arrival) (alike : one = other) : ∃ result left right,
        StreamReader.message limit isShut one = (result, left) ∧
          StreamReader.message limit isShut other = (result, right) ∧ left = right :=
      ⟨_, _, _, rfl, alike ▸ rfl, rfl⟩
    exact interleaves_of_related each (fun _ _ _ => trivial) rfl awaited
  | foreign frame message read response silent nobody _ ih =>
    exact .foreign message (onwards read _) (passes.unawaited message response silent nobody) nobody (ih passes)
  | frame frame message read going _ ih =>
    exact .both message (onwards read _) (onwards read _) going (ih (passes.settles going))
  | ends result first second final => exact .last result first second final trivial

def Manner.foreign : Manner where
  streams _ _ := True
  reads := Laced
  append _ _ := trivial
  interleaves passes _ laced := laced.interleaves passes

namespace Session

/-- Foreign traffic is invisible: what is replied to every operation, what is done to the transports, and at
every moment the state, the identity and the table of pending requests are what they are without it. -/
theorem foreign_traffic_invisible {start other : Session} {acts others : List Act}
    (alike : start.Alike .foreign other) (matched : ActsMatch .foreign start other acts others) :
    start.GoesAlike other acts others :=
  matched.goesAlike alike

def succeeded : Outcome := ⟨.success, "", "", []⟩

def terse : Session :=
  establish
    { script :=
        [.actions [.message none (.extendedResponse succeeded none none) []],
          .actions [.message none (.deleteResponse succeeded) []]] } {}

def talkative : Session :=
  establish
    { script :=
        [.actions [.message (some 9) (.deleteResponse succeeded) [],
            .message none (.extendedResponse succeeded none none) []],
          .actions [.message (some 1) (.extendedResponse succeeded none none) [],
            .message (some 0) (.deleteResponse succeeded) [],
            .message none (.deleteResponse succeeded) []]] } {}

def secureDeletion : List Act := [.step (.secure .ok), .query 10 (.delete .root)]

theorem terse_alike_talkative : terse.Alike .foreign talkative := by
  refine .intro _ (.intro _ _ none none trivial ?_)
  exact .cons (.actions _ _ fun _ => trivial) (.cons (.actions _ _ fun _ => trivial) .nil)

theorem asks_terse_talkative : AsksAlike .foreign terse talkative := by
  intro _
  have put_in : talkative.asking.incoming =
      (Message.encode ⟨9, .deleteResponse succeeded, []⟩).map .octet ++ terse.asking.incoming := by
    decide +kernel
  rw [put_in]
  exact .foreign _ ⟨9, .deleteResponse succeeded, []⟩ (by decide +kernel) rfl rfl rfl (.same _ _)

theorem takesIn_terse_talkative :
    TakesInAlike .foreign
      ((Request.exchange (.deleteRequest .root) [] 10).ask (Act.perform terse (.step (.secure .ok))))
      ((Request.exchange (.deleteRequest .root) [] 10).ask (Act.perform talkative (.step (.secure .ok)))) := by
  intro _
  have put_in : ((Request.exchange (.deleteRequest .root) [] 10).ask
        (Act.perform talkative (.step (.secure .ok)))).transport.incoming =
      (Message.encode ⟨1, .extendedResponse succeeded none none, []⟩).map .octet ++
        ((Message.encode ⟨0, .deleteResponse succeeded, []⟩).map .octet ++
          ((Request.exchange (.deleteRequest .root) [] 10).ask
            (Act.perform terse (.step (.secure .ok)))).transport.incoming) := by
    decide +kernel
  rw [put_in]
  refine .foreign _ ⟨1, .extendedResponse succeeded none none, []⟩ (by decide +kernel) rfl rfl
    (by decide +kernel) ?_
  exact .foreign _ ⟨0, .deleteResponse succeeded, []⟩ (by decide +kernel) rfl rfl (by decide +kernel)
    (.same _ _)

theorem secureDeletion_foreign :
    terse.Alike .foreign talkative ∧ ActsMatch .foreign terse talkative secureDeletion secureDeletion ∧
      replies secureDeletion terse = replies secureDeletion talkative ∧
      (enact secureDeletion terse).Indistinct (enact secureDeletion talkative) ∧
      (enact secureDeletion talkative).transport.incoming = [] := by
  have faithful : UpgradesFaithfully .foreign .ok .ok := fun _ _ alike => .secured _ _ alike
  have secured : (Step.secure .ok).Matches .foreign terse talkative (.secure .ok) :=
    .secure .ok .ok asks_terse_talkative (faithful.alike terse_alike_talkative asks_terse_talkative)
  have matched : ActsMatch .foreign terse talkative secureDeletion secureDeletion :=
    .cons (.step secured)
      (.cons (.whole _ (Request.stepsMatch (.exchange (.deleteRequest .root) [] 10) takesIn_terse_talkative))
        (.nil _ _))
  have same := foreign_traffic_invisible terse_alike_talkative matched
  exact ⟨terse_alike_talkative, matched, same.replies, same.indistinct 2, by decide +kernel⟩

end Session

end Directory
