import Directory.Proofs.Message.Canonical
import Directory.Proofs.Session.Traffic
import Directory.Proofs.Stream
/-!
Messages one after the other on a stream. Each is written as one frame, and each call to read takes the octets
of one frame and leaves all that follows, in whatever portions they come.
-/
namespace Directory

namespace Message

def encodeAll (messages : List Message) : Octets := messages.flatMap encode

structure Fits (limit : UInt32) (message : Message) : Prop where
  legal : message.WellFormed
  plain : message.IsPlain
  within : message.encode.length ≤ limit.toNat

variable {limit : UInt32} {message : Message}

theorem Fits.decoded (fits : message.Fits limit) : Message.decode message.encode = .ok message := by
  have short : message.encode.length < 4294967296 := Nat.lt_of_le_of_lt fits.within limit.toNat_lt
  exact decode_encode_of_isPlain fits.legal fits.plain short

theorem Fits.exists_content (fits : message.Fits limit) :
    ∃ content, message.encode = Wire.element Wire.Tag.sequence content ∧ content.length ≤ limit.toNat := by
  have within := fits.within
  rw [encode_eq_write, item, Wire.Item.write, Wire.length_element] at within
  exact ⟨_, encode_eq_write message, Nat.le_of_add_right_le within⟩

end Message

namespace StreamReader

variable {isShut : Bool} {limit : UInt32} {rest : List Arrival}

def Ends (isShut : Bool) (rest : List Arrival) : Prop :=
  (∃ more, rest = .ended :: more) ∨ isShut = true ∧ rest = []

/-- What a reader meets behind the octets of a stream without interruptions, and what it leaves then. -/
inductive Stops (isShut : Bool) : List Arrival → Taken Octets → List Arrival → Prop where
  | failed {reason : StreamFailure} {rest : List Arrival} : reason.kind ≠ .interrupted →
      Stops isShut (.failure reason :: rest) (.failed reason) rest
  | ended {rest : List Arrival} : Stops isShut (.ended :: rest) (.failed .endOfData) (.ended :: rest)
  | shut : isShut = true → Stops isShut [] (.failed .endOfData) []
  | silent : isShut = false → Stops isShut [] .waiting []

theorem Ends.stops (ends : Ends isShut rest) :
    Stops isShut rest (.failed .endOfData) rest := by
  rcases ends with ⟨more, rfl⟩ | ⟨shut, rfl⟩
  · exact .ended
  · exact .shut shut

theorem draw_octets (octets : Octets) (rest : List Arrival) :
    draw isShut octets.length (octets.map .octet ++ rest) = (.done octets, rest) := by
  induction octets with
  | nil => cases rest <;> rfl
  | cons value octets ih =>
    rw [List.map_cons, List.cons_append, List.length_cons, draw, ih]
    rfl

/-- Fewer octets than are asked for are taken, and then what stops the reader. -/
theorem draw_stops {octets : Octets} {n : Nat} {tail left : List Arrival} {result : Taken Octets}
    (few : octets.length < n) (stops : Stops isShut tail result left) :
    draw isShut n (octets.map .octet ++ tail) = (result, left) := by
  induction octets generalizing n with
  | nil =>
    obtain ⟨m, rfl⟩ : ∃ m, n = m + 1 := Nat.exists_eq_add_one.mpr few
    cases stops with
    | failed lasting => simp [draw, lasting]
    | ended => rfl
    | shut known => simp [draw, known]
    | silent open_ => simp [draw, open_]
  | cons value octets ih =>
    obtain ⟨m, rfl⟩ : ∃ m, n = m + 1 := Nat.exists_eq_add_one.mpr (Nat.zero_lt_of_lt few)
    rw [List.map_cons, List.cons_append, draw, ih (Nat.lt_of_succ_lt_succ few)]
    cases stops <;> rfl

theorem declared_ofNumber (limit n : UInt32) :
    Frame.declared limit (Wire.Tag.sequence :: Octets.ofNumber n) =
      if limit < n then .error (.frameLength n limit) else .ok n.toNat := by
  have number := Octets.number?_ofNumber n
  simp only [Octets.ofNumber, Octets.number?, Option.some.injEq] at number
  rw [Octets.ofNumber, Frame.declared, number]
  simp

def heading (content : Octets) : Octets :=
  Wire.Tag.sequence :: Octets.ofNumber (UInt32.ofNat content.length)

theorem element_eq (content : Octets) :
    Wire.element Wire.Tag.sequence content = heading content ++ content := rfl

theorem exactly_heading (content : Octets) (rest : List Arrival) :
    exactly Frame.headerLength isShut ((heading content).map .octet ++ rest) =
      (.done (heading content), rest) := draw_octets (heading content) rest

/-- The heading of a frame within the limit declares what follows it. -/
theorem declared_within {content : Octets} (within : content.length ≤ limit.toNat) :
    Frame.declared limit (heading content) = .ok content.length := by
  have counted := Wire.toNat_length (Nat.lt_of_le_of_lt within limit.toNat_lt)
  have small : ¬ limit < UInt32.ofNat content.length := by
    rw [UInt32.lt_iff_toNat_lt, counted]
    exact Nat.not_lt.mpr within
  rw [heading, declared_ofNumber, if_neg small, counted]

/-- A frame within the limit is taken off as a whole, and nothing behind it. -/
theorem frame_element {content : Octets} (within : content.length ≤ limit.toNat) (rest : List Arrival) :
    frame limit isShut ((Wire.element Wire.Tag.sequence content).map .octet ++ rest) =
      (.done (Wire.element Wire.Tag.sequence content), rest) := by
  rw [element_eq, List.map_append, List.append_assoc]
  have body : exactly content.length isShut (content.map .octet ++ rest) = (.done content, rest) :=
    draw_octets content rest
  simp only [frame, whole, andThen, exactly_heading, declared_within within, body, give]

/-- A frame that is cut off is taken as an early end. -/
theorem frame_cut {content : Octets} (within : content.length ≤ limit.toNat) {count : Nat}
    (cut : count < (Wire.element Wire.Tag.sequence content).length) (ends : Ends isShut rest) :
    frame limit isShut (((Wire.element Wire.Tag.sequence content).take count).map .octet ++ rest) =
      (.failed .endOfData, rest) := by
  rw [Wire.length_element] at cut
  rw [element_eq]
  by_cases early : count < Frame.headerLength
  · have header : exactly Frame.headerLength isShut
        (((heading content ++ content).take count).map .octet ++ rest) = (.failed .endOfData, rest) := by
      apply draw_stops _ ends.stops
      rw [List.length_take]
      omega
    simp only [frame, whole, andThen, header]
  · obtain ⟨more, rfl⟩ := Nat.exists_eq_add_of_le (Nat.not_lt.mp early)
    have split : (heading content ++ content).take (Frame.headerLength + more) =
        heading content ++ content.take more := by
      rw [show Frame.headerLength = (heading content).length from rfl, List.take_length_add_append]
    have body : exactly content.length isShut ((content.take more).map .octet ++ rest) =
        (.failed .endOfData, rest) := by
      apply draw_stops _ ends.stops
      rw [List.length_take]
      unfold Frame.headerLength at cut
      omega
    rw [split, List.map_append, List.append_assoc]
    simp only [frame, whole, andThen, exactly_heading, declared_within within, body]

/-- The frame of a message is read as the message. -/
theorem message_encode {message : Message} (fits : message.Fits limit) (rest : List Arrival) :
    StreamReader.message limit isShut (message.encode.map .octet ++ rest) = (.done message, rest) := by
  have whole : frame limit isShut (message.encode.map .octet ++ rest) = (.done message.encode, rest) := by
    obtain ⟨content, framed, within⟩ := fits.exists_content
    rw [framed]
    exact frame_element within rest
  simp only [StreamReader.message, andThen, whole, fits.decoded, give]

theorem message_cut {message : Message} (fits : message.Fits limit) {count : Nat}
    (cut : count < message.encode.length) (ends : Ends isShut rest) :
    StreamReader.message limit isShut ((message.encode.take count).map .octet ++ rest) =
      (.failed .endOfData, rest) := by
  have early : frame limit isShut ((message.encode.take count).map .octet ++ rest) =
      (.failed .endOfData, rest) := by
    obtain ⟨content, framed, within⟩ := fits.exists_content
    rw [framed] at cut ⊢
    exact frame_cut within cut ends
  simp only [StreamReader.message, andThen, early]

end StreamReader

namespace Transport

open StreamReader

variable {limit : UInt32} {transport : Transport}

/-- These octets come next on the stream, in whatever portions and with whatever interruptions, and then the
rest. `readLimit` is free, and an interruption ends a portion wherever it stands, so that every way of dividing
the octets between the calls of the stream is among these. -/
def Brings (transport : Transport) (octets : Octets) (rest : List Arrival) : Prop :=
  Arrival.uninterrupted transport.incoming = octets.map .octet ++ rest

def takeMessages (limit : UInt32) : Nat → Transport → List (Taken Message) × Transport
  | 0, transport => ([], transport)
  | count + 1, transport =>
    let (taken, after) := transport.takeMessage limit
    let (others, last) := takeMessages limit count after
    (taken :: others, last)

/-- What is read off a stream is what is read off it without its interruptions. -/
theorem takeMessage_uninterrupted (limit : UInt32) (transport : Transport) :
    ∃ left, transport.takeMessage limit =
        ((StreamReader.message limit transport.isShut (Arrival.uninterrupted transport.incoming)).1,
          { transport with incoming := left }) ∧
      Arrival.uninterrupted left =
        (StreamReader.message limit transport.isShut (Arrival.uninterrupted transport.incoming)).2 := by
  have same := (orderly_message limit).uninterrupted transport.isShut transport.incoming
  rw [takeMessage_eq, same]
  exact ⟨_, rfl, rfl⟩

theorem takeMessage_brings {message : Message} (fits : message.Fits limit) {later : Octets}
    {rest : List Arrival} (brings : transport.Brings (message.encode ++ later) rest) :
    ∃ left, transport.takeMessage limit = (.done message, { transport with incoming := left }) ∧
      { transport with incoming := left }.Brings later rest := by
  obtain ⟨left, taken, remains⟩ := takeMessage_uninterrupted limit transport
  rw [Brings, List.map_append, List.append_assoc] at brings
  rw [brings, message_encode fits] at taken remains
  exact ⟨left, taken, remains⟩

/-- As many calls as there are messages take their frames, and leave what follows. -/
theorem takeMessages_brings {messages : List Message} (fit : ∀ message ∈ messages, message.Fits limit)
    {later : Octets} {rest : List Arrival}
    (brings : transport.Brings (Message.encodeAll messages ++ later) rest) :
    ∃ left, transport.takeMessages limit messages.length =
        (messages.map .done, { transport with incoming := left }) ∧
      { transport with incoming := left }.Brings later rest := by
  induction messages generalizing transport with
  | nil => exact ⟨transport.incoming, rfl, brings⟩
  | cons message messages ih =>
    obtain ⟨first, others⟩ := List.forall_mem_cons.mp fit
    rw [Message.encodeAll, List.flatMap_cons, List.append_assoc] at brings
    obtain ⟨middle, taken, remains⟩ := takeMessage_brings first brings
    obtain ⟨left, read, last⟩ := ih others remains
    refine ⟨left, ?_, last⟩
    rw [List.length_cons, takeMessages, taken]
    dsimp only
    rw [read, List.map_cons]

theorem takeMessage_ended {rest : List Arrival} (brings : transport.Brings [] rest)
    (ends : Ends transport.isShut rest) : (transport.takeMessage limit).1 = .failed .endOfData := by
  obtain ⟨left, taken, _⟩ := takeMessage_uninterrupted limit transport
  have nothing : ([] : Octets).length < Frame.headerLength := by decide
  have header : exactly Frame.headerLength transport.isShut rest = (.failed .endOfData, rest) :=
    draw_stops nothing ends.stops
  rw [taken, brings]
  simp only [StreamReader.message, frame, whole, andThen, List.map_nil, List.nil_append, header]

theorem takeMessage_cut {message : Message} (fits : message.Fits limit) {count : Nat}
    (cut : count < message.encode.length) {rest : List Arrival}
    (brings : transport.Brings (message.encode.take count) rest) (ends : Ends transport.isShut rest) :
    (transport.takeMessage limit).1 = .failed .endOfData := by
  obtain ⟨left, taken, _⟩ := takeMessage_uninterrupted limit transport
  rw [taken, brings, message_cut fits cut ends]

def sendMessages : List Message → Transport → Except StreamFailure Unit × Transport
  | [], transport => (.ok (), transport)
  | message :: later, transport =>
    match transport.send message.encode with
    | (.ok (), after) => sendMessages later after
    | failed => failed

structure Receptive (transport : Transport) (count : Nat) : Prop where
  willing : ∀ reaction ∈ transport.script, ∃ actions, reaction = .actions actions
  roomy : ∀ room, transport.room = some room → count ≤ room

theorem Receptive.head {count : Nat} (receptive : transport.Receptive count) {reaction : Reaction}
    (first : transport.script.head? = some reaction) : ∃ actions, reaction = .actions actions :=
  receptive.willing reaction (List.mem_of_head? first)

/-- Octets for which there is room are all written. -/
theorem Receptive.writeAll {octets : Octets} (receptive : transport.Receptive octets.length) :
    transport.writeAll octets =
      (.ok (), { transport with
        outgoing := transport.outgoing ++ octets
        room := transport.room.map (· - octets.length) }) := by
  have willing (text : String) : transport.script.head? ≠ some (.writeFailure text) := by
    intro failing
    obtain ⟨actions, other⟩ := receptive.head failing
    cases other
  have taking : transport.script.head? ≠ some .writeNothing := by
    intro nothing
    obtain ⟨actions, other⟩ := receptive.head nothing
    cases other
  rw [writeAll_of_willing octets transport willing taking, fill]
  cases limit : transport.room with
  | none => rfl
  | some room =>
    have fits := receptive.roomy room limit
    simp only [if_pos fits, List.take_of_length_le fits, Option.map_some]

theorem answer_keeps (transport : Transport) (frame : Octets) (actions : List Action) :
    (transport.answer frame actions).script = transport.script ∧
      (transport.answer frame actions).room = transport.room := by
  unfold answer
  split
  · split <;> exact ⟨rfl, rfl⟩
  · exact ⟨rfl, rfl⟩

theorem flush_willing (willing : ∀ reaction ∈ transport.script, ∃ actions, reaction = .actions actions) :
    ∃ after, transport.flush = (.ok (), after) ∧ after.script = transport.script.tail ∧
      after.room = transport.room := by
  unfold flush
  split
  · next text failing =>
    obtain ⟨actions, other⟩ := willing _ (List.mem_of_head? failing)
    cases other
  · exact ⟨_, rfl, (answer_keeps _ _ _).1, (answer_keeps _ _ _).2⟩
  · exact ⟨_, rfl, rfl, rfl⟩

theorem Receptive.send {frame : Octets} {more : Nat}
    (receptive : transport.Receptive (frame.length + more)) :
    ∃ after, transport.send frame = (.ok (), after) ∧ after.Receptive more := by
  have first : transport.Receptive frame.length :=
    ⟨receptive.willing, fun room limit => Nat.le_of_add_right_le (receptive.roomy room limit)⟩
  rw [Transport.send, first.writeAll]
  have willing : ∀ reaction ∈ ({ transport with
      outgoing := transport.outgoing ++ frame
      room := transport.room.map (· - frame.length) } : Transport).script,
      ∃ actions, reaction = .actions actions := receptive.willing
  obtain ⟨after, flushed, script, room⟩ := flush_willing willing
  refine ⟨after, flushed, ?_, ?_⟩
  · intro reaction member
    rw [script] at member
    exact receptive.willing reaction (List.mem_of_mem_tail member)
  · intro left limit
    rw [room] at limit
    obtain ⟨all, before, rfl⟩ := Option.map_eq_some_iff.mp limit
    have enough := receptive.roomy all before
    omega

theorem Receptive.sendMessages {messages : List Message}
    (receptive : transport.Receptive (Message.encodeAll messages).length) :
    (transport.sendMessages messages).1 = .ok () ∧
      (transport.sendMessages messages).2.written = transport.written ++ Message.encodeAll messages := by
  induction messages generalizing transport with
  | nil => exact ⟨rfl, (List.append_nil _).symm⟩
  | cons message later ih =>
    rw [Message.encodeAll, List.flatMap_cons, List.length_append] at receptive
    obtain ⟨after, sent, still⟩ := receptive.send
    obtain ⟨done, written⟩ := ih still
    rw [Transport.sendMessages, sent]
    refine ⟨done, written.trans ?_⟩
    rw [written_send sent, Message.encodeAll, Message.encodeAll, List.flatMap_cons, List.append_assoc]

/-- Messages that are written one by one are read one by one: each call to read gives the next message, and
takes exactly the octets of its frame and none of what follows, however the stream is portioned. Where the
stream ends behind the last frame, or anywhere inside of it, the messages before that are read and then the
early end is reported. -/
theorem messages_written_then_read {limit : UInt32} {messages : List Message}
    (fit : ∀ message ∈ messages, message.Fits limit) {sink : Transport}
    (receptive : sink.Receptive (Message.encodeAll messages).length) :
    ((sink.sendMessages messages).1 = .ok () ∧
        (sink.sendMessages messages).2.written = sink.written ++ Message.encodeAll messages) ∧
      ∀ (source : Transport) (rest : List Arrival),
        (source.Brings (Message.encodeAll messages) rest →
          (∀ done later, messages = done ++ later →
            (source.takeMessages limit done.length).1 = done.map .done ∧
              (source.takeMessages limit done.length).2.Brings (Message.encodeAll later) rest) ∧
          (Ends source.isShut rest →
            ((source.takeMessages limit messages.length).2.takeMessage limit).1 = .failed .endOfData)) ∧
        ∀ earlier last, messages = earlier ++ [last] → ∀ count < last.encode.length,
          source.Brings
            ((Message.encodeAll messages).take ((Message.encodeAll earlier).length + count)) rest →
          Ends source.isShut rest →
          (source.takeMessages limit earlier.length).1 = earlier.map .done ∧
            ((source.takeMessages limit earlier.length).2.takeMessage limit).1 = .failed .endOfData := by
  refine ⟨receptive.sendMessages, fun source rest => ⟨fun brings => ⟨?_, fun ends => ?_⟩, ?_⟩⟩
  · rintro done later rfl
    rw [Message.encodeAll, List.flatMap_append] at brings
    obtain ⟨left, read, remains⟩ :=
      takeMessages_brings (fun message member => fit message (List.mem_append_left later member)) brings
    rw [read]
    exact ⟨rfl, remains⟩
  · rw [← List.append_nil (Message.encodeAll messages)] at brings
    obtain ⟨left, read, remains⟩ := takeMessages_brings fit brings
    rw [read]
    exact takeMessage_ended remains ends
  · rintro earlier last rfl count cut brings ends
    have whole : Message.encodeAll (earlier ++ [last]) = Message.encodeAll earlier ++ last.encode := by
      simp [Message.encodeAll]
    rw [whole, List.take_length_add_append] at brings
    obtain ⟨left, read, remains⟩ :=
      takeMessages_brings (fun message member => fit message (List.mem_append_left [last] member)) brings
    rw [read]
    have fits := fit last (List.mem_append_right earlier (List.mem_singleton_self last))
    exact ⟨rfl, takeMessage_cut fits cut remains ends⟩

def exchanged : List Message :=
  [Message.tidySearch, ⟨7, .searchDone ⟨⟨4⟩, "", "limit", ["ldap://b"]⟩ (some ⟨0, [1, 2], true⟩), []⟩]

def narrow : Transport :=
  { writeLimit := some 3, room := some (Message.encodeAll exchanged).length, script := [.actions []] }

def hesitant (octets : Octets) : Transport where
  incoming := (octets.take 3).map .octet ++
    .failure ⟨.interrupted, "once"⟩ :: (octets.drop 3).map .octet ++ [.ended]
  readLimit := some 2

theorem hesitant_exchanged :
    (∀ message ∈ exchanged, message.Fits 185) ∧ narrow.Receptive (Message.encodeAll exchanged).length ∧
      (narrow.sendMessages exchanged).2.written = Message.encodeAll exchanged ∧
      (hesitant (Message.encodeAll exchanged)).Brings (Message.encodeAll exchanged) [.ended] ∧
      ((hesitant (Message.encodeAll exchanged)).takeMessages 185 2).1 = exchanged.map .done ∧
      (((hesitant (Message.encodeAll exchanged)).takeMessages 185 2).2.takeMessage 185).1 =
        .failed .endOfData ∧
      (((hesitant ((Message.encodeAll exchanged).take 314)).takeMessages 185 1).2.takeMessage 185).1 =
        .failed .endOfData := by
  have fit : ∀ message ∈ exchanged, message.Fits 185 := by
    have each : ∀ message ∈ exchanged, Message.decode message.encode = .ok message ∧
        message.encode.length ≤ (185 : UInt32).toNat := by decide +kernel
    intro message member
    obtain ⟨decoded, within⟩ := each message member
    obtain ⟨legal, plain⟩ := Message.canonical_of_decode decoded
    exact ⟨legal, plain, within⟩
  have receptive : narrow.Receptive (Message.encodeAll exchanged).length := by
    constructor
    · intro reaction member
      exact ⟨[], List.mem_singleton.mp member⟩
    · intro room found
      exact Nat.le_of_eq (Option.some.inj found)
  have whole : (hesitant (Message.encodeAll exchanged)).Brings (Message.encodeAll exchanged) [.ended] := by
    change Arrival.uninterrupted _ = _
    decide +kernel
  have place : (Message.encodeAll [Message.tidySearch]).length + 129 = 314 := by decide +kernel
  have cut : (hesitant ((Message.encodeAll exchanged).take 314)).Brings
      ((Message.encodeAll exchanged).take ((Message.encodeAll [Message.tidySearch]).length + 129)) [.ended] := by
    rw [place]
    change Arrival.uninterrupted _ = _
    decide +kernel
  have ends : Ends false [.ended] := .inl ⟨[], rfl⟩
  obtain ⟨⟨_, written⟩, read⟩ := messages_written_then_read fit receptive
  have before : narrow.written = [] := rfl
  rw [before, List.nil_append] at written
  obtain ⟨onwards, drained⟩ := (read (hesitant (Message.encodeAll exchanged)) [.ended]).1 whole
  have early := (read (hesitant ((Message.encodeAll exchanged).take 314)) [.ended]).2
    [Message.tidySearch] _ rfl 129 (by decide +kernel) cut ends
  exact ⟨fit, receptive, written, whole, (onwards exchanged [] (List.append_nil _).symm).1, drained ends,
    early.2⟩

end Transport

end Directory
