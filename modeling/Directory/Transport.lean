import Directory.Message.Reader
/-! A connection held in memory. One end is a client that reads and writes octets; the other is a peer
with a script, which says for each frame that the client writes what the stream delivers next. Any run
of a client with any peer is a run with some script. -/
namespace Directory

inductive Arrival where
  | octet (value : UInt8)
  | failure (failure : StreamFailure)
  | ended
  deriving DecidableEq, Repr

/-- What a peer does. A message without a number takes that of the frame it answers. -/
inductive Action where
  | message (id : Option MessageId) (op : Operation) (controls : List Control)
  | octets (content : Octets)
  | fail (failure : StreamFailure)
  | close
  deriving DecidableEq

inductive Reaction where
  | actions (actions : List Action)
  | writeFailure (text : String)
  | writeNothing
  | flushFailure (text : String)
  deriving DecidableEq

structure Transport where
  peer : String := "server"
  incoming : List Arrival := []
  /-- Reactions to the frames to come, the next one first; none are missed after the last. -/
  script : List Reaction := []
  /-- Written, but not yet flushed. -/
  outgoing : Octets := []
  sent : List Octets := []
  isShut : Bool := false
  shutdowns : Nat := 0
  /-- The most octets that one call moves; at least one. -/
  readLimit : Option Nat := none
  writeLimit : Option Nat := none
  /-- How many octets may still be written. -/
  room : Option Nat := none
  readTimeouts : List (Option Nat) := []
  readerFailure : Option String := none
  -- Nothing can be run that reads from the handle.
  receiverFailure : Option String := none
  timeoutFailure : Option String := none
  shutdownFailure : Option String := none
  deriving DecidableEq

namespace Action

def arrivals (id : MessageId) : Action → List Arrival
  | .message own op controls =>
    (Message.encode ⟨own.getD id, op, controls⟩).map Arrival.octet
  | .octets content => content.map Arrival.octet
  | .fail failure => [.failure failure]
  | .close => [.ended]

end Action

/-- What one call to read gives. No octets mean the end; `waiting` means that the call does not return
before the peer acts again. -/
inductive ReadResult where
  | octets (content : Octets)
  | failed (failure : StreamFailure)
  | waiting
  deriving DecidableEq, Repr

def takeOctets : Nat → List Arrival → Octets × List Arrival
  | n + 1, .octet octet :: rest =>
    let (octets, left) := takeOctets n rest
    (octet :: octets, left)
  | _, arrivals => ([], arrivals)

theorem takeOctets_length (n : Nat) (arrivals : List Arrival) :
    (takeOctets n arrivals).1.length + (takeOctets n arrivals).2.length = arrivals.length := by
  fun_induction takeOctets n arrivals with
  | case1 n octet rest octets left same ih =>
      simp only [same] at ih
      simp only [List.length_cons]
      omega
  | case2 => simp

def limited (limit : Option Nat) (n : Nat) : Nat :=
  match limit with
  | none => n
  | some most => min n (max 1 most)

namespace Transport

def deliver (transport : Transport) (id : MessageId) (actions : List Action) : Transport :=
  { transport with incoming := transport.incoming ++ actions.flatMap (Action.arrivals id) }

def read (transport : Transport) (n : Nat) : ReadResult × Transport :=
  match transport.incoming with
  | [] => (if transport.isShut then .octets [] else .waiting, transport)
  -- The end can be read any number of times.
  | .ended :: _ => (.octets [], transport)
  | .failure failure :: rest => (.failed failure, { transport with incoming := rest })
  | arrivals =>
    let (octets, rest) := takeOctets (limited transport.readLimit n) arrivals
    (.octets octets, { transport with incoming := rest })

def skipReaction (transport : Transport) : Transport :=
  { transport with script := transport.script.tail }

def write (transport : Transport) (octets : Octets) : Except StreamFailure Nat × Transport :=
  match transport.script.head? with
  | some (.writeFailure text) => (.error ⟨.other, text⟩, transport.skipReaction)
  | some .writeNothing => (.ok 0, transport.skipReaction)
  | _ =>
    let most := limited transport.writeLimit octets.length
    let count := match transport.room with
      | none => most
      | some room => min room most
    (.ok count,
      { transport with
        outgoing := transport.outgoing ++ octets.take count
        room := transport.room.map (· - count) })

def answer (transport : Transport) (frame : Octets) (actions : List Action) : Transport :=
  match (Message.readHeading.run frame).1 with
  | .ok (id, tag) =>
    if tag = OperationKind.unbindRequest.tag then transport else transport.deliver id actions
  | .error _ => transport.deliver 0 actions

def flush (transport : Transport) : Except StreamFailure Unit × Transport :=
  let frame := transport.outgoing
  let flushed :=
    { transport.skipReaction with outgoing := [], sent := transport.sent ++ [frame] }
  match transport.script.head? with
  | some (.flushFailure text) => (.error ⟨.other, text⟩, flushed)
  | some (.actions actions) => (.ok (), flushed.answer frame actions)
  | _ => (.ok (), flushed)

def writeAll (transport : Transport) : Octets → Except StreamFailure Unit × Transport
  | [] => (.ok (), transport)
  | octet :: rest =>
    match transport.write (octet :: rest) with
    | (.error failure, after) => (.error failure, after)
    | (.ok 0, after) => (.error .noRoom, after)
    | (.ok (count + 1), after) => after.writeAll (rest.drop count)
termination_by octets => octets.length
decreasing_by
  simp only [List.length_drop, List.length_cons]
  omega

def send (transport : Transport) (frame : Octets) : Except StreamFailure Unit × Transport :=
  match transport.writeAll frame with
  | (.ok (), transport) => transport.flush
  | failed => failed

def shutdown (transport : Transport) : Except StreamFailure Unit × Transport :=
  let noted := { transport with shutdowns := transport.shutdowns + 1 }
  match transport.shutdownFailure with
  | some text => (.error ⟨.other, text⟩, noted)
  | none => (.ok (), { noted with isShut := true })

def startFailure? (transport : Transport) : Option String :=
  match transport.readerFailure, transport.receiverFailure with
  | some text, _ => some s!"cannot open read handle: {text}"
  | none, some text => some s!"cannot start receive loop: {text}"
  | none, none => none

def setReadTimeout (transport : Transport) (timeout : Option Nat) :
    Except StreamFailure Unit × Transport :=
  let noted := { transport with readTimeouts := transport.readTimeouts ++ [timeout] }
  match timeout, transport.timeoutFailure with
  | some _, some text => (.error ⟨.other, text⟩, noted)
  | _, _ => (.ok (), noted)

/-- What was to come still is, after a shutdown. -/
theorem shutdown_keeps (transport : Transport) :
    transport.shutdown.2.script = transport.script ∧
      transport.shutdown.2.incoming = transport.incoming := by
  unfold shutdown
  split <;> exact ⟨rfl, rfl⟩

theorem read_octets_length {transport after : Transport} {n : Nat} {octets : Octets}
    (h : transport.read n = (.octets octets, after)) :
    octets.length + after.incoming.length = transport.incoming.length := by
  unfold read at h
  split at h
  · split at h
    · cases h
      simp_all
    · simp at h
  · cases h
    simp
  · simp at h
  · cases h
    exact takeOctets_length ..

theorem read_failed_length {transport after : Transport} {n : Nat} {failure : StreamFailure}
    (h : transport.read n = (.failed failure, after)) :
    after.incoming.length < transport.incoming.length := by
  unfold read at h
  split at h
  · split at h <;> simp at h
  · simp at h
  · next found =>
    cases h
    simp [found]
  · simp at h

theorem takeOctets_suffix (n : Nat) (arrivals : List Arrival) :
    (takeOctets n arrivals).2 <:+ arrivals := by
  fun_induction takeOctets n arrivals with
  | case1 n octet rest octets left same ih =>
    rw [same] at ih
    exact ih.trans (List.suffix_cons _ _)
  | case2 => exact List.suffix_refl _

def ReadsTo (before after : Transport) : Prop :=
  ∃ rest, rest <:+ before.incoming ∧ after = { before with incoming := rest }

theorem ReadsTo.refl (transport : Transport) : transport.ReadsTo transport :=
  ⟨_, List.suffix_refl _, rfl⟩

theorem ReadsTo.trans {a b c : Transport} (first : a.ReadsTo b) (second : b.ReadsTo c) :
    a.ReadsTo c := by
  obtain ⟨_, before, rfl⟩ := first
  obtain ⟨rest, more, rfl⟩ := second
  exact ⟨rest, more.trans before, rfl⟩

theorem ReadsTo.script_eq {before after : Transport} (h : before.ReadsTo after) :
    after.script = before.script := by
  obtain ⟨_, _, rfl⟩ := h
  rfl

theorem ReadsTo.length_le {before after : Transport} (h : before.ReadsTo after) :
    after.incoming.length ≤ before.incoming.length := by
  obtain ⟨_, part, rfl⟩ := h
  exact part.length_le

theorem read_readsTo {transport after : Transport} {n : Nat} {result : ReadResult}
    (h : transport.read n = (result, after)) : transport.ReadsTo after := by
  unfold read at h
  split at h <;> cases h
  · exact .refl _
  · exact .refl _
  · next found => exact ⟨_, found ▸ List.suffix_cons _ _, rfl⟩
  · exact ⟨_, takeOctets_suffix _ _, rfl⟩

def WritesTo (before after : Transport) : Prop :=
  ∃ outgoing room, after = { before with outgoing, room }

theorem WritesTo.refl (transport : Transport) : transport.WritesTo transport := ⟨_, _, rfl⟩

theorem WritesTo.trans {a b c : Transport} (first : a.WritesTo b) (second : b.WritesTo c) :
    a.WritesTo c := by
  obtain ⟨_, _, rfl⟩ := first
  obtain ⟨outgoing, room, rfl⟩ := second
  exact ⟨outgoing, room, rfl⟩

theorem write_writesTo {transport after : Transport} {octets : Octets} {count : Nat}
    (h : transport.write octets = (.ok (count + 1), after)) : transport.WritesTo after := by
  unfold write at h
  split at h <;> simp only [Prod.mk.injEq, reduceCtorEq, false_and] at h
  · simp at h
  · exact ⟨_, _, h.2.symm⟩

theorem writeAll_writesTo {transport after : Transport} {octets : Octets}
    (h : transport.writeAll octets = (.ok (), after)) : transport.WritesTo after := by
  fun_induction writeAll transport octets with
  | case1 => cases h; exact .refl _
  | case2 => cases h
  | case3 => cases h
  | case4 _ _ _ _ _ wrote ih => exact (write_writesTo wrote).trans (ih h)

/-- A frame that was sent takes its reaction off the script; without one nothing new is to be read. -/
theorem send_ok {transport after : Transport} {frame : Octets}
    (h : transport.send frame = (.ok (), after)) :
    after.script = transport.script.tail ∧
      (transport.script = [] → after.incoming = transport.incoming) := by
  unfold send at h
  split at h
  · next written wrote =>
    obtain ⟨_, _, rfl⟩ := writeAll_writesTo wrote
    unfold flush at h
    split at h <;> cases h
    · next actions found =>
      refine ⟨?_, fun none => by simp [none] at found⟩
      simp only [answer, deliver, skipReaction]
      split
      · split <;> rfl
      · rfl
    · exact ⟨rfl, fun _ => rfl⟩
  · next failed => exact absurd h (failed _)

end Transport

end Directory
