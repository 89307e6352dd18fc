import Directory.Frame
/-!
Streams apart from the calls that move them. What is read off a transport depends on what is to come and on
whether the transport was shut, and on nothing else: not on how many octets a call moves, and not on calls
that were interrupted. The same is so for what is written.
-/
namespace Directory

def Taken.map (f : α → β) : Taken α → Taken β
  | done a => done (f a)
  | refused fault => refused fault
  | failed failure => failed failure
  | waiting => waiting

theorem Taken.map_map (f : α → β) (g : β → γ) (taken : Taken α) :
    (taken.map f).map g = taken.map (g ∘ f) := by
  cases taken <;> rfl

theorem Taken.map_id (taken : Taken α) : taken.map id = taken := by
  cases taken <;> rfl

theorem Taken.map_eq_waiting {f : α → β} {taken : Taken α} : taken.map f = waiting ↔ taken = waiting := by
  cases taken <;> simp [map]

/-- What takes something off a stream. It may be known that nothing more will come. -/
abbrev StreamReader (α : Type) := Bool → List Arrival → Taken α × List Arrival

def Arrival.uninterrupted (stream : List Arrival) : List Arrival :=
  stream.filter fun
    | .failure reason => reason.kind ≠ .interrupted
    | _ => true

namespace StreamReader

open Arrival

def draw (isShut : Bool) : Nat → List Arrival → Taken Octets × List Arrival
  | 0, stream => (.done [], stream)
  | _ + 1, [] => (if isShut then .failed .endOfData else .waiting, [])
  | _ + 1, .ended :: rest => (.failed .endOfData, .ended :: rest)
  | n + 1, .failure reason :: rest =>
    if reason.kind = .interrupted then draw isShut (n + 1) rest else (.failed reason, rest)
  | n + 1, .octet value :: rest => ((draw isShut n rest).1.map (value :: ·), (draw isShut n rest).2)

def exactly (n : Nat) : StreamReader Octets := fun isShut stream => draw isShut n stream

def give (taken : Taken α) : StreamReader α := fun _ stream => (taken, stream)

def andThen (first : StreamReader α) (next : α → StreamReader β) : StreamReader β := fun isShut stream =>
  match first isShut stream with
  | (.done a, after) => next a isShut after
  | (.refused fault, after) => (.refused fault, after)
  | (.failed reason, after) => (.failed reason, after)
  | (.waiting, after) => (.waiting, after)

def whole (reader : StreamReader α) : StreamReader α := fun isShut stream =>
  match reader isShut stream with
  | (.waiting, _) => (.waiting, stream)
  | other => other

def frame (limit : UInt32) : StreamReader Octets :=
  whole <| (exactly Frame.headerLength).andThen fun header =>
    match Frame.declared limit header with
    | .error defect => give (.refused (.malformed defect))
    | .ok length => (exactly length).andThen fun content => give (.done (header ++ content))

def message (limit : UInt32) : StreamReader Message :=
  (frame limit).andThen fun octets =>
    match Message.decode octets with
    | .ok message => give (.done message)
    | .error fault => give (.refused fault)

/-- What is settled does not depend on what comes later, interruptions make no difference, and where there
is nothing to wait for the end is found. -/
structure Orderly (reader : StreamReader α) : Prop where
  append {stream left : List Arrival} {result : Taken α} : reader false stream = (result, left) →
    result ≠ .waiting → ∀ isShut rest, reader isShut (stream ++ rest) = (result, left ++ rest)
  uninterrupted (isShut : Bool) (stream : List Arrival) :
    reader isShut (uninterrupted stream) =
      ((reader isShut stream).1, uninterrupted (reader isShut stream).2)
  shut (stream : List Arrival) : (reader false stream).1 = .waiting →
    (reader true stream).1 = .failed .endOfData

theorem draw_append {n : Nat} {stream left : List Arrival} {result : Taken Octets}
    (drawn : draw false n stream = (result, left)) (settled : result ≠ .waiting) (isShut : Bool)
    (rest : List Arrival) : draw isShut n (stream ++ rest) = (result, left ++ rest) := by
  fun_induction draw false n stream generalizing result left with
  | case1 =>
    cases drawn
    simp [draw]
  | case2 =>
    cases drawn
    exact absurd rfl settled
  | case3 =>
    cases drawn
    rfl
  | case4 n reason later interrupted ih =>
    rw [List.cons_append, draw, if_pos interrupted]
    exact ih drawn settled
  | case5 n reason later other =>
    cases drawn
    rw [List.cons_append, draw, if_neg other]
  | case6 n value later ih =>
    rw [Prod.mk.injEq] at drawn
    obtain ⟨rfl, rfl⟩ := drawn
    rw [List.cons_append, draw, ih rfl fun waits => settled (Taken.map_eq_waiting.mpr waits)]

theorem draw_uninterrupted (n : Nat) (isShut : Bool) (stream : List Arrival) :
    draw isShut n (uninterrupted stream) =
      ((draw isShut n stream).1, uninterrupted (draw isShut n stream).2) := by
  fun_induction draw isShut n stream with
  | case1 => simp [draw]
  | case2 => rfl
  | case3 => rfl
  | case4 n reason rest interrupted ih =>
    rw [← ih]
    simp [uninterrupted, interrupted]
  | case5 n reason rest other => simp [uninterrupted, other, draw]
  | case6 n value rest ih =>
    have kept : uninterrupted (.octet value :: rest) = .octet value :: uninterrupted rest := rfl
    rw [kept, draw, ih]

theorem draw_shut {n : Nat} (stream : List Arrival) (waits : (draw false n stream).1 = .waiting) :
    (draw true n stream).1 = .failed .endOfData := by
  fun_induction draw false n stream with
  | case1 => cases waits
  | case2 => rfl
  | case3 => cases waits
  | case4 n reason rest interrupted ih =>
    rw [draw, if_pos interrupted]
    exact ih waits
  | case5 => cases waits
  | case6 n value rest ih =>
    rw [draw, ih (Taken.map_eq_waiting.mp waits)]
    rfl

theorem orderly_exactly (n : Nat) : (exactly n).Orderly where
  append := draw_append
  uninterrupted := draw_uninterrupted n
  shut := draw_shut

theorem orderly_give {taken : Taken α} (settled : taken ≠ .waiting) : (give taken).Orderly where
  append := by
    intro stream left result given _ isShut rest
    cases given
    rfl
  uninterrupted _ _ := rfl
  shut _ waits := absurd waits settled

theorem Orderly.andThen {first : StreamReader α} {next : α → StreamReader β} (early : first.Orderly)
    (late : ∀ a, (next a).Orderly) : (first.andThen next).Orderly where
  append := by
    intro stream left result read settled isShut rest
    unfold StreamReader.andThen at read ⊢
    cases began : first false stream with
    | mk taken after =>
      rw [began] at read
      cases taken with
      | done a =>
        rw [early.append began (by simp)]
        exact (late a).append read settled isShut rest
      | refused fault | failed reason =>
        cases read
        rw [early.append began (by simp)]
      | waiting =>
        cases read
        exact absurd rfl settled
  uninterrupted := by
    intro isShut stream
    unfold StreamReader.andThen
    rw [early.uninterrupted]
    cases first isShut stream with
    | mk taken after =>
      cases taken with
      | done a => exact (late a).uninterrupted isShut after
      | _ => rfl
  shut := by
    intro stream waits
    unfold StreamReader.andThen at waits ⊢
    cases began : first false stream with
    | mk taken after =>
      rw [began] at waits
      cases taken with
      | done a =>
        -- What was settled before the end was known is settled after it.
        have again := early.append began (by simp) true []
        rw [List.append_nil, List.append_nil] at again
        rw [again]
        exact (late a).shut after waits
      | refused fault | failed reason => cases waits
      | waiting =>
        have ended := early.shut stream (by rw [began])
        cases shut : first true stream with
        | mk taken after =>
          rw [shut] at ended
          cases ended
          rfl

theorem Orderly.whole {reader : StreamReader α} (orderly : reader.Orderly) : reader.whole.Orderly where
  append := by
    intro stream left result read settled isShut rest
    unfold StreamReader.whole at read ⊢
    split at read
    · cases read
      exact absurd rfl settled
    · rw [orderly.append read settled]
      cases result with
      | waiting => exact absurd rfl settled
      | _ => rfl
  uninterrupted := by
    intro isShut stream
    unfold StreamReader.whole
    rw [orderly.uninterrupted]
    cases reader isShut stream with
    | mk taken after => cases taken <;> rfl
  shut := by
    intro stream waits
    unfold StreamReader.whole at waits ⊢
    have ended := orderly.shut stream (by split at waits <;> simp_all)
    split
    · next still =>
      rw [still] at ended
      cases ended
    · exact ended

theorem orderly_frame (limit : UInt32) : (frame limit).Orderly := by
  apply Orderly.whole
  apply (orderly_exactly _).andThen
  intro header
  split
  · exact orderly_give (by simp)
  · apply (orderly_exactly _).andThen
    intro content
    exact orderly_give (by simp)

theorem orderly_message (limit : UInt32) : (message limit).Orderly := by
  apply (orderly_frame limit).andThen
  intro octets
  split <;> exact orderly_give (by simp)

theorem whole_waiting {reader : StreamReader α} {isShut : Bool} {stream left : List Arrival}
    (waits : reader.whole isShut stream = (.waiting, left)) : left = stream := by
  unfold whole at waits
  split at waits
  · cases waits
    rfl
  · next settled => exact absurd waits (settled left)

/-- While a message is still to come, nothing is taken. -/
theorem message_waiting {limit : UInt32} {isShut : Bool} {stream left : List Arrival}
    (waits : message limit isShut stream = (.waiting, left)) : left = stream := by
  unfold message andThen at waits
  cases began : frame limit isShut stream with
  | mk octets after =>
    rw [began] at waits
    cases octets with
    | done octets =>
      dsimp only at waits
      cases decoded : Message.decode octets with
      | ok message =>
        rw [decoded] at waits
        cases waits
      | error fault =>
        rw [decoded] at waits
        cases waits
    | waiting =>
      cases waits
      exact whole_waiting began
    | _ => cases waits

/-- What one call moves may be taken off the stream first. -/
theorem draw_takeOctets {isShut : Bool} (k n : Nat) (stream : List Arrival) (within : k ≤ n) :
    draw isShut n stream =
      ((draw isShut (n - (takeOctets k stream).1.length) (takeOctets k stream).2).1.map
          ((takeOctets k stream).1 ++ ·),
        (draw isShut (n - (takeOctets k stream).1.length) (takeOctets k stream).2).2) := by
  fun_induction takeOctets k stream generalizing n with
  | case1 k value rest octets left same ih =>
    obtain ⟨m, rfl⟩ : ∃ m, n = m + 1 := ⟨n - 1, by omega⟩
    have later := ih m (by omega)
    rw [same] at later
    rw [draw, later]
    simp only [List.length_cons, Nat.add_sub_add_right, Taken.map_map]
    rfl
  | case2 => exact Prod.ext (Taken.map_id _).symm rfl

end StreamReader

namespace Transport

open StreamReader

theorem limited_pos {limit : Option Nat} {n : Nat} (some : 0 < n) : 0 < limited limit n := by
  unfold limited
  split
  · exact some
  · omega

theorem limited_le (limit : Option Nat) (n : Nat) : limited limit n ≤ n := by
  unfold limited
  split
  · exact Nat.le_refl n
  · exact Nat.min_le_left _ _

/-- A call that moves octets moves the first ones of the stream, or finds its end. -/
theorem draw_read {transport after : Transport} {n : Nat} {octets : Octets} (some : 0 < n)
    (found : transport.read n = (.octets octets, after)) :
    (octets = [] ∧ draw transport.isShut n transport.incoming = (.failed .endOfData, after.incoming)) ∨
      octets ≠ [] ∧ draw transport.isShut n transport.incoming =
        ((draw transport.isShut (n - octets.length) after.incoming).1.map (octets ++ ·),
          (draw transport.isShut (n - octets.length) after.incoming).2) := by
  obtain ⟨m, rfl⟩ : ∃ m, n = m + 1 := ⟨n - 1, by omega⟩
  unfold read at found
  split at found
  · next empty =>
    split at found <;> cases found
    next shut => exact .inl ⟨rfl, by simp [empty, shut, draw]⟩
  · next ended =>
    cases found
    exact .inl ⟨rfl, by simp [ended, draw]⟩
  · cases found
  · next incoming nonempty unended unfailed =>
    cases found
    refine .inr ⟨?_, draw_takeOctets _ _ _ (limited_le _ _)⟩
    obtain ⟨k, most⟩ : ∃ k, limited transport.readLimit (m + 1) = k + 1 :=
      ⟨_, (Nat.succ_pred_eq_of_pos (limited_pos some)).symm⟩
    rw [most]
    cases stream : transport.incoming with
    | nil => exact absurd stream nonempty
    | cons first rest =>
      cases first with
      | octet value => simp [takeOctets]
      | failure reason => exact absurd stream (unfailed _ _)
      | ended => exact absurd stream (unended _)

theorem read_failed {transport after : Transport} {n : Nat} {reason : StreamFailure}
    (found : transport.read n = (.failed reason, after)) :
    transport.incoming = .failure reason :: after.incoming ∧
      after = { transport with incoming := after.incoming } := by
  unfold read at found
  split at found
  · split at found <;> cases found
  · cases found
  · next incoming =>
    cases found
    exact ⟨incoming, rfl⟩
  · cases found

theorem read_waiting {transport after : Transport} {n : Nat} (found : transport.read n = (.waiting, after)) :
    transport.incoming = [] ∧ transport.isShut = false ∧ after = transport := by
  unfold read at found
  split at found
  · next empty =>
    split at found <;> cases found
    next open_ => exact ⟨empty, Bool.eq_false_iff.mpr open_, rfl⟩
  · cases found
  · cases found
  · cases found

/-- Octets are taken off the stream one after the other, however many a call moves. -/
theorem takeExactly_eq (n : Nat) (transport : Transport) :
    transport.takeExactly n =
      ((draw transport.isShut n transport.incoming).1,
        { transport with incoming := (draw transport.isShut n transport.incoming).2 }) := by
  -- One case for each outcome of a call; a call that moves octets moves the first ones of `draw`.
  fun_induction takeExactly n transport with
  | case1 transport => simp [draw]
  | case2 n transport some after found =>
    obtain ⟨left, _, rfl⟩ := read_readsTo found
    rcases draw_read (Nat.pos_of_ne_zero some) found with ⟨_, drawn⟩ | ⟨moved, _⟩
    · rw [drawn]
    · exact absurd rfl moved
  | case3 n transport some octet more after found others last rest ih =>
    obtain ⟨left, _, rfl⟩ := read_readsTo found
    rcases draw_read (Nat.pos_of_ne_zero some) found with ⟨none, _⟩ | ⟨_, drawn⟩
    · cases none
    · rw [rest, Prod.mk.injEq] at ih
      obtain ⟨taken, rfl⟩ := ih
      rw [List.length_cons] at drawn
      rw [drawn, ← taken]
      rfl
  | case4 n transport some octet more after found unfinished ih =>
    obtain ⟨left, _, rfl⟩ := read_readsTo found
    rcases draw_read (Nat.pos_of_ne_zero some) found with ⟨none, _⟩ | ⟨_, drawn⟩
    · cases none
    · rw [List.length_cons] at drawn
      rw [ih, drawn]
      rw [ih] at unfinished
      cases taken : (draw transport.isShut (n - (more.length + 1)) left).1 with
      | done others => exact absurd (by rw [taken]) (unfinished others _)
      | _ => rfl
  | case5 n transport some reason after found interrupted ih =>
    obtain ⟨incoming, rest⟩ := read_failed found
    obtain ⟨m, rfl⟩ : ∃ m, n = m + 1 := ⟨n - 1, by omega⟩
    rw [ih, incoming, draw, if_pos interrupted, rest]
  | case6 n transport some reason after found lasting =>
    obtain ⟨incoming, rest⟩ := read_failed found
    obtain ⟨m, rfl⟩ : ∃ m, n = m + 1 := ⟨n - 1, by omega⟩
    rw [incoming, draw, if_neg lasting, ← rest]
  | case7 n transport some after found =>
    obtain ⟨empty, open_, rfl⟩ := read_waiting found
    obtain ⟨m, rfl⟩ : ∃ m, n = m + 1 := ⟨n - 1, by omega⟩
    cases after
    cases empty
    cases open_
    rfl

theorem takeFrame_eq (limit : UInt32) (transport : Transport) :
    transport.takeFrame limit =
      ((frame limit transport.isShut transport.incoming).1,
        { transport with incoming := (frame limit transport.isShut transport.incoming).2 }) := by
  unfold takeFrame frame whole andThen exactly
  rw [takeExactly_eq]
  cases draw transport.isShut Frame.headerLength transport.incoming with
  | mk header after =>
    cases header with
    | done header =>
      dsimp only
      cases Frame.declared limit header with
      | error defect => rfl
      | ok length =>
        dsimp only
        rw [takeExactly_eq]
        dsimp only
        cases draw transport.isShut length after with
        | mk content last => cases content <;> rfl
    | _ => rfl

/-- What is read off a transport depends on its stream and on whether it was shut. -/
theorem takeMessage_eq (limit : UInt32) (transport : Transport) :
    transport.takeMessage limit =
      ((message limit transport.isShut transport.incoming).1,
        { transport with incoming := (message limit transport.isShut transport.incoming).2 }) := by
  unfold takeMessage message andThen
  rw [takeFrame_eq]
  cases frame limit transport.isShut transport.incoming with
  | mk octets after =>
    cases octets with
    | done octets =>
      dsimp only
      cases Message.decode octets <;> rfl
    | _ => rfl

theorem message_length {limit : UInt32} {isShut : Bool} {stream left : List Arrival} {message : Message}
    (read : StreamReader.message limit isShut stream = (.done message, left)) : left.length < stream.length := by
  have taken := takeMessage_eq limit { incoming := stream, isShut }
  dsimp only at taken
  rw [read] at taken
  exact takeMessage_length taken

def fill (transport : Transport) (octets : Octets) : Except StreamFailure Unit × Transport :=
  match transport.room with
  | none => (.ok (), { transport with outgoing := transport.outgoing ++ octets })
  | some room =>
    (if octets.length ≤ room then .ok () else .error .noRoom,
      { transport with
        outgoing := transport.outgoing ++ octets.take room
        room := some (room - octets.length) })

def wrote (transport : Transport) (octets : Octets) : Except StreamFailure Unit × Transport :=
  match transport.script.head? with
  | some (.writeFailure text) => (.error ⟨.other, text⟩, transport.skipReaction)
  | some .writeNothing => (.error .noRoom, transport.skipReaction)
  | _ => transport.fill octets

theorem fill_nil (transport : Transport) : transport.fill [] = (.ok (), transport) := by
  unfold fill
  split
  · simp
  · next found => simp [← found]

/-- What one call may write is written first. -/
theorem fill_drop {transport : Transport} {octets : Octets} {count : Nat}
    (within : count ≤ octets.length) (space : ∀ room, transport.room = some room → count ≤ room) :
    fill { transport with
        outgoing := transport.outgoing ++ octets.take count
        room := transport.room.map (· - count) } (octets.drop count) = transport.fill octets := by
  unfold fill
  cases limit : transport.room with
  | none => simp
  | some room =>
    have space := space room limit
    have fits : (octets.drop count).length ≤ room - count ↔ octets.length ≤ room := by
      rw [List.length_drop]
      omega
    have left : room - count - (octets.drop count).length = room - octets.length := by
      rw [List.length_drop]
      omega
    have taken : octets.take count ++ (octets.drop count).take (room - count) = octets.take room := by
      rw [← List.take_add, Nat.add_sub_cancel' space]
    simp only [Option.map_some, fits, left, List.append_assoc, taken]

/-- One call to write moves something, unless the peer prevents it or there is no room. -/
theorem write_eq {transport : Transport} (octet : UInt8) (rest : Octets)
    (willing : ∀ text, transport.script.head? ≠ some (.writeFailure text))
    (taking : transport.script.head? ≠ some .writeNothing) :
    ∃ count, count ≤ rest.length + 1 ∧ (∀ room, transport.room = some room → count ≤ room) ∧
      (count = 0 → transport.room = some 0) ∧
      transport.write (octet :: rest) = (.ok count,
        { transport with
          outgoing := transport.outgoing ++ (octet :: rest).take count
          room := transport.room.map (· - count) }) := by
  have most := limited_le transport.writeLimit (rest.length + 1)
  have some : 0 < limited transport.writeLimit (rest.length + 1) := limited_pos (Nat.succ_pos _)
  unfold write
  split
  · next failing => exact absurd failing (willing _)
  · next nothing => exact absurd nothing taking
  · refine ⟨_, ?_, ?_, ?_, rfl⟩ <;> cases transport.room <;> simp <;> omega

theorem writeAll_of_willing (octets : Octets) (transport : Transport)
    (willing : ∀ text, transport.script.head? ≠ some (.writeFailure text))
    (taking : transport.script.head? ≠ some .writeNothing) :
    transport.writeAll octets = transport.fill octets := by
  fun_induction writeAll transport octets with
  | case1 transport => exact (fill_nil transport).symm
  | case2 transport octet rest failure after failed =>
    obtain ⟨count, _, _, _, written⟩ := write_eq octet rest willing taking
    rw [failed] at written
    cases written
  | case3 transport octet rest after nothing =>
    obtain ⟨count, _, _, full, written⟩ := write_eq octet rest willing taking
    rw [nothing] at written
    cases written
    simp [fill, full rfl]
  | case4 transport octet rest count after part ih =>
    obtain ⟨moved, within, space, _, written⟩ := write_eq octet rest willing taking
    rw [part] at written
    cases written
    exact (ih willing taking).trans (fill_drop within space)

/-- However many octets a call moves, the same is written. -/
theorem writeAll_eq (transport : Transport) (octet : UInt8) (rest : Octets) :
    transport.writeAll (octet :: rest) = transport.wrote (octet :: rest) := by
  unfold wrote
  split
  · next failing => simp [writeAll, write, failing]
  · next nothing => simp [writeAll, write, nothing]
  · next willing taking => exact writeAll_of_willing _ _ (by simpa using willing) (by simpa using taking)

end Transport

end Directory
