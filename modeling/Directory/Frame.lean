import Directory.Transport
/-! Frames on a stream: a header of five octets that says how many follow. A frame is taken off the stream
as a whole, however many calls that needs; while a part of it is still to come, nothing is taken. -/
namespace Directory

/-- What comes of taking something off a stream. After `waiting` the stream is as it was. -/
inductive Taken (α : Type) where
  | done (a : α)
  | refused (fault : Wire.Fault)
  | failed (failure : StreamFailure)
  | waiting
  deriving DecidableEq, Repr

namespace Frame

def headerLength : Nat := 5

/-- The length that a header declares. The limit is for what follows the header. -/
def declared (limit : UInt32) (header : Octets) : Except Wire.Defect Nat :=
  match header with
  | [start, a, b, c, d] =>
    let length := Octets.number a b c d
    if start ≠ Wire.Tag.sequence then .error (.frameStart start)
    else if limit < length then .error (.frameLength length limit)
    else .ok length.toNat
  | _ => .ok 0

end Frame

namespace Transport

def takeExactly (n : Nat) (transport : Transport) : Taken Octets × Transport :=
  if n = 0 then (.done [], transport)
  else
    match _found : transport.read n with
    | (.octets [], after) => (.failed .endOfData, after)
    | (.octets (octet :: more), after) =>
      match after.takeExactly (n - (more.length + 1)) with
      | (.done others, last) => (.done (octet :: more ++ others), last)
      | unfinished => unfinished
    | (.failed failure, after) =>
      if failure.kind = .interrupted then after.takeExactly n else (.failed failure, after)
    | (.waiting, after) => (.waiting, after)
termination_by transport.incoming.length
decreasing_by
  · have shorter := read_octets_length _found
    simp only [List.length_cons] at shorter
    omega
  · exact read_failed_length _found

def takeFrame (limit : UInt32) (transport : Transport) : Taken Octets × Transport :=
  match transport.takeExactly Frame.headerLength with
  | (.done header, after) =>
    match Frame.declared limit header with
    | .error defect => (.refused (.malformed defect), after)
    | .ok length =>
      match after.takeExactly length with
      | (.done content, last) => (.done (header ++ content), last)
      -- The header goes back on the stream and is read again with the rest.
      | (.waiting, _) => (.waiting, transport)
      | failed => failed
  | (.waiting, _) => (.waiting, transport)
  | failed => failed

def takeMessage (limit : UInt32) (transport : Transport) : Taken Message × Transport :=
  match transport.takeFrame limit with
  | (.done frame, after) =>
    match Message.decode frame with
    | .ok message => (.done message, after)
    | .error fault => (.refused fault, after)
  | (.refused fault, after) => (.refused fault, after)
  | (.failed failure, after) => (.failed failure, after)
  | (.waiting, after) => (.waiting, after)

theorem takeExactly_length {n : Nat} {transport after : Transport} {octets : Octets}
    (h : transport.takeExactly n = (.done octets, after)) :
    n ≤ octets.length ∧ octets.length + after.incoming.length ≤ transport.incoming.length := by
  fun_induction takeExactly n transport generalizing octets after with
  | case1 => simp_all
  | case2 => simp_all
  | case3 n transport _ octet more middle found others last rest ih =>
    cases h
    have later := ih rest
    have now := read_octets_length found
    simp only [List.length_cons, List.length_append] at now ⊢
    omega
  | case4 _ _ _ _ _ _ _ unfinished => exact absurd h (unfinished _ _)
  | case5 _ _ _ _ _ found _ ih =>
    have now := read_failed_length found
    have later := ih h
    omega
  | case6 => simp_all
  | case7 => simp_all

/-- A frame leaves less on the stream than there was. -/
theorem takeFrame_length {limit : UInt32} {transport after : Transport} {frame : Octets}
    (h : transport.takeFrame limit = (.done frame, after)) :
    after.incoming.length < transport.incoming.length := by
  unfold takeFrame at h
  split at h
  · next header middle first =>
    have now := takeExactly_length first
    simp only [Frame.headerLength] at now
    split at h
    · cases h
    · split at h
      · next second =>
        cases h
        have later := takeExactly_length second
        omega
      · cases h
      · next notDone _ => exact absurd h (notDone _ _)
  · cases h
  · next notDone _ => exact absurd h (notDone _ _)

theorem takeMessage_length {limit : UInt32} {transport after : Transport} {message : Message}
    (h : transport.takeMessage limit = (.done message, after)) :
    after.incoming.length < transport.incoming.length := by
  unfold takeMessage at h
  split at h
  · next taken =>
    split at h
    · cases h
      exact takeFrame_length taken
    · cases h
  · cases h
  · cases h
  · cases h

theorem takeExactly_readsTo (n : Nat) (transport : Transport) :
    transport.ReadsTo (transport.takeExactly n).2 := by
  fun_induction takeExactly n transport with
  | case1 => exact .refl _
  | case2 _ _ _ _ found => exact read_readsTo found
  | case3 _ _ _ _ _ _ found _ _ rest ih =>
    rw [rest] at ih
    exact (read_readsTo found).trans ih
  | case4 _ _ _ _ _ _ found _ ih => exact (read_readsTo found).trans ih
  | case5 _ _ _ _ _ found _ ih => exact (read_readsTo found).trans ih
  | case6 _ _ _ _ _ found => exact read_readsTo found
  | case7 _ _ _ _ found => exact read_readsTo found

theorem takeFrame_readsTo (limit : UInt32) (transport : Transport) :
    transport.ReadsTo (transport.takeFrame limit).2 := by
  have first := takeExactly_readsTo Frame.headerLength transport
  unfold takeFrame
  split
  · next header middle found =>
    rw [found] at first
    split
    · exact first
    · next length _ =>
      have second := takeExactly_readsTo length middle
      split
      · next more =>
        rw [more] at second
        exact first.trans second
      · exact .refl _
      · exact first.trans second
  · exact .refl _
  · exact first

theorem takeMessage_readsTo (limit : UInt32) (transport : Transport) :
    transport.ReadsTo (transport.takeMessage limit).2 := by
  have taken := takeFrame_readsTo limit transport
  unfold takeMessage
  split <;> next found =>
    rw [found] at taken
    first | exact taken | (split <;> exact taken)

end Transport

end Directory
