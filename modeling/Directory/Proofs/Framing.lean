import Directory.Proofs.Message.Sequence
/-!
How long a frame may be. A stream begins with a frame, with octets that no frame begins with, or with a part of
a frame, and what is taken off it follows from that alone. The limit counts what stands behind the heading of
a frame, so that the longest frame that is taken has the five octets of the heading on top of it.
-/
namespace Directory

namespace Frame

def IsFrame (most : Nat) (octets : Octets) : Prop :=
  ∃ content, octets = Wire.element Wire.Tag.sequence content ∧ content.length < Wire.lengthLimit ∧
    octets.length ≤ most

def IsMisshapen (most : Nat) (octets : Octets) : Prop :=
  ∃ start a b c d, octets = [start, a, b, c, d] ∧
    (start ≠ Wire.Tag.sequence ∨ most < headerLength + (Octets.number a b c d).toNat)

def IsPart (most : Nat) (octets : Octets) : Prop :=
  octets.length < headerLength ∨ ∃ frame, IsFrame most frame ∧ octets <+: frame ∧ octets ≠ frame

/-- What there is to take off octets that nothing follows, when frames have at most so many octets, and what
is left of them. -/
inductive Splits (most : Nat) : Octets → Taken Octets → Octets → Prop where
  | frame {frame rest : Octets} : IsFrame most frame → Splits most (frame ++ rest) (.done frame) rest
  | misshapen {heading rest : Octets} {defect : Wire.Defect} : IsMisshapen most heading →
      Splits most (heading ++ rest) (.refused (.malformed defect)) rest
  | part {octets : Octets} : IsPart most octets → Splits most octets (.failed .endOfData) []

def longest (limit : UInt32) : Nat := headerLength + limit.toNat

def Declares (octets : Octets) (length : UInt32) : Prop :=
  ∃ rest, octets = Wire.Tag.sequence :: (Octets.ofNumber length ++ rest)

/-- A frame stands in front, or a part of one, that is longer than the limit by no more than its heading. -/
def IsOverlong (limit : UInt32) (octets : Octets) : Prop :=
  ∃ length, Declares octets length ∧ length ≤ limit ∧ limit.toNat < headerLength + length.toNat

theorem element_of_number {a b c d : UInt8} {content : Octets}
    (counted : content.length = (Octets.number a b c d).toNat) :
    Wire.element Wire.Tag.sequence content = Wire.Tag.sequence :: a :: b :: c :: d :: content := by
  rw [Wire.element, counted, UInt32.ofNat_toNat, Octets.ofNumber_number]
  rfl

theorem isFrame_of_number {limit : UInt32} {a b c d : UInt8} {content : Octets}
    (counted : content.length = (Octets.number a b c d).toNat)
    (within : (Octets.number a b c d).toNat ≤ limit.toNat) :
    IsFrame (longest limit) (Wire.Tag.sequence :: a :: b :: c :: d :: content) := by
  refine ⟨content, (element_of_number counted).symm, ?_, ?_⟩
  · rw [counted]
    exact (Octets.number a b c d).toNat_lt
  · simp only [List.length_cons, longest, headerLength]
    omega

/-- Octets that are fewer than their heading declares can be completed to a frame. -/
theorem isPart_of_number {limit : UInt32} {a b c d : UInt8} {content : Octets}
    (few : content.length < (Octets.number a b c d).toNat)
    (within : (Octets.number a b c d).toNat ≤ limit.toNat) :
    IsPart (longest limit) (Wire.Tag.sequence :: a :: b :: c :: d :: content) := by
  have counted : (content ++ List.replicate ((Octets.number a b c d).toNat - content.length) 0).length =
      (Octets.number a b c d).toNat := by
    rw [List.length_append, List.length_replicate]
    omega
  refine .inr ⟨_, isFrame_of_number counted within, ?_, ?_⟩
  · exact ⟨_, rfl⟩
  · intro same
    have lengths := congrArg List.length same
    simp only [List.length_cons, counted] at lengths
    omega

end Frame

namespace StreamReader

open Directory.Frame

variable {isShut : Bool} {tail left : List Arrival} {result : Taken Octets}

theorem whole_of_eq {reader : StreamReader Octets} {stream : List Arrival}
    (read : reader isShut stream = (result, left)) :
    (reader.whole isShut stream).1 = result ∧ (result ≠ .waiting → (reader.whole isShut stream).2 = left) := by
  rw [whole, read]
  cases result <;> simp

theorem exists_heading {octets : Octets} (enough : headerLength ≤ octets.length) :
    ∃ start a b c d rest, octets = [start, a, b, c, d] ++ rest := by
  match octets, enough with
  | start :: a :: b :: c :: d :: rest, _ => exact ⟨start, a, b, c, d, rest, rfl⟩

theorem declared_cases (limit : UInt32) (start a b c d : UInt8) :
    (∃ defect, declared limit [start, a, b, c, d] = .error defect ∧
        IsMisshapen (longest limit) [start, a, b, c, d]) ∨
      start = Wire.Tag.sequence ∧ (Octets.number a b c d).toNat ≤ limit.toNat ∧
        declared limit [start, a, b, c, d] = .ok (Octets.number a b c d).toNat := by
  by_cases tagged : start = Wire.Tag.sequence
  · by_cases long : limit < Octets.number a b c d
    · refine .inl ⟨.frameLength (Octets.number a b c d) limit, by simp [declared, tagged, long], start, a, b, c, d,
        rfl, .inr ?_⟩
      exact Nat.add_lt_add_left (UInt32.lt_iff_toNat_lt.mp long) headerLength
    · exact .inr ⟨tagged, UInt32.le_iff_toNat_le.mp (UInt32.not_lt.mp long), by simp [declared, tagged, long]⟩
  · exact .inl ⟨.frameStart start, by simp [declared, tagged], start, a, b, c, d, rfl, .inl tagged⟩

/-- What a stream begins with decides what comes of taking a frame off it. A part of a frame is not enough,
whatever stands behind it. -/
theorem frame_cases (limit : UInt32) (octets : Octets) (stops : Stops isShut tail result left) :
    (∃ frame rest, IsFrame (longest limit) frame ∧ octets = frame ++ rest ∧
        StreamReader.frame limit isShut (octets.map .octet ++ tail) =
          (.done frame, rest.map .octet ++ tail)) ∨
      (∃ heading rest defect, IsMisshapen (longest limit) heading ∧ octets = heading ++ rest ∧
        StreamReader.frame limit isShut (octets.map .octet ++ tail) =
          (.refused (.malformed defect), rest.map .octet ++ tail)) ∨
      IsPart (longest limit) octets ∧
        (StreamReader.frame limit isShut (octets.map .octet ++ tail)).1 = result ∧
        (result ≠ .waiting → (StreamReader.frame limit isShut (octets.map .octet ++ tail)).2 = left) := by
  by_cases headless : octets.length < headerLength
  · refine .inr (.inr ⟨.inl headless, whole_of_eq ?_⟩)
    have stopped := draw_stops headless stops
    simp only [andThen, exactly, stopped]
    cases stops <;> rfl
  obtain ⟨start, a, b, c, d, rest, rfl⟩ := exists_heading (Nat.not_lt.mp headless)
  have headed : draw isShut headerLength (([start, a, b, c, d] ++ rest).map .octet ++ tail) =
      (.done [start, a, b, c, d], rest.map .octet ++ tail) := by
    rw [List.map_append, List.append_assoc]
    exact draw_octets [start, a, b, c, d] _
  rcases declared_cases limit start a b c d with ⟨defect, declares, misshapen⟩ | ⟨rfl, within, declares⟩
  · refine .inr (.inl ⟨[start, a, b, c, d], rest, defect, misshapen, rfl, ?_⟩)
    simp only [frame, whole, andThen, exactly, headed, declares, give]
  rcases Nat.lt_or_ge rest.length (Octets.number a b c d).toNat with few | enough
  · refine .inr (.inr ⟨isPart_of_number few within, whole_of_eq ?_⟩)
    have stopped := draw_stops few stops
    simp only [andThen, exactly, headed, declares, stopped]
    cases stops <;> rfl
  · -- As many octets as were declared belong to the frame, and the others stay.
    obtain ⟨content, more, rfl, counted⟩ : ∃ content more, rest = content ++ more ∧
        content.length = (Octets.number a b c d).toNat :=
      ⟨_, _, (List.take_append_drop _ rest).symm, List.length_take_of_le enough⟩
    have filled : draw isShut (Octets.number a b c d).toNat ((content ++ more).map .octet ++ tail) =
        (.done content, more.map .octet ++ tail) := by
      rw [← counted, List.map_append, List.append_assoc]
      exact draw_octets content _
    refine .inl ⟨_, more, isFrame_of_number counted within, rfl, ?_⟩
    simp only [frame, whole, andThen, exactly, headed, declares, filled, give]
    rfl

end StreamReader

namespace Frame

variable {most : Nat} {limit length : UInt32} {octets frame heading rest : Octets}

theorem Declares.enough (declares : Declares octets length) : headerLength ≤ octets.length := by
  obtain ⟨rest, rfl⟩ := declares
  simp [headerLength, Octets.ofNumber]

theorem declares_iff {start a b c d : UInt8} : Declares ([start, a, b, c, d] ++ rest) length ↔
    start = Wire.Tag.sequence ∧ Octets.number a b c d = length := by
  constructor
  · rintro ⟨more, same⟩
    obtain ⟨tagged, behind⟩ := List.cons.inj same
    change [a, b, c, d] ++ rest = _ at behind
    exact ⟨tagged, Octets.number_eq_of_ofNumber (List.append_inj behind rfl).1⟩
  · rintro ⟨rfl, rfl⟩
    exact ⟨rest, by rw [Octets.ofNumber_number]; rfl⟩

theorem Declares.unique {other : UInt32} (one : Declares octets length) (two : Declares octets other) :
    other = length := by
  obtain ⟨start, a, b, c, d, rest, rfl⟩ := StreamReader.exists_heading one.enough
  rw [declares_iff] at one two
  rw [← two.2, one.2]

/-- What stands behind the heading makes no difference. -/
theorem declares_append_iff (enough : headerLength ≤ octets.length) (rest : Octets) :
    Declares (octets ++ rest) length ↔ Declares octets length := by
  obtain ⟨start, a, b, c, d, behind, rfl⟩ := StreamReader.exists_heading enough
  rw [List.append_assoc, declares_iff, declares_iff]

theorem IsFrame.declares (framed : IsFrame most frame) :
    ∃ length, Declares frame length ∧ frame.length = headerLength + length.toNat := by
  obtain ⟨content, rfl, short, _⟩ := framed
  refine ⟨UInt32.ofNat content.length, ⟨content, rfl⟩, ?_⟩
  rw [Wire.length_element, Wire.toNat_length short, headerLength, Nat.add_comm]

theorem IsFrame.loosen (framed : IsFrame limit.toNat frame) : IsFrame (longest limit) frame := by
  obtain ⟨content, same, short, within⟩ := framed
  exact ⟨content, same, short, Nat.le_trans within (Nat.le_add_left _ _)⟩

theorem IsFrame.le (framed : IsFrame most frame) : frame.length ≤ most := by
  obtain ⟨_, _, _, within⟩ := framed
  exact within

/-- A part of a frame says as much of its length as the whole. -/
theorem IsFrame.isOverlong_iff (framed : IsFrame (longest limit) frame) {octets rest : Octets}
    (part : octets <+: frame ++ rest) (enough : headerLength ≤ octets.length) :
    IsOverlong limit octets ↔ ¬ IsFrame limit.toNat frame := by
  obtain ⟨length, declares, counted⟩ := framed.declares
  have within := framed.le
  obtain ⟨more, same⟩ := part
  have declared : Declares octets length := by
    rw [← declares_append_iff enough more, same]
    exact (declares_append_iff declares.enough rest).mpr declares
  constructor
  · rintro ⟨other, again, _, long⟩ fits
    rw [declared.unique again, ← counted] at long
    exact absurd fits.le (Nat.not_le.mpr long)
  · intro unfit
    refine ⟨length, declared, ?_, ?_⟩
    · rw [UInt32.le_iff_toNat_le]
      unfold longest at within
      omega
    · rw [← counted]
      obtain ⟨content, same, short, _⟩ := framed
      exact Nat.lt_of_not_le fun fits => unfit ⟨content, same, short, fits⟩

theorem IsMisshapen.lt (misshapen : IsMisshapen most heading) (declares : Declares (heading ++ rest) length) :
    most < headerLength + length.toNat := by
  obtain ⟨start, a, b, c, d, rfl, wrong⟩ := misshapen
  obtain ⟨tagged, rfl⟩ := declares_iff.mp declares
  exact wrong.resolve_left fun foreign => foreign tagged

theorem IsMisshapen.within (misshapen : IsMisshapen (longest limit) heading) (rest : Octets) :
    IsMisshapen limit.toNat heading ∧ ¬ IsOverlong limit (heading ++ rest) := by
  constructor
  · obtain ⟨start, a, b, c, d, rfl, wrong⟩ := misshapen
    exact ⟨start, a, b, c, d, rfl, wrong.imp id (Nat.lt_of_le_of_lt (Nat.le_add_left _ _))⟩
  · rintro ⟨length, declares, small, _⟩
    have long := misshapen.lt declares
    have within := UInt32.le_iff_toNat_le.mp small
    unfold longest at long
    omega

theorem IsPart.within_iff (part : IsPart (longest limit) octets) :
    IsPart limit.toNat octets ↔ ¬ IsOverlong limit octets := by
  rcases Nat.lt_or_ge octets.length headerLength with headless | enough
  · refine iff_of_true (.inl headless) ?_
    rintro ⟨length, declares, _⟩
    exact absurd declares.enough (Nat.not_le.mpr headless)
  have settled {frame : Octets} (framed : IsFrame (longest limit) frame) (before : octets <+: frame) :
      IsOverlong limit octets ↔ ¬ IsFrame limit.toNat frame :=
    framed.isOverlong_iff (before.trans (List.prefix_append frame [])) enough
  constructor
  · rintro (headless | ⟨frame, framed, before, _⟩) overlong
    · exact absurd enough (Nat.not_le.mpr headless)
    · exact (settled framed.loosen before).mp overlong framed
  · intro proper
    obtain ⟨frame, framed, before, cut⟩ := part.resolve_left (Nat.not_lt.mpr enough)
    exact .inr ⟨frame, Classical.not_not.mp fun unfit => proper ((settled framed before).mpr unfit), before, cut⟩

theorem Splits.isFrame (splits : Splits most octets (.done frame) rest) : IsFrame most frame := by
  generalize same : Taken.done frame = taken at splits
  cases splits with
  | frame framed =>
    cases same
    exact framed
  | misshapen => cases same
  | part => cases same

theorem Splits.isPart (splits : Splits most octets (.failed .endOfData) rest) : IsPart most octets := by
  generalize same : Taken.failed .endOfData = taken at splits
  cases splits with
  | frame => cases same
  | misshapen => cases same
  | part part => exact part

/-- To take the limit for one on whole frames makes a difference for overlong frames, and for no others. -/
theorem Splits.within_iff {taken : Taken Octets} (splits : Splits (longest limit) octets taken rest) :
    Splits limit.toNat octets taken rest ↔ ¬ IsOverlong limit octets := by
  cases splits with
  | @frame frame rest framed =>
    have enough : headerLength ≤ (frame ++ rest).length := by
      obtain ⟨length, declares, _⟩ := framed.declares
      exact ((declares_append_iff declares.enough rest).mpr declares).enough
    rw [framed.isOverlong_iff (List.prefix_refl _) enough, Classical.not_not]
    exact ⟨Splits.isFrame, .frame⟩
  | @misshapen heading rest defect misshapen =>
    obtain ⟨still, proper⟩ := misshapen.within rest
    exact iff_of_true (.misshapen still) proper
  | part part =>
    rw [← part.within_iff]
    exact ⟨Splits.isPart, .part⟩

end Frame

theorem StreamReader.frame_splits {isShut : Bool} {rest : List Arrival} (limit : UInt32) (octets : Octets)
    (ends : Ends isShut rest) :
    ∃ taken behind, StreamReader.frame limit isShut (octets.map .octet ++ rest) =
        (taken, behind.map .octet ++ rest) ∧ Frame.Splits (Frame.longest limit) octets taken behind := by
  rcases frame_cases limit octets ends.stops with
    ⟨frame, more, framed, rfl, read⟩ | ⟨heading, more, defect, misshapen, rfl, read⟩ | ⟨part, taken, left⟩
  · exact ⟨_, more, read, .frame framed⟩
  · exact ⟨_, more, read, .misshapen misshapen⟩
  · exact ⟨_, [], Prod.ext taken (left nofun), .part part⟩

namespace Transport

open Directory.Frame StreamReader

/-- A stream of octets is read in frames, in whatever portions the octets come: a frame that is no longer than
is allowed is taken as it stands there and nothing behind it, a heading that declares no such frame is taken
alone and refused, and a part of a frame is an early end. What is allowed is the limit and a heading on top of
it. Under a limit on whole frames the same would be taken, unless the frame in front is longer than the limit
by no more than its heading. -/
theorem takeFrame_splits {transport : Transport} {limit : UInt32} {octets : Octets} {rest : List Arrival}
    (brings : transport.Brings octets rest) (ends : Ends transport.isShut rest) :
    ∃ taken left behind, transport.takeFrame limit = (taken, { transport with incoming := left }) ∧
      { transport with incoming := left }.Brings behind rest ∧
      Splits (headerLength + limit.toNat) octets taken behind ∧
      (Splits limit.toNat octets taken behind ↔ ¬ IsOverlong limit octets) := by
  obtain ⟨taken, behind, read, splits⟩ := frame_splits limit octets ends
  rw [← brings, (orderly_frame limit).uninterrupted, Prod.mk.injEq] at read
  obtain ⟨settled, remains⟩ := read
  refine ⟨taken, _, behind, ?_, remains, splits, splits.within_iff⟩
  rw [takeFrame_eq, settled]

def frameAndPart : Octets := [0x30, 0, 0, 0, 2, 7, 8, 0x30, 0]

theorem hesitant_splits :
    (hesitant frameAndPart).Brings frameAndPart [.ended] ∧ Ends (hesitant frameAndPart).isShut [.ended] ∧
      ∃ taken left behind, (hesitant frameAndPart).takeFrame 2 = (taken, { hesitant frameAndPart with incoming := left }) ∧
        { hesitant frameAndPart with incoming := left }.Brings behind [.ended] ∧
        Splits (headerLength + (2 : UInt32).toNat) frameAndPart taken behind ∧
        (Splits (2 : UInt32).toNat frameAndPart taken behind ↔ ¬ IsOverlong 2 frameAndPart) := by
  have brings : (hesitant frameAndPart).Brings frameAndPart [.ended] := by
    change Arrival.uninterrupted _ = _
    decide +kernel
  have ends : Ends (hesitant frameAndPart).isShut [.ended] := .inl ⟨[], rfl⟩
  exact ⟨brings, ends, takeFrame_splits brings ends⟩

/-- The shortest frame is taken under a limit of four octets, though it has five. -/
theorem taken_over_limit :
    (hesitant [0x30, 0, 0, 0, 0]).Brings [0x30, 0, 0, 0, 0] [.ended] ∧
      ((hesitant [0x30, 0, 0, 0, 0]).takeFrame 4).1 = .done [0x30, 0, 0, 0, 0] ∧
      ∀ behind, ¬ Splits (4 : UInt32).toNat [0x30, 0, 0, 0, 0] (.done [0x30, 0, 0, 0, 0]) behind := by
  refine ⟨?_, by decide +kernel, fun behind splits => ?_⟩
  · change Arrival.uninterrupted _ = _
    decide +kernel
  · exact absurd splits.isFrame.le (by decide)

end Transport

end Directory
