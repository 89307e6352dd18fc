import Directory.Text.Octets
import Directory.Wire.Fault
import Directory.Wire.Tag
/-! Reading elements one after another. A reading goes on from the octets that are left, and a refusal
leaves what it had not yet taken. -/
namespace Directory.Wire

abbrev Reading (α : Type) := ExceptT Fault (StateM Octets) α

namespace Reading

def run (reading : Reading α) (input : Octets) : Except Fault α × Octets := reading input

theorem run_bind (reading : Reading α) (next : α → Reading β) (input : Octets) :
    (reading >>= next).run input =
      match reading.run input with
      | (.ok a, rest) => (next a).run rest
      | (.error fault, rest) => (.error fault, rest) := by
  show ExceptT.bindCont next (reading input).1 (reading input).2 = _
  unfold run
  rcases reading input with ⟨_ | _, _⟩ <;> rfl

theorem run_pure (a : α) (input : Octets) : (pure a : Reading α).run input = (.ok a, input) := rfl

theorem run_lift (result : Except Fault α) (input : Octets) :
    (liftM result : Reading α).run input = (result, input) := rfl

def shortfall (s : Shortfall) : Reading α := throw (.truncated s)

def defect (d : Defect) : Reading α := throw (.malformed d)

def peek : Reading (Option UInt8) := fun input => (.ok input.head?, input)

def isEmpty : Reading Bool := fun input => (.ok input.isEmpty, input)

def any : Reading (UInt8 × Octets) := fun input =>
  match input with
  | tag :: a :: b :: c :: d :: rest =>
    let declared := (Octets.number a b c d).toNat
    if rest.length < declared then
      (.error (.truncated (.content tag declared rest.length)), input)
    else (.ok (tag, rest.take declared), rest.drop declared)
  | short => (.error (.truncated (.header short.length)), short)

def element (tag : UInt8) : Reading Octets := do
  match ← peek with
  | none => shortfall (.missing tag)
  | some found => if found = tag then return (← any).2 else defect (.unexpectedTag found tag)

def optional (tag : UInt8) : Reading (Option Octets) := do
  if (← peek) = some tag then return some (← any).2 else return none

def asNumber (tag : UInt8) (content : Octets) : Except Fault UInt32 :=
  match Octets.number? content with
  | some n => .ok n
  | none => .error (.malformed (.numberWidth tag content.length))

def asText (content : Octets) : Except Fault String :=
  match Octets.text? content with
  | some s => .ok s
  | none => .error (.malformed .notText)

def asFlag : Octets → Except Fault Bool
  | [octet] => .ok (octet != 0)
  | content => .error (.malformed (.flagWidth content.length))

def number (tag : UInt8) : Reading UInt32 := do asNumber tag (← element tag)

def flag : Reading Bool := do asFlag (← element Tag.boolean)

def text (tag : UInt8) : Reading String := do asText (← element tag)

def finish : Reading Unit := fun input =>
  if input.isEmpty then (.ok (), input)
  else (.error (.malformed (.trailing input.length)), input)

def within (content : Octets) (reading : Reading α) : Reading α := fun input =>
  ((reading.run content).1, input)

def whole (content : Octets) (reading : Reading α) : Reading α :=
  within content do
    let a ← reading
    finish
    return a

def manyUpTo (reading : Reading α) : Nat → Reading (List α)
  | 0 => return []
  | fuel + 1 => do
    if ← isEmpty then return []
    let first ← reading
    let others ← manyUpTo reading fuel
    return first :: others

/-- What is read again and again until nothing is left. Every element takes up octets, so that their
number bounds how often. -/
def many (reading : Reading α) : Reading (List α) := fun input =>
  (manyUpTo reading input.length).run input

def stepsUpTo (step : β → Reading β) : Nat → β → Reading β
  | 0, state => return state
  | fuel + 1, state => do
    if ← isEmpty then return state
    stepsUpTo step fuel (← step state)

def steps (step : β → Reading β) (start : β) : Reading β := fun input =>
  (stepsUpTo step input.length start).run input

end Reading

end Directory.Wire
