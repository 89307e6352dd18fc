import Directory.Error
import Directory.Text.Hex
/-! Why octets are no message: some are missing, or those that are there do not fit. -/
namespace Directory.Wire

inductive Shortfall where
  | header (got : Nat)
  | content (tag : UInt8) (declared available : Nat)
  | missing (tag : UInt8)
  deriving DecidableEq, Repr

inductive Choice where
  | operation
  | credentials
  | filter
  | substring
  deriving DecidableEq, Repr

def Choice.text : Choice → String
  | operation => "protocol operation"
  | credentials => "bind authentication"
  | filter => "filter"
  | substring => "substring component"

inductive Defect where
  | unexpectedTag (found expected : UInt8)
  | numberWidth (tag : UInt8) (got : Nat)
  | flagWidth (got : Nat)
  | notText
  | trailing (count : Nat)
  | unknownTag (choice : Choice) (tag : UInt8)
  | idOutOfRange (id : UInt32)
  | unbindContent (count : Nat)
  | unknownChange (number : UInt32)
  | unknownScope (number : UInt32)
  | unknownDeref (number : UInt32)
  | filterTooDeep (levels : Nat)
  | repeatedPaging
  | emptyPaging
  /-- Content that is refused for what it says. -/
  | content (error : Error)
  | frameStart (found : UInt8)
  | frameLength (declared limit : UInt32)
  deriving DecidableEq, Repr

inductive Fault where
  | truncated (shortfall : Shortfall)
  | malformed (defect : Defect)
  deriving DecidableEq, Repr

def tagText (tag : UInt8) : String := "0x" ++ Hex.ofOctets [tag]

def Shortfall.message : Shortfall → String
  | header got => s!"Incomplete element header: expected 5 bytes, got {got}"
  | content tag declared available =>
    s!"Element {tagText tag} declares {declared} bytes, {available} remaining"
  | missing tag => s!"Missing element {tagText tag}"

def Defect.message : Defect → String
  | unexpectedTag found expected =>
    s!"Unexpected tag {tagText found}, expected {tagText expected}"
  | numberWidth tag got => s!"Element {tagText tag} must be 4 bytes, got {got}"
  | flagWidth got => s!"Boolean value must be 1 byte, got {got}"
  | notText => "Invalid UTF-8 string"
  | trailing count => s!"{count} trailing bytes after last element"
  | unknownTag choice tag => s!"Unknown {choice.text} tag: {tagText tag}"
  | idOutOfRange id => s!"Message id out of range: {id.toNat}"
  | unbindContent count => s!"UnbindRequest: unexpected payload of {count} bytes"
  | unknownChange number => s!"Unknown modification type: {number.toNat}"
  | unknownScope number => s!"Invalid search scope: {number.toNat}"
  | unknownDeref number => s!"Invalid deref aliases policy: {number.toNat}"
  | filterTooDeep levels => s!"Filter nested deeper than {levels} levels"
  | repeatedPaging => "Paged results control appears more than once"
  | emptyPaging => "Paged results control without value"
  | content error => error.message
  | frameStart found => s!"Expecting 0x30 as first byte of a message, got {tagText found}"
  | frameLength declared limit =>
    s!"Message too large: {declared.toNat} bytes (max {limit.toNat})"

def Fault.toError : Fault → Error
  | truncated shortfall => .truncated shortfall.message
  | malformed defect => .malformed defect.message

end Directory.Wire
