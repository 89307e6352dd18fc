import Directory.Text.Octets
import Directory.Wire.Tag
/-! Elements to be written: a tag, the length of the content as four octets, and the content, which may
hold elements again. -/
namespace Directory.Wire

def element (tag : UInt8) (content : Octets) : Octets :=
  tag :: (Octets.ofNumber (UInt32.ofNat content.length) ++ content)

inductive Item where
  | octets (tag : UInt8) (content : Octets)
  | number (tag : UInt8) (n : UInt32)
  | flag (value : Bool)
  | group (tag : UInt8) (items : List Item)
  deriving Repr

namespace Item

def text (tag : UInt8) (s : String) : Item := .octets tag (Octets.ofText s)

def optional (tag : UInt8) : Option Octets → List Item
  | none => []
  | some content => [.octets tag content]

mutual
def write : Item → Octets
  | .octets tag content => element tag content
  | .number tag n => element tag (Octets.ofNumber n)
  | .flag value => element Tag.boolean [if value then 0xff else 0x00]
  | .group tag items => element tag (writeAll items)
def writeAll : List Item → Octets
  | [] => []
  | item :: rest => write item ++ writeAll rest
end

theorem writeAll_append (xs ys : List Item) : writeAll (xs ++ ys) = writeAll xs ++ writeAll ys := by
  induction xs with
  | nil => rfl
  | cons x rest ih => simp [writeAll, ih, List.append_assoc]

end Item

theorem length_element (tag : UInt8) (content : Octets) :
    (element tag content).length = content.length + 5 := by
  simp [element, Octets.ofNumber]

end Directory.Wire
