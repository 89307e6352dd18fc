import Directory.Filter
import Directory.Wire.Item
import Directory.Wire.Reader
/-! The wire form of a filter: the tag of an element says which kind of filter it holds. -/
namespace Directory

namespace Comparison

def tag : Comparison → UInt8
  | equal => Wire.Tag.filterEqual
  | greaterOrEqual => Wire.Tag.filterGreaterOrEqual
  | lessOrEqual => Wire.Tag.filterLessOrEqual
  | approximate => Wire.Tag.filterApproximate

def ofTag? (tag : UInt8) : Option Comparison :=
  [equal, greaterOrEqual, lessOrEqual, approximate].find? fun comparison => comparison.tag = tag

theorem ofTag?_tag (comparison : Comparison) : ofTag? comparison.tag = some comparison := by
  cases comparison <;> decide

end Comparison

namespace Filter

open Wire

mutual
def item : Filter → Item
  | .all filters => .group Tag.filterAll (items filters)
  | .any filters => .group Tag.filterAny (items filters)
  | .not filter => .group Tag.filterNot [item filter]
  | .compare comparison attr value =>
    .group comparison.tag [.text Tag.octetString attr, .octets Tag.octetString value]
  | .substrings attr initial middle final =>
    .group Tag.filterSubstrings
      [.text Tag.octetString attr,
        .group Tag.sequence (Item.optional Tag.initialPart initial ++
          middle.map (Item.octets Tag.middlePart) ++ Item.optional Tag.finalPart final)]
  | .present attr => .text Tag.filterPresent attr
def items : List Filter → List Item
  | [] => []
  | filter :: rest => item filter :: items rest
end

structure Parts where
  initial : Option Octets := none
  middle : List Octets := []
  final : Option Octets := none
  deriving DecidableEq

/-- One more part. There is one initial part, before all middle ones, and one final part, after them. -/
def readPart (parts : Parts) : Reading Parts := do
  let (tag, content) ← Reading.any
  if tag = Tag.initialPart ∧ parts.initial.isNone ∧ parts.middle.isEmpty then
    return { parts with initial := some content }
  else if tag = Tag.middlePart ∧ parts.final.isNone then
    return { parts with middle := parts.middle ++ [content] }
  else if tag = Tag.finalPart ∧ parts.final.isNone then
    return { parts with final := some content }
  else Reading.defect (.unknownTag .substring tag)

def readSubstrings : Reading Filter := do
  let attr ← Reading.text Tag.octetString
  let content ← Reading.element Tag.sequence
  let parts ← Reading.within content (Reading.steps readPart {})
  return .substrings attr parts.initial parts.middle parts.final

def readCompare (comparison : Comparison) : Reading Filter := do
  let attr ← Reading.text Tag.octetString
  return .compare comparison attr (← Reading.element Tag.octetString)

def read : Nat → Reading Filter
  | 0 => Reading.defect (.filterTooDeep maxDepth)
  | levels + 1 => do
    let (tag, content) ← Reading.any
    if tag = Tag.filterAll then
      return .all (← Reading.whole content (Reading.many (read levels)))
    else if tag = Tag.filterAny then
      return .any (← Reading.whole content (Reading.many (read levels)))
    else if tag = Tag.filterNot then
      return .not (← Reading.whole content (read levels))
    else if tag = Tag.filterPresent then
      return .present (← Reading.asText content)
    else if tag = Tag.filterSubstrings then
      Reading.whole content readSubstrings
    else
      match Comparison.ofTag? tag with
      | some comparison => Reading.whole content (readCompare comparison)
      | none => Reading.defect (.unknownTag .filter tag)

end Filter

end Directory
