import Directory.Dn.Reader
import Directory.Message.Writer
import Directory.Wire.Reader
/-! Reading a message from one frame. Whatever a frame holds, the only refusals are that octets are
missing or that they do not fit. -/
namespace Directory

open Wire

namespace OperationKind

def list : List OperationKind :=
  [bindRequest, bindResponse, unbindRequest, searchRequest, searchEntry, searchReference, searchDone,
    modifyRequest, modifyResponse, addRequest, addResponse, deleteRequest, deleteResponse,
    compareRequest, compareResponse, abandonRequest, extendedRequest, extendedResponse]

def ofTag? (tag : UInt8) : Option OperationKind := list.find? fun kind => kind.tag = tag

theorem ofTag?_tag (kind : OperationKind) : ofTag? kind.tag = some kind := by
  cases kind <;> decide

end OperationKind

def Wire.Reading.content : Except Error α → Reading α
  | .ok a => return a
  | .error error => Reading.defect (.content error)

def Dn.ofOctets (octets : Octets) : Reading Dn := do
  Reading.content (Dn.parse (← Reading.asText octets))

def Dn.read : Reading Dn := do Dn.ofOctets (← Reading.element Tag.octetString)

def Reading.texts : Reading (List String) := Reading.many (Reading.text Tag.octetString)

def Scope.ofWire (n : UInt32) : Except Fault Scope :=
  match Scope.ofNumber? n with
  | some scope => .ok scope
  | none => .error (.malformed (.unknownScope n))

def Deref.ofWire (n : UInt32) : Except Fault Deref :=
  match Deref.ofNumber? n with
  | some deref => .ok deref
  | none => .error (.malformed (.unknownDeref n))

def ChangeKind.ofWire (n : UInt32) : Except Fault ChangeKind :=
  match ChangeKind.ofNumber? n with
  | some kind => .ok kind
  | none => .error (.malformed (.unknownChange n))

def Outcome.read : Reading Outcome := do
  let code ← Reading.number Tag.enumerated
  let matchedDn ← Reading.text Tag.octetString
  let diagnostic ← Reading.text Tag.octetString
  let referrals ← match ← Reading.optional Tag.referrals with
    | some content => Reading.within content Reading.texts
    | none => pure []
  return ⟨⟨code⟩, matchedDn, diagnostic, referrals⟩

def Attribute.read : Reading Attribute := do
  let content ← Reading.element Tag.sequence
  let (name, values) ← Reading.whole content do
    let name ← Reading.text Tag.octetString
    return (name, ← Reading.element Tag.set)
  let values ← Reading.within values (Reading.many (Reading.element Tag.octetString))
  return .ofList name values

def Attributes.read : Reading Attributes := do
  let content ← Reading.element Tag.sequence
  Reading.within content <| Reading.steps (fun attributes => do
    Reading.content (Attributes.insertNew attributes (← Attribute.read))) ∅

def Entry.read : Reading Entry := do
  let dn ← Dn.read
  return ⟨dn, ← Attributes.read⟩

def Modification.read : Reading Modification := do
  let content ← Reading.element Tag.sequence
  let (number, attr) ← Reading.whole content do
    let number ← Reading.number Tag.enumerated
    return (number, ← Attribute.read)
  return ⟨← ChangeKind.ofWire number, attr⟩

def Credentials.read : Reading Credentials := do
  let (tag, content) ← Reading.any
  if tag = Tag.simpleCredentials then return .simple content
  else if tag = Tag.saslCredentials then
    Reading.whole content do
      let mechanism ← Reading.text Tag.octetString
      return .sasl mechanism (← Reading.optional Tag.octetString)
  else Reading.defect (.unknownTag .credentials tag)

def SearchRequest.read : Reading SearchRequest := do
  let base ← Dn.read
  let scope ← Scope.ofWire (← Reading.number Tag.enumerated)
  let deref ← Deref.ofWire (← Reading.number Tag.enumerated)
  let sizeLimit ← Reading.number Tag.integer
  let timeLimit ← Reading.number Tag.integer
  let typesOnly ← Reading.flag
  let filter ← Filter.read Filter.maxDepth
  let content ← Reading.element Tag.sequence
  let attributes ← Reading.within content Reading.texts
  return { base, scope, deref, sizeLimit, timeLimit, typesOnly, filter, attributes }

namespace Operation

def readContent (kind : OperationKind) (content : Octets) : Reading Operation :=
  match kind with
  | .bindRequest => Reading.whole content do
    let version ← Reading.number Tag.integer
    let name ← Reading.text Tag.octetString
    return .bindRequest version name (← Credentials.read)
  | .bindResponse => Reading.whole content do
    let outcome ← Outcome.read
    return .bindResponse outcome (← Reading.optional Tag.serverCredentials)
  | .unbindRequest =>
    if content.isEmpty then return .unbindRequest
    else Reading.defect (.unbindContent content.length)
  | .searchRequest => Reading.whole content do return .searchRequest (← SearchRequest.read)
  | .searchEntry => Reading.whole content do return .searchEntry (← Entry.read)
  | .searchReference => Reading.whole content do return .searchReference (← Reading.texts)
  | .searchDone => Reading.whole content do return .searchDone (← Outcome.read) none
  | .modifyRequest => Reading.whole content do
    let dn ← Dn.read
    let list ← Reading.element Tag.sequence
    return .modifyRequest dn (← Reading.within list (Reading.many Modification.read))
  | .modifyResponse => Reading.whole content do return .modifyResponse (← Outcome.read)
  | .addRequest => Reading.whole content do return .addRequest (← Entry.read)
  | .addResponse => Reading.whole content do return .addResponse (← Outcome.read)
  | .deleteRequest => do return .deleteRequest (← Dn.ofOctets content)
  | .deleteResponse => Reading.whole content do return .deleteResponse (← Outcome.read)
  | .compareRequest => Reading.whole content do
    let dn ← Dn.read
    let assertion ← Reading.element Tag.sequence
    let (attr, value) ← Reading.whole assertion do
      let attr ← Reading.text Tag.octetString
      return (attr, ← Reading.element Tag.octetString)
    return .compareRequest dn attr value
  | .compareResponse => Reading.whole content do return .compareResponse (← Outcome.read)
  | .abandonRequest => do return .abandonRequest (← Reading.asNumber kind.tag content)
  | .extendedRequest => Reading.whole content do
    let name ← Reading.text Tag.requestName
    return .extendedRequest name (← Reading.optional Tag.requestValue)
  | .extendedResponse => Reading.whole content do
    let outcome ← Outcome.read
    let name ← match ← Reading.optional Tag.responseName with
      | some octets => do pure (some (← Reading.asText octets))
      | none => pure none
    return .extendedResponse outcome name (← Reading.optional Tag.responseValue)

def read : Reading Operation := do
  let (tag, content) ← Reading.any
  match OperationKind.ofTag? tag with
  | some kind => readContent kind content
  | none => Reading.defect (.unknownTag .operation tag)

end Operation

def Control.read : Reading Control := do
  let content ← Reading.element Tag.sequence
  Reading.whole content do
    let oid ← Reading.text Tag.octetString
    let critical ← Reading.flag
    return ⟨oid, critical, ← Reading.optional Tag.octetString⟩

def Paging.ofControl (control : Control) : Reading Paging :=
  match control.value with
  | none => Reading.defect .emptyPaging
  | some value => do
    let content ← Reading.whole value (Reading.element Tag.sequence)
    let (size, cookie) ← Reading.whole content do
      let size ← Reading.number Tag.integer
      return (size, ← Reading.element Tag.octetString)
    return ⟨size, cookie, control.critical⟩

namespace Message

def ofWire (id : MessageId) (op : Operation) (controls : List Control) : Reading Message :=
  if op.isPageable then
    match controls.filter Control.isPaging with
    | [] => return ⟨id, op, controls⟩
    | [control] => do
      let paging ← Paging.ofControl control
      return ⟨id, op.withPaging paging, controls.filter fun control => !control.isPaging⟩
    | _ => Reading.defect .repeatedPaging
  else return ⟨id, op, controls⟩

def readContent : Reading Message := do
  let id ← Reading.number Tag.integer
  if maxId < id then Reading.defect (.idOutOfRange id)
  let op ← Operation.read
  let controls ← match ← Reading.optional Tag.controls with
    | some content => Reading.within content (Reading.many Control.read)
    | none => pure []
  Reading.finish
  ofWire id op controls

def read : Reading Message := do
  let content ← Reading.element Tag.sequence
  Reading.finish
  Reading.within content readContent

def readHeading : Reading (MessageId × UInt8) := do
  let content ← Reading.element Tag.sequence
  Reading.within content do
    let id ← Reading.number Tag.integer
    return (id, (← Reading.any).1)

def decode (frame : Octets) : Except Fault Message := (read.run frame).1

end Message

end Directory
