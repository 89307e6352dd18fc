import Directory.Dn.Printer
import Directory.Filter.Wire
import Directory.Message
import Directory.Wire.Buffer
/-! The wire form of messages. The page of a search travels as a control, the first of all; a control of
that kind which a caller adds to a search by hand is left out. -/
namespace Directory

open Wire

def OperationKind.tag : OperationKind → UInt8
  | bindRequest => 0x60
  | bindResponse => 0x61
  | unbindRequest => 0x42
  | searchRequest => 0x63
  | searchEntry => 0x64
  | searchReference => 0x73
  | searchDone => 0x65
  | modifyRequest => 0x66
  | modifyResponse => 0x67
  | addRequest => 0x68
  | addResponse => 0x69
  | deleteRequest => 0x4a
  | deleteResponse => 0x6b
  | compareRequest => 0x6e
  | compareResponse => 0x6f
  | abandonRequest => 0x50
  | extendedRequest => 0x77
  | extendedResponse => 0x78

def Dn.item (dn : Dn) : Item := .text Tag.octetString dn.print

def Outcome.items (outcome : Outcome) : List Item :=
  [.number Tag.enumerated outcome.code.number, .text Tag.octetString outcome.matchedDn,
    .text Tag.octetString outcome.diagnostic] ++
  match outcome.referrals with
  | [] => []
  | urls => [.group Tag.referrals (urls.map (Item.text Tag.octetString))]

def Attribute.item (attr : Attribute) : Item :=
  .group Tag.sequence
    [.text Tag.octetString attr.name,
      .group Tag.set (attr.values.toList.map (Item.octets Tag.octetString))]

def Attributes.item (attributes : Attributes) : Item :=
  .group Tag.sequence (attributes.toList.map Attribute.item)

def Entry.items (entry : Entry) : List Item := [entry.dn.item, Attributes.item entry.attributes]

def Modification.item (change : Modification) : Item :=
  .group Tag.sequence [.number Tag.enumerated change.kind.number, change.attr.item]

def Credentials.item : Credentials → Item
  | .simple password => .octets Tag.simpleCredentials password
  | .sasl mechanism response =>
    .group Tag.saslCredentials
      (.text Tag.octetString mechanism :: Item.optional Tag.octetString response)

def SearchRequest.items (request : SearchRequest) : List Item :=
  [request.base.item, .number Tag.enumerated request.scope.number,
    .number Tag.enumerated request.deref.number, .number Tag.integer request.sizeLimit,
    .number Tag.integer request.timeLimit, .flag request.typesOnly, request.filter.item,
    .group Tag.sequence (request.attributes.map (Item.text Tag.octetString))]

def Operation.item (op : Operation) : Item :=
  let tag := op.kind.tag
  match op with
  | .bindRequest version name credentials =>
    .group tag [.number Tag.integer version, .text Tag.octetString name, credentials.item]
  | .bindResponse outcome credentials =>
    .group tag (outcome.items ++ Item.optional Tag.serverCredentials credentials)
  | .unbindRequest => .octets tag []
  | .searchRequest request => .group tag request.items
  | .searchEntry entry => .group tag entry.items
  | .searchReference urls => .group tag (urls.map (Item.text Tag.octetString))
  | .searchDone outcome _ => .group tag outcome.items
  | .modifyRequest dn changes =>
    .group tag [dn.item, .group Tag.sequence (changes.map Modification.item)]
  | .addRequest entry => .group tag entry.items
  | .modifyResponse outcome | .addResponse outcome | .deleteResponse outcome
  | .compareResponse outcome => .group tag outcome.items
  | .deleteRequest dn => .text tag dn.print
  | .compareRequest dn attr value =>
    .group tag
      [dn.item,
        .group Tag.sequence [.text Tag.octetString attr, .octets Tag.octetString value]]
  | .abandonRequest id => .number tag id
  | .extendedRequest name value =>
    .group tag (.text Tag.requestName name :: Item.optional Tag.requestValue value)
  | .extendedResponse outcome name value =>
    .group tag (outcome.items ++ Item.optional Tag.responseName (name.map Octets.ofText) ++
      Item.optional Tag.responseValue value)

def Control.item (control : Control) : Item :=
  .group Tag.sequence
    (.text Tag.octetString control.oid :: .flag control.critical ::
      Item.optional Tag.octetString control.value)

def Paging.control (paging : Paging) : Control where
  oid := Oid.pagedResults
  critical := paging.critical
  value := some (Item.group Tag.sequence
    [.number Tag.integer paging.size, .octets Tag.octetString paging.cookie]).write

namespace Message

def wireControls (message : Message) : List Control :=
  if message.op.isPageable then
    message.op.paging?.toList.map Paging.control ++
      message.controls.filter fun control => !control.isPaging
  else message.controls

def item (message : Message) : Item :=
  .group Tag.sequence
    ([.number Tag.integer message.id, message.op.item] ++
      match message.wireControls with
      | [] => []
      | controls => [.group Tag.controls (controls.map Control.item)])

def encode (message : Message) : Octets := message.item.put []

theorem encode_eq_write (message : Message) : message.encode = message.item.write := Item.put_eq [] message.item

end Message

end Directory
