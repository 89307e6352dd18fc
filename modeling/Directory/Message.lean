import Directory.Search
/-! Messages: a number, an operation and controls. Requests and responses are told apart by the kind of
their operation. -/
namespace Directory

abbrev MessageId := UInt32

structure Control where
  oid : String
  critical : Bool
  value : Option Octets
  deriving DecidableEq, Repr

inductive Credentials where
  | simple (password : Octets)
  | sasl (mechanism : String) (response : Option Octets)
  deriving DecidableEq, Repr

inductive Operation where
  | bindRequest (version : UInt32) (name : String) (credentials : Credentials)
  | bindResponse (outcome : Outcome) (serverCredentials : Option Octets)
  | unbindRequest
  | searchRequest (request : SearchRequest)
  | searchEntry (entry : Entry)
  | searchReference (urls : List String)
  | searchDone (outcome : Outcome) (paging : Option Paging)
  | modifyRequest (dn : Dn) (changes : List Modification)
  | modifyResponse (outcome : Outcome)
  | addRequest (entry : Entry)
  | addResponse (outcome : Outcome)
  | deleteRequest (dn : Dn)
  | deleteResponse (outcome : Outcome)
  | compareRequest (dn : Dn) (attr : String) (value : Octets)
  | compareResponse (outcome : Outcome)
  | abandonRequest (id : MessageId)
  | extendedRequest (name : String) (value : Option Octets)
  | extendedResponse (outcome : Outcome) (name : Option String) (value : Option Octets)
  deriving DecidableEq

inductive OperationKind where
  | bindRequest
  | bindResponse
  | unbindRequest
  | searchRequest
  | searchEntry
  | searchReference
  | searchDone
  | modifyRequest
  | modifyResponse
  | addRequest
  | addResponse
  | deleteRequest
  | deleteResponse
  | compareRequest
  | compareResponse
  | abandonRequest
  | extendedRequest
  | extendedResponse
  deriving DecidableEq, Repr

namespace OperationKind

def name : OperationKind → String
  | bindRequest => "BindRequest"
  | bindResponse => "BindResponse"
  | unbindRequest => "UnbindRequest"
  | searchRequest => "SearchRequest"
  | searchEntry => "SearchResultEntry"
  | searchReference => "SearchResultReference"
  | searchDone => "SearchResultDone"
  | modifyRequest => "ModifyRequest"
  | modifyResponse => "ModifyResponse"
  | addRequest => "AddRequest"
  | addResponse => "AddResponse"
  | deleteRequest => "DelRequest"
  | deleteResponse => "DelResponse"
  | compareRequest => "CompareRequest"
  | compareResponse => "CompareResponse"
  | abandonRequest => "AbandonRequest"
  | extendedRequest => "ExtendedRequest"
  | extendedResponse => "ExtendedResponse"

def isRequest : OperationKind → Bool
  | bindRequest | unbindRequest | searchRequest | modifyRequest | addRequest | deleteRequest
  | compareRequest | abandonRequest | extendedRequest => true
  | _ => false

/-- More messages follow an entry or a reference of a search; any other completes its request. -/
def isFinal : OperationKind → Bool
  | searchEntry | searchReference => false
  | _ => true

end OperationKind

namespace Operation

def kind : Operation → OperationKind
  | bindRequest .. => .bindRequest
  | bindResponse .. => .bindResponse
  | unbindRequest => .unbindRequest
  | searchRequest _ => .searchRequest
  | searchEntry _ => .searchEntry
  | searchReference _ => .searchReference
  | searchDone .. => .searchDone
  | modifyRequest .. => .modifyRequest
  | modifyResponse _ => .modifyResponse
  | addRequest _ => .addRequest
  | addResponse _ => .addResponse
  | deleteRequest _ => .deleteRequest
  | deleteResponse _ => .deleteResponse
  | compareRequest .. => .compareRequest
  | compareResponse _ => .compareResponse
  | abandonRequest _ => .abandonRequest
  | extendedRequest .. => .extendedRequest
  | extendedResponse .. => .extendedResponse

def name (op : Operation) : String := op.kind.name

def isRequest (op : Operation) : Bool := op.kind.isRequest

def isFinal (op : Operation) : Bool := op.kind.isFinal

def outcome? : Operation → Option Outcome
  | bindResponse outcome _ | searchDone outcome _ | modifyResponse outcome | addResponse outcome
  | deleteResponse outcome | compareResponse outcome | extendedResponse outcome _ _ => some outcome
  | _ => none

def isPageable : Operation → Bool
  | searchRequest _ | searchDone .. => true
  | _ => false

def paging? : Operation → Option Paging
  | searchRequest request => request.paging
  | searchDone _ paging => paging
  | _ => none

def withPaging (paging : Paging) : Operation → Operation
  | searchRequest request => .searchRequest { request with paging := some paging }
  | searchDone outcome _ => .searchDone outcome (some paging)
  | op => op

def unexpected (expected : OperationKind) (op : Operation) : Error :=
  .unexpectedResponse expected.name op.name

end Operation

structure Message where
  id : MessageId
  op : Operation
  controls : List Control := []
  deriving DecidableEq

namespace Message

def maxId : MessageId := 2147483647

end Message

namespace Oid

def pagedResults : String := "1.2.840.113556.1.4.319"
def startTls : String := "1.3.6.1.4.1.1466.20037"
def noticeOfDisconnection : String := "1.3.6.1.4.1.1466.20036"
def whoAmI : String := "1.3.6.1.4.1.4203.1.11.3"
def cancel : String := "1.3.6.1.1.8"

end Oid

def Control.isPaging (control : Control) : Bool := control.oid == Oid.pagedResults

end Directory
