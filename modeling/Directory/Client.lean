import Directory.Cursor
import Directory.Dn.Reader
import Directory.Filter.Reader
import Directory.Session.Bind
import Directory.Session.Security
/-! What a client offers: operations on names and filters given as text. Arguments that no server could
make sense of are refused before anything is written. -/
namespace Directory.Client

def entryName (text : String) : SessionM Dn := do
  let dn ← Dn.parse text
  if dn.isRoot then throw (.invalidDn "DN must not be empty")
  return dn

def searchRequest (base : String) (scope : Scope) (filter : String) (attributes : List String) :
    Except Error SearchRequest := do
  let base ← Dn.parse base
  let filter ← Filter.parse filter
  return { base, scope, filter, attributes }

def timeout : SessionM Nat := do return (← get).config.operationTimeout

/-- With a name there has to be a password: servers take an empty one for no proof at all, and succeed. -/
def bind (name password : String) : SessionM Unit := do
  if !name.isEmpty && password.isEmpty then
    throw (.invalidArgument s!"empty password for {name}")
  Session.simpleBind name password

def add (dn : String) (attributes : Attributes) : SessionM Unit := do
  let dn ← entryName dn
  Session.add (← timeout) ⟨dn, attributes⟩

def applyChanges (dn : String) (changes : List Modification) : SessionM Unit := do
  let dn ← entryName dn
  if changes.isEmpty then throw (.invalidArgument s!"no modifications for {dn.print}")
  Session.applyChanges (← timeout) dn changes

def delete (dn : String) : SessionM Unit := do
  let dn ← entryName dn
  Session.delete (← timeout) dn

def compare (dn : String) (attr : String) (value : Octets) : SessionM Bool := do
  let dn ← entryName dn
  Session.compare (← timeout) dn attr value

def search (base : String) (scope : Scope) (filter : String) (attributes : List String) :
    SessionM SearchResult := do
  let request ← searchRequest base scope filter attributes
  Session.search (← timeout) request

def searchFor (request : SearchRequest) : SessionM SearchResult := do
  Session.search (← timeout) request

def pagedSearch (base : String) (scope : Scope) (filter : String) (attributes : List String)
    (pageSize : UInt32) : SessionM PagedEntries := do
  let cursor ← Cursor.ofPageSize pageSize
  let request ← searchRequest base scope filter attributes
  return { cursor, request, timeout := ← timeout }

def extended (name : String) (value : Option Octets) : SessionM ExtendedResult := do
  if name.isEmpty then throw (.invalidArgument "extended operation needs an OID")
  Session.extended (← timeout) name value

def whoAmI : SessionM String := do
  Session.whoAmI (← timeout)

def cancel (target : MessageId) : SessionM Unit := do
  Session.cancel (← timeout) target

end Directory.Client
