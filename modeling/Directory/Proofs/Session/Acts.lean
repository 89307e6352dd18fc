import Directory.Client
import Directory.Proofs.Session.Steps
/-!
What is done with a session, and what is replied to it: a step, or a whole operation of the session, of a
dispatcher or of a client.
-/
namespace Directory

inductive Answer where
  | done
  | holds (value : Bool)
  | found (result : SearchResult)
  | page (result : SearchResult) (cursor : Cursor)
  | extended (result : ExtendedResult)
  | identity (name : String)
  deriving DecidableEq

inductive Query where
  | add (entry : Entry)
  | applyChanges (dn : Dn) (changes : List Modification)
  | delete (dn : Dn)
  | compare (dn : Dn) (attr : String) (value : Octets)
  | search (request : SearchRequest) (controls : List Control)
  | fetch (request : SearchRequest) (cursor : Cursor)
  | extended (name : String) (value : Option Octets)
  | whoAmI
  | cancel (target : MessageId)

def Query.answer (timeout : Nat) : Query → SessionM Answer
  | add entry => do
    Session.add timeout entry
    return .done
  | applyChanges dn changes => do
    Session.applyChanges timeout dn changes
    return .done
  | delete dn => do
    Session.delete timeout dn
    return .done
  | compare dn attr value => return .holds (← Session.compare timeout dn attr value)
  | search request controls => return .found (← Session.search timeout request controls)
  | fetch request cursor => do
    let (page, later) ← cursor.fetch timeout request
    return .page page later
  | extended name value => return .extended (← Session.extended timeout name value)
  | whoAmI => return .identity (← Session.whoAmI timeout)
  | cancel target => do
    Session.cancel timeout target
    return .done

namespace Client

inductive Call where
  | bind (name password : String)
  | add (dn : String) (attributes : Attributes)
  | applyChanges (dn : String) (changes : List Modification)
  | delete (dn : String)
  | compare (dn attr : String) (value : Octets)
  | search (base : String) (scope : Scope) (filter : String) (attributes : List String)
  | searchFor (request : SearchRequest)
  | fetch (timeout : Nat) (request : SearchRequest) (cursor : Cursor)
  | extended (name : String) (value : Option Octets)
  | whoAmI
  | cancel (target : MessageId)
  | abandon (target : MessageId)

def Call.answer : Call → SessionM Answer
  | bind name password => do
    Client.bind name password
    return .done
  | add dn attributes => do
    Client.add dn attributes
    return .done
  | applyChanges dn changes => do
    Client.applyChanges dn changes
    return .done
  | delete dn => do
    Client.delete dn
    return .done
  | compare dn attr value => return .holds (← Client.compare dn attr value)
  | search base scope filter attributes => return .found (← Client.search base scope filter attributes)
  | searchFor request => return .found (← Client.searchFor request)
  | fetch timeout request cursor => (Query.fetch request cursor).answer timeout
  | extended name value => return .extended (← Client.extended name value)
  | whoAmI => return .identity (← Client.whoAmI)
  | cancel target => do
    Client.cancel target
    return .done
  | abandon target => do
    Session.abandon target
    return .done

end Client

namespace Session

/-- Something that is done with a session: a step, or a whole operation. -/
inductive Act where
  | step (taken : Step)
  -- A dispatcher has a timeout of its own.
  | query (timeout : Nat) (asked : Query)
  | call (called : Client.Call)
  -- A session takes a bind with any name and password, a client does not.
  | simpleBind (name password : String)
  | saslBind (mechanism : Mechanism)
  | pagedSearch (base : String) (scope : Scope) (filter : String) (attributes : List String) (pageSize : UInt32)
  | next (entries : PagedEntries)

inductive Reply where
  | nothing
  | number (given : Except Error MessageId)
  | handle (given : Except Error Handle)
  | message (given : Except Error Message)
  | answer (given : Except Error Answer)
  | exchange (challenges : SaslExchange)
  | pages (given : Except Error PagedEntries)
  | entry (handed : Option (Except Error Entry)) (left : PagedEntries)
  | security (isHandedOver : Bool) (result : Except Error Unit)

def Step.reply (session : Session) : Step → Reply
  | number => .number (nextRequestId.run session).1
  | post op controls timeout => .handle ((Session.post op controls timeout).run session).1
  | receive handle => .message ((Session.receive handle).run session).1
  | giveUp target => .answer (((Session.giveUp target).run session).1.map fun _ => .done)
  | secure upgrade =>
    .security (startSecurity upgrade session).1.handedOver.isSome (startSecurity upgrade session).1.result
  | arrive _ | takeIn | drop _ | settle _ _ | close => .nothing

namespace Act

def reply (session : Session) : Act → Reply
  | step taken => taken.reply session
  | query timeout asked => .answer ((asked.answer timeout).run session).1
  | call called => .answer (called.answer.run session).1
  | simpleBind name password =>
    .answer (((Session.simpleBind name password).run session).1.map fun _ => .done)
  | saslBind mechanism => .exchange (Session.saslBind mechanism session).1
  | pagedSearch base scope filter attributes pageSize =>
    .pages ((Client.pagedSearch base scope filter attributes pageSize).run session).1
  | next entries => .entry (entries.next session).1.1 (entries.next session).1.2

def perform (session : Session) : Act → Session
  | step taken => taken.perform session
  | query timeout asked => ((asked.answer timeout).run session).2
  | call called => (called.answer.run session).2
  | simpleBind name password => ((Session.simpleBind name password).run session).2
  | saslBind mechanism => (Session.saslBind mechanism session).2
  | pagedSearch base scope filter attributes pageSize =>
    ((Client.pagedSearch base scope filter attributes pageSize).run session).2
  | next entries => (entries.next session).2

end Act

def enact (acts : List Act) (session : Session) : Session := acts.foldl Act.perform session

def replies : List Act → Session → List Reply
  | [], _ => []
  | act :: rest, session => act.reply session :: replies rest (act.perform session)

end Session

end Directory
