import Directory.Client
import Directory.CommandLine.Invocation
import Directory.Dn.Printer
import Directory.Endpoint
import Directory.Text.Quoted
/-! Running what a user asked for: a session is opened, bound if there is a name, used once and closed. -/
namespace Directory

namespace CommandLine

structure Report where
  printed : List String
  result : Except Error Unit

def valueLine (name : String) (value : Octets) : String :=
  match Octets.text? value with
  | some text => s!"{name}: {text}"
  | none => s!"{name}:: <{value.length} bytes>"

def entryLines (entry : Entry) : List String :=
  let values := entry.attributes.toList.flatMap fun attr =>
    attr.values.toList.map (valueLine attr.name)
  s!"dn: {entry.dn.print}" :: values ++ [""]

def countLine (entries : List Entry) : String := s!"# {entries.length} entries"

def splitPair (pair : String) : Except Error (String × Octets) :=
  match pair.toList.span (· ≠ '=') with
  | (name, _ :: value) => .ok (String.ofList name, Octets.ofText (String.ofList value))
  | (_, []) =>
    .error (.invalidArgument s!"expected name=value, got {Quoted.quote pair.toList}")

def addPair (attributes : Attributes) (pair : String) : Except Error Attributes := do
  let (name, value) ← splitPair pair
  match attributes.get? name with
  | some attr => return attributes.insert (attr.insert value)
  | none => attributes.insertNew (.ofList name [value])

def attributesOf (pairs : List String) : Except Error Attributes := pairs.foldlM addPair ∅

/-- Print lines once all is done, and nothing after a failure. -/
def printing (action : SessionM (List String)) : StateM Session Report := fun session =>
  match action.run session with
  | (.ok lines, after) => (⟨lines, .ok ()⟩, after)
  | (.error error, after) => (⟨[], .error error⟩, after)

theorem printing_error {action : SessionM (List String)} {session after : Session} {error : Error}
    (failed : action.run session = (.error error, after)) :
    printing action session = (⟨[], .error error⟩, after) := by
  rw [printing, failed]

theorem printing_result {action : SessionM (List String)} {session : Session} {error : Error} :
    (printing action session).1.result = .error error ↔ (action.run session).1 = .error error := by
  unfold printing
  rcases action.run session with ⟨_ | _, _⟩ <;> simp

theorem printing_after (action : SessionM (List String)) (session : Session) :
    (printing action session).2 = (action.run session).2 := by
  unfold printing
  rcases action.run session with ⟨_ | _, _⟩ <;> rfl

def plainSearch (base : String) (scope : Scope) (filter : String) (attributes : List String) :
    StateM Session Report :=
  printing do
    let result ← Client.search base scope filter attributes
    return result.entries.flatMap entryLines ++
      result.referrals.map (fun url => s!"# referral: {url}") ++ [countLine result.entries]

/-- What was printed before a page failed stays printed. -/
def pagedSearch (base : String) (scope : Scope) (pageSize : UInt32) (filter : String)
    (attributes : List String) : StateM Session Report := fun session =>
  match (Client.pagedSearch base scope filter attributes pageSize).run session with
  | (.error error, after) => (⟨[], .error error⟩, after)
  | (.ok opened, ready) =>
    match opened.collect ready with
    | ((entries, .ok ()), after) =>
      (⟨entries.flatMap entryLines ++ [countLine entries], .ok ()⟩, after)
    | ((entries, .error error), after) => (⟨entries.flatMap entryLines, .error error⟩, after)

namespace Command

def execute : Command → StateM Session Report
  | search base scope pageSize filter attributes =>
    if pageSize = 0 then plainSearch base scope filter attributes
    else pagedSearch base scope pageSize filter attributes
  | add dn pairs => printing do
    let attributes ← attributesOf pairs
    Client.add dn attributes
    return [s!"added {dn}"]
  | delete dn => printing do
    Client.delete dn
    return [s!"deleted {dn}"]
  | compare dn attr value => printing do
    let holds ← Client.compare dn attr (Octets.ofText value)
    return [if holds then "TRUE" else "FALSE"]
  | whoAmI => printing do
    let identity ← Client.whoAmI
    return [if identity.isEmpty then "anonymous" else identity]

end Command

namespace Invocation

def bind (invocation : Invocation) : SessionM Unit :=
  match invocation.bindDn with
  | some name => Client.bind name invocation.password
  | none => return

def converse (invocation : Invocation) : StateM Session Report := fun session =>
  match invocation.bind.run session with
  | (.error error, after) => (⟨[], .error error⟩, after.close)
  | (.ok (), ready) =>
    let (report, after) := invocation.command.execute ready
    (report, after.close)

def run (invocation : Invocation) (network : Network) : Report × Option Transport :=
  let config : Config := { operationTimeout := invocation.timeout }
  match Session.connect network invocation.server config with
  | .error error => (⟨[], .error error⟩, none)
  | .ok session =>
    let (report, after) := invocation.converse session
    (report, some after.transport)

end Invocation

structure Output where
  status : UInt8
  stdout : String
  stderr : String
  deriving DecidableEq, Repr

namespace Output

def ofReport (report : Report) : Output :=
  let stdout := String.join (report.printed.map (· ++ "\n"))
  match report.result with
  | .ok () => ⟨0, stdout, ""⟩
  | .error error => ⟨1, stdout, s!"error: {error.message}\n"⟩

def programName : String := "dirclient-cli"

def usage : String :=
  s!"Usage: {programName} [--server ADDRESS] [--bind-dn DN] [--password PASSWORD]\n" ++
  "    [--timeout-ms MILLISECONDS] COMMAND\n" ++
  "Commands:\n" ++
  "  search [--base DN] [--scope base|one|sub] [--page-size N] [FILTER [ATTRIBUTE]...]\n" ++
  "  add --attr NAME=VALUE... DN\n" ++
  "  delete DN\n" ++
  "  compare DN ATTRIBUTE VALUE\n" ++
  "  whoami\n"

def ofRefusal : Refusal → Output
  | .misuse => ⟨2, "", "error: these arguments make no command\n\n" ++ usage⟩
  | .help => ⟨0, usage, ""⟩
  | .version => ⟨0, s!"{programName} {version}\n", ""⟩

end Output

end CommandLine

end Directory
