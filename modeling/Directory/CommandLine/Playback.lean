import Directory.CommandLine
/-! Running a command with a live server. The command is run anew on all that was heard so far; where such
a run ends because an answer is missing, there is something to write or to listen for. -/
namespace Directory.CommandLine

inductive Move where
  | write (frame : Octets)
  /-- If the server stays silent for too long, these frames and this report are the end. -/
  | listen (farewell : List Octets) (report : Report)
  | finish (report : Report)

namespace Playback

def isSilent (report : Report) : Bool :=
  match report.result with
  | .error (.timeout _) => true
  | _ => false

/-- The next step with a server that reacted like this to the frames written so far. The last frame of a
run that missed an answer is its farewell, which can wait. -/
def move (invocation : Invocation) (peer : String) (reactions : List Reaction) : Move :=
  let network : Network := fun _ => .ok { peer, script := reactions }
  let (report, used) := invocation.run network
  let frames := (used.map Transport.sent).getD []
  let due := if isSilent report then frames.dropLast else frames
  match due[reactions.length]? with
  | some frame => .write frame
  | none =>
    if isSilent report then .listen (frames.drop reactions.length) report else .finish report

def hear (reactions : List Reaction) (action : Action) : List Reaction :=
  match reactions.getLast? with
  | some (.actions actions) => reactions.dropLast ++ [.actions (actions ++ [action])]
  | _ => reactions

end Playback

end Directory.CommandLine
