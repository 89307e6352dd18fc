import Directory.Session
import Directory.Text.Decimal
/-! Where a server is found: a host and a port, written `host:port`. -/
namespace Directory

structure Endpoint where
  host : String
  port : Nat
  deriving DecidableEq, Repr

namespace Endpoint

inductive Fault where
  | noPort
  | badPort
  | badHost
  deriving DecidableEq, Repr

def Fault.text : Fault → String
  | noPort => "invalid socket address"
  | badPort => "invalid port value"
  | badHost => "file name contained an unexpected NUL byte"

def splitLast? (text : List Char) : Option (List Char × List Char) :=
  let (reversedPort, reversedHost) := text.reverse.span (· ≠ ':')
  match reversedHost with
  | [] => none
  | _ :: host => some (host.reverse, reversedPort.reverse)

/-- The endpoint a text names. No resolver can be asked for a host with a NUL in it; a bad port is
reported before such a host. -/
def parse (address : String) : Except Fault Endpoint :=
  match splitLast? address.toList with
  | none => .error .noPort
  | some (host, port) =>
    match Decimal.ofText? 65535 (String.ofList port) with
    | none => .error .badPort
    | some port =>
      if '\x00' ∈ host then .error .badHost else .ok ⟨String.ofList host, port⟩

end Endpoint

inductive Unreachable where
  | unresolved (text : String)
  | noAddress
  | refused (text : String)
  deriving DecidableEq, Repr

def Unreachable.toError (address : String) : Unreachable → Error
  | unresolved text => .connection s!"cannot resolve {address}: {text}"
  | noAddress => .connection s!"no addresses resolved for {address}"
  | refused text => .connection s!"cannot connect to {address}: {text}"

abbrev Network := Endpoint → Except Unreachable Transport

def Session.connect (network : Network) (address : String) (config : Config) : Except Error Session :=
  match Endpoint.parse address with
  | .error fault => .error ((Unreachable.unresolved fault.text).toError address)
  | .ok endpoint =>
    match network endpoint with
    | .error reason => .error (reason.toError address)
    | .ok transport => .ok (.establish transport config)

end Directory
