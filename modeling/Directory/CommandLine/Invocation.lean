import Directory.CommandLine.Argument
import Directory.Config
import Directory.Search
import Directory.Text.Decimal
/-! What a user can ask for on the command line, and how it is written there. -/
namespace Directory.CommandLine

inductive Command where
  /-- A page size of zero asks for everything at once. -/
  | search (base : String) (scope : Scope) (pageSize : UInt32) (filter : String)
      (attributes : List String)
  | add (dn : String) (pairs : List String)
  | delete (dn : String)
  | compare (dn attr value : String)
  | whoAmI
  deriving DecidableEq, Repr

structure Invocation where
  server : String
  /-- Anonymous without a name. -/
  bindDn : Option String
  password : String
  timeout : Nat
  command : Command
  deriving DecidableEq, Repr

inductive Refusal where
  | misuse
  | help
  | version
  deriving DecidableEq, Repr

namespace Invocation

def once (old : Option α) (new : Option α) : Except Refusal (Option α) :=
  match old, new with
  | none, some a => .ok (some a)
  | _, _ => .error .misuse

inductive GeneralOption where
  | server
  | bindDn
  | password
  | timeout
  | help
  | version

def generalFlags : List (Flag GeneralOption) :=
  [⟨.server, some 's', "server", true⟩, ⟨.bindDn, some 'D', "bind-dn", true⟩,
    ⟨.password, some 'w', "password", true⟩, ⟨.timeout, some 't', "timeout-ms", true⟩,
    ⟨.help, some 'h', "help", false⟩, ⟨.version, some 'V', "version", false⟩]

structure General where
  server : Option String := none
  bindDn : Option String := none
  password : Option String := none
  timeout : Option Nat := none

def General.add (general : General) : Token GeneralOption → Except Refusal General
  | .option .server value => do return { general with server := ← once general.server value }
  | .option .bindDn value => do return { general with bindDn := ← once general.bindDn value }
  | .option .password value => do return { general with password := ← once general.password value }
  | .option .timeout value => do
    let timeout := Decimal.ofText? 18446744073709551615 value
    return { general with timeout := ← once general.timeout timeout }
  | .option .help _ => .error .help
  | .option .version _ => .error .version
  | .word _ | .misuse => .error .misuse

def scopeOfName? : String → Option Scope
  | "base" => some .base
  | "one" => some .oneLevel
  | "sub" => some .subtree
  | _ => none

inductive SearchOption where
  | base
  | scope
  | pageSize
  | help

def searchFlags : List (Flag SearchOption) :=
  [⟨.base, some 'b', "base", true⟩, ⟨.scope, none, "scope", true⟩,
    ⟨.pageSize, some 'p', "page-size", true⟩, ⟨.help, some 'h', "help", false⟩]

structure SearchArguments where
  base : Option String := none
  scope : Option Scope := none
  pageSize : Option Nat := none
  words : List String := []

def SearchArguments.add (search : SearchArguments) :
    Token SearchOption → Except Refusal SearchArguments
  | .option .base value => do return { search with base := ← once search.base value }
  | .option .scope value => do
    return { search with scope := ← once search.scope (scopeOfName? value) }
  | .option .pageSize value => do
    return { search with pageSize := ← once search.pageSize (Decimal.ofText? 4294967295 value) }
  | .option .help _ => .error .help
  | .word text => .ok { search with words := search.words ++ [text] }
  | .misuse => .error .misuse

def parseSearch (arguments : List String) : Except Refusal Command := do
  let search ← (scan searchFlags false arguments).1.foldlM SearchArguments.add {}
  return .search (search.base.getD "") (search.scope.getD .subtree)
    (UInt32.ofNat (search.pageSize.getD 0)) (search.words.head?.getD "(objectClass=*)")
    search.words.tail

inductive AddOption where
  | attr
  | help

def addFlags : List (Flag AddOption) :=
  [⟨.attr, some 'a', "attr", true⟩, ⟨.help, some 'h', "help", false⟩]

def splitAdd : List (Token AddOption) → Except Refusal (List String × List String)
  | [] => .ok ([], [])
  | .option .attr value :: rest => do
    let (words, pairs) ← splitAdd rest
    return (words, value :: pairs)
  | .option .help _ :: _ => .error .help
  | .word text :: rest => do
    let (words, pairs) ← splitAdd rest
    return (text :: words, pairs)
  | .misuse :: _ => .error .misuse

def parseAdd (arguments : List String) : Except Refusal Command := do
  match ← splitAdd (scan addFlags false arguments).1 with
  | ([dn], pair :: pairs) => return .add dn (pair :: pairs)
  | _ => .error .misuse

inductive HelpOption where
  | help

def helpFlags : List (Flag HelpOption) := [⟨.help, some 'h', "help", false⟩]

def wordsOf : List (Token HelpOption) → Except Refusal (List String)
  | [] => .ok []
  | .option .help _ :: _ => .error .help
  | .word text :: rest => do return text :: (← wordsOf rest)
  | .misuse :: _ => .error .misuse

def parseCommand (name : String) (arguments : List String) : Except Refusal Command := do
  match name with
  | "search" => parseSearch arguments
  | "add" => parseAdd arguments
  | "help" => .error .help
  | _ =>
    let words ← wordsOf (scan helpFlags false arguments).1
    match name, words with
    | "delete", [dn] => return .delete dn
    | "compare", [dn, attr, value] => return .compare dn attr value
    | "whoami", [] => return .whoAmI
    | _, _ => .error .misuse

def parse (arguments : List String) : Except Refusal Invocation := do
  let (tokens, left) := scan generalFlags true arguments
  let general ← tokens.foldlM General.add {}
  match left with
  | [] => .error .misuse
  | name :: rest =>
    return {
      server := general.server.getD "127.0.0.1:389"
      bindDn := general.bindDn
      password := general.password.getD ""
      timeout := general.timeout.getD ({} : Config).operationTimeout
      command := ← parseCommand name rest }

end Invocation

end Directory.CommandLine
