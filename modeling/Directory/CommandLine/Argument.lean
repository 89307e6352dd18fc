/-! Arguments of a command, told apart: options with their values, and plain words. An option is written
`--name value`, `--name=value`, `-n value`, `-nvalue` or `-n=value`; after `--` there are only words. -/
namespace Directory.CommandLine

structure Flag (α : Type) where
  kind : α
  short : Option Char
  long : String
  takesValue : Bool := true

inductive Shape (α : Type) where
  | word
  | separator
  | complete (kind : α) (value : String)
  /-- The value is the next argument. -/
  | opening (kind : α)
  | unknown
  deriving DecidableEq, Repr

inductive Token (α : Type) where
  | option (kind : α) (value : String)
  | word (text : String)
  /-- Nothing can be made of the arguments from here on. -/
  | misuse
  deriving DecidableEq, Repr

namespace Flag

def longShape (flag : Flag α) (attached : List Char) : Shape α :=
  match flag.takesValue, attached with
  | true, [] => .opening flag.kind
  | true, _ :: value => .complete flag.kind (String.ofList value)
  | false, [] => .complete flag.kind ""
  | false, _ => .unknown

def shortShape (flag : Flag α) (attached : List Char) : Shape α :=
  match flag.takesValue, attached with
  | false, _ => .complete flag.kind ""
  | true, [] => .opening flag.kind
  | true, '=' :: value => .complete flag.kind (String.ofList value)
  | true, value => .complete flag.kind (String.ofList value)

end Flag

def shape (flags : List (Flag α)) (argument : String) : Shape α :=
  match argument.toList with
  | ['-', '-'] => .separator
  | '-' :: '-' :: body =>
    let (name, attached) := body.span (· ≠ '=')
    match flags.find? fun flag => flag.long == String.ofList name with
    | some flag => flag.longShape attached
    | none => .unknown
  | '-' :: letter :: attached =>
    match flags.find? fun flag => flag.short == some letter with
    | some flag => flag.shortShape attached
    | none => .unknown
  | _ => .word

/-- A value that stands by itself does not begin like an option. A lone dash does not. -/
def canBeValue (argument : String) : Bool :=
  match argument.toList with
  | '-' :: _ :: _ => false
  | _ => true

/-- The arguments in order. Where `stops` is set the first word ends them, and is left with all that
follows it. -/
def scan (flags : List (Flag α)) (stops : Bool) : List String → List (Token α) × List String
  | [] => ([], [])
  | argument :: rest =>
    match shape flags argument with
    | .word =>
      if stops then ([], argument :: rest)
      else
        let (tokens, left) := scan flags stops rest
        (.word argument :: tokens, left)
    | .separator => (rest.map .word, [])
    | .complete kind value =>
      let (tokens, left) := scan flags stops rest
      (.option kind value :: tokens, left)
    | .opening kind =>
      match rest with
      | [] => ([.misuse], [])
      | value :: others =>
        if canBeValue value then
          let (tokens, left) := scan flags stops others
          (.option kind value :: tokens, left)
        else ([.misuse], [])
    | .unknown => ([.misuse], [])

end Directory.CommandLine
