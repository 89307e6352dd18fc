import Directory.Error
import Directory.Filter
import Directory.Text.Blank
import Directory.Text.Hex
import Directory.Text.Octets
/-! Reading a filter: a filter in parentheses, or a single assertion without them. A refusal keeps the
text that was left, from which the place of the fault is counted. -/
namespace Directory.Filter

inductive Fault where
  | expected (c : Char)
  | tooDeep
  | unexpectedEnd
  | emptyList
  | missingAttr
  | illegalAttr
  | missingOperator
  | openInValue
  | starInValue
  | badPattern
  | badEscape
  | danglingEscape
  | trailing
  deriving DecidableEq, Repr

def Fault.message : Fault → String
  | .expected c => s!"expected '{c}'"
  | .tooDeep => "filter nested too deeply"
  | .unexpectedEnd => "unexpected end of filter"
  | .emptyList => "empty filter list"
  | .missingAttr => "missing attribute description"
  | .illegalAttr => "illegal character in attribute description"
  | .missingOperator => "expected filter operator"
  | .openInValue => "unescaped '(' in value"
  | .starInValue => "unescaped '*' in ordering or approx value"
  | .badPattern => "invalid substring pattern"
  | .badEscape => "invalid escape sequence"
  | .danglingEscape => "dangling escape"
  | .trailing => "trailing characters"

structure Stop where
  fault : Fault
  rest : List Char
  deriving DecidableEq, Repr

abbrev Step (α : Type) := List Char → Except Stop (α × List Char)

def isAttrEnd (c : Char) : Bool :=
  c = '=' || c = '~' || c = '>' || c = '<' || c = '(' || c = ')'

def isAttrChar (c : Char) : Bool := c.isAlphanum || c = '-' || c = '.' || c = ';'

def checkAttr (text : List Char) : Except Fault String :=
  let attr := trim text
  if attr.isEmpty then .error .missingAttr
  else if attr.all isAttrChar then .ok (String.ofList attr)
  else .error .illegalAttr

def isEscapable (c : Char) : Bool := c = '*' || c = '(' || c = ')' || c = '\\'

/-- The octet of two characters after a backslash; a plus sign may take the place of a leading zero. -/
def escapedOctet? (c d : Char) : Option UInt8 :=
  if c = '+' then (Hex.digit? d).map UInt8.ofNat else Hex.octet? c d

def prepend (octets : Octets) : List Octets → List Octets
  | [] => [octets]
  | segment :: rest => (octets ++ segment) :: rest

def readSegments : Step (List Octets)
  | [] => .ok ([[]], [])
  | ')' :: rest => .ok ([[]], ')' :: rest)
  | '(' :: rest => .error ⟨.openInValue, '(' :: rest⟩
  | '*' :: rest => (readSegments rest).map fun (segments, after) => ([] :: segments, after)
  | ['\\'] => .error ⟨.danglingEscape, []⟩
  | '\\' :: c :: rest =>
    if isEscapable c then
      (readSegments rest).map fun (segments, after) =>
        (prepend [UInt8.ofNat c.toNat] segments, after)
    else
      match rest with
      | [] => .error ⟨.badEscape, [c]⟩
      | d :: rest =>
        match escapedOctet? c d with
        | none => .error ⟨.badEscape, c :: d :: rest⟩
        | some octet =>
          (readSegments rest).map fun (segments, after) => (prepend [octet] segments, after)
  | c :: rest =>
    (readSegments rest).map fun (segments, after) =>
      (prepend (String.utf8EncodeChar c) segments, after)

def nonEmpty? (octets : Octets) : Option Octets := if octets.isEmpty then none else some octets

/-- What the segments after a single `=` mean: one is a value, two empty ones ask for presence, and
otherwise they are the parts of a pattern, of which at least one must not be empty. -/
def ofSegments? (attr : String) : List Octets → Option Filter
  | [] => none
  | [value] => some (.compare .equal attr value)
  | [[], []] => some (.present attr)
  | first :: others =>
    let initial := nonEmpty? first
    let middle := others.dropLast.filter fun part => !part.isEmpty
    let final := others.getLast?.bind nonEmpty?
    if initial.isNone && middle.isEmpty && final.isNone then none
    else some (.substrings attr initial middle final)

def readOrdering (comparison : Comparison) (attr : String) : Step Filter
  | '=' :: rest => do
    match ← readSegments rest with
    | ([value], after) => .ok (.compare comparison attr value, after)
    | (_, after) => .error ⟨.starInValue, after⟩
  | rest => .error ⟨.expected '=', rest⟩

def readOperator (attr : String) : Step Filter
  | '=' :: rest => do
    let (segments, after) ← readSegments rest
    match ofSegments? attr segments with
    | some filter => .ok (filter, after)
    | none => .error ⟨.badPattern, after⟩
  | '>' :: rest => readOrdering .greaterOrEqual attr rest
  | '<' :: rest => readOrdering .lessOrEqual attr rest
  | '~' :: rest => readOrdering .approximate attr rest
  | rest => .error ⟨.missingOperator, rest⟩

def readItem : Step Filter := fun text =>
  let after := text.dropWhile fun c => !isAttrEnd c
  match checkAttr (text.takeWhile fun c => !isAttrEnd c) with
  | .error fault => .error ⟨fault, after⟩
  | .ok attr => readOperator attr after

/-- Filters as long as one follows; `fuel` bounds their number. -/
def readMany (read : Step Filter) : Nat → Step (List Filter)
  | 0, text => .ok ([], text)
  | fuel + 1, text =>
    if text.head? = some '(' then do
      let (filter, rest) ← read text
      let (filters, rest) ← readMany read fuel rest
      return (filter :: filters, rest)
    else .ok ([], text)

def readList (read : Step Filter) : Step (List Filter) := fun text => do
  let (filters, rest) ← readMany read text.length text
  if filters.isEmpty then .error ⟨.emptyList, rest⟩ else .ok (filters, rest)

def closing : Filter × List Char → Except Stop (Filter × List Char)
  | (filter, ')' :: rest) => .ok (filter, rest)
  | (_, rest) => .error ⟨.expected ')', rest⟩

def readFilter : Nat → Step Filter
  | levels, '(' :: rest =>
    match levels with
    | 0 => .error ⟨.tooDeep, rest⟩
    | levels + 1 =>
      (match rest with
        | '&' :: rest => (readList (readFilter levels) rest).map fun (fs, after) => (.all fs, after)
        | '|' :: rest => (readList (readFilter levels) rest).map fun (fs, after) => (.any fs, after)
        | '!' :: rest => (readFilter levels rest).map fun (f, after) => (.not f, after)
        | [] => .error ⟨.unexpectedEnd, []⟩
        | rest => readItem rest) >>= closing
  | _, text => .error ⟨.expected '(', text⟩

def ofChars (text : List Char) : Except Stop Filter := do
  let (filter, rest) ← if text.head? = some '(' then readFilter maxDepth text else readItem text
  if rest.isEmpty then .ok filter else .error ⟨.trailing, rest⟩

def octetCount : List Char → Nat
  | [] => 0
  | c :: rest => c.utf8Size + octetCount rest

def Stop.message (stop : Stop) (text : List Char) : String :=
  s!"{stop.fault.message} at offset {octetCount text - octetCount stop.rest}"

def parse (text : String) : Except Error Filter :=
  let text := trim text.toList
  if text.isEmpty then .error (.invalidFilter "empty filter")
  else (ofChars text).mapError fun stop => .invalidFilter (stop.message text)

end Directory.Filter
