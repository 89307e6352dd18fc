import Directory.Attempt
import Directory.Dn.Printer
import Directory.Error
import Directory.Text.Blank
import Directory.Text.Octets
import Directory.Text.Quoted
/-! Reading a name. White space around attributes goes; in a value only spaces that are not escaped go,
and only at its ends. A value is collected in pieces, so that an escaped space is told from a bare one. -/
namespace Directory

inductive Dn.Fault where
  | missingEquals
  | emptyAttribute
  | illegalAttribute
  | danglingEscape
  | truncatedHexEscape
  | unknownEscape
  | notUtf8
  deriving DecidableEq, Repr

def Dn.Fault.message : Dn.Fault → String
  | .missingEquals => "missing '=' in component"
  | .emptyAttribute => "empty attribute type"
  | .illegalAttribute => "illegal character in attribute type"
  | .danglingEscape => "dangling escape"
  | .truncatedHexEscape => "truncated hex escape"
  | .unknownEscape => "unknown escape"
  | .notUtf8 => "value is not valid UTF-8"

inductive Separator where
  | sibling
  | level
  deriving DecidableEq, Repr

/-- A part of a value: a character as it is, or an octet that was escaped. -/
inductive Piece where
  | bare (c : Char)
  | escaped (octet : UInt8)
  deriving DecidableEq, Repr

namespace Piece

def octets : Piece → Octets
  | bare c => String.utf8EncodeChar c
  | escaped octet => [octet]

def isLoose : Piece → Bool
  | bare c => c = ' '
  | escaped _ => false

end Piece

namespace Dn

/-- The text up to the first `=`, which no separator may precede. -/
def readAttr : List Char → Except Fault (List Char × List Char)
  | [] => .error .missingEquals
  | c :: rest =>
    if c = '=' then .ok ([], rest)
    else if c = ',' || c = '+' then .error .missingEquals
    else (readAttr rest).map fun (attr, after) => (c :: attr, after)

def isAttrChar (c : Char) : Bool := c.isAlphanum || c = '-' || c = '.'

def checkAttr (text : List Char) : Except Fault String :=
  let attr := trim text
  if attr.isEmpty then .error .emptyAttribute
  else if attr.all isAttrChar then .ok (String.ofList attr)
  else .error .illegalAttribute

def consPiece (piece : Piece) :
    List Piece × Option (Separator × List Char) → List Piece × Option (Separator × List Char)
  | (pieces, ending) => (piece :: pieces, ending)

def readPieces : List Char → Except Fault (List Piece × Option (Separator × List Char))
  | [] => .ok ([], none)
  | ',' :: rest => .ok ([], some (.level, rest))
  | '+' :: rest => .ok ([], some (.sibling, rest))
  | ['\\'] => .error .danglingEscape
  | '\\' :: c :: rest =>
    if Hex.isDigit c then
      match rest with
      | [] => .error .truncatedHexEscape
      | d :: rest =>
        match Hex.octet? c d with
        | none => .error .truncatedHexEscape
        | some octet => (readPieces rest).map (consPiece (.escaped octet))
    else if isSpecial c || c = ' ' || c = '#' then
      (readPieces rest).map (consPiece (.escaped (UInt8.ofNat c.toNat)))
    else .error .unknownEscape
  | c :: rest => (readPieces rest).map (consPiece (.bare c))

def trimPieces (pieces : List Piece) : List Piece :=
  ((pieces.dropWhile Piece.isLoose).reverse.dropWhile Piece.isLoose).reverse

def checkValue (pieces : List Piece) : Except Fault String :=
  match Octets.text? ((trimPieces pieces).flatMap Piece.octets) with
  | some value => .ok value
  | none => .error .notUtf8

def readAva (text : List Char) : Except Fault (Ava × Option (Separator × List Char)) := do
  let (attr, after) ← readAttr text
  let attr ← checkAttr attr
  let (pieces, ending) ← readPieces after
  let value ← checkValue pieces
  return (⟨attr, value⟩, ending)

theorem readAttr_length {text attr after : List Char} (h : readAttr text = .ok (attr, after)) :
    after.length < text.length := by
  induction text generalizing attr after with
  | nil => simp [readAttr] at h
  | cons c rest ih =>
      simp only [readAttr] at h
      split at h
      · cases h
        simp
      · split at h
        · cases h
        · obtain ⟨⟨inner, left⟩, found, same⟩ := Attempt.map_eq_ok_iff.mp h
          cases same
          have := ih found
          simp only [List.length_cons]
          omega

theorem map_consPiece {piece : Piece} {pieces : List Piece}
    {read : Except Fault (List Piece × Option (Separator × List Char))}
    {ending : Option (Separator × List Char)}
    (h : read.map (consPiece piece) = .ok (pieces, ending)) :
    ∃ inner, read = .ok (inner, ending) ∧ pieces = piece :: inner := by
  obtain ⟨⟨inner, left⟩, found, same⟩ := Attempt.map_eq_ok_iff.mp h
  cases same
  exact ⟨inner, found, rfl⟩

theorem readPieces_length {text : List Char} {pieces : List Piece} {separator : Separator}
    {after : List Char} (h : readPieces text = .ok (pieces, some (separator, after))) :
    after.length < text.length := by
  fun_induction readPieces text generalizing pieces with
  | case1 | case4 | case5 | case6 | case9 => simp at h
  | case2 | case3 => simp_all
  | case7 c _ d rest octet _ ih | case8 c rest _ _ ih | case10 c rest _ _ _ _ ih =>
      obtain ⟨inner, found, _⟩ := map_consPiece h
      have := ih found
      simp only [List.length_cons]
      omega

theorem readAva_length {text : List Char} {ava : Ava} {separator : Separator} {after : List Char}
    (h : readAva text = .ok (ava, some (separator, after))) : after.length < text.length := by
  obtain ⟨⟨attr, rest⟩, found, h⟩ := Attempt.bind_eq_ok_iff.mp h
  obtain ⟨checked, _, h⟩ := Attempt.bind_eq_ok_iff.mp h
  obtain ⟨⟨pieces, ending⟩, pieced, h⟩ := Attempt.bind_eq_ok_iff.mp h
  obtain ⟨value, _, h⟩ := Attempt.bind_eq_ok_iff.mp h
  cases h
  exact Nat.lt_trans (readPieces_length pieced) (readAttr_length found)

def readAvas (text : List Char) : Except Fault (List (Ava × Separator)) :=
  match _h : readAva text with
  | .error fault => .error fault
  | .ok (ava, none) => .ok [(ava, .level)]
  | .ok (ava, some (separator, rest)) => (readAvas rest).map ((ava, separator) :: ·)
termination_by text.length
decreasing_by exact readAva_length ‹_›

def group : List (Ava × Separator) → List Rdn
  | [] => []
  | (ava, .level) :: rest => [ava] :: group rest
  | (ava, .sibling) :: rest =>
    match group rest with
    | [] => [[ava]]
    | rdn :: rdns => (ava :: rdn) :: rdns

def ofChars (text : List Char) : Except Fault Dn :=
  match trimStart text with
  | [] => .ok root
  | text => (readAvas text).map fun avas => ⟨group avas⟩

/-- A refusal quotes the text without the white space before it. -/
def parse (text : String) : Except Error Dn :=
  (ofChars text.toList).mapError fun fault =>
    .invalidDn s!"{fault.message}: {Quoted.quote (trimStart text.toList)}"

end Dn

end Directory
