import Directory.Dn
import Directory.Text.Hex
/-! The text of a name. A value is written so that the reader finds its ends again: the characters with
a meaning of their own carry a backslash, and so do a space at either end and a leading `#`. -/
namespace Directory

def isSpecial (c : Char) : Bool :=
  c = ',' || c = '+' || c = '"' || c = '\\' || c = '<' || c = '>' || c = ';' || c = '='

/-- One character of a value; `first` and `last` say whether it is at an end. -/
def escapeChar (first last : Bool) (c : Char) : List Char :=
  if isSpecial c || (c = ' ' && (first || last)) || (c = '#' && first) then ['\\', c]
  else if c.toNat < 0x20 then '\\' :: Hex.upper (UInt8.ofNat c.toNat)
  else [c]

def escapeRest : List Char → List Char
  | [] => []
  | c :: rest => escapeChar false rest.isEmpty c ++ escapeRest rest

def escapeValue : List Char → List Char
  | [] => []
  | c :: rest => escapeChar true rest.isEmpty c ++ escapeRest rest

def Ava.chars (ava : Ava) : List Char := ava.attr.toList ++ '=' :: escapeValue ava.value.toList

def Rdn.chars (rdn : Rdn) : List Char := ['+'].intercalate (rdn.map Ava.chars)

def Rdn.print (rdn : Rdn) : String := String.ofList rdn.chars

namespace Dn

def chars (name : Dn) : List Char := [','].intercalate (name.rdns.map Rdn.chars)

def print (name : Dn) : String := String.ofList name.chars

end Dn

end Directory
