import Directory.Filter
import Directory.Text.Hex
/-! The text of a filter. In values every octet that is not plain ASCII, or that has a meaning of its
own, is written as two hexadecimal digits after a backslash. -/
namespace Directory

def Comparison.chars : Comparison → List Char
  | .equal => ['=']
  | .greaterOrEqual => ['>', '=']
  | .lessOrEqual => ['<', '=']
  | .approximate => ['~', '=']

namespace Filter

def isReserved (octet : UInt8) : Bool :=
  octet == 0x2a || octet == 0x28 || octet == 0x29 || octet == 0x5c || octet < 0x20 || 0x7f ≤ octet

def octetChars (octet : UInt8) : List Char :=
  if isReserved octet then '\\' :: Hex.lower octet else [Char.ofNat octet.toNat]

def valueChars (value : List UInt8) : List Char := value.flatMap octetChars

mutual
def chars : Filter → List Char
  | .all filters => '(' :: '&' :: charsOfList filters ++ [')']
  | .any filters => '(' :: '|' :: charsOfList filters ++ [')']
  | .not filter => '(' :: '!' :: chars filter ++ [')']
  | .compare comparison attr value =>
    '(' :: attr.toList ++ comparison.chars ++ valueChars value ++ [')']
  | .substrings attr initial middle final =>
    '(' :: attr.toList ++ ['='] ++ valueChars (initial.getD []) ++ ['*'] ++
      middle.flatMap (fun part => valueChars part ++ ['*']) ++ valueChars (final.getD []) ++ [')']
  | .present attr => '(' :: attr.toList ++ ['=', '*', ')']
def charsOfList : List Filter → List Char
  | [] => []
  | filter :: rest => chars filter ++ charsOfList rest
end

def print (filter : Filter) : String := String.ofList filter.chars

end Filter

end Directory
