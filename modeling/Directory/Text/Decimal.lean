/-! Numbers as users write them: decimal digits, and a plus sign in front if they like. -/
namespace Directory.Decimal

def isDigit (c : Char) : Bool := '0' ≤ c && c ≤ '9'

def ofDigits (digits : List Char) : Nat := digits.foldl (fun n c => n * 10 + (c.toNat - '0'.toNat)) 0

def unsigned? (digits : List Char) : Option Nat :=
  if !digits.isEmpty && digits.all isDigit then some (ofDigits digits) else none

def ofText? (most : Nat) (text : String) : Option Nat :=
  let number := match text.toList with
    | '+' :: digits => unsigned? digits
    | digits => unsigned? digits
  number.filter (· ≤ most)

end Directory.Decimal
