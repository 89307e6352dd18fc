/-! Hexadecimal digits: four bits a digit, either letter case when read. -/
namespace Directory.Hex

def digit? (c : Char) : Option Nat :=
  if '0' ≤ c ∧ c ≤ '9' then some (c.toNat - 48)
  else if 'a' ≤ c ∧ c ≤ 'f' then some (c.toNat - 87)
  else if 'A' ≤ c ∧ c ≤ 'F' then some (c.toNat - 55)
  else none

def isDigit (c : Char) : Bool := (digit? c).isSome

def octet? (high low : Char) : Option UInt8 := do
  let h ← digit? high
  let l ← digit? low
  return UInt8.ofNat (h * 16 + l)

def lowerDigit (n : Nat) : Char := Char.ofNat (if n < 10 then 48 + n else 87 + n)

def upperDigit (n : Nat) : Char := Char.ofNat (if n < 10 then 48 + n else 55 + n)

def lower (b : UInt8) : List Char := [lowerDigit (b.toNat / 16), lowerDigit (b.toNat % 16)]

def upper (b : UInt8) : List Char := [upperDigit (b.toNat / 16), upperDigit (b.toNat % 16)]

def ofOctets (octets : List UInt8) : String := String.ofList (octets.flatMap lower)

def ofNat (n : Nat) : String := String.ofList (Nat.toDigits 16 n)

def pairs? : List Char → Option (List UInt8)
  | [] => some []
  | [_] => none
  | high :: low :: rest => do return (← octet? high low) :: (← pairs? rest)

theorem digit?_lowerDigit : ∀ n, n < 16 → digit? (lowerDigit n) = some n := by decide

theorem digit?_upperDigit : ∀ n, n < 16 → digit? (upperDigit n) = some n := by decide

theorem octet?_lower (b : UInt8) :
    octet? (lowerDigit (b.toNat / 16)) (lowerDigit (b.toNat % 16)) = some b := by
  have bound := b.toNat_lt
  simp only [octet?, digit?_lowerDigit _ (show b.toNat / 16 < 16 by omega),
    digit?_lowerDigit _ (show b.toNat % 16 < 16 by omega), Option.bind_eq_bind, Option.bind_some,
    pure, Option.some.injEq]
  apply UInt8.toNat_inj.mp
  simp only [UInt8.toNat_ofNat']
  omega

theorem octet?_upper (b : UInt8) :
    octet? (upperDigit (b.toNat / 16)) (upperDigit (b.toNat % 16)) = some b := by
  have bound := b.toNat_lt
  simp only [octet?, digit?_upperDigit _ (show b.toNat / 16 < 16 by omega),
    digit?_upperDigit _ (show b.toNat % 16 < 16 by omega), Option.bind_eq_bind, Option.bind_some,
    pure, Option.some.injEq]
  apply UInt8.toNat_inj.mp
  simp only [UInt8.toNat_ofNat']
  omega

theorem exists_digits_of_octet? {high low : Char} {octet : UInt8} (h : octet? high low = some octet) :
    ∃ n m, digit? high = some n ∧ digit? low = some m := by
  simp only [octet?, Option.bind_eq_bind, Option.bind_eq_some_iff] at h
  obtain ⟨n, first, m, second, _⟩ := h
  exact ⟨n, m, first, second⟩

end Directory.Hex
