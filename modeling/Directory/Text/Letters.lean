/-! Letter case. Names of attributes are told apart without the case of the letters A to Z. -/
namespace Directory

/-- A name with the letters A to Z made small; all other characters stay. -/
def foldCase (name : String) : String := String.ofList (name.toList.map Char.toLower)

def sameName (a b : String) : Bool := foldCase a == foldCase b

theorem sameName_iff {a b : String} : sameName a b = true ↔ foldCase a = foldCase b := by
  simp [sameName]

end Directory
