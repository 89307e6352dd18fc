import Directory.Text.Letters
/-! Distinguished names: relative names from the most specific to the most general, each holding
assertions `attr=value`. Names are alike when they differ at most in the letter case of attributes. -/
namespace Directory

structure Ava where
  attr : String
  value : String
  deriving DecidableEq, Repr

abbrev Rdn := List Ava

structure Dn where
  rdns : List Rdn
  deriving DecidableEq, Repr

namespace Ava

def alike (a b : Ava) : Bool := sameName a.attr b.attr && a.value == b.value

end Ava

def alikeLists (alike : α → α → Bool) : List α → List α → Bool
  | [], [] => true
  | a :: as, b :: bs => alike a b && alikeLists alike as bs
  | _, _ => false

def Rdn.alike (a b : Rdn) : Bool := alikeLists Ava.alike a b

namespace Dn

def root : Dn := ⟨[]⟩

def isRoot (name : Dn) : Bool := name.rdns.isEmpty

def length (name : Dn) : Nat := name.rdns.length

def alike (a b : Dn) : Bool := alikeLists Rdn.alike a.rdns b.rdns

def rdn? (name : Dn) : Option Rdn := name.rdns.head?

def parent? (name : Dn) : Option Dn :=
  match name.rdns with
  | [] => none
  | _ :: above => some ⟨above⟩

def child (name : Dn) (rdn : Rdn) : Dn := ⟨rdn :: name.rdns⟩

/-- Strictly below `ancestor`: longer, with the levels of `ancestor` at the end. -/
def isBelow (name ancestor : Dn) : Bool :=
  ancestor.length < name.length &&
    alikeLists Rdn.alike (name.rdns.drop (name.length - ancestor.length)) ancestor.rdns

theorem parent?_child (name : Dn) (rdn : Rdn) : (name.child rdn).parent? = some name := rfl

theorem rdn?_child (name : Dn) (rdn : Rdn) : (name.child rdn).rdn? = some rdn := rfl

end Dn

end Directory
