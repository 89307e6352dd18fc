import Directory.Attribute
import Directory.Dn
/-! Entries, and the changes that are made to them. -/
namespace Directory

structure Entry where
  dn : Dn
  attributes : Attributes
  deriving DecidableEq

inductive ChangeKind where
  | add
  | delete
  | replace
  deriving DecidableEq, Repr

namespace ChangeKind

def number : ChangeKind → UInt32
  | add => 0
  | delete => 1
  | replace => 2

def ofNumber? (n : UInt32) : Option ChangeKind :=
  if n = 0 then some add else if n = 1 then some delete else if n = 2 then some replace else none

theorem ofNumber?_number (kind : ChangeKind) : ofNumber? kind.number = some kind := by
  cases kind <;> rfl

end ChangeKind

structure Modification where
  kind : ChangeKind
  attr : Attribute
  deriving DecidableEq

end Directory
