import Directory.Entry
import Directory.Filter
import Directory.ResultCode
/-! Searches: what is asked for, and what was found. -/
namespace Directory

inductive Scope where
  | base
  | oneLevel
  | subtree
  deriving DecidableEq, Repr

namespace Scope

def number : Scope → UInt32
  | base => 0
  | oneLevel => 1
  | subtree => 2

def ofNumber? (n : UInt32) : Option Scope :=
  if n = 0 then some base else if n = 1 then some oneLevel else if n = 2 then some subtree else none

theorem ofNumber?_number (scope : Scope) : ofNumber? scope.number = some scope := by
  cases scope <;> rfl

end Scope

inductive Deref where
  | never
  | searching
  | findingBase
  | always
  deriving DecidableEq, Repr

namespace Deref

def number : Deref → UInt32
  | never => 0
  | searching => 1
  | findingBase => 2
  | always => 3

def ofNumber? (n : UInt32) : Option Deref :=
  if n = 0 then some never else if n = 1 then some searching
  else if n = 2 then some findingBase else if n = 3 then some always else none

theorem ofNumber?_number (deref : Deref) : ofNumber? deref.number = some deref := by
  cases deref <;> rfl

end Deref

/-- A page of a search: asked for with the cookie of the page before, empty for the first; answered with
the cookie of the next, empty after the last. -/
structure Paging where
  size : UInt32
  cookie : Octets
  critical : Bool
  deriving DecidableEq, Repr

structure SearchRequest where
  base : Dn
  scope : Scope
  deref : Deref := .never
  /-- Zero asks for no limit. -/
  sizeLimit : UInt32 := 0
  /-- In seconds; zero asks for no limit. -/
  timeLimit : UInt32 := 0
  typesOnly : Bool := false
  filter : Filter
  /-- None asks for all. -/
  attributes : List String := []
  paging : Option Paging := none
  deriving DecidableEq

structure SearchResult where
  entries : List Entry
  referrals : List String
  outcome : Outcome
  /-- Empty when there are no more pages. -/
  cookie : Octets
  deriving DecidableEq

def SearchResult.hasMorePages (result : SearchResult) : Bool := !result.cookie.isEmpty

end Directory
