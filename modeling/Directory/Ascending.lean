/-! Collections kept as lists in strictly ascending order of a key. The order is part of the type: two
collections with the same members are equal, however they were built. -/
namespace Directory

structure Ascending {α κ : Type} [LT κ] (key : α → κ) where
  toList : List α
  ascending : toList.Pairwise fun a b => key a < key b
  deriving DecidableEq

namespace Ascending

variable {α κ : Type} [LT κ] {key : α → κ}

def empty : Ascending key := ⟨[], .nil⟩

instance : EmptyCollection (Ascending key) := ⟨empty⟩

instance : Inhabited (Ascending key) := ⟨empty⟩

def isEmpty (c : Ascending key) : Bool := c.toList.isEmpty

def size (c : Ascending key) : Nat := c.toList.length

theorem ext_toList {c d : Ascending key} (h : c.toList = d.toList) : c = d := by
  cases c
  cases d
  cases h
  rfl

theorem toList_empty : (∅ : Ascending key).toList = [] := rfl

variable [DecidableEq κ]

def find? (c : Ascending key) (k : κ) : Option α := c.toList.find? fun a => key a = k

def erase (c : Ascending key) (k : κ) : Ascending key :=
  ⟨c.toList.filter fun a => key a ≠ k, c.ascending.filter _⟩

theorem key_of_find? {c : Ascending key} {k : κ} {a : α} (h : c.find? k = some a) : key a = k := by
  simpa using List.find?_some h

theorem mem_of_find? {c : Ascending key} {k : κ} {a : α} (h : c.find? k = some a) :
    a ∈ c.toList :=
  List.mem_of_find?_eq_some h

variable [DecidableLT κ]

/-- Put `a` where its key belongs, in the place of a member with the same key. -/
def place (key : α → κ) (a : α) : List α → List α
  | [] => [a]
  | b :: rest =>
    if key a < key b then a :: b :: rest
    else if key a = key b then a :: rest
    else b :: place key a rest

theorem mem_of_mem_place {a x : α} {l : List α} (h : x ∈ place key a l) : x = a ∨ x ∈ l := by
  induction l with
  | nil => simpa [place] using h
  | cons b rest ih =>
      simp only [place] at h
      split at h
      · simpa using h
      · split at h
        · rcases List.mem_cons.mp h with same | member
          · exact .inl same
          · exact .inr (List.mem_cons_of_mem _ member)
        · rcases List.mem_cons.mp h with same | member
          · exact .inr (same ▸ List.mem_cons_self)
          · exact (ih member).imp id (List.mem_cons_of_mem _)

variable [LE κ] [Std.IsLinearOrder κ] [Std.LawfulOrderLT κ]

omit [DecidableEq κ] [DecidableLT κ] in
theorem lt_of_not_lt_of_ne {j k : κ} (notLess : ¬ j < k) (different : j ≠ k) : k < j := by
  have atMost : k ≤ j := Std.not_lt.mp notLess
  apply Std.lt_iff_le_and_not_ge.mpr
  exact ⟨atMost, fun least => different (Std.le_antisymm least atMost)⟩

theorem pairwise_place {a : α} {l : List α} (h : l.Pairwise fun a b => key a < key b) :
    (place key a l).Pairwise fun a b => key a < key b := by
  induction l with
  | nil => simp [place]
  | cons b rest ih =>
      obtain ⟨first, others⟩ := List.pairwise_cons.mp h
      simp only [place]
      split
      · next less =>
        refine List.pairwise_cons.mpr ⟨fun x member => ?_, h⟩
        rcases List.mem_cons.mp member with same | member
        · exact same ▸ less
        · exact Std.lt_trans less (first x member)
      · split
        · next same => exact List.pairwise_cons.mpr ⟨fun x member => same ▸ first x member, others⟩
        · next notLess different =>
          refine List.pairwise_cons.mpr ⟨fun x member => ?_, ih others⟩
          rcases mem_of_mem_place member with same | member
          · exact same ▸ lt_of_not_lt_of_ne notLess different
          · exact first x member

def insert (c : Ascending key) (a : α) : Ascending key :=
  ⟨place key a c.toList, pairwise_place c.ascending⟩

def ofList (members : List α) : Ascending key := members.foldl insert ∅

end Ascending

end Directory
