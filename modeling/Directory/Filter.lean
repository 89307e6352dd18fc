/-! Search filters: boolean expressions over the attributes of an entry. -/
namespace Directory

inductive Comparison where
  | equal
  | greaterOrEqual
  | lessOrEqual
  | approximate
  deriving DecidableEq, Repr

inductive Filter where
  | all (filters : List Filter)
  | any (filters : List Filter)
  | not (filter : Filter)
  | compare (comparison : Comparison) (attr : String) (value : List UInt8)
  | substrings (attr : String) (initial : Option (List UInt8)) (middle : List (List UInt8))
      (final : Option (List UInt8))
  | present (attr : String)
  deriving Repr

namespace Filter

/-- The deepest nesting that is read, the innermost assertion included. -/
def maxDepth : Nat := 256

def matchAll : Filter := .present "objectClass"

mutual
def depth : Filter → Nat
  | .all filters => depthOfList filters + 1
  | .any filters => depthOfList filters + 1
  | .not filter => filter.depth + 1
  | .compare .. | .substrings .. | .present _ => 1
def depthOfList : List Filter → Nat
  | [] => 0
  | filter :: rest => max filter.depth (depthOfList rest)
end

mutual
def same : Filter → Filter → Bool
  | .all as, .all bs => sameList as bs
  | .any as, .any bs => sameList as bs
  | .not a, .not b => same a b
  | .compare c attr value, .compare d attr' value' => c = d && attr = attr' && value = value'
  | .substrings attr i m f, .substrings attr' i' m' f' =>
    attr = attr' && i = i' && m = m' && f = f'
  | .present attr, .present attr' => attr = attr'
  | _, _ => false
def sameList : List Filter → List Filter → Bool
  | [], [] => true
  | a :: as, b :: bs => same a b && sameList as bs
  | _, _ => false
end

mutual
theorem same_iff (a b : Filter) : same a b = true ↔ a = b := by
  cases a <;> cases b <;> simp [same, and_assoc]
  · exact sameList_iff ..
  · exact sameList_iff ..
  · exact same_iff ..
theorem sameList_iff (as bs : List Filter) : sameList as bs = true ↔ as = bs := by
  cases as <;> cases bs <;> simp [sameList]
  rw [same_iff, sameList_iff]
end

instance : DecidableEq Filter := fun a b => decidable_of_iff _ (same_iff a b)

end Filter

end Directory
