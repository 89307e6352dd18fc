import Directory.Proofs.Wire.Accepted
import Directory.Wire.Buffer
/-!
Elements and octets correspond. Elements that were written one after the other are read back as they were, whatever
octets can be read as elements are the octets that these are written as, and groups that hold groups are read back
by a reader for each, which ends where its group ends.
-/
namespace Directory.Wire

def elements (pairs : List (UInt8 × Octets)) : List Item :=
  pairs.map fun pair => .octets pair.1 pair.2

inductive Tree where
  | octets (tag : UInt8) (content : Octets)
  | text (s : String)
  | number (tag : UInt8) (n : UInt32)
  | flag (value : Bool)
  | group (tag : UInt8) (trees : List Tree)

inductive Shape where
  | octets (tag : UInt8)
  | text
  | number (tag : UInt8)
  | flag
  | group (tag : UInt8) (shapes : List Shape)

namespace Tree

mutual
def item : Tree → Item
  | .octets tag content => .octets tag content
  | .text s => .text Tag.octetString s
  | .number tag n => .number tag n
  | .flag value => .flag value
  | .group tag trees => .group tag (items trees)
def items : List Tree → List Item
  | [] => []
  | tree :: rest => item tree :: items rest
end

mutual
def shape : Tree → Shape
  | .octets tag _ => .octets tag
  | .text _ => .text
  | .number tag _ => .number tag
  | .flag _ => .flag
  | .group tag trees => .group tag (shapes trees)
def shapes : List Tree → List Shape
  | [] => []
  | tree :: rest => shape tree :: shapes rest
end

end Tree

namespace Shape

mutual
def read : Shape → Reading Tree
  | .octets tag => return .octets tag (← Reading.element tag)
  | .text => return .text (← Reading.text Tag.octetString)
  | .number tag => return .number tag (← Reading.number tag)
  | .flag => return .flag (← Reading.flag)
  | .group tag shapes => do
    let content ← Reading.element tag
    return .group tag (← Reading.whole content (readAll shapes))
def readAll : List Shape → Reading (List Tree)
  | [] => return []
  | shape :: rest => return (← read shape) :: (← readAll rest)
end

end Shape

namespace Reading

def all (reading : Reading α) : Reading α := do
  let a ← reading
  finish
  return a

theorem all_run {reading : Reading α} {input : Octets} {a : α} (read : reading.run input = (.ok a, [])) :
    reading.all.run input = (.ok a, []) := by
  rw [all, run_bind, read]
  rfl

mutual
theorem takes_tree (tree : Tree) (rest : Octets) : tree.shape.read.Takes tree.item.write tree rest := by
  cases tree with
  | octets tag content => exact (takes_element tag content rest).map
  | text s => exact (takes_text Tag.octetString s rest).map
  | number tag n => exact (takes_number tag n rest).map
  | flag value => exact (takes_flag value rest).map
  | group tag trees =>
    apply takes_element_bind_last
    intro inner
    exact (takes_whole inner (takes_trees trees []) rest).map
theorem takes_trees (trees : List Tree) (rest : Octets) :
    (Shape.readAll (Tree.shapes trees)).Takes (Item.writeAll (Tree.items trees)) trees rest := by
  cases trees with
  | nil => exact takes_pure [] rest
  | cons tree others => exact (takes_tree tree _).bind (takes_trees others rest).map
end

variable {pairs : List (UInt8 × Octets)} {input rest : Octets}

theorem manyUpTo_any_run (short : ∀ pair ∈ pairs, pair.2.length < lengthLimit) {fuel : Nat}
    (enough : pairs.length ≤ fuel) :
    (manyUpTo any fuel).run (Item.writeAll (elements pairs)) = (.ok pairs, []) := by
  induction pairs generalizing fuel with
  | nil => cases fuel <;> rfl
  | cons pair others ih =>
    cases fuel with
    | zero => simp at enough
    | succ fuel =>
      obtain ⟨now, later⟩ := List.forall_mem_cons.mp short
      have first : any.run (Item.writeAll (elements (pair :: others))) =
          (.ok pair, Item.writeAll (elements others)) := any_run_of_short now pair.1 _
      have behind := ih later (Nat.le_of_succ_le_succ enough)
      have present : (Item.writeAll (elements (pair :: others))).isEmpty = false := rfl
      rw [manyUpTo, run_bind, run_isEmpty, present]
      simp only [Bool.false_eq_true, if_false, run_bind, first, behind, run_pure]

theorem any_accepts : any.Accepts fun pair item => .octets pair.1 pair.2 = item := by
  intro input pair rest taken
  exact ⟨_, rfl, any_ok taken⟩

/-- Octets are read as elements to their end exactly if they are what these elements are written as. -/
theorem many_any_run_iff :
    (many any).run input = (.ok pairs, rest) ↔
      rest = [] ∧ input = Item.writeAll (elements pairs) ∧ ∀ pair ∈ pairs, pair.2.length < lengthLimit := by
  constructor
  · intro read
    obtain ⟨nothing, items, forms, written⟩ := many_ok any_accepts read
    have same : elements pairs = items := by
      rw [← List.forall₂_eq_eq_eq, elements, List.forall₂_map_left_iff]
      exact forms
    have brief : any.Yields fun pair => pair.2.length < lengthLimit := fun _ _ _ taken => any_short taken
    exact ⟨nothing, same ▸ written, brief.many _ _ _ read⟩
  · rintro ⟨rfl, rfl, short⟩
    apply manyUpTo_any_run short
    have enough := Item.length_le_length_writeAll (elements pairs)
    rwa [elements, List.length_map] at enough

end Reading

/-- Elements one after the other, and groups of them, are read as what was written, and written as what was read.
What a buffer held before stays in front. -/
theorem elements_correspond :
    (∀ (buffer : Octets) (pairs : List (UInt8 × Octets)), (∀ pair ∈ pairs, pair.2.length < lengthLimit) →
      ∃ written, Item.putAll buffer (elements pairs) = buffer ++ written ∧
        (Reading.many Reading.any).all.run written = (.ok pairs, [])) ∧
    (∀ (input : Octets) (pairs : List (UInt8 × Octets)) (rest : Octets),
      (Reading.many Reading.any).run input = (.ok pairs, rest) →
        rest = [] ∧ Item.putAll [] (elements pairs) = input) ∧
    ∀ (buffer : Octets) (trees : List Tree),
      (Item.putAll buffer (Tree.items trees)).length < buffer.length + lengthLimit →
        ∃ written, Item.putAll buffer (Tree.items trees) = buffer ++ written ∧
          (Shape.readAll (Tree.shapes trees)).all.run written = (.ok trees, []) := by
  refine ⟨fun buffer pairs short => ?_, fun input pairs rest read => ?_, fun buffer trees short => ?_⟩
  · refine ⟨_, Item.putAll_eq buffer _, ?_⟩
    exact Reading.all_run (Reading.many_any_run_iff.mpr ⟨rfl, rfl, short⟩)
  · obtain ⟨nothing, written, _⟩ := Reading.many_any_run_iff.mp read
    exact ⟨nothing, (Item.putAll_eq [] _).trans written.symm⟩
  · rw [Item.putAll_eq, List.length_append] at short
    have read := Reading.takes_trees trees [] (Nat.lt_of_add_lt_add_left short)
    rw [List.append_nil] at read
    exact ⟨_, Item.putAll_eq buffer _, Reading.all_run read⟩

def threeLevels : List Tree :=
  [.group Tag.sequence [.text "ö", .group Tag.controls [.flag true, .group Tag.set [], .number Tag.integer 258]],
    .octets Tag.finalPart [1, 2]]

theorem elements_correspond_threeLevels :
    (Item.putAll [7, 0] (Tree.items threeLevels)).length < [7, 0].length + lengthLimit ∧
      ∃ written, Item.putAll [7, 0] (Tree.items threeLevels) = [7, 0] ++ written ∧
        (Shape.readAll (Tree.shapes threeLevels)).all.run written = (.ok threeLevels, []) := by
  have short : (Item.putAll [7, 0] (Tree.items threeLevels)).length < [7, 0].length + lengthLimit := by
    decide +kernel
  exact ⟨short, elements_correspond.2.2 [7, 0] threeLevels short⟩

end Directory.Wire
