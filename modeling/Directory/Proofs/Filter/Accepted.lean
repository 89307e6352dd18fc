import Directory.Proofs.Filter.ReadBack
import Directory.Proofs.Wire.Accepted
/-!
The octets that a filter is read from. They are those that the filter is written as, with one exception:
a pattern of an initial and a final part alone may have the final part first. Nothing else has two forms.
-/
namespace Directory

namespace Wire.Item

def tag : Item → UInt8
  | octets tag _ | number tag _ | group tag _ => tag
  | flag _ => Tag.boolean

mutual
def inOrder : Item → Bool
  | group tag items =>
    (tag != Tag.sequence || decide ((items.map Item.tag).Pairwise (· ≤ ·))) && allInOrder items
  | _ => true
def allInOrder : List Item → Bool
  | [] => true
  | item :: rest => inOrder item && allInOrder rest
end

end Wire.Item

namespace Filter

open Wire

def Parts.items (parts : Parts) : List Item :=
  Item.optional Tag.initialPart parts.initial ++ parts.middle.map (Item.octets Tag.middlePart) ++
    Item.optional Tag.finalPart parts.final

inductive Forms : Filter → Item → Prop where
  | all {filters : List Filter} {items : List Item} :
      List.Forall₂ Forms filters items → Forms (.all filters) (.group Tag.filterAll items)
  | any {filters : List Filter} {items : List Item} :
      List.Forall₂ Forms filters items → Forms (.any filters) (.group Tag.filterAny items)
  | not {filter : Filter} {item : Item} :
      Forms filter item → Forms (.not filter) (.group Tag.filterNot [item])
  | compare (comparison : Comparison) (attr : String) (value : Octets) :
      Forms (.compare comparison attr value) (item (.compare comparison attr value))
  | present (attr : String) : Forms (.present attr) (item (.present attr))
  | ordered (attr : String) (initial : Option Octets) (middle : List Octets) (final : Option Octets) :
      Forms (.substrings attr initial middle final) (item (.substrings attr initial middle final))
  -- The initial part is not refused after the final one, as long as there is none between them.
  | turned (attr : String) (initial final : Octets) :
      Forms (.substrings attr (some initial) [] (some final))
        (.group Tag.filterSubstrings [.text Tag.octetString attr,
          .group Tag.sequence [.octets Tag.finalPart final, .octets Tag.initialPart initial]])

/-- The parts that were read are written in this order, or they are two and were turned. -/
def Arranged (parts : Parts) (items : List Item) : Prop :=
  items = parts.items ∨ ∃ initial final, parts = ⟨some initial, [], some final⟩ ∧
    items = [.octets Tag.finalPart final, .octets Tag.initialPart initial]

theorem readPart_ok {before after : Parts} {input rest : Octets}
    (read : (readPart before).run input = (.ok after, rest)) :
    ∃ tag content, input = (Item.octets tag content).write ++ rest ∧
      (tag = Tag.initialPart ∧ before.initial = none ∧ before.middle = [] ∧
          after = { before with initial := some content } ∨
        tag = Tag.middlePart ∧ before.final = none ∧
          after = { before with middle := before.middle ++ [content] } ∨
        tag = Tag.finalPart ∧ before.final = none ∧ after = { before with final := some content }) := by
  obtain ⟨⟨tag, content⟩, left, taken, read⟩ := Reading.run_bind_ok_iff.mp read
  have split := Reading.any_ok taken
  dsimp only at read
  split at read
  · next first =>
    obtain ⟨rfl, rfl⟩ := Reading.pure_ok read
    obtain ⟨same, unset, none⟩ := first
    refine ⟨tag, content, split, .inl ⟨same, ?_, ?_, rfl⟩⟩
    · exact Option.isNone_iff_eq_none.mp unset
    · exact List.isEmpty_iff.mp none
  · split at read
    · next between =>
      obtain ⟨rfl, rfl⟩ := Reading.pure_ok read
      obtain ⟨same, unset⟩ := between
      exact ⟨tag, content, split, .inr (.inl ⟨same, Option.isNone_iff_eq_none.mp unset, rfl⟩)⟩
    · split at read
      · next last =>
        obtain ⟨rfl, rfl⟩ := Reading.pure_ok read
        obtain ⟨same, unset⟩ := last
        exact ⟨tag, content, split, .inr (.inr ⟨same, Option.isNone_iff_eq_none.mp unset, rfl⟩)⟩
      · cases read

theorem follows_readPart : Reading.Follows readPart Arranged := by
  intro before items input after rest arranged read
  obtain ⟨tag, content, split, first | between | last⟩ := readPart_ok read
  · obtain ⟨rfl, unset, none, rfl⟩ := first
    refine ⟨_, split, ?_⟩
    rcases arranged with rfl | ⟨_, _, rfl, _⟩
    · obtain ⟨initial, middle, final⟩ := before
      obtain rfl : initial = Option.none := unset
      obtain rfl : middle = [] := none
      cases final with
      | none => exact .inl rfl
      -- Only the final part was there, and now the two are turned.
      | some final => exact .inr ⟨content, final, rfl, rfl⟩
    · cases unset
  · obtain ⟨rfl, open_, rfl⟩ := between
    refine ⟨_, split, ?_⟩
    rcases arranged with rfl | ⟨_, _, rfl, _⟩
    · left
      simp [Parts.items, open_, Item.optional]
    · cases open_
  · obtain ⟨rfl, open_, rfl⟩ := last
    refine ⟨_, split, ?_⟩
    rcases arranged with rfl | ⟨_, _, rfl, _⟩
    · left
      simp [Parts.items, open_, Item.optional]
    · cases open_

theorem readSubstrings_ok {input rest : Octets} {filter : Filter}
    (read : readSubstrings.run input = (.ok filter, rest)) :
    ∃ item, Forms filter (.group Tag.filterSubstrings item) ∧ input = Item.writeAll item ++ rest := by
  obtain ⟨attr, _, named, read⟩ := Reading.run_bind_ok_iff.mp read
  obtain ⟨content, _, taken, read⟩ := Reading.run_bind_ok_iff.mp read
  obtain ⟨parts, _, inside, read⟩ := Reading.run_bind_ok_iff.mp read
  obtain ⟨rfl, rfl⟩ := Reading.pure_ok read
  obtain ⟨rfl, _, inside⟩ := Reading.within_ok inside
  obtain ⟨items, rfl, arranged⟩ := Reading.steps_ok follows_readPart (.inl rfl) inside
  have written : input = Item.writeAll [.text Tag.octetString attr, .group Tag.sequence items] ++ rest := by
    rw [Reading.text_ok named, Reading.element_ok taken]
    simp [Item.writeAll, Item.write]
  refine ⟨_, ?_, written⟩
  rcases arranged with rfl | ⟨initial, final, rfl, rfl⟩
  · exact .ordered attr parts.initial parts.middle parts.final
  · exact .turned attr initial final

theorem readCompare_ok {comparison : Comparison} {input rest : Octets} {filter : Filter}
    (read : (readCompare comparison).run input = (.ok filter, rest)) :
    ∃ attr value, filter = .compare comparison attr value ∧
      input = Item.writeAll [.text Tag.octetString attr, .octets Tag.octetString value] ++ rest := by
  obtain ⟨attr, _, named, read⟩ := Reading.run_bind_ok_iff.mp read
  obtain ⟨value, _, taken, read⟩ := Reading.run_bind_ok_iff.mp read
  obtain ⟨rfl, rfl⟩ := Reading.pure_ok read
  refine ⟨attr, value, rfl, ?_⟩
  rw [Reading.text_ok named, Reading.element_ok taken]
  simp [Item.writeAll, Item.write]

theorem Comparison.tag_of_ofTag? {tag : UInt8} {comparison : Comparison}
    (found : Comparison.ofTag? tag = some comparison) : comparison.tag = tag := by
  simpa using List.find?_some found

/-- A filter is read from one of its forms. -/
theorem accepts_read (levels : Nat) : (read levels).Accepts Forms := by
  induction levels with
  | zero =>
    intro input filter rest accepted
    cases accepted
  | succ levels ih =>
    have inner {content input rest : Octets} {filters : List Filter}
        (read : (Reading.whole content (Reading.many (read levels))).run input = (.ok filters, rest)) :
        rest = input ∧ ∃ items, List.Forall₂ Forms filters items ∧ content = Item.writeAll items := by
      obtain ⟨same, read⟩ := Reading.whole_ok read
      exact ⟨same, (Reading.many_ok ih read).2⟩
    intro input filter rest accepted
    obtain ⟨⟨tag, content⟩, left, taken, accepted⟩ := Reading.run_bind_ok_iff.mp accepted
    have split := Reading.any_ok taken
    dsimp only at accepted
    split at accepted
    · next all =>
      obtain ⟨filters, _, read, done⟩ := Reading.run_bind_ok_iff.mp accepted
      obtain ⟨rfl, rfl⟩ := Reading.pure_ok done
      obtain ⟨rfl, items, forms, rfl⟩ := inner read
      exact ⟨_, .all forms, by rw [split, all]; rfl⟩
    split at accepted
    · next any =>
      obtain ⟨filters, _, read, done⟩ := Reading.run_bind_ok_iff.mp accepted
      obtain ⟨rfl, rfl⟩ := Reading.pure_ok done
      obtain ⟨rfl, items, forms, rfl⟩ := inner read
      exact ⟨_, .any forms, by rw [split, any]; rfl⟩
    split at accepted
    · next not =>
      obtain ⟨filter, _, read, done⟩ := Reading.run_bind_ok_iff.mp accepted
      obtain ⟨rfl, rfl⟩ := Reading.pure_ok done
      obtain ⟨rfl, inside⟩ := Reading.whole_ok read
      obtain ⟨item, formed, same⟩ := ih _ _ _ inside
      exact ⟨_, .not formed, by rw [split, not, same, ← Item.writeAll_singleton, List.append_nil]; rfl⟩
    split at accepted
    · next present =>
      obtain ⟨attr, _, read, done⟩ := Reading.run_bind_ok_iff.mp accepted
      obtain ⟨rfl, rfl⟩ := Reading.pure_ok done
      obtain ⟨decoded, rfl⟩ := Reading.lift_ok read
      exact ⟨_, .present attr, by rw [split, present, Reading.asText_ok decoded]; rfl⟩
    split at accepted
    · next substrings =>
      obtain ⟨rfl, read⟩ := Reading.whole_ok accepted
      obtain ⟨items, formed, same⟩ := readSubstrings_ok read
      exact ⟨_, formed, by rw [split, substrings, same, List.append_nil]; rfl⟩
    split at accepted
    · next comparison found =>
      obtain ⟨rfl, read⟩ := Reading.whole_ok accepted
      obtain ⟨attr, value, rfl, same⟩ := readCompare_ok read
      refine ⟨_, .compare comparison attr value, ?_⟩
      rw [split, same, List.append_nil, ← Comparison.tag_of_ofTag? found]
      rfl
    · cases accepted

theorem length_group {tag : UInt8} {items others : List Item}
    (same : (Item.writeAll items).length = (Item.writeAll others).length) :
    (Item.group tag items).write.length = (Item.group tag others).write.length := by
  rw [Item.write, Item.write, length_element, length_element, same]

theorem write_group_eq_iff {tag : UInt8} {items others : List Item} :
    (Item.group tag items).write = (Item.group tag others).write ↔
      Item.writeAll items = Item.writeAll others := by
  constructor
  · intro same
    have contents := congrArg (List.drop 5) same
    simpa [Item.write, Wire.element, Octets.ofNumber] using contents
  · intro same
    rw [Item.write, Item.write, same]

mutual
theorem Forms.length_write {filter : Filter} {item : Item} (formed : filter.Forms item) :
    item.write.length = filter.item.write.length := by
  cases formed with
  | all forms => exact length_group (length_writeAll forms)
  | any forms => exact length_group (length_writeAll forms)
  | not formed =>
    apply length_group
    rw [Item.writeAll_singleton, Item.writeAll_singleton, formed.length_write]
  | compare => rfl
  | present => rfl
  | ordered => rfl
  | turned attr initial final =>
    simp [Filter.item, Item.write, Item.writeAll, Item.optional, length_element]
    omega
theorem length_writeAll {filters : List Filter} {items : List Item}
    (forms : List.Forall₂ Forms filters items) :
    (Item.writeAll items).length = (Item.writeAll (Filter.items filters)).length := by
  cases forms with
  | nil => rfl
  | cons formed forms =>
    rw [Item.writeAll, Filter.items, Item.writeAll, List.length_append, List.length_append,
      formed.length_write, length_writeAll forms]
end

theorem tags_items (parts : Parts) :
    parts.items.map Item.tag = (parts.initial.toList.map fun _ => Tag.initialPart) ++
      List.replicate parts.middle.length Tag.middlePart ++
      (parts.final.toList.map fun _ => Tag.finalPart) := by
  obtain ⟨initial, middle, final⟩ := parts
  cases initial <;> cases final <;> simp [Parts.items, Item.optional, Item.tag, Function.comp_def]

theorem pairwise_tags (parts : Parts) : (parts.items.map Item.tag).Pairwise (· ≤ ·) := by
  have first : Tag.initialPart ≤ Tag.middlePart := by decide
  have last : Tag.middlePart ≤ Tag.finalPart := by decide
  have ends : Tag.initialPart ≤ Tag.finalPart := by decide
  rw [tags_items]
  cases parts.initial <;> cases parts.final <;>
    simp +contextual [List.pairwise_append, or_imp, first, last, ends]

theorem allInOrder_of_leaves {items : List Item}
    (leaves : ∀ item ∈ items, ∃ tag content, item = .octets tag content) :
    Item.allInOrder items = true := by
  induction items with
  | nil => rfl
  | cons item rest ih =>
    obtain ⟨tag, content, rfl⟩ := leaves item List.mem_cons_self
    exact ih fun other member => leaves other (List.mem_cons_of_mem _ member)

theorem inOrder_parts (parts : Parts) : (Item.group Tag.sequence parts.items).inOrder = true := by
  have leaves : ∀ item ∈ parts.items, ∃ tag content, item = .octets tag content := by
    obtain ⟨initial, middle, final⟩ := parts
    intro item member
    cases initial <;> cases final <;> grind [Parts.items, Item.optional]
  simp [Item.inOrder, pairwise_tags parts, allInOrder_of_leaves leaves]

/-- Only the parts of a pattern come in a sequence, and only their order counts. -/
theorem inOrder_group {tag : UInt8} (other : tag ≠ Tag.sequence) (items : List Item) :
    (Item.group tag items).inOrder = Item.allInOrder items := by
  simp [Item.inOrder, other]

theorem inOrder_substrings (attr : String) (initial : Option Octets) (middle : List Octets)
    (final : Option Octets) : (item (.substrings attr initial middle final)).inOrder = true := by
  have parts := inOrder_parts ⟨initial, middle, final⟩
  rw [item, inOrder_group (by decide), Item.allInOrder, Item.allInOrder]
  simpa [Item.allInOrder, Item.inOrder, Item.text, Parts.items] using parts

theorem inOrder_turned (attr : String) (initial final : Octets) :
    (Item.group Tag.filterSubstrings [.text Tag.octetString attr, .group Tag.sequence
      [.octets Tag.finalPart final, .octets Tag.initialPart initial]]).inOrder = false := by
  rw [inOrder_group (by decide)]
  rfl

theorem write_turned_ne (attr : String) (initial final : Octets) :
    (Item.group Tag.filterSubstrings [.text Tag.octetString attr, .group Tag.sequence
      [.octets Tag.finalPart final, .octets Tag.initialPart initial]]).write ≠
      (item (.substrings attr (some initial) [] (some final))).write := by
  intro same
  have parts := List.append_cancel_left (write_group_eq_iff.mp same)
  rw [Item.writeAll_singleton, Item.writeAll_singleton, write_group_eq_iff] at parts
  have heads : some Tag.finalPart = some Tag.initialPart := congrArg List.head? parts
  exact absurd heads (by decide)

mutual
/-- The form that is written is the one in which all parts stand in order. -/
theorem Forms.write_eq_iff {filter : Filter} {item : Item} (formed : filter.Forms item) :
    item.write = filter.item.write ↔ item.inOrder = true := by
  cases formed with
  | all forms =>
    rw [inOrder_group (by decide), ← writeAll_eq_iff forms]
    exact write_group_eq_iff
  | any forms =>
    rw [inOrder_group (by decide), ← writeAll_eq_iff forms]
    exact write_group_eq_iff
  | not formed =>
    rw [inOrder_group (by decide), Item.allInOrder, Item.allInOrder, Bool.and_true, ← formed.write_eq_iff]
    rw [Filter.item, write_group_eq_iff, Item.writeAll_singleton, Item.writeAll_singleton]
  | compare comparison => cases comparison <;> exact iff_of_true rfl rfl
  | present => exact iff_of_true rfl rfl
  | ordered attr initial middle final =>
    exact iff_of_true rfl (inOrder_substrings attr initial middle final)
  | turned attr initial final =>
    rw [inOrder_turned]
    exact iff_of_false (write_turned_ne attr initial final) Bool.false_ne_true
theorem writeAll_eq_iff {filters : List Filter} {items : List Item}
    (forms : List.Forall₂ Forms filters items) :
    Item.writeAll items = Item.writeAll (Filter.items filters) ↔ Item.allInOrder items = true := by
  cases forms with
  | nil => exact iff_of_true rfl rfl
  | cons formed forms =>
    rw [Item.writeAll, Filter.items, Item.writeAll, Item.allInOrder, Bool.and_eq_true,
      ← formed.write_eq_iff, ← writeAll_eq_iff forms]
    constructor
    -- Every form of a filter is as long as the written one, so that the rest begins at the same place.
    · intro same
      exact List.append_inj same formed.length_write
    · rintro ⟨first, others⟩
      rw [first, others]
end

/-- The octets that a filter is read from are those that it is written as, unless the final part of a
pattern in them stands before its initial part. -/
theorem canonical_iff_inOrder {input rest : Octets} {filter : Filter}
    (accepted : (read maxDepth).run input = (.ok filter, rest)) :
    ∃ item, filter.Forms item ∧ input = item.write ++ rest ∧
      (input = filter.item.write ++ rest ↔ item.inOrder = true) := by
  obtain ⟨item, formed, rfl⟩ := accepts_read maxDepth _ _ _ accepted
  refine ⟨item, formed, rfl, ?_⟩
  rw [List.append_cancel_right_eq]
  exact formed.write_eq_iff

def bounded : Filter := .substrings "cn" (some [97]) [] (some [122])

def boundedTurned : Item :=
  .group Tag.filterSubstrings [.text Tag.octetString "cn", .group Tag.sequence
    [.octets Tag.finalPart [122], .octets Tag.initialPart [97]]]

def unbounded : Filter := .all [.not bounded, .present "cn"]

def unboundedTurned : Item :=
  .group Tag.filterAll [.group Tag.filterNot [boundedTurned], (Filter.present "cn").item]

theorem canonical_unbounded :
    (read maxDepth).run (unboundedTurned.write ++ [7]) = (.ok unbounded, [7]) ∧
      ∃ item, unbounded.Forms item ∧ unboundedTurned.write ++ [7] = item.write ++ [7] ∧
        (unboundedTurned.write ++ [7] = unbounded.item.write ++ [7] ↔ item.inOrder = true) := by
  have accepted : (read maxDepth).run (unboundedTurned.write ++ [7]) = (.ok unbounded, [7]) := by
    decide +kernel
  exact ⟨accepted, canonical_iff_inOrder accepted⟩

/-- Two elements from which one filter is read. -/
theorem bounded_read_turned :
    (read maxDepth).run bounded.item.write = (.ok bounded, []) ∧
      (read maxDepth).run boundedTurned.write = (.ok bounded, []) ∧
      boundedTurned.write ≠ bounded.item.write := by
  decide +kernel

end Filter

end Directory
