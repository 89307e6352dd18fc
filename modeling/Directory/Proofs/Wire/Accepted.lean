import Directory.Proofs.Wire.ReadBack
import Mathlib.Data.List.Forall2
/-!
What a reading accepts. From a result one goes back to the octets that it was read from: an element that
was taken is its tag, its length and its content, so that the octets that were taken are those of items.
-/
namespace Directory.Wire.Reading

theorem run_bind_ok_iff {reading : Reading α} {next : α → Reading β} {input rest : Octets} {b : β} :
    (reading >>= next).run input = (.ok b, rest) ↔
      ∃ a middle, reading.run input = (.ok a, middle) ∧ (next a).run middle = (.ok b, rest) := by
  rw [run_bind]
  rcases reading.run input with ⟨_ | a, middle⟩
  · simp
  · simp

theorem any_ok {input content rest : Octets} {tag : UInt8}
    (taken : any.run input = (.ok (tag, content), rest)) : input = Wire.element tag content ++ rest := by
  simp only [any, run] at taken
  split at taken
  · next found a b c d tail =>
    split at taken
    · cases taken
    · next enough =>
      cases taken
      -- The content is as long as was declared, so that its length is written as it was read.
      have counted : UInt32.ofNat (tail.take (Octets.number a b c d).toNat).length =
          Octets.number a b c d := by
        rw [List.length_take, Nat.min_eq_left (Nat.le_of_not_lt enough), UInt32.ofNat_toNat]
      rw [Wire.element, counted, Octets.ofNumber_number, List.cons_append, List.append_assoc,
        List.take_append_drop]
      rfl
  · cases taken

/-- No content is longer than four octets can tell. -/
theorem any_short {input content rest : Octets} {tag : UInt8}
    (taken : any.run input = (.ok (tag, content), rest)) : content.length < lengthLimit := by
  simp only [any, run] at taken
  split at taken
  · next a b c d tail =>
    split at taken
    · cases taken
    · cases taken
      exact Nat.lt_of_le_of_lt (List.length_take_le _ _) (Octets.number a b c d).toNat_lt
  · cases taken

/-- What was taken under its tag would have been taken under any. -/
theorem any_of_element {input content rest : Octets} {tag : UInt8}
    (taken : (element tag).run input = (.ok content, rest)) :
    any.run input = (.ok (tag, content), rest) := by
  obtain ⟨head, middle, peeked, taken⟩ := run_bind_ok_iff.mp taken
  rw [run_peek, Prod.mk.injEq, Except.ok.injEq] at peeked
  obtain ⟨rfl, rfl⟩ := peeked
  split at taken
  · cases taken
  · next found head =>
    split at taken
    · next same =>
      obtain ⟨⟨other, inner⟩, middle, taken, done⟩ := run_bind_ok_iff.mp taken
      cases done
      have split := any_ok taken
      rw [split, head_element, Option.some.injEq] at head
      rwa [head, same] at taken
    · cases taken

theorem element_ok {input content rest : Octets} {tag : UInt8}
    (taken : (element tag).run input = (.ok content, rest)) :
    input = Wire.element tag content ++ rest :=
  any_ok (any_of_element taken)

theorem optional_ok {input rest : Octets} {tag : UInt8} {found : Option Octets}
    (taken : (optional tag).run input = (.ok found, rest)) :
    input = Item.writeAll (Item.optional tag found) ++ rest := by
  obtain ⟨head, middle, peeked, taken⟩ := run_bind_ok_iff.mp taken
  rw [run_peek, Prod.mk.injEq, Except.ok.injEq] at peeked
  obtain ⟨rfl, rfl⟩ := peeked
  split at taken
  · next next =>
    obtain ⟨⟨other, content⟩, middle, taken, done⟩ := run_bind_ok_iff.mp taken
    cases done
    obtain rfl := any_ok taken
    rw [head_element, Option.some.injEq] at next
    rw [Item.optional, Item.writeAll_singleton, Item.write, next]
  · cases taken
    rfl

theorem lift_ok {result : Except Fault α} {input rest : Octets} {a : α}
    (given : (liftM result : Reading α).run input = (.ok a, rest)) : result = .ok a ∧ rest = input := by
  rw [run_lift, Prod.mk.injEq] at given
  exact ⟨given.1, given.2.symm⟩

theorem pure_ok {input rest : Octets} {a b : α}
    (given : (pure a : Reading α).run input = (.ok b, rest)) : b = a ∧ rest = input := by
  cases given
  exact ⟨rfl, rfl⟩

theorem asText_ok {content : Octets} {text : String} (read : asText content = .ok text) :
    content = Octets.ofText text := by
  unfold asText at read
  split at read
  · next found =>
    cases read
    exact Octets.text?_eq_some_iff.mp found
  · cases read

theorem text_ok {tag : UInt8} {input rest : Octets} {text : String}
    (read : (Reading.text tag).run input = (.ok text, rest)) :
    input = (Item.text tag text).write ++ rest := by
  obtain ⟨content, middle, taken, given⟩ := run_bind_ok_iff.mp read
  obtain ⟨decoded, rfl⟩ := lift_ok given
  rw [element_ok taken, asText_ok decoded]
  rfl

theorem number_ok {tag : UInt8} {input rest : Octets} {n : UInt32}
    (read : (number tag).run input = (.ok n, rest)) : input = (Item.number tag n).write ++ rest := by
  obtain ⟨content, middle, taken, given⟩ := run_bind_ok_iff.mp read
  obtain ⟨counted, rfl⟩ := lift_ok given
  unfold asNumber at counted
  split at counted
  · next found =>
    cases counted
    rw [element_ok taken, Item.write, Octets.ofNumber_of_number? found]
  · cases counted

theorem within_ok {content input rest : Octets} {inner : Reading α} {a : α}
    (read : (within content inner).run input = (.ok a, rest)) :
    rest = input ∧ ∃ left, inner.run content = (.ok a, left) := by
  simp only [within, run, Prod.mk.injEq] at read
  exact ⟨read.2.symm, _, Prod.ext read.1 rfl⟩

theorem finish_ok {input rest : Octets} (finished : finish.run input = (.ok (), rest)) : input = [] := by
  simp only [finish, run] at finished
  split at finished
  · next nothing => exact List.isEmpty_iff.mp nothing
  · cases finished

theorem whole_ok {content input rest : Octets} {inner : Reading α} {a : α}
    (read : (whole content inner).run input = (.ok a, rest)) :
    rest = input ∧ inner.run content = (.ok a, []) := by
  obtain ⟨same, left, read⟩ := within_ok read
  obtain ⟨b, middle, taken, read⟩ := run_bind_ok_iff.mp read
  obtain ⟨_, last, finished, done⟩ := run_bind_ok_iff.mp read
  obtain ⟨rfl, _⟩ := pure_ok done
  obtain rfl := finish_ok finished
  exact ⟨same, taken⟩

/-- Whatever the reading accepts begins with an item of this form, and the item is what is taken. -/
def Accepts (reading : Reading α) (form : α → Item → Prop) : Prop :=
  ∀ input a rest, reading.run input = (.ok a, rest) → ∃ item, form a item ∧ input = item.write ++ rest

theorem manyUpTo_ok {reading : Reading α} {form : α → Item → Prop} (accepts : reading.Accepts form)
    {fuel : Nat} {input rest : Octets} {found : List α} (enough : input.length ≤ fuel)
    (read : (manyUpTo reading fuel).run input = (.ok found, rest)) :
    rest = [] ∧ ∃ items, List.Forall₂ form found items ∧ input = Item.writeAll items := by
  induction fuel generalizing input found with
  | zero =>
    obtain rfl : input = [] := List.eq_nil_of_length_eq_zero (Nat.le_zero.mp enough)
    obtain ⟨rfl, rfl⟩ := pure_ok read
    exact ⟨rfl, [], .nil, rfl⟩
  | succ fuel ih =>
    rw [manyUpTo, run_bind, run_isEmpty] at read
    cases input with
    | nil =>
      obtain ⟨rfl, rfl⟩ := pure_ok read
      exact ⟨rfl, [], .nil, rfl⟩
    | cons octet others =>
      obtain ⟨first, middle, taken, read⟩ := run_bind_ok_iff.mp read
      obtain ⟨later, last, more, done⟩ := run_bind_ok_iff.mp read
      obtain ⟨rfl, rfl⟩ := pure_ok done
      obtain ⟨item, formed, split⟩ := accepts _ _ _ taken
      -- An item takes up octets, so that fewer are left than there is fuel.
      have some := List.length_pos_iff.mpr (Item.write_ne_nil item)
      have shorter : middle.length ≤ fuel := by
        rw [split, List.length_append] at enough
        omega
      obtain ⟨nothing, items, forms, same⟩ := ih shorter more
      exact ⟨nothing, item :: items, .cons formed forms, by rw [split, same, Item.writeAll]⟩

theorem many_ok {reading : Reading α} {form : α → Item → Prop} (accepts : reading.Accepts form)
    {input rest : Octets} {found : List α} (read : (many reading).run input = (.ok found, rest)) :
    rest = [] ∧ ∃ items, List.Forall₂ form found items ∧ input = Item.writeAll items :=
  manyUpTo_ok accepts (Nat.le_refl _) read

def Follows (step : β → Reading β) (trail : β → List Item → Prop) : Prop :=
  ∀ before items input after rest, trail before items → (step before).run input = (.ok after, rest) →
    ∃ item, input = item.write ++ rest ∧ trail after (items ++ [item])

theorem stepsUpTo_ok {step : β → Reading β} {trail : β → List Item → Prop} (follows : Follows step trail)
    {fuel : Nat} {before after : β} {items : List Item} {input rest : Octets}
    (enough : input.length ≤ fuel) (led : trail before items)
    (read : (stepsUpTo step fuel before).run input = (.ok after, rest)) :
    ∃ more, input = Item.writeAll more ∧ trail after (items ++ more) := by
  induction fuel generalizing before items input with
  | zero =>
    obtain rfl : input = [] := List.eq_nil_of_length_eq_zero (Nat.le_zero.mp enough)
    obtain ⟨rfl, rfl⟩ := pure_ok read
    exact ⟨[], rfl, by rwa [List.append_nil]⟩
  | succ fuel ih =>
    rw [stepsUpTo, run_bind, run_isEmpty] at read
    cases input with
    | nil =>
      obtain ⟨rfl, rfl⟩ := pure_ok read
      exact ⟨[], rfl, by rwa [List.append_nil]⟩
    | cons octet others =>
      obtain ⟨between, middle, taken, read⟩ := run_bind_ok_iff.mp read
      obtain ⟨item, split, onward⟩ := follows _ _ _ _ _ led taken
      have some := List.length_pos_iff.mpr (Item.write_ne_nil item)
      have shorter : middle.length ≤ fuel := by
        rw [split, List.length_append] at enough
        omega
      obtain ⟨more, same, last⟩ := ih shorter onward read
      refine ⟨item :: more, by rw [split, same, Item.writeAll], ?_⟩
      rwa [List.append_assoc, List.singleton_append] at last

theorem steps_ok {step : β → Reading β} {trail : β → List Item → Prop} (follows : Follows step trail)
    {start final : β} {input rest : Octets} (led : trail start [])
    (read : (steps step start).run input = (.ok final, rest)) :
    ∃ items, input = Item.writeAll items ∧ trail final items :=
  stepsUpTo_ok follows (Nat.le_refl _) led read

def Yields (reading : Reading α) (good : α → Prop) : Prop :=
  ∀ input a rest, reading.run input = (.ok a, rest) → good a

variable {reading : Reading α} {next : α → Reading β} {good : α → Prop} {fine : β → Prop}

theorem yields_pure {a : α} (h : good a) : (pure a : Reading α).Yields good := by
  intro input b rest given
  obtain ⟨rfl, _⟩ := pure_ok given
  exact h

theorem yields_defect (defect : Defect) : (Reading.defect defect : Reading α).Yields good := by
  intro input a rest given
  cases given

theorem Yields.bind (first : reading.Yields good) (second : ∀ a, good a → (next a).Yields fine) :
    (reading >>= next).Yields fine := by
  intro input b rest given
  obtain ⟨a, middle, taken, more⟩ := run_bind_ok_iff.mp given
  exact second a (first _ _ _ taken) _ _ _ more

/-- What was read first does not matter. -/
theorem yields_bind (second : ∀ a, (next a).Yields fine) : (reading >>= next).Yields fine := by
  intro input b rest given
  obtain ⟨a, middle, _, more⟩ := run_bind_ok_iff.mp given
  exact second a _ _ _ more

theorem Yields.within (inside : reading.Yields good) (content : Octets) :
    (within content reading).Yields good := by
  intro input a rest given
  obtain ⟨_, left, read⟩ := within_ok given
  exact inside _ _ _ read

theorem Yields.whole (inside : reading.Yields good) (content : Octets) :
    (whole content reading).Yields good := by
  intro input a rest given
  exact inside _ _ _ (whole_ok given).2

theorem yields_manyUpTo (each : reading.Yields good) (fuel : Nat) :
    (manyUpTo reading fuel).Yields fun found => ∀ a ∈ found, good a := by
  induction fuel with
  | zero => exact yields_pure nofun
  | succ fuel ih =>
    refine yields_bind fun isEmpty => ?_
    split
    · exact yields_pure nofun
    · refine each.bind fun first kind => ih.bind fun others kinds => ?_
      exact yields_pure (List.forall_mem_cons.mpr ⟨kind, kinds⟩)

theorem Yields.many (each : reading.Yields good) :
    (many reading).Yields fun found => ∀ a ∈ found, good a := by
  intro input found rest given
  exact yields_manyUpTo each input.length input found rest given

end Directory.Wire.Reading
