import Directory.Wire.Item
import Directory.Wire.Reader
/-!
What was written is read back. `Takes` relates a reading to the octets that one item became: the
reading takes exactly these, gives the value they were written for, and leaves the rest.
The length of a content travels as four octets, so that this can hold only below `lengthLimit`. The
bound stands inside the relation: the octets of a whole bound those of its parts.
-/
namespace Directory

theorem Octets.number_eq_of_ofNumber {a b c d : UInt8} {n : UInt32} (written : [a, b, c, d] = ofNumber n) :
    number a b c d = n := by
  have read := number?_ofNumber n
  rwa [← written, number?, Option.some.injEq] at read

namespace Wire

def lengthLimit : Nat := 4294967296

/-- A length below the limit is counted in full. -/
theorem toNat_length {content : Octets} (short : content.length < lengthLimit) :
    (UInt32.ofNat content.length).toNat = content.length := by
  rw [UInt32.toNat_ofNat']
  exact Nat.mod_eq_of_lt short

namespace Reading

/-- From `octets` with `rest` behind them, the reading takes `octets` and gives `a`. -/
def Takes (reading : Reading α) (octets : Octets) (a : α) (rest : Octets) : Prop :=
  octets.length < lengthLimit → reading.run (octets ++ rest) = (.ok a, rest)

theorem takes_pure (a : α) (rest : Octets) : (pure a : Reading α).Takes [] a rest :=
  fun _ => rfl

theorem Takes.bind {reading : Reading α} {next : α → Reading β} {xs ys rest : Octets} {a : α} {b : β}
    (first : reading.Takes xs a (ys ++ rest)) (second : (next a).Takes ys b rest) :
    (reading >>= next).Takes (xs ++ ys) b rest := by
  intro short
  rw [List.length_append] at short
  rw [run_bind, List.append_assoc, first (by omega)]
  exact second (by omega)

/-- A step that takes nothing. -/
theorem Takes.bind_nil {reading : Reading α} {next : α → Reading β} {xs rest : Octets} {a : α} {b : β}
    (first : reading.Takes [] a (xs ++ rest)) (second : (next a).Takes xs b rest) :
    (reading >>= next).Takes xs b rest :=
  first.bind second

theorem Takes.bind_last {reading : Reading α} {next : α → Reading β} {xs rest : Octets} {a : α} {b : β}
    (first : reading.Takes xs a rest) (second : (next a).Takes [] b rest) :
    (reading >>= next).Takes xs b rest := by
  have both : (reading >>= next).Takes (xs ++ []) b rest := first.bind second
  rwa [List.append_nil] at both

theorem Takes.map {reading : Reading α} {f : α → β} {xs rest : Octets} {a : α}
    (taken : reading.Takes xs a rest) : (do return f (← reading)).Takes xs (f a) rest :=
  taken.bind_last (takes_pure _ _)

theorem takes_lift {result : Except Fault α} {a : α} (h : result = .ok a) (rest : Octets) :
    (liftM result : Reading α).Takes [] a rest := by
  subst h
  exact fun _ => rfl

theorem any_run_element (tag : UInt8) (content rest : Octets) :
    any.run (Wire.element tag content ++ rest) =
      if (content ++ rest).length < (UInt32.ofNat content.length).toNat then
        (.error (.truncated (.content tag (UInt32.ofNat content.length).toNat
          (content ++ rest).length)), Wire.element tag content ++ rest)
      else
        (.ok (tag, (content ++ rest).take (UInt32.ofNat content.length).toNat),
          (content ++ rest).drop (UInt32.ofNat content.length).toNat) := by
  have counted := Octets.number?_ofNumber (UInt32.ofNat content.length)
  simp only [Octets.ofNumber, Octets.number?, Option.some.injEq] at counted
  rw [← counted]
  rfl

theorem any_run_of_short {content : Octets} (short : content.length < lengthLimit) (tag : UInt8)
    (rest : Octets) : any.run (Wire.element tag content ++ rest) = (.ok (tag, content), rest) := by
  rw [any_run_element, toNat_length short]
  simp

theorem takes_any (tag : UInt8) (content rest : Octets) :
    any.Takes (Wire.element tag content) (tag, content) rest := by
  intro short
  rw [length_element] at short
  exact any_run_of_short (by omega) tag rest

theorem run_peek (input : Octets) : peek.run input = (.ok input.head?, input) := rfl

theorem run_isEmpty (input : Octets) : isEmpty.run input = (.ok input.isEmpty, input) := rfl

theorem head_element (tag : UInt8) (content rest : Octets) :
    (Wire.element tag content ++ rest).head? = some tag := rfl

theorem element_run_of_short {tag : UInt8} {content : Octets} (short : content.length < lengthLimit)
    (rest : Octets) : (element tag).run (Wire.element tag content ++ rest) = (.ok content, rest) := by
  simp only [element, run_bind, run_peek, head_element, if_true, any_run_of_short short, run_pure]

theorem takes_element (tag : UInt8) (content rest : Octets) :
    (element tag).Takes (Wire.element tag content) content rest := by
  intro short
  rw [length_element] at short
  exact element_run_of_short (by omega) rest

/-- What follows an element may count on the bound for its content. -/
theorem takes_element_bind {tag : UInt8} {content ys rest : Octets} {next : Octets → Reading β} {b : β}
    (later : content.length < lengthLimit → (next content).Takes ys b rest) :
    (element tag >>= next).Takes (Wire.element tag content ++ ys) b rest := by
  intro short
  have parts := short
  rw [List.length_append, length_element] at parts
  exact (takes_element tag content _).bind (later (by omega)) short

theorem takes_element_bind_last {tag : UInt8} {content rest : Octets} {next : Octets → Reading β} {b : β}
    (later : content.length < lengthLimit → (next content).Takes [] b rest) :
    (element tag >>= next).Takes (Wire.element tag content) b rest := by
  rw [← List.append_nil (Wire.element tag content)]
  exact takes_element_bind later

theorem takes_any_bind {tag : UInt8} {content rest : Octets} {next : UInt8 × Octets → Reading β} {b : β}
    (later : content.length < lengthLimit → (next (tag, content)).Takes [] b rest) :
    (any >>= next).Takes (Wire.element tag content) b rest := by
  intro short
  have part := short
  rw [length_element] at part
  exact (takes_any tag content rest).bind_last (later (by omega)) short

/-- What an optional element is told from: the next element carries another tag, or there is none. -/
def NotNext (tag : UInt8) (rest : Octets) : Prop := rest.head? ≠ some tag

theorem notNext_nil (tag : UInt8) : NotNext tag [] := nofun

theorem notNext_element {tag other : UInt8} (different : other ≠ tag) (content rest : Octets) :
    NotNext tag (Wire.element other content ++ rest) := by
  unfold NotNext
  rw [head_element]
  simpa using different

theorem notNext_optional {tag other : UInt8} (different : other ≠ tag) (content : Option Octets)
    {rest : Octets} (absent : NotNext tag rest) :
    NotNext tag (Item.writeAll (Item.optional other content) ++ rest) := by
  cases content with
  | none => exact absent
  | some octets => exact notNext_element different octets rest

theorem takes_optional_none {tag : UInt8} {rest : Octets} (absent : NotNext tag rest) :
    (optional tag).Takes [] none rest := by
  intro _
  simp only [List.nil_append, optional, run_bind, run_peek, if_neg absent, run_pure]

theorem takes_optional_some (tag : UInt8) (content rest : Octets) :
    (optional tag).Takes (Wire.element tag content) (some content) rest := by
  intro short
  have taken := takes_any tag content rest short
  simp only [optional, run_bind, run_peek, head_element, if_true, taken, run_pure]

theorem takes_optional_bind {tag : UInt8} {content rest : Octets} {next : Option Octets → Reading β}
    {b : β} (later : content.length < lengthLimit → (next (some content)).Takes [] b rest) :
    (optional tag >>= next).Takes (Wire.element tag content) b rest := by
  intro short
  have part := short
  rw [length_element] at part
  exact (takes_optional_some tag content rest).bind_last (later (by omega)) short

theorem takes_optional (tag : UInt8) (content : Option Octets) {rest : Octets}
    (absent : NotNext tag rest) :
    (optional tag).Takes (Item.writeAll (Item.optional tag content)) content rest := by
  cases content with
  | none => exact takes_optional_none absent
  | some octets =>
    simp only [Item.optional, Item.writeAll, Item.write, List.append_nil]
    exact takes_optional_some tag octets rest

theorem asNumber_ofNumber (tag : UInt8) (n : UInt32) : asNumber tag (Octets.ofNumber n) = .ok n := by
  rw [asNumber, Octets.number?_ofNumber]

theorem takes_number (tag : UInt8) (n : UInt32) (rest : Octets) :
    (number tag).Takes (Item.number tag n).write n rest :=
  (takes_element tag (Octets.ofNumber n) rest).bind_last (takes_lift (asNumber_ofNumber tag n) rest)

theorem takes_flag (value : Bool) (rest : Octets) : flag.Takes (Item.flag value).write value rest := by
  refine (takes_element Tag.boolean [if value then 0xff else 0x00] rest).bind_last (takes_lift ?_ rest)
  cases value <;> rfl

theorem asText_ofText (text : String) : asText (Octets.ofText text) = .ok text := by
  simp [asText, Octets.text?_ofText]

theorem takes_text (tag : UInt8) (text : String) (rest : Octets) :
    (Reading.text tag).Takes (Item.text tag text).write text rest :=
  (takes_element tag (Octets.ofText text) rest).bind_last (takes_lift (asText_ofText text) rest)

/-- Inside the content of an element, all of which is taken. -/
theorem takes_within {content : Octets} {inner : Reading α} {a : α}
    (short : content.length < lengthLimit) (inside : inner.Takes content a []) (rest : Octets) :
    (within content inner).Takes [] a rest := by
  intro _
  have read := inside short
  rw [List.append_nil] at read
  show ((inner.run content).1, rest) = _
  rw [read]

theorem takes_finish (a : α) : (do finish; return a : Reading α).Takes [] a [] := fun _ => rfl

theorem takes_whole {content : Octets} {inner : Reading α} {a : α}
    (short : content.length < lengthLimit) (inside : inner.Takes content a []) (rest : Octets) :
    (whole content inner).Takes [] a rest :=
  takes_within short (inside.bind_last (takes_finish a)) rest

end Reading

namespace Item

theorem write_ne_nil (item : Item) : item.write ≠ [] := by
  cases item <;> simp [write, element]

theorem writeAll_singleton (item : Item) : writeAll [item] = item.write := by
  rw [writeAll, writeAll, List.append_nil]

theorem length_le_length_writeAll (items : List Item) :
    items.length ≤ (writeAll items).length := by
  induction items with
  | nil => simp [writeAll]
  | cons item rest ih =>
    have written := List.length_pos_iff.mpr (write_ne_nil item)
    simp only [writeAll, List.length_cons, List.length_append]
    omega

theorem length_write_le_of_mem {item : Item} {items : List Item} (member : item ∈ items) :
    item.write.length ≤ (writeAll items).length := by
  induction items with
  | nil => cases member
  | cons first rest ih =>
    simp only [writeAll, List.length_append]
    rcases List.mem_cons.mp member with same | later
    · subst same
      omega
    · have := ih later
      omega

end Item

namespace Reading

inductive Chain (step : β → Reading β) : β → List Item → β → Prop where
  | nil (state : β) : Chain step state [] state
  | cons {before middle after : β} {item : Item} {items : List Item}
      (first : ∀ rest, (step before).Takes item.write middle rest)
      (others : Chain step middle items after) : Chain step before (item :: items) after

theorem Chain.append {step : β → Reading β} {before middle after : β} {xs ys : List Item}
    (first : Chain step before xs middle) (second : Chain step middle ys after) :
    Chain step before (xs ++ ys) after := by
  induction first with
  | nil => exact second
  | cons one _ ih => exact .cons one (ih second)

theorem takes_stepsUpTo {step : β → Reading β} {before after : β} {items : List Item}
    (chain : Chain step before items after) {fuel : Nat} (enough : items.length ≤ fuel) :
    (stepsUpTo step fuel before).Takes (Item.writeAll items) after [] := by
  induction chain generalizing fuel with
  | nil state =>
    cases fuel with
    | zero => exact takes_pure _ _
    | succ fuel => exact fun _ => rfl
  | cons first _ ih =>
    cases fuel with
    | zero => simp at enough
    | succ fuel =>
      rename_i item items _
      have taken := (first (Item.writeAll items ++ [])).bind (ih (Nat.le_of_succ_le_succ enough))
      intro short
      have present : (Item.writeAll (item :: items) ++ []).isEmpty = false := by
        simp [Item.writeAll, Item.write_ne_nil]
      rw [stepsUpTo, run_bind isEmpty, run_isEmpty, present]
      exact taken short

theorem takes_steps {step : β → Reading β} {start final : β} {items : List Item}
    (chain : Chain step start items final) :
    (steps step start).Takes (Item.writeAll items) final [] := by
  intro short
  have taken := takes_stepsUpTo chain (Item.length_le_length_writeAll items) short
  rw [List.append_nil] at taken ⊢
  exact taken

theorem takes_manyUpTo {reading : Reading α} {item : α → Item} {xs : List α}
    (each : ∀ x ∈ xs, ∀ rest, reading.Takes (item x).write x rest) {fuel : Nat}
    (enough : xs.length ≤ fuel) :
    (manyUpTo reading fuel).Takes (Item.writeAll (xs.map item)) xs [] := by
  induction xs generalizing fuel with
  | nil =>
    cases fuel with
    | zero => exact takes_pure _ _
    | succ fuel => exact fun _ => rfl
  | cons x xs ih =>
    cases fuel with
    | zero => simp at enough
    | succ fuel =>
      have others : (manyUpTo reading fuel).Takes (Item.writeAll (xs.map item)) xs [] :=
        ih (fun y member => each y (List.mem_cons_of_mem x member)) (Nat.le_of_succ_le_succ enough)
      have taken : Takes (do return (← reading) :: (← manyUpTo reading fuel))
          ((item x).write ++ Item.writeAll (xs.map item)) (x :: xs) [] :=
        (each x List.mem_cons_self _).bind others.map
      intro short
      have present : (Item.writeAll ((x :: xs).map item) ++ []).isEmpty = false := by
        simp [Item.writeAll, Item.write_ne_nil]
      rw [manyUpTo, run_bind isEmpty, run_isEmpty, present]
      exact taken short

theorem takes_many {reading : Reading α} {item : α → Item} {xs : List α}
    (each : ∀ x ∈ xs, ∀ rest, reading.Takes (item x).write x rest) :
    (many reading).Takes (Item.writeAll (xs.map item)) xs [] := by
  intro short
  have enough := Item.length_le_length_writeAll (xs.map item)
  rw [List.length_map] at enough
  have taken := takes_manyUpTo each enough short
  rw [List.append_nil] at taken ⊢
  exact taken

end Reading

end Wire

end Directory
