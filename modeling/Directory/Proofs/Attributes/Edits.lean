import Directory.Proofs.Attributes
/-!
Collections of attributes under edits. A register says what stands under each name, in whatever spelling the name
is asked for, and an edit is an entry in it. After any edits the collection holds what the register says, lists it
in order, and finds it by name.
-/
namespace Directory

structure Attribute.Record where
  spelled : String
  has : Octets → Prop

def Attribute.record (attr : Attribute) : Record := ⟨attr.name, fun value => value ∈ attr.values.toList⟩

def Attribute.Given.record (given : Given) : Record := ⟨given.name, fun value => value ∈ given.values⟩

namespace Attribute.Record

def withValue (record : Record) (value : Octets) : Record :=
  { record with has := fun other => other = value ∨ record.has other }

def withoutValue (record : Record) (value : Octets) : Record :=
  { record with has := fun other => record.has other ∧ other ≠ value }

end Attribute.Record

namespace Attributes

abbrev Register := String → Option Attribute.Record

def Register.enter (register : Register) (name : String) (entry : Option Attribute.Record) : Register :=
  fun other => if sameName name other then entry else register other

def register (attributes : Attributes) : Register := fun name => (attributes.get? name).map Attribute.record

inductive Edit where
  | insert (given : Attribute.Given)
  /-- Begin again with the attributes of a list. -/
  | begin (given : List Attribute.Given)
  | addValue (name : String) (value : Octets)
  | eraseValue (name : String) (value : Octets)
  | replace (given : Attribute.Given)
  | remove (name : String)

def attempt (attributes : Attributes) : Edit → Except Error Attributes
  | .insert given => attributes.insertNew given.made
  | .begin given => ofGiven given
  | .addValue name value =>
    .ok (attributes.update name fun values => (Attribute.insert ⟨name, values⟩ value).values)
  | .eraseValue name value =>
    .ok (attributes.update name fun values => (Attribute.erase ⟨name, values⟩ value).values)
  | .replace given => .ok (Ascending.insert attributes given.made)
  | .remove name => .ok (attributes.remove name)

/-- What is refused changes nothing. -/
def edit (attributes : Attributes) (edit : Edit) : Attributes :=
  match attributes.attempt edit with
  | .ok changed => changed
  | .error _ => attributes

def edited (edits : List Edit) : Attributes := edits.foldl edit ∅

def Register.edit (register : Register) : Edit → Register
  | .insert given =>
    if (register given.name).isSome then register else register.enter given.name (some given.record)
  | .begin given =>
    if (given.map Attribute.Given.key).Nodup then
      fun name => (given.find? fun one => sameName one.name name).map Attribute.Given.record
    else register
  | .addValue name value => register.enter name ((register name).map fun record => record.withValue value)
  | .eraseValue name value => register.enter name ((register name).map fun record => record.withoutValue value)
  | .replace given => register.enter given.name (some given.record)
  | .remove name => register.enter name none

def Register.edited (edits : List Edit) : Register := edits.foldl Register.edit fun _ => none

def Edit.isAbout (name : String) : Edit → Bool
  | .insert given | .replace given => sameName given.name name
  | .begin _ => true
  | .addValue other _ | .eraseValue other _ | .remove other => sameName other name

/-- What it is for a collection to be kept by name. -/
structure IsIndex (attributes : Attributes) : Prop where
  distinct : attributes.toList.Pairwise fun a b => sameName a.name b.name = false
  ascending : attributes.toList.Pairwise fun a b => foldCase a.name < foldCase b.name
  found : ∀ name attr,
    attributes.get? name = some attr ↔ attr ∈ attributes.toList ∧ sameName attr.name name = true
  values : ∀ attr ∈ attributes.toList, attr.values.toList.Pairwise (· < ·)
  /-- A name that is there already is refused as it is spelled now, and nothing else is refused. -/
  refused : ∀ given error, attributes.attempt (.insert given) = .error error ↔
    (∃ attr ∈ attributes.toList, sameName attr.name given.name = true) ∧ error = .duplicateAttribute given.name
  unchanged : ∀ given error, attributes.attempt (.insert given) = .error error →
    attributes.edit (.insert given) = attributes
  /-- Edits about other names leave an attribute as it is. -/
  undisturbed : ∀ name (edits : List Edit), (∀ edit ∈ edits, edit.isAbout name = false) →
    get? (edits.foldl edit attributes) name = attributes.get? name

variable {attributes : Attributes} {attr : Attribute} {name : String}

theorem sameName_eq_false_iff {a b : String} : sameName a b = false ↔ foldCase a ≠ foldCase b := by
  rw [← Bool.not_eq_true, sameName_iff]

theorem get?_eq_some_iff :
    attributes.get? name = some attr ↔ attr ∈ attributes.toList ∧ sameName attr.name name = true := by
  rw [get?, Ascending.find?_eq_some_iff, sameName_iff]
  rfl

theorem get?_insert (attributes : Attributes) (attr : Attribute) (name : String) :
    get? (Ascending.insert attributes attr) name =
      if sameName attr.name name then some attr else attributes.get? name := by
  simp only [get?, Ascending.find?_insert, sameName_iff]
  rfl

theorem get?_remove (attributes : Attributes) (removed name : String) :
    (attributes.remove removed).get? name = if sameName removed name then none else attributes.get? name := by
  simp only [get?, remove, Ascending.find?_erase, sameName_iff, @eq_comm _ (foldCase name)]

theorem get?_eq_of_sameName {other : String} (same : sameName name other = true) :
    attributes.get? name = attributes.get? other := by
  rw [get?, get?, sameName_iff.mp same]

theorem get?_update (attributes : Attributes) (changed : String) (change : ValueSet → ValueSet) (name : String) :
    (attributes.update changed change).get? name =
      if sameName changed name then (attributes.get? changed).map fun attr => ⟨attr.name, change attr.values⟩
      else attributes.get? name := by
  cases there : attributes.get? changed with
  | none =>
    have kept : attributes.update changed change = attributes := by rw [update, there]
    rw [kept]
    split
    · next same => rw [← get?_eq_of_sameName same, there, Option.map_none]
    · rfl
  | some attr =>
    have put : attributes.update changed change =
        Ascending.insert attributes ⟨attr.name, change attr.values⟩ := by
      rw [update, there]
    -- The attribute goes back under its own spelling, which is the same name.
    have alike : sameName attr.name name = sameName changed name := by
      rw [sameName, sameName, sameName_iff.mp (get?_eq_some_iff.mp there).2]
    rw [put, get?_insert, alike, Option.map_some]

theorem register_insert (attributes : Attributes) (attr : Attribute) :
    register (Ascending.insert attributes attr) = attributes.register.enter attr.name (some attr.record) := by
  funext name
  rw [register, get?_insert, Register.enter]
  split <;> rfl

theorem register_remove (attributes : Attributes) (name : String) :
    (attributes.remove name).register = attributes.register.enter name none := by
  funext other
  rw [register, get?_remove, Register.enter]
  split <;> rfl

theorem register_update {change : ValueSet → ValueSet} {entry : Attribute.Record → Attribute.Record}
    (changes : ∀ attr : Attribute, Attribute.record ⟨attr.name, change attr.values⟩ = entry attr.record)
    (attributes : Attributes) (name : String) :
    (attributes.update name change).register =
      attributes.register.enter name ((attributes.register name).map entry) := by
  funext other
  rw [register, get?_update, Register.enter]
  split
  · rw [register, Option.map_map, Option.map_map]
    exact congrArg (Option.map · _) (funext changes)
  · rfl

theorem record_made (given : Attribute.Given) : given.made.record = given.record := by
  have same : ∀ value, value ∈ given.made.values.toList ↔ value ∈ given.values := fun _ => Ascending.mem_ofList
  simp only [Attribute.record, Attribute.Given.record, same]
  rfl

theorem register_insert_made (attributes : Attributes) (given : Attribute.Given) :
    register (Ascending.insert attributes given.made) =
      attributes.register.enter given.name (some given.record) := by
  rw [register_insert, record_made]
  rfl

theorem record_insert (attr : Attribute) (value : Octets) :
    Attribute.record ⟨attr.name, attr.values.insert value⟩ = attr.record.withValue value := by
  have joined (other : Octets) : other ∈ (attr.values.insert value).toList ↔
      other = value ∨ other ∈ attr.values.toList := by
    rw [Ascending.mem_insert]
    by_cases same : other = value <;> simp [same]
  simp only [Attribute.record, Attribute.Record.withValue, joined]

theorem record_erase (attr : Attribute) (value : Octets) :
    Attribute.record ⟨attr.name, attr.values.erase value⟩ = attr.record.withoutValue value := by
  simp only [Attribute.record, Attribute.Record.withoutValue, Ascending.mem_erase]

theorem isSome_register : (attributes.register name).isSome = (attributes.get? name).isSome :=
  Option.isSome_map

theorem attempt_insert_known (given : Attribute.Given) (known : (attributes.get? given.name).isSome = true) :
    attributes.attempt (.insert given) = .error (.duplicateAttribute given.name) := by
  obtain ⟨attr, there⟩ := Option.isSome_iff_exists.mp known
  have taken : attributes.find? given.made.key = some attr := there
  rw [attempt, insertNew, taken]
  rfl

theorem attempt_insert_new (given : Attribute.Given) (new : attributes.get? given.name = none) :
    attributes.attempt (.insert given) = .ok (Ascending.insert attributes given.made) := by
  have free : attributes.find? given.made.key = none := new
  rw [attempt, insertNew, free]

theorem register_edit_insert (attributes : Attributes) (given : Attribute.Given) :
    (attributes.edit (.insert given)).register = attributes.register.edit (.insert given) := by
  rw [Register.edit, isSome_register]
  split
  · next known => rw [edit, attempt_insert_known given known]
  · next new =>
    rw [edit, attempt_insert_new given (Option.not_isSome_iff_eq_none.mp new)]
    exact register_insert_made attributes given

theorem nodup_of_ofGiven {given : List Attribute.Given} {built : Attributes} (made : ofGiven given = .ok built) :
    (given.map Attribute.Given.key).Nodup := by
  have perm := (ofGiven_ok made).map Attribute.key
  rw [map_key_made] at perm
  exact perm.nodup_iff.mp built.nodup_keys

theorem register_ofGiven {given : List Attribute.Given} {built : Attributes} (made : ofGiven given = .ok built) :
    built.register = fun name => (given.find? fun one => sameName one.name name).map Attribute.Given.record := by
  have records : Attribute.record ∘ Attribute.Given.made = Attribute.Given.record := funext record_made
  funext name
  rw [register, get?, Ascending.find?_eq_of_perm (ofGiven_ok made), List.find?_map, Option.map_map, records]
  rfl

theorem register_edit_begin (attributes : Attributes) (given : List Attribute.Given) :
    (attributes.edit (.begin given)).register = attributes.register.edit (.begin given) := by
  cases made : ofGiven given with
  | ok built =>
    rw [edit, attempt, made, Register.edit, if_pos (nodup_of_ofGiven made)]
    exact register_ofGiven made
  | error error =>
    have repeated : ¬(given.map Attribute.Given.key).Nodup := by
      intro distinct
      obtain ⟨built, other⟩ := exists_ofList ((map_key_made given).symm ▸ distinct)
      cases made.symm.trans other
    rw [edit, attempt, made, Register.edit, if_neg repeated]

/-- An edit makes its entry. -/
theorem register_edit (attributes : Attributes) (edit : Edit) :
    (attributes.edit edit).register = attributes.register.edit edit := by
  cases edit with
  | insert given => exact register_edit_insert attributes given
  | begin given => exact register_edit_begin attributes given
  | addValue name value => exact register_update (fun attr => record_insert attr value) attributes name
  | eraseValue name value => exact register_update (fun attr => record_erase attr value) attributes name
  | replace given => exact register_insert_made attributes given
  | remove name => exact register_remove attributes name

theorem register_foldl_edit (edits : List Edit) (attributes : Attributes) :
    register (edits.foldl edit attributes) = edits.foldl Register.edit attributes.register := by
  induction edits generalizing attributes with
  | nil => rfl
  | cons first rest ih => rw [List.foldl_cons, List.foldl_cons, ih, register_edit]

theorem get?_edit (attributes : Attributes) {edit : Edit} (other : edit.isAbout name = false) :
    (attributes.edit edit).get? name = attributes.get? name := by
  have apart := Bool.eq_false_iff.mp other
  cases edit with
  | insert given =>
    cases there : attributes.get? given.name with
    | some attr =>
      rw [Attributes.edit, attempt_insert_known given (Option.isSome_iff_exists.mpr ⟨attr, there⟩)]
    | none =>
      rw [Attributes.edit, attempt_insert_new given there]
      exact (get?_insert attributes given.made name).trans (if_neg apart)
  | begin given => cases other
  | addValue changed value => exact (get?_update attributes changed _ name).trans (if_neg apart)
  | eraseValue changed value => exact (get?_update attributes changed _ name).trans (if_neg apart)
  | replace given => exact (get?_insert attributes given.made name).trans (if_neg apart)
  | remove removed => exact (get?_remove attributes removed name).trans (if_neg apart)

theorem get?_foldl_edit {edits : List Edit} (others : ∀ edit ∈ edits, edit.isAbout name = false)
    (attributes : Attributes) : get? (edits.foldl edit attributes) name = attributes.get? name := by
  induction edits generalizing attributes with
  | nil => rfl
  | cons first rest ih =>
    obtain ⟨now, later⟩ := List.forall_mem_cons.mp others
    rw [List.foldl_cons, ih later, get?_edit attributes now]

theorem attempt_insert_error_iff {given : Attribute.Given} {error : Error} :
    attributes.attempt (.insert given) = .error error ↔
      (∃ attr ∈ attributes.toList, sameName attr.name given.name = true) ∧
        error = .duplicateAttribute given.name := by
  have there : (∃ attr ∈ attributes.toList, sameName attr.name given.name = true) ↔
      (attributes.get? given.name).isSome = true := by
    simp only [Option.isSome_iff_exists, get?_eq_some_iff]
  rw [there]
  constructor
  · intro refused
    cases found : attributes.get? given.name with
    | none =>
      rw [attempt_insert_new given found] at refused
      cases refused
    | some attr =>
      rw [attempt_insert_known given (by rw [found]; rfl)] at refused
      cases refused
      exact ⟨rfl, rfl⟩
  · rintro ⟨known, rfl⟩
    exact attempt_insert_known given known

theorem isIndex (attributes : Attributes) : IsIndex attributes := by
  constructor
  case distinct =>
    exact attributes.ascending.imp fun less => sameName_eq_false_iff.mpr (Ascending.ne_of_lt less)
  case ascending => exact attributes.ascending
  case found => exact fun _ _ => get?_eq_some_iff
  case values => exact fun attr _ => attr.values.ascending
  case refused => exact fun _ _ => attempt_insert_error_iff
  case unchanged =>
    intro given error refused
    rw [edit, refused]
  case undisturbed => exact fun _ _ others => get?_foldl_edit others attributes

/-- After any edits the collection holds what the register of these edits says, and is kept by name. -/
theorem edited_keeps_index (edits : List Edit) :
    (edited edits).register = Register.edited edits ∧ IsIndex (edited edits) :=
  ⟨register_foldl_edit edits ∅, isIndex (edited edits)⟩

example :
    let edits := [.insert ⟨"sn", []⟩, .insert ⟨"CN", [[2], [1], [2]]⟩, .insert ⟨"cn", [[9]]⟩, .addValue "cN" [1, 0]]
    (edited edits).toList = [.ofList "CN" [[1], [1, 0], [2]], .ofList "sn" []] := by
  decide +kernel

end Attributes

end Directory
