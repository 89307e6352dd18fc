import Directory.CommandLine
import Directory.Proofs.Ascending
import Mathlib.Data.List.TakeDrop
import Mathlib.Data.List.TakeWhile
import Mathlib.Logic.ExistsUnique
/-!
Attributes that are given as pairs of a name and a value. Pairs whose names differ in letter case only come
together, under the first spelling of the name.
-/
namespace Directory.CommandLine

/-- The pair gives a value to a name, which is the text before the first equals sign. -/
def Gives (pair name : String) (value : Octets) : Prop :=
  ∃ text, pair = name ++ "=" ++ text ∧ '=' ∉ name.toList ∧ value = Octets.ofText text

def Given (pairs : List String) (name : String) (value : Octets) : Prop :=
  ∃ pair ∈ pairs, ∃ spelled, Gives pair spelled value ∧ foldCase spelled = foldCase name

def NamedFirst (pairs : List String) (name : String) : Prop :=
  ∃ early pair late, pairs = early ++ pair :: late ∧ (∃ value, Gives pair name value) ∧
    ∀ value, ¬Given early name value

structure Groups (pairs : List String) (attributes : Attributes) : Prop where
  one : ∀ name value, Given pairs name value →
    ∃! attr, attr ∈ attributes.toList ∧ attr.key = foldCase name
  spelled : ∀ attr ∈ attributes.toList, NamedFirst pairs attr.name
  values : ∀ attr ∈ attributes.toList, ∀ value, value ∈ attr.values.toList ↔ Given pairs attr.name value

variable {pair name : String} {value : Octets} {pairs : List String} {attributes : Attributes}

theorem splitPair_append (plain : '=' ∉ name.toList) (text : String) :
    splitPair (name ++ "=" ++ text) = .ok (name, Octets.ofText text) := by
  have other : ∀ c ∈ name.toList, decide (c ≠ '=') = true := by
    intro c member
    exact decide_eq_true fun sign => plain (sign ▸ member)
  have split : (name ++ "=" ++ text).toList.span (· ≠ '=') = (name.toList, '=' :: text.toList) := by
    have whole : (name ++ "=" ++ text).toList = name.toList ++ '=' :: text.toList := by simp
    rw [whole, List.span_eq_takeWhile_dropWhile, List.takeWhile_append_of_pos other,
      List.dropWhile_append_of_pos other]
    simp
  rw [splitPair, split]
  simp

theorem splitPair_refused (bare : '=' ∉ pair.toList) :
    splitPair pair = .error (.invalidArgument s!"expected name=value, got {Quoted.quote pair.toList}") := by
  have other : ∀ c ∈ pair.toList, decide (c ≠ '=') = true := by
    intro c member
    exact decide_eq_true fun sign => bare (sign ▸ member)
  rw [splitPair, List.span_eq_takeWhile_dropWhile, List.takeWhile_eq_self_iff.mpr other,
    List.dropWhile_eq_nil_iff.mpr other]

theorem exists_gives (signed : '=' ∈ pair.toList) : ∃ name value, Gives pair name value := by
  obtain ⟨before, after, split, fresh⟩ := List.eq_append_cons_of_mem signed
  -- The sign at which the text is split is the first, so none is left in the name.
  refine ⟨String.ofList before, _, String.ofList after, ?_, by simpa using fresh, rfl⟩
  apply String.toList_injective
  simp [split]

theorem Gives.splitPair_eq (gives : Gives pair name value) : splitPair pair = .ok (name, value) := by
  obtain ⟨text, rfl, plain, rfl⟩ := gives
  exact splitPair_append plain text

/-- A pair gives one value to one name. -/
theorem Gives.unique {other : String} {another : Octets} (gives : Gives pair name value)
    (too : Gives pair other another) : name = other ∧ value = another := by
  have same := gives.splitPair_eq.symm.trans too.splitPair_eq
  simpa using same

theorem given_append {more : List String} :
    Given (pairs ++ more) name value ↔ Given pairs name value ∨ Given more name value := by
  simp only [Given, List.mem_append, or_and_right, exists_or]

theorem Gives.given_iff {other : String} {another : Octets} (gives : Gives pair name value) :
    Given [pair] other another ↔ another = value ∧ foldCase name = foldCase other := by
  constructor
  · rintro ⟨only, member, spelled, found, same⟩
    obtain rfl := List.mem_singleton.mp member
    obtain ⟨rfl, rfl⟩ := gives.unique found
    exact ⟨rfl, same⟩
  · rintro ⟨rfl, same⟩
    exact ⟨pair, List.mem_singleton_self pair, name, gives, same⟩

/-- A pair says nothing of other names. -/
theorem Gives.given_append_of_ne {other : String} {another : Octets} (gives : Gives pair name value)
    (apart : foldCase other ≠ foldCase name) :
    Given (pairs ++ [pair]) other another ↔ Given pairs other another := by
  rw [given_append, gives.given_iff, or_iff_left]
  exact fun now => apart now.2.symm

theorem Gives.given_append_of_eq {other : String} {another : Octets} (gives : Gives pair name value)
    (alike : foldCase other = foldCase name) :
    Given (pairs ++ [pair]) other another ↔ Given pairs other another ∨ another = value := by
  rw [given_append, gives.given_iff, and_iff_left alike.symm]

/-- What comes later does not change how a name was spelled first. -/
theorem NamedFirst.append (named : NamedFirst pairs name) (more : List String) :
    NamedFirst (pairs ++ more) name := by
  obtain ⟨early, first, late, rfl, gives, fresh⟩ := named
  exact ⟨early, first, late ++ more, by simp, gives, fresh⟩

theorem addPair_known (gives : Gives pair name value) {attr : Attribute}
    (there : attributes.get? name = some attr) :
    addPair attributes pair = .ok (attributes.insert (attr.insert value)) := by
  simp only [addPair, gives.splitPair_eq, bind, Except.bind, there]
  rfl

theorem addPair_unknown (gives : Gives pair name value) (unknown : attributes.get? name = none) :
    addPair attributes pair = .ok (attributes.insert (.ofList name [value])) := by
  have free : attributes.find? (Attribute.ofList name [value]).key = none := unknown
  simp only [addPair, gives.splitPair_eq, bind, Except.bind, unknown, Attributes.insertNew, free]

theorem Groups.empty : Groups [] ∅ := by
  constructor
  · rintro name value ⟨_, none, _⟩
    cases none
  · simp [Ascending.toList_empty]
  · simp [Ascending.toList_empty]

namespace Groups

/-- No attribute has the name if none of the pairs gives it. -/
theorem get?_eq_none_iff (groups : Groups pairs attributes) :
    attributes.get? name = none ↔ ∀ value, ¬Given pairs name value := by
  rw [Attributes.get?, Ascending.find?_eq_none_iff]
  constructor
  · intro unknown value given
    obtain ⟨attr, ⟨member, named⟩, -⟩ := groups.one name value given
    exact unknown attr member named
  · intro ungiven attr member named
    obtain ⟨early, pair, late, rfl, ⟨value, gives⟩, -⟩ := groups.spelled attr member
    exact ungiven value ⟨pair, by simp, attr.name, gives, named⟩

/-- What one more pair gives goes to the attribute of its name, and leaves the others as they are. -/
theorem insert (groups : Groups pairs attributes) (gives : Gives pair name value) {attr : Attribute}
    (named : attr.key = foldCase name) (spelled : NamedFirst (pairs ++ [pair]) attr.name)
    (values : ∀ value, value ∈ attr.values.toList ↔ Given (pairs ++ [pair]) attr.name value) :
    Groups (pairs ++ [pair]) (attributes.insert attr) := by
  constructor
  -- With the name of the pair it is the attribute that is put in, with another name the one that was there.
  · intro other another given
    by_cases same : foldCase other = foldCase name
    · refine ⟨attr, ⟨Ascending.mem_insert.mpr (.inl rfl), named.trans same.symm⟩, ?_⟩
      rintro found ⟨member, key⟩
      rcases Ascending.mem_insert.mp member with rfl | ⟨_, different⟩
      · rfl
      · exact absurd (key.trans (same.trans named.symm)) different
    · have before := (gives.given_append_of_ne same).mp given
      obtain ⟨old, ⟨member, key⟩, only⟩ := groups.one other another before
      have apart : old.key ≠ attr.key := fun equal => same (key.symm.trans (equal.trans named))
      refine ⟨old, ⟨Ascending.mem_insert.mpr (.inr ⟨member, apart⟩), key⟩, ?_⟩
      rintro found ⟨there, alike⟩
      rcases Ascending.mem_insert.mp there with rfl | ⟨kept, _⟩
      · exact absurd (alike.symm.trans named) same
      · exact only found ⟨kept, alike⟩
  · intro found member
    rcases Ascending.mem_insert.mp member with rfl | ⟨old, _⟩
    · exact spelled
    · exact (groups.spelled found old).append [pair]
  · intro found member another
    rcases Ascending.mem_insert.mp member with rfl | ⟨old, different⟩
    · exact values another
    · have apart : foldCase found.name ≠ foldCase name := fun equal => different (equal.trans named.symm)
      rw [groups.values found old another, gives.given_append_of_ne apart]

/-- A value joins those of the attribute that has its name already. -/
theorem joined (groups : Groups pairs attributes) (gives : Gives pair name value) {attr : Attribute}
    (there : attributes.get? name = some attr) :
    Groups (pairs ++ [pair]) (attributes.insert (attr.insert value)) := by
  obtain ⟨member, named⟩ := Ascending.find?_eq_some_iff.mp there
  have still : (attr.insert value).key = foldCase name := named
  apply groups.insert gives still
  · exact (groups.spelled attr member).append [pair]
  · intro another
    rw [Attribute.insert, Ascending.mem_insert, groups.values attr member, gives.given_append_of_eq named]
    by_cases same : another = value <;> simp [same]

/-- A name that was not there before gets an attribute of its own. -/
theorem begun (groups : Groups pairs attributes) (gives : Gives pair name value)
    (unknown : attributes.get? name = none) :
    Groups (pairs ++ [pair]) (attributes.insert (.ofList name [value])) := by
  have ungiven := groups.get?_eq_none_iff.mp unknown
  have named : (Attribute.ofList name [value]).key = foldCase name := rfl
  apply groups.insert gives named
  · exact ⟨pairs, pair, [], rfl, ⟨value, gives⟩, ungiven⟩
  · intro another
    change another ∈ (Ascending.ofList [value]).toList ↔ Given (pairs ++ [pair]) name another
    rw [Ascending.mem_ofList, gives.given_append_of_eq rfl, or_iff_right (ungiven another), List.mem_singleton]

theorem add (groups : Groups pairs attributes) (gives : Gives pair name value) :
    ∃ more, addPair attributes pair = .ok more ∧ Groups (pairs ++ [pair]) more := by
  cases there : attributes.get? name with
  | some attr => exact ⟨_, addPair_known gives there, groups.joined gives there⟩
  | none => exact ⟨_, addPair_unknown gives there, groups.begun gives there⟩

theorem foldlM {more : List String} (groups : Groups pairs attributes)
    (signed : ∀ pair ∈ more, '=' ∈ pair.toList) :
    ∃ all, more.foldlM addPair attributes = .ok all ∧ Groups (pairs ++ more) all := by
  induction more generalizing pairs attributes with
  | nil => exact ⟨attributes, rfl, by simpa using groups⟩
  | cons pair rest ih =>
    obtain ⟨first, others⟩ := List.forall_mem_cons.mp signed
    obtain ⟨name, value, gives⟩ := exists_gives first
    obtain ⟨next, added, grown⟩ := groups.add gives
    obtain ⟨all, folded, whole⟩ := ih grown others
    refine ⟨all, ?_, by simpa using whole⟩
    rw [List.foldlM_cons, added]
    exact folded

end Groups

/-- Pairs with an equals sign each make the attributes that they give. -/
theorem attributesOf_signed (signed : ∀ pair ∈ pairs, '=' ∈ pair.toList) :
    ∃ attributes, attributesOf pairs = .ok attributes ∧ Groups pairs attributes :=
  Groups.empty.foldlM signed

example : attributesOf ["cn=a", "CN=b=c", "cn=a", "sn=x"] =
    Attributes.ofList
      [⟨"cn", .ofList [Octets.ofText "a", Octets.ofText "b=c"]⟩, ⟨"sn", .ofList [Octets.ofText "x"]⟩] := by
  decide +kernel

/-- The first pair without an equals sign is refused. -/
theorem attributesOf_bare {early late : List String} (signed : ∀ pair ∈ early, '=' ∈ pair.toList)
    (bare : '=' ∉ pair.toList) :
    attributesOf (early ++ pair :: late) =
      .error (.invalidArgument s!"expected name=value, got {Quoted.quote pair.toList}") := by
  obtain ⟨attributes, made, -⟩ := attributesOf_signed signed
  rw [attributesOf] at made ⊢
  rw [List.foldlM_append, made]
  have refused : addPair attributes pair =
      .error (.invalidArgument s!"expected name=value, got {Quoted.quote pair.toList}") := by
    rw [addPair, splitPair_refused bare]
    rfl
  change (do let next ← addPair attributes pair; late.foldlM addPair next) = _
  rw [refused]
  rfl

end Directory.CommandLine
