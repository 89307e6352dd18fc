import Directory.Attempt
import Directory.Attribute
import Directory.Proofs.Ascending
import Mathlib.Data.List.Perm.Basic
/-!
Collections of attributes, and what they are made of. An attribute is given with its values in any order, and the
attributes of a collection are given in any order too; neither shows in the collection.
-/
namespace Directory

structure Attribute.Given where
  name : String
  values : List Octets
  deriving DecidableEq

namespace Attribute.Given

def made (given : Given) : Attribute := .ofList given.name given.values

def key (given : Given) : String := foldCase given.name

def Matches (given other : Given) : Prop :=
  given.name = other.name ∧ ∀ value, value ∈ given.values ↔ value ∈ other.values

theorem made_eq_iff {given other : Given} :
    given.made = other.made ↔ given.Matches other := by
  rw [made, made, ofList, ofList, Attribute.mk.injEq]
  apply and_congr_right
  intro _
  constructor
  · intro same value
    rw [← Ascending.mem_ofList, same, Ascending.mem_ofList]
  · intro same
    apply Ascending.eq_of_mem_iff
    intro value
    rw [Ascending.mem_ofList, same, Ascending.mem_ofList]

end Attribute.Given

namespace Attributes

/-- The same attributes in another order, and each of them given in another way. -/
def Rearranged (given other : List Attribute.Given) : Prop :=
  ∃ between, List.Forall₂ Attribute.Given.Matches given between ∧ between.Perm other

def ofGiven (given : List Attribute.Given) : Except Error Attributes := ofList (given.map Attribute.Given.made)

theorem map_key_made (given : List Attribute.Given) :
    (given.map Attribute.Given.made).map Attribute.key = given.map Attribute.Given.key :=
  List.map_map

theorem map_made_eq_iff {given other : List Attribute.Given} :
    given.map Attribute.Given.made = other.map Attribute.Given.made ↔
      List.Forall₂ Attribute.Given.Matches given other := by
  rw [← List.forall₂_eq_eq_eq, List.forall₂_map_left_iff, List.forall₂_map_right_iff]
  simp only [Attribute.Given.made_eq_iff]

theorem perm_made_iff {given other : List Attribute.Given} :
    (given.map Attribute.Given.made).Perm (other.map Attribute.Given.made) ↔ Rearranged given other := by
  have through := congrFun (congrFun (List.eq_map_comp_perm Attribute.Given.made)
    (given.map Attribute.Given.made)) other
  rw [← through]
  exact exists_congr fun between => and_congr_left' map_made_eq_iff

theorem insertNew_ok {before after : Attributes} {attr : Attribute} (put : before.insertNew attr = .ok after) :
    after.toList.Perm (attr :: before.toList) := by
  unfold insertNew at put
  split at put
  · cases put
  · next fresh =>
    cases put
    exact Ascending.toList_insert_perm fresh

theorem insertNew_fresh {attributes : Attributes} {attr : Attribute}
    (fresh : ∀ other ∈ attributes.toList, other.key ≠ attr.key) :
    attributes.insertNew attr = .ok (attributes.insert attr) := by
  rw [insertNew, Ascending.find?_eq_none_iff.mpr fresh]

theorem foldlM_insertNew_ok {list : List Attribute} {before after : Attributes}
    (added : list.foldlM insertNew before = .ok after) : after.toList.Perm (list ++ before.toList) := by
  induction list generalizing before with
  | nil =>
    cases added
    exact .refl _
  | cons attr rest ih =>
    obtain ⟨middle, put, others⟩ := Attempt.bind_eq_ok_iff.mp added
    exact (ih others).trans (((insertNew_ok put).append_left rest).trans List.perm_middle)

theorem exists_foldlM_insertNew {list : List Attribute} {before : Attributes}
    (distinct : (list.map Attribute.key).Nodup)
    (fresh : ∀ attr ∈ list, ∀ other ∈ before.toList, other.key ≠ attr.key) :
    ∃ after, list.foldlM insertNew before = .ok after := by
  induction list generalizing before with
  | nil => exact ⟨before, rfl⟩
  | cons attr rest ih =>
    rw [List.forall_mem_cons] at fresh
    obtain ⟨apart, others⟩ := List.nodup_cons.mp distinct
    -- What is put in has none of the names that are to come.
    have free : ∀ next ∈ rest, ∀ other ∈ (before.insert attr).toList, other.key ≠ next.key := by
      intro next member other there
      rcases Ascending.mem_insert.mp there with rfl | ⟨old, _⟩
      · intro same
        exact apart (same ▸ List.mem_map_of_mem member)
      · exact fresh.2 next member other old
    obtain ⟨after, added⟩ := ih others free
    refine ⟨after, ?_⟩
    rw [List.foldlM_cons, insertNew_fresh fresh.1]
    exact added

/-- A collection that was made of a list has the attributes of the list. -/
theorem ofList_ok {list : List Attribute} {built : Attributes} (found : ofList list = .ok built) :
    built.toList.Perm list := by
  have whole := foldlM_insertNew_ok found
  rwa [Ascending.toList_empty, List.append_nil] at whole

/-- A list without two names that differ in letter case only can be made a collection. -/
theorem exists_ofList {list : List Attribute} (distinct : (list.map Attribute.key).Nodup) :
    ∃ built, ofList list = .ok built :=
  exists_foldlM_insertNew distinct (by simp [Ascending.toList_empty])

theorem ofGiven_ok {given : List Attribute.Given} {built : Attributes} (found : ofGiven given = .ok built) :
    built.toList.Perm (given.map Attribute.Given.made) :=
  ofList_ok found

/-- Attributes make the same collection exactly where they are the same but for their arrangement. -/
theorem eq_iff_rearranged {given other : List Attribute.Given} {built rebuilt : Attributes}
    (first : ofGiven given = .ok built) (second : ofGiven other = .ok rebuilt) :
    built = rebuilt ↔ Rearranged given other := by
  rw [← perm_made_iff]
  constructor
  · rintro rfl
    exact (ofGiven_ok first).symm.trans (ofGiven_ok second)
  · intro moved
    exact Ascending.eq_of_perm ((ofGiven_ok first).trans (moved.trans (ofGiven_ok second).symm))

/-- However attributes with different names are arranged, there is a collection of them. -/
theorem exists_ofGiven {given other : List Attribute.Given}
    (distinct : (given.map Attribute.Given.key).Nodup) (moved : Rearranged given other) :
    ∃ built rebuilt, ofGiven given = .ok built ∧ ofGiven other = .ok rebuilt := by
  have apart : ((given.map Attribute.Given.made).map Attribute.key).Nodup := by rwa [map_key_made]
  have perm := (perm_made_iff.mpr moved).map Attribute.key
  obtain ⟨built, first⟩ := exists_ofList apart
  obtain ⟨rebuilt, second⟩ := exists_ofList (perm.nodup_iff.mp apart)
  exact ⟨built, rebuilt, first, second⟩

end Attributes

end Directory
