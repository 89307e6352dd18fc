import Directory.Ascending
/-!
Collections by their members. A member is found by its key, and two collections with the same members are the
same, in whatever order these were put in. Put in one after the other, in the order in which the collection lists
them, each goes to the end.
-/
namespace Directory.Ascending

variable {α κ : Type} [LT κ] {key : α → κ}

/-- The next member in order is above those before it. -/
theorem above_of_toList_eq {c d : Ascending key} {a : α} {left : List α}
    (h : d.toList = c.toList ++ a :: left) : ∀ b ∈ c.toList, key b < key a := by
  intro b member
  have order := d.ascending
  rw [h] at order
  exact (List.pairwise_append.mp order).2.2 b member a List.mem_cons_self

theorem find?_eq_none_iff [DecidableEq κ] {c : Ascending key} {k : κ} :
    c.find? k = none ↔ ∀ a ∈ c.toList, key a ≠ k := by
  simp [find?]

theorem mem_erase [DecidableEq κ] {c : Ascending key} {k : κ} {a : α} :
    a ∈ (c.erase k).toList ↔ a ∈ c.toList ∧ key a ≠ k := by
  simp [erase]

theorem place_perm [DecidableEq κ] [DecidableLT κ] {a : α} {l : List α} (fresh : ∀ b ∈ l, key b ≠ key a) :
    (place key a l).Perm (a :: l) := by
  induction l with
  | nil => exact .refl _
  | cons b rest ih =>
    obtain ⟨first, others⟩ := List.forall_mem_cons.mp fresh
    rw [place]
    split
    · exact .refl _
    · rw [if_neg (Ne.symm first)]
      exact ((ih others).cons b).trans (.swap a b rest)

variable [LE κ] [Std.LawfulOrderLT κ]

theorem ne_of_lt {j k : κ} (less : j < k) : j ≠ k := fun same => Std.lt_irrefl (same ▸ less)

theorem nodup (c : Ascending key) : c.toList.Nodup :=
  c.ascending.imp fun less same => ne_of_lt less (congrArg key same)

theorem nodup_keys (c : Ascending key) : (c.toList.map key).Nodup :=
  List.pairwise_map.mpr (c.ascending.imp ne_of_lt)

section Find

variable [DecidableEq κ]

/-- A member is found by its key, which no other member has. -/
theorem find?_eq_some_iff {c : Ascending key} {k : κ} {a : α} :
    c.find? k = some a ↔ a ∈ c.toList ∧ key a = k := by
  constructor
  · intro found
    exact ⟨mem_of_find? found, key_of_find? found⟩
  · rintro ⟨member, rfl⟩
    obtain ⟨members, order⟩ := c
    rw [find?]
    induction members with
    | nil => cases member
    | cons b rest ih =>
      obtain ⟨first, others⟩ := List.pairwise_cons.mp order
      rcases List.mem_cons.mp member with rfl | later
      · simp
      · have different := ne_of_lt (first a later)
        simp [different, ih others later]

theorem find?_erase (c : Ascending key) (j k : κ) :
    (c.erase j).find? k = if k = j then none else c.find? k := by
  split
  · next same => exact find?_eq_none_iff.mpr fun a member => same ▸ (mem_erase.mp member).2
  · next different =>
    apply Option.ext
    intro a
    rw [find?_eq_some_iff, find?_eq_some_iff, mem_erase]
    constructor
    · rintro ⟨⟨member, _⟩, named⟩
      exact ⟨member, named⟩
    · rintro ⟨member, named⟩
      exact ⟨⟨member, fun same => different (named.symm.trans same)⟩, named⟩

/-- Where the members are those of a list, the list is searched with the same result. -/
theorem find?_eq_of_perm {c : Ascending key} {list : List α} (perm : c.toList.Perm list) (k : κ) :
    c.find? k = list.find? fun a => key a = k := by
  cases found : list.find? fun a => key a = k with
  | none =>
    have other := List.find?_eq_none.mp found
    exact find?_eq_none_iff.mpr fun a member => by simpa using other a (perm.mem_iff.mp member)
  | some a =>
    have member := List.mem_of_find?_eq_some found
    have named : key a = k := by simpa using List.find?_some found
    exact find?_eq_some_iff.mpr ⟨perm.mem_iff.mpr member, named⟩

end Find

variable [Std.IsLinearOrder κ]

theorem eq_of_perm {c d : Ascending key} (same : c.toList.Perm d.toList) : c = d := by
  apply ext_toList
  refine List.Perm.eq_of_pairwise (fun a b _ _ less more => ?_) c.ascending d.ascending same
  exact absurd (Std.lt_trans less more) Std.lt_irrefl

/-- Collections with the same members are the same. -/
theorem eq_of_mem_iff {c d : Ascending key} (same : ∀ a, a ∈ c.toList ↔ a ∈ d.toList) : c = d :=
  eq_of_perm ((List.perm_ext_iff_of_nodup c.nodup d.nodup).mpr same)

variable [DecidableEq κ] [DecidableLT κ]

theorem place_last {a : α} {l : List α} (above : ∀ b ∈ l, key b < key a) :
    place key a l = l ++ [a] := by
  induction l with
  | nil => rfl
  | cons b rest ih =>
    have less := above b List.mem_cons_self
    have notLess : ¬ key a < key b := fun more => Std.lt_irrefl (Std.lt_trans less more)
    have others := ih fun c member => above c (List.mem_cons_of_mem b member)
    rw [place, if_neg notLess, if_neg (ne_of_lt less).symm, others, List.cons_append]

theorem toList_insert_last {c : Ascending key} {a : α} (above : ∀ b ∈ c.toList, key b < key a) :
    (c.insert a).toList = c.toList ++ [a] :=
  place_last above

theorem foldl_insert {c d : Ascending key} {left : List α} (h : d.toList = c.toList ++ left) :
    left.foldl insert c = d := by
  induction left generalizing c with
  | nil => exact ext_toList (by simpa using h.symm)
  | cons a left ih =>
    have last := toList_insert_last (above_of_toList_eq h)
    exact ih (by rw [h, last, List.append_assoc, List.singleton_append])

theorem ofList_toList (c : Ascending key) : ofList c.toList = c :=
  foldl_insert rfl

/-- A member with a new key joins those that are there. -/
theorem toList_insert_perm {c : Ascending key} {a : α} (fresh : c.find? (key a) = none) :
    (c.insert a).toList.Perm (a :: c.toList) :=
  place_perm (find?_eq_none_iff.mp fresh)

theorem mem_place {a x : α} {l : List α} (order : l.Pairwise fun a b => key a < key b) :
    x ∈ place key a l ↔ x = a ∨ x ∈ l ∧ key x ≠ key a := by
  induction l with
  | nil => simp [place]
  | cons b rest ih =>
    obtain ⟨first, others⟩ := List.pairwise_cons.mp order
    rw [place]
    split
    -- In front of a larger member it replaces nothing, since all behind that are larger still.
    · next less =>
      have all : ∀ c ∈ b :: rest, key a < key c := List.forall_mem_cons.mpr
        ⟨less, fun c member => Std.lt_trans less (first c member)⟩
      rw [List.mem_cons]
      exact or_congr_right (iff_self_and.mpr fun member => (ne_of_lt (all x member)).symm)
    · split
      · next same =>
        rw [List.mem_cons, List.mem_cons]
        apply or_congr_right
        constructor
        · intro member
          exact ⟨.inr member, (ne_of_lt (same ▸ first x member)).symm⟩
        · rintro ⟨rfl | member, different⟩
          · exact absurd same.symm different
          · exact member
      · next different =>
        rw [List.mem_cons, ih others, List.mem_cons]
        constructor
        · rintro (rfl | rfl | ⟨member, other⟩)
          · exact .inr ⟨.inl rfl, Ne.symm different⟩
          · exact .inl rfl
          · exact .inr ⟨.inr member, other⟩
        · rintro (rfl | ⟨rfl | member, other⟩)
          · exact .inr (.inl rfl)
          · exact .inl rfl
          · exact .inr (.inr ⟨member, other⟩)

/-- What is put in takes the place of the member that had its key. -/
theorem mem_insert {c : Ascending key} {a x : α} :
    x ∈ (c.insert a).toList ↔ x = a ∨ x ∈ c.toList ∧ key x ≠ key a :=
  mem_place c.ascending

theorem find?_insert (c : Ascending key) (a : α) (k : κ) :
    (c.insert a).find? k = if key a = k then some a else c.find? k := by
  split
  · next same => exact find?_eq_some_iff.mpr ⟨mem_insert.mpr (.inl rfl), same⟩
  · next different =>
    apply Option.ext
    intro b
    rw [find?_eq_some_iff, find?_eq_some_iff, mem_insert]
    constructor
    · rintro ⟨rfl | ⟨member, _⟩, named⟩
      · exact absurd named different
      · exact ⟨member, named⟩
    · rintro ⟨member, named⟩
      exact ⟨.inr ⟨member, fun same => different (same.symm.trans named)⟩, named⟩

/-- Where members are their own keys, a collection is the set of them. -/
theorem mem_ofList {members : List κ} {k : κ} :
    k ∈ (ofList members : Ascending fun k : κ => k).toList ↔ k ∈ members := by
  have onto (c : Ascending fun k : κ => k) :
      k ∈ (members.foldl insert c).toList ↔ k ∈ members ∨ k ∈ c.toList := by
    induction members generalizing c with
    | nil => simp
    | cons first rest ih =>
      rw [List.foldl_cons, ih, mem_insert, List.mem_cons]
      by_cases same : k = first <;> simp [same]
  rw [ofList, onto, toList_empty]
  simp

end Directory.Ascending
