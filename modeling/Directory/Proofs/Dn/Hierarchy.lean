import Directory.Dn
/-!
The tree of names. A name stands below another when it has the levels of the other behind levels of its own.
Letter case is left aside by `folded`: names are alike exactly when they are folded to the same name, and below
is then to be a longer name that ends like the other.
-/
namespace Directory

/-- Elements that are compared by a key make lists that are compared by the lists of their keys. -/
theorem alikeLists_iff {α κ : Type} {alike : α → α → Bool} (key : α → κ)
    (byKey : ∀ a b, alike a b = true ↔ key a = key b) (as bs : List α) :
    alikeLists alike as bs = true ↔ as.map key = bs.map key := by
  induction as generalizing bs with
  | nil => cases bs <;> simp [alikeLists]
  | cons a as ih =>
    cases bs with
    | nil => simp [alikeLists]
    | cons b bs => simp [alikeLists, byKey, ih]

def Ava.folded (ava : Ava) : Ava := ⟨foldCase ava.attr, ava.value⟩

theorem Ava.alike_iff (a b : Ava) : a.alike b = true ↔ a.folded = b.folded := by
  simp [alike, folded, sameName]

def Rdn.folded (rdn : Rdn) : Rdn := rdn.map Ava.folded

theorem Rdn.alike_iff (a b : Rdn) : Rdn.alike a b = true ↔ Rdn.folded a = Rdn.folded b :=
  alikeLists_iff Ava.folded Ava.alike_iff a b

namespace Dn

def folded (name : Dn) : Dn := ⟨name.rdns.map Rdn.folded⟩

def above? (name : Dn) : Nat → Option Dn
  | 0 => some name
  | levels + 1 => name.parent?.bind fun parent => parent.above? levels

/-- What it is for a relation to say which names stand strictly below which. -/
structure IsHierarchy (below : Dn → Dn → Bool) : Prop where
  /-- A name is below those that are reached from it by going up. -/
  reached : ∀ a b, below a b = true ↔
    ∃ levels c, 1 ≤ levels ∧ a.above? levels = some c ∧ c.alike b = true
  irreflexive : ∀ a, below a a = false
  transitive : ∀ a b c, below a b = true → below b c = true → below a c = true
  asymmetric : ∀ a b, below a b = true → below b a = false
  /-- The letter case of attributes does not matter. -/
  respectful : ∀ a b c d, a.alike c = true → b.alike d = true → below a b = below c d
  root : ∀ a, a ≠ root → below a Dn.root = true
  /-- A child is below its parent, and below what its parent is below of. -/
  child : ∀ a rdn b, below (a.child rdn) b = true ↔ a.alike b = true ∨ below a b = true

variable {a b c : Dn} {levels : Nat}

theorem alike_iff : a.alike b = true ↔ a.folded = b.folded := by
  rw [alike, alikeLists_iff Rdn.folded Rdn.alike_iff, folded, folded, Dn.mk.injEq]

@[simp] theorem length_folded_rdns (name : Dn) : name.folded.rdns.length = name.length := List.length_map _

theorem length_eq_of_alike (same : a.alike b = true) : a.length = b.length := by
  rw [← length_folded_rdns a, alike_iff.mp same, length_folded_rdns]

theorem folded_drop (a : Dn) (levels : Nat) :
    (⟨a.rdns.drop levels⟩ : Dn).folded = ⟨a.folded.rdns.drop levels⟩ := by
  simp [folded]

theorem above?_eq_some_iff :
    a.above? levels = some b ↔ levels ≤ a.length ∧ b = ⟨a.rdns.drop levels⟩ := by
  induction levels generalizing a with
  | zero => simp [above?, eq_comm]
  | succ levels ih =>
    obtain ⟨_ | ⟨first, others⟩⟩ := a
    · simp [above?, parent?, length]
    · simp [above?, parent?, ih, length]

/-- Below is to be longer, with the other at the end. -/
theorem isBelow_iff : a.isBelow b = true ↔ b.length < a.length ∧ b.folded.rdns <:+ a.folded.rdns := by
  have sameEnd : (a.rdns.drop (a.length - b.length)).map Rdn.folded = b.rdns.map Rdn.folded ↔
      b.folded.rdns <:+ a.folded.rdns := by
    rw [List.suffix_iff_eq_drop, eq_comm, List.map_drop, length_folded_rdns, length_folded_rdns]
    rfl
  rw [isBelow, Bool.and_eq_true, decide_eq_true_iff, alikeLists_iff Rdn.folded Rdn.alike_iff, sameEnd]

/-- So many levels up stands the name that is so many levels shorter and has the same end. -/
theorem exists_above_iff :
    (∃ c, a.above? levels = some c ∧ c.alike b = true) ↔
      a.length = b.length + levels ∧ b.folded.rdns <:+ a.folded.rdns := by
  constructor
  · rintro ⟨c, reached, same⟩
    obtain ⟨enough, rfl⟩ := above?_eq_some_iff.mp reached
    have left : a.length - levels = b.length := by
      rw [← length_eq_of_alike same, length, length, List.length_drop]
    have ends := folded_drop a levels
    rw [alike_iff.mp same] at ends
    rw [ends]
    exact ⟨by omega, List.drop_suffix levels _⟩
  · rintro ⟨long, ends⟩
    have dropped := List.suffix_iff_eq_drop.mp ends
    rw [length_folded_rdns, length_folded_rdns, long, Nat.add_sub_cancel_left] at dropped
    refine ⟨⟨a.rdns.drop levels⟩, above?_eq_some_iff.mpr ⟨by omega, rfl⟩, ?_⟩
    rw [alike_iff, folded_drop, ← dropped]

theorem isBelow_iff_reached :
    a.isBelow b = true ↔ ∃ levels c, 1 ≤ levels ∧ a.above? levels = some c ∧ c.alike b = true := by
  rw [isBelow_iff]
  constructor
  · rintro ⟨longer, ends⟩
    have long : a.length = b.length + (a.length - b.length) := by omega
    obtain ⟨c, reached, same⟩ := exists_above_iff.mpr ⟨long, ends⟩
    exact ⟨_, c, by omega, reached, same⟩
  · rintro ⟨levels, c, some, reached, same⟩
    obtain ⟨long, ends⟩ := exists_above_iff.mp ⟨c, reached, same⟩
    exact ⟨by omega, ends⟩

theorem not_isBelow_self (a : Dn) : a.isBelow a = false := by
  apply Bool.eq_false_iff.mpr
  intro below
  exact Nat.lt_irrefl _ (isBelow_iff.mp below).1

theorem isBelow_trans (first : a.isBelow b = true) (second : b.isBelow c = true) : a.isBelow c = true := by
  rw [isBelow_iff] at first second ⊢
  exact ⟨Nat.lt_trans second.1 first.1, second.2.trans first.2⟩

theorem isBelow_asymm (below : a.isBelow b = true) : b.isBelow a = false := by
  apply Bool.eq_false_iff.mpr
  intro above
  exact Nat.lt_asymm (isBelow_iff.mp below).1 (isBelow_iff.mp above).1

theorem isBelow_eq_of_alike {d : Dn} (first : a.alike c = true) (second : b.alike d = true) :
    a.isBelow b = c.isBelow d := by
  rw [Bool.eq_iff_iff, isBelow_iff, isBelow_iff, length_eq_of_alike first, length_eq_of_alike second,
    alike_iff.mp first, alike_iff.mp second]

theorem isBelow_root (some : a ≠ root) : a.isBelow root = true := by
  have levels : a.rdns ≠ [] := fun none => some (congrArg Dn.mk none)
  exact isBelow_iff.mpr ⟨List.length_pos_iff.mpr levels, List.nil_suffix⟩

/-- What a name ends with is the name itself, or the name is below it. -/
theorem folded_suffix_iff : b.folded.rdns <:+ a.folded.rdns ↔ a.alike b = true ∨ a.isBelow b = true := by
  rw [alike_iff, isBelow_iff]
  constructor
  · intro ends
    have short := ends.length_le
    rw [length_folded_rdns, length_folded_rdns] at short
    rcases Nat.lt_or_eq_of_le short with longer | same
    · exact .inr ⟨longer, ends⟩
    · have whole := ends.eq_of_length (by rw [length_folded_rdns, length_folded_rdns, same])
      exact .inl (congrArg Dn.mk whole.symm)
  · rintro (same | ⟨_, ends⟩)
    · have whole : b.folded.rdns = a.folded.rdns := congrArg Dn.rdns same.symm
      exact whole ▸ List.suffix_refl _
    · exact ends

theorem child_isBelow_iff {rdn : Rdn} :
    (a.child rdn).isBelow b = true ↔ a.alike b = true ∨ a.isBelow b = true := by
  have longer : (a.child rdn).length = a.length + 1 := rfl
  have added : (a.child rdn).folded.rdns = rdn.folded :: a.folded.rdns := rfl
  rw [← folded_suffix_iff, isBelow_iff, longer, added]
  constructor
  · rintro ⟨short, ends⟩
    rcases List.suffix_cons_iff.mp ends with whole | within
    -- All of the child is longer than what it is below of.
    · have long := congrArg List.length whole
      rw [List.length_cons, length_folded_rdns, length_folded_rdns] at long
      omega
    · exact within
  · intro within
    have short := within.length_le
    rw [length_folded_rdns, length_folded_rdns] at short
    exact ⟨by omega, within.trans (List.suffix_cons _ _)⟩

/-- Names stand below one another as the levels that they are made of say, but for letter case. -/
theorem isBelow_isHierarchy :
    IsHierarchy isBelow ∧ (∀ a b : Dn, a.alike b = true ↔ a.folded = b.folded) ∧
      ∀ (a : Dn) (rdn : Rdn), (a.child rdn).parent? = some a ∧ (a.child rdn).rdn? = some rdn := by
  refine ⟨?_, fun _ _ => alike_iff, fun a rdn => ⟨parent?_child a rdn, rdn?_child a rdn⟩⟩
  constructor
  case reached => exact fun _ _ => isBelow_iff_reached
  case irreflexive => exact not_isBelow_self
  case transitive => exact fun _ _ _ => isBelow_trans
  case asymmetric => exact fun _ _ => isBelow_asymm
  case respectful => exact fun _ _ _ _ => isBelow_eq_of_alike
  case root => exact fun _ => isBelow_root
  case child => exact fun _ _ _ => child_isBelow_iff

example :
    let base : Dn := ⟨[[⟨"dc", "example"⟩], [⟨"dc", "com"⟩]]⟩
    let person : Dn := ⟨[[⟨"uid", "j"⟩], [⟨"DC", "example"⟩], [⟨"DC", "com"⟩]]⟩
    person.isBelow base = true ∧ person.isBelow (base.child [⟨"uid", "j"⟩]) = false := by
  decide +kernel

end Dn

end Directory
