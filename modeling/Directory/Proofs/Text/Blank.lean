import Directory.Text.Blank
import Mathlib.Data.List.TakeWhile
/-!
White space at the ends of a text. What `trim` takes away is white space, and whatever white space is put
at the ends of a text is taken away again.
-/
namespace Directory

def Blank (text : List Char) : Prop := ∀ c ∈ text, isBlank c = true

instance (text : List Char) : Decidable (Blank text) :=
  decidable_of_iff (text.all isBlank = true) List.all_eq_true

theorem Blank.append {before after : List Char} (first : Blank before) (second : Blank after) :
    Blank (before ++ after) := by
  intro c member
  rcases List.mem_append.mp member with early | late
  · exact first c early
  · exact second c late

theorem trimStart_eq_nil_iff {text : List Char} : trimStart text = [] ↔ Blank text :=
  List.dropWhile_eq_nil_iff

theorem trimStart_append_left {before : List Char} (blank : Blank before) (text : List Char) :
    trimStart (before ++ text) = trimStart text :=
  List.dropWhile_append_of_pos blank

theorem trimEnd_append_right {after : List Char} (blank : Blank after) (text : List Char) :
    trimEnd (text ++ after) = trimEnd text := by
  have backwards : ∀ c ∈ after.reverse, isBlank c = true := by
    intro c member
    exact blank c (List.mem_reverse.mp member)
  rw [trimEnd, List.reverse_append, List.dropWhile_append_of_pos backwards, trimEnd]

theorem trim_append_left {before : List Char} (blank : Blank before) (text : List Char) :
    trim (before ++ text) = trim text := by
  rw [trim, trimStart_append_left blank, trim]

theorem trim_append_right {after : List Char} (blank : Blank after) (text : List Char) :
    trim (text ++ after) = trim text := by
  by_cases nothing : Blank text
  · -- The text goes as a whole, and then the white space behind it.
    have all := trimStart_eq_nil_iff.mpr (nothing.append blank)
    rw [trim, all, trim, trimStart_eq_nil_iff.mpr nothing]
  · have some : trimStart text ≠ [] := fun none => nothing (trimStart_eq_nil_iff.mp none)
    have kept : trimStart (text ++ after) = trimStart text ++ after := by
      have left : (text.dropWhile isBlank).isEmpty = false := by simpa [trimStart] using some
      rw [trimStart, List.dropWhile_append, left, trimStart]
      rfl
    rw [trim, kept, trimEnd_append_right blank, trim]

/-- What is taken away at the ends is white space. -/
theorem exists_trim_eq (text : List Char) :
    ∃ before after, text = before ++ trim text ++ after ∧ Blank before ∧ Blank after := by
  refine ⟨text.takeWhile isBlank, ((trimStart text).reverse.takeWhile isBlank).reverse, ?_, ?_, ?_⟩
  · have back : trim text ++ ((trimStart text).reverse.takeWhile isBlank).reverse = trimStart text := by
      rw [trim, trimEnd, ← List.reverse_append, List.takeWhile_append_dropWhile, List.reverse_reverse]
    rw [List.append_assoc, back, trimStart, List.takeWhile_append_dropWhile]
  · exact fun c member => List.mem_takeWhile_imp member
  · exact fun c member => List.mem_takeWhile_imp (List.mem_reverse.mp member)

theorem dropWhile_eq_self_of_head? {α : Type} {drops : α → Bool} {list : List α}
    (solid : ∀ a, list.head? = some a → drops a = false) : list.dropWhile drops = list := by
  cases list with
  | nil => rfl
  | cons a rest => simp [solid a rfl]

/-- A text without white space at its ends stays as it is. -/
theorem trim_eq_self_of_ends {text : List Char}
    (front : ∀ c, text.head? = some c → isBlank c = false)
    (back : ∀ c, text.getLast? = some c → isBlank c = false) : trim text = text := by
  have turned : ∀ c, text.reverse.head? = some c → isBlank c = false := by
    simpa using back
  rw [trim, trimStart, dropWhile_eq_self_of_head? front, trimEnd, dropWhile_eq_self_of_head? turned,
    List.reverse_reverse]

/-- A text without any white space is what is left of it with white space around it. -/
theorem trim_surrounded {before text after : List Char} (early : Blank before) (late : Blank after)
    (solid : ∀ c ∈ text, isBlank c = false) : trim (before ++ text ++ after) = text := by
  rw [trim_append_right late, trim_append_left early]
  apply trim_eq_self_of_ends
  · exact fun c first => solid c (List.mem_of_mem_head? first)
  · exact fun c last => solid c (List.mem_of_mem_getLast? last)

theorem isAlphanum_toNat {c : Char} (h : c.isAlphanum = true) :
    65 ≤ c.toNat ∧ c.toNat ≤ 90 ∨ 97 ≤ c.toNat ∧ c.toNat ≤ 122 ∨ 48 ≤ c.toNat ∧ c.toNat ≤ 57 := by
  delta Char.isAlphanum Char.isAlpha Char.isUpper Char.isLower Char.isDigit at h
  simp only [ge_iff_le, Bool.or_eq_true, Bool.and_eq_true, decide_eq_true_eq,
    UInt32.le_iff_toNat_le] at h
  have code : c.val.toNat = c.toNat := rfl
  rw [code] at h
  rcases h with (upper | lower) | digit
  · exact .inl upper
  · exact .inr (.inl lower)
  · exact .inr (.inr digit)

theorem not_isBlank_of_isAlphanum {c : Char} (h : c.isAlphanum = true) : isBlank c = false := by
  have range := isAlphanum_toNat h
  simp only [isBlank, Bool.or_eq_false_iff, Bool.and_eq_false_iff, decide_eq_false_iff_not,
    beq_eq_false_iff_ne]
  omega

end Directory
