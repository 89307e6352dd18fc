import Directory.Proofs.Dn.ReadBack
import Directory.Proofs.Filter.Parsing
import Directory.Proofs.Filter.ReadBack
/-!
The text of a filter is read as that filter again. The filters of which this holds are those that some text
means: no list in them is empty, the attributes are descriptions, and patterns have parts that are not empty.
-/
namespace Directory.Filter

def IsPattern (initial : Option Octets) (middle : List Octets) (final : Option Octets) : Prop :=
  initial ≠ some [] ∧ [] ∉ middle ∧ final ≠ some [] ∧
    ¬ (initial = none ∧ middle = [] ∧ final = none)

mutual
def Expressible : Filter → Prop
  | .all filters | .any filters => filters ≠ [] ∧ AllExpressible filters
  | .not filter => filter.Expressible
  | .compare _ attr _ | .present attr => IsDescription attr
  | .substrings attr initial middle final => IsDescription attr ∧ IsPattern initial middle final
def AllExpressible : List Filter → Prop
  | [] => True
  | filter :: rest => filter.Expressible ∧ AllExpressible rest
end

/-- A filter that some text means. -/
def WellFormed (filter : Filter) : Prop := filter.Expressible ∧ filter.depth ≤ maxDepth

variable {signs : Prop}

/-- An octet that stands for itself is a character that a value can hold. -/
theorem bare_of_not_isReserved {octet : UInt8} (plain : isReserved octet = false) :
    isEscapable (Char.ofNat octet.toNat) = false ∧
      String.utf8EncodeChar (Char.ofNat octet.toNat) = [octet] := by
  simp only [isReserved, Bool.or_eq_false_iff, beq_eq_false_iff_ne, decide_eq_false_iff_not,
    ne_eq, ← UInt8.toNat_inj, UInt8.lt_iff_toNat_lt, UInt8.le_iff_toNat_le] at plain
  obtain ⟨⟨⟨⟨⟨star, opening⟩, closing⟩, escape⟩, _⟩, small⟩ := plain
  have bound : octet.toNat < 128 := Nat.lt_succ_of_lt (Nat.lt_of_not_le small)
  have valid : octet.toNat.isValidChar := .inl (Nat.lt_trans bound (by decide))
  have code : (Char.ofNat octet.toNat).toNat = octet.toNat := by
    rw [Char.ofNat, dif_pos valid]
    rfl
  constructor
  · refine Bool.eq_false_iff.mpr fun escapable => ?_
    rcases isEscapable_iff.mp escapable with same | same | same | same <;> rw [same] at code
    · exact star code.symm
    · exact opening code.symm
    · exact closing code.symm
    · exact escape code.symm
  · have small : (Char.ofNat octet.toNat).toNat < 128 := by rwa [code]
    rw [utf8EncodeChar_ascii small, code, UInt8.ofNat_toNat]

theorem value_octetChars (octet : UInt8) {text : List Char} {value : Octets}
    (spelled : Value signs text value) : Value signs (octetChars octet ++ text) (octet :: value) := by
  unfold octetChars
  split
  · exact .escaped (.digits (Hex.octet?_lower octet)) spelled
  · next plain =>
    obtain ⟨bare, encoded⟩ := bare_of_not_isReserved (Bool.eq_false_iff.mpr plain)
    have one := Value.bare bare spelled
    rw [encoded] at one
    exact one

theorem value_valueChars (value : Octets) : Value signs (valueChars value) value := by
  induction value with
  | nil => exact .nil
  | cons octet rest ih => exact value_octetChars octet ih

theorem described_toList {attr : String} (named : IsDescription attr) : Described attr.toList attr :=
  ⟨named, [], [], by simp, nofun, nofun⟩

theorem joined_middle (middle : List Octets) (final : Octets) :
    Joined signs (middle.flatMap (fun part => valueChars part ++ ['*']) ++ valueChars final)
      (middle ++ [final]) := by
  induction middle with
  | nil => exact .last (value_valueChars final)
  | cons part rest ih =>
    simpa using Joined.more (value_valueChars part) ih

theorem nonEmpty?_getD {part : Option Octets} (filled : part ≠ some []) :
    nonEmpty? (part.getD []) = part := by
  cases part with
  | none => rfl
  | some octets =>
    have some : octets ≠ [] := fun empty => filled (by rw [empty])
    simp [nonEmpty?, some]

theorem ne_nil_of_ne_some_nil {part : Option Octets} (filled : part ≠ some []) (given : part ≠ none) :
    part.getD [] ≠ [] := by
  cases part with
  | none => exact absurd rfl given
  | some octets => exact fun empty => filled (congrArg some empty)

theorem IsPattern.exists_ne_nil {initial final : Option Octets} {middle : List Octets}
    (pattern : IsPattern initial middle final) :
    ∃ part ∈ initial.getD [] :: (middle ++ [final.getD []]), part ≠ [] := by
  obtain ⟨first, between, last, given⟩ := pattern
  by_cases noInitial : initial = none
  · by_cases noFinal : final = none
    · cases middle with
      | nil => exact absurd ⟨noInitial, rfl, noFinal⟩ given
      | cons part others =>
        refine ⟨part, by simp, ?_⟩
        rintro rfl
        exact between List.mem_cons_self
    · exact ⟨final.getD [], by simp, ne_nil_of_ne_some_nil last noFinal⟩
  · exact ⟨initial.getD [], by simp, ne_nil_of_ne_some_nil first noInitial⟩

theorem assertion_pattern {attr : String} {initial final : Option Octets} {middle : List Octets}
    (pattern : IsPattern initial middle final) :
    Assertion signs attr ('=' :: (valueChars (initial.getD []) ++ '*' ::
        (middle.flatMap (fun part => valueChars part ++ ['*']) ++ valueChars (final.getD []))))
      (.substrings attr initial middle final) := by
  have joined : Joined signs _ _ :=
    .more (value_valueChars (initial.getD [])) (joined_middle middle (final.getD []))
  have asserted : Assertion signs attr _ _ := .substrings joined pattern.exists_ne_nil
  obtain ⟨first, between, last, _⟩ := pattern
  have kept : middle.filter (fun part => !part.isEmpty) = middle := by
    refine List.filter_eq_self.mpr fun part member => ?_
    cases part with
    | nil => exact absurd member between
    | cons => rfl
  rwa [nonEmpty?_getD first, nonEmpty?_getD last, kept] at asserted

theorem spells_single {levels : Nat} {attr : String} {text : List Char} {filter : Filter}
    (named : IsDescription attr) (asserted : Assertion signs attr text filter) :
    Spells signs (levels + 1) ('(' :: (attr.toList ++ text ++ [')'])) filter :=
  .single ⟨attr.toList, text, attr, rfl, described_toList named, asserted⟩

mutual
theorem spells_chars {levels : Nat} (filter : Filter) (expressible : filter.Expressible)
    (shallow : filter.depth ≤ levels) : Spells signs levels filter.chars filter := by
  -- Every filter is at least one deep, so that there is a level left for its own parenthesis.
  obtain ⟨inner, rfl⟩ := Nat.exists_eq_add_one.mpr (Nat.lt_of_lt_of_le filter.depth_pos shallow)
  cases filter with
  | all filters =>
    obtain ⟨some, each⟩ := expressible
    exact .all some (spellsMany_charsOfList filters each (Nat.le_of_succ_le_succ shallow))
  | any filters =>
    obtain ⟨some, each⟩ := expressible
    exact .any some (spellsMany_charsOfList filters each (Nat.le_of_succ_le_succ shallow))
  | not filter => exact .not (spells_chars filter expressible (Nat.le_of_succ_le_succ shallow))
  | compare comparison attr value =>
    have asserted : Assertion signs attr _ _ := .compare comparison (value_valueChars value)
    simpa [chars] using spells_single expressible asserted
  | substrings attr initial middle final =>
    obtain ⟨named, pattern⟩ := expressible
    have asserted : Assertion signs attr _ _ := assertion_pattern pattern
    simpa [chars] using spells_single named asserted
  | present attr =>
    have asserted : Assertion signs attr _ _ := .present
    simpa [chars] using spells_single expressible asserted
theorem spellsMany_charsOfList {levels : Nat} (filters : List Filter)
    (expressible : AllExpressible filters) (shallow : depthOfList filters ≤ levels) :
    SpellsMany signs levels (charsOfList filters) filters := by
  cases filters with
  | nil => exact .nil
  | cons filter rest =>
    obtain ⟨first, others⟩ := expressible
    obtain ⟨here, there⟩ := Nat.max_le.mp shallow
    exact .cons (spells_chars filter first here) (spellsMany_charsOfList rest others there)
end

theorem nonEmpty?_ne_some_nil (octets : Octets) : nonEmpty? octets ≠ some [] := by
  cases octets <;> simp [nonEmpty?]

/-- With its empty parts left out, a row of parts that are not all empty is a pattern. -/
theorem isPattern_of_exists_ne_nil {initial final : Octets} {middle : List Octets}
    (filled : ∃ part ∈ initial :: (middle ++ [final]), part ≠ []) :
    IsPattern (nonEmpty? initial) (middle.filter fun part => !part.isEmpty) (nonEmpty? final) := by
  refine ⟨nonEmpty?_ne_some_nil initial, by simp, nonEmpty?_ne_some_nil final, ?_⟩
  rintro ⟨noInitial, noMiddle, noFinal⟩
  obtain ⟨part, member, some⟩ := filled
  simp only [List.mem_cons, List.mem_append, List.not_mem_nil, or_false] at member
  rcases member with rfl | inside | rfl
  · exact some (nonEmpty?_eq_none_iff.mp noInitial)
  · exact some (by simpa using List.filter_eq_nil_iff.mp noMiddle part inside)
  · exact some (nonEmpty?_eq_none_iff.mp noFinal)

theorem Single.expressible {text : List Char} {filter : Filter} (single : Single signs text filter) :
    filter.Expressible ∧ filter.depth = 1 := by
  obtain ⟨_, _, attr, _, ⟨named, _⟩, asserted⟩ := single
  cases asserted with
  | compare => exact ⟨named, rfl⟩
  | present => exact ⟨named, rfl⟩
  | substrings _ filled => exact ⟨⟨named, isPattern_of_exists_ne_nil filled⟩, rfl⟩

mutual
theorem Spells.expressible {levels : Nat} {text : List Char} {filter : Filter}
    (spelled : Spells signs levels text filter) : filter.Expressible ∧ filter.depth ≤ levels := by
  cases spelled with
  | all some many =>
    obtain ⟨each, shallow⟩ := many.expressible
    exact ⟨⟨some, each⟩, Nat.succ_le_succ shallow⟩
  | any some many =>
    obtain ⟨each, shallow⟩ := many.expressible
    exact ⟨⟨some, each⟩, Nat.succ_le_succ shallow⟩
  | not one =>
    obtain ⟨inner, shallow⟩ := one.expressible
    exact ⟨inner, Nat.succ_le_succ shallow⟩
  | single single =>
    obtain ⟨named, flat⟩ := single.expressible
    exact ⟨named, by omega⟩
theorem SpellsMany.expressible {levels : Nat} {text : List Char} {filters : List Filter}
    (spelled : SpellsMany signs levels text filters) :
    AllExpressible filters ∧ depthOfList filters ≤ levels := by
  cases spelled with
  | nil => exact ⟨trivial, Nat.zero_le _⟩
  | cons one many =>
    obtain ⟨first, here⟩ := one.expressible
    obtain ⟨others, there⟩ := many.expressible
    exact ⟨⟨first, others⟩, Nat.max_le.mpr ⟨here, there⟩⟩
end

theorem Denotes.wellFormed {text : List Char} {filter : Filter} (denoted : Denotes signs text filter) :
    filter.WellFormed := by
  rcases denoted with spelled | single
  · exact spelled.expressible
  · obtain ⟨named, flat⟩ := single.expressible
    exact ⟨named, by rw [flat]; decide⟩

theorem head?_chars (filter : Filter) : filter.chars.head? = some '(' := by
  cases filter <;> simp [chars]

theorem getLast?_chars (filter : Filter) : filter.chars.getLast? = some ')' := by
  cases filter <;> simp [chars, List.getLast?_cons]

theorem trim_chars (filter : Filter) : trim filter.chars = filter.chars := by
  apply trim_eq_self_of_ends
  · intro c first
    obtain rfl : '(' = c := by simpa [head?_chars] using first
    rfl
  · intro c last
    obtain rfl : ')' = c := by simpa [getLast?_chars] using last
    rfl

theorem parse_print_iff {filter : Filter} :
    parse filter.print = .ok filter ↔ filter.WellFormed := by
  rw [parse_eq_ok_iff, print, String.toList_ofList, trim_chars]
  constructor
  · exact Denotes.wellFormed
  · rintro ⟨expressible, shallow⟩
    exact .inl (spells_chars filter expressible shallow)

/-- The well-formed filters are those that are read back from their own text, and nothing else is ever
read: whatever text a filter came from, its own text means the same. -/
theorem parse_print_filter (filter : Filter) :
    (filter.WellFormed ↔ parse filter.print = .ok filter) ∧
      ∀ text, parse text = .ok filter → filter.WellFormed ∧ parse filter.print = .ok filter := by
  refine ⟨parse_print_iff.symm, fun text read => ?_⟩
  have legal : filter.WellFormed := (parse_eq_ok_iff.mp read).wellFormed
  exact ⟨legal, parse_print_iff.mpr legal⟩

/-- White space, empty parts and letters that need no escape are not printed again. -/
theorem parse_print_filter_loose :
    ∃ filter, parse " (&(!( cn =J*\\2a**\\4b))(bin>=\\00\\(\\FF)(mail=*)) " = .ok filter ∧
      filter.print = "(&(!(cn=J*\\2a*K))(bin>=\\00\\28\\ff)(mail=*))" ∧
      filter.WellFormed ∧ parse filter.print = .ok filter := by
  have read : parse " (&(!( cn =J*\\2a**\\4b))(bin>=\\00\\(\\FF)(mail=*)) " = .ok (.all
      [.not (.substrings "cn" (some [74]) [[42]] (some [75])),
        .compare .greaterOrEqual "bin" [0, 40, 255], .present "mail"]) := by
    decide +kernel
  exact ⟨_, read, by decide +kernel, (parse_print_filter _).2 _ read⟩

end Directory.Filter
