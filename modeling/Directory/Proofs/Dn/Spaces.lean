import Directory.Proofs.Dn.ReadBack
import Mathlib.Data.List.DropRight
/-!
The spaces that a reader drops at the ends of a value. White space that is put there is a part of the value
from its first character on that is no space.
-/
namespace Directory

theorem Octets.ofText_append (first second : String) :
    Octets.ofText (first ++ second) = Octets.ofText first ++ Octets.ofText second := by
  simp [Octets.ofText]

namespace Dn

def dropSpaces (chars : List Char) : List Char := chars.dropWhile fun c => c = ' '

theorem dropSpaces_subset (chars : List Char) : dropSpaces chars ⊆ chars :=
  List.dropWhile_subset _

theorem dropSpaces_eq_nil_iff {chars : List Char} : dropSpaces chars = [] ↔ ∀ c ∈ chars, c = ' ' := by
  simp [dropSpaces]

theorem dropSpaces_dropSpaces (chars : List Char) : dropSpaces (dropSpaces chars) = dropSpaces chars :=
  List.dropWhile_idempotent _ _

theorem dropLoose_bare (chars : List Char) :
    (chars.map Piece.bare).dropWhile Piece.isLoose = (dropSpaces chars).map .bare := by
  rw [List.dropWhile_map]
  rfl

theorem dropLoose_append (left : List Char) {core : List Piece} (some : core ≠ [])
    (solid : ∀ piece, core.head? = .some piece → piece.isLoose = false) (rest : List Piece) :
    (left.map Piece.bare ++ (core ++ rest)).dropWhile Piece.isLoose =
      (dropSpaces left).map .bare ++ (core ++ rest) := by
  obtain ⟨first, others, rfl⟩ := List.exists_cons_of_ne_nil some
  have stays : ¬ first.isLoose = true := by simp [solid first rfl]
  rw [List.dropWhile_append, dropLoose_bare, List.cons_append, List.dropWhile_cons_of_neg stays]
  split
  · next nothing => rw [List.isEmpty_iff.mp nothing, List.nil_append]
  · rfl

theorem trimPieces_eq (pieces : List Piece) :
    trimPieces pieces = (pieces.dropWhile Piece.isLoose).rdropWhile Piece.isLoose := rfl

theorem tight_trimPieces (pieces : List Piece) : Tight (trimPieces pieces) := by
  constructor
  · intro piece first
    obtain ⟨rest, start⟩ := List.head?_eq_some_iff.mp first
    obtain ⟨tail, whole⟩ := List.rdropWhile_prefix Piece.isLoose (pieces.dropWhile Piece.isLoose)
    have solid := List.head?_dropWhile_not Piece.isLoose pieces
    rw [← whole, ← trimPieces_eq, start] at solid
    exact solid
  · intro piece last
    rw [trimPieces_eq] at last
    obtain ⟨some, rfl⟩ := List.mem_getLast?_eq_getLast last
    exact Bool.eq_false_iff.mpr (List.rdropWhile_last_not _ _ some)

theorem exists_loose {pieces : List Piece} (loose : ∀ piece ∈ pieces, piece.isLoose = true) :
    ∃ spaces : List Char, pieces = spaces.map .bare ∧ ∀ c ∈ spaces, c = ' ' := by
  refine ⟨List.replicate pieces.length ' ', ?_, fun c member => List.eq_of_mem_replicate member⟩
  rw [List.map_replicate]
  refine List.eq_replicate_of_mem fun piece member => ?_
  have space := loose piece member
  cases piece with
  | bare c => simpa [Piece.isLoose] using space
  | escaped => cases space

/-- The loose spaces at the ends of a value, and what they leave. -/
theorem exists_trimPieces (pieces : List Piece) :
    ∃ before after : List Char, pieces = before.map .bare ++ trimPieces pieces ++ after.map .bare ∧
      ∀ c ∈ before ++ after, c = ' ' := by
  have front : ∀ piece ∈ pieces.takeWhile Piece.isLoose, piece.isLoose = true :=
    fun _ member => List.mem_takeWhile_imp member
  have back : ∀ piece ∈ (pieces.dropWhile Piece.isLoose).rtakeWhile Piece.isLoose, piece.isLoose = true :=
    fun _ member => List.mem_rtakeWhile_imp member
  obtain ⟨before, front, early⟩ := exists_loose front
  obtain ⟨after, back, late⟩ := exists_loose back
  refine ⟨before, after, ?_, fun c member => (List.mem_append.mp member).elim (early c) (late c)⟩
  rw [← front, ← back, List.append_assoc, trimPieces_eq, List.rdropWhile_append_rtakeWhile,
    List.takeWhile_append_dropWhile]

/-- Of white space around a value that has no loose spaces at its ends, nothing counts if it is spaces only. -/
theorem trimPieces_margins {core : List Piece} (tight : Tight core) (left right : List Char) :
    ∃ before after : List Char, trimPieces (left.map .bare ++ core ++ right.map .bare) =
        before.map .bare ++ core ++ after.map .bare ∧
      (∀ c ∈ before ++ after, c ∈ left ++ right) ∧
      (before ++ after = [] ↔ ∀ c ∈ left ++ right, c = ' ') := by
  obtain ⟨front, back⟩ := tight
  by_cases empty : core = []
  · -- Nothing stops the reader between the two sides: they are one text to it.
    subst empty
    refine ⟨(dropSpaces (dropSpaces (left ++ right)).reverse).reverse, [], ?_, ?_, ?_⟩
    · rw [trimPieces, List.append_nil, ← List.map_append, dropLoose_bare, ← List.map_reverse, dropLoose_bare]
      simp
    · intro c member
      simp only [List.append_nil, List.mem_reverse] at member
      exact dropSpaces_subset _ (List.mem_reverse.mp (dropSpaces_subset _ member))
    · rw [List.append_nil, List.reverse_eq_nil_iff, dropSpaces_eq_nil_iff]
      simp only [List.mem_reverse]
      rw [← dropSpaces_eq_nil_iff, dropSpaces_dropSpaces, dropSpaces_eq_nil_iff]
  · refine ⟨dropSpaces left, (dropSpaces right.reverse).reverse, ?_, ?_, ?_⟩
    · -- The end is the front of the list turned round.
      have turned : core.reverse ≠ [] := mt List.reverse_eq_nil_iff.mp empty
      have last : ∀ piece, core.reverse.head? = .some piece → piece.isLoose = false := by
        simpa using back
      rw [trimPieces, List.append_assoc, dropLoose_append left empty front, List.reverse_append,
        List.reverse_append, ← List.map_reverse, List.append_assoc, dropLoose_append _ turned last]
      simp
    · intro c member
      rcases List.mem_append.mp member with early | late
      · exact List.mem_append_left _ (dropSpaces_subset left early)
      · exact List.mem_append_right _ (by simpa using dropSpaces_subset _ (List.mem_reverse.mp late))
    · simp [dropSpaces_eq_nil_iff, or_imp, forall_and]

theorem checkValue_eq_ok_iff {pieces : List Piece} {value : String} :
    checkValue pieces = .ok value ↔ (trimPieces pieces).flatMap Piece.octets = Octets.ofText value := by
  rw [← Octets.text?_eq_some_iff, checkValue]
  cases Octets.text? ((trimPieces pieces).flatMap Piece.octets) <;> simp

theorem octets_bare (chars : List Char) :
    (chars.map Piece.bare).flatMap Piece.octets = Octets.ofText (String.ofList chars) := by
  rw [Octets.ofText_ofList, List.flatMap_map]
  rfl

theorem padded_eq_iff {before after : List Char} (value : String) :
    String.ofList before ++ value ++ String.ofList after = value ↔ before ++ after = [] := by
  constructor
  · intro same
    have lengths := congrArg String.length same
    simp only [String.length_append, String.length_ofList] at lengths
    refine List.append_eq_nil_iff.mpr ⟨?_, ?_⟩ <;>
    · apply List.length_eq_zero_iff.mp
      omega
  · intro none
    obtain ⟨rfl, rfl⟩ := List.append_eq_nil_iff.mp none
    simp

theorem blank_of_space {c : Char} (space : c = ' ') : isBlank c = true := by
  rw [space]
  decide

/-- White space around the pieces of a value is white space around the value, but for outer spaces. -/
theorem checkValue_margins {pieces : List Piece} {value : String} {left right : List Char}
    (checked : checkValue pieces = .ok value) (early : Blank left) (late : Blank right) :
    ∃ before after, Blank before ∧ Blank after ∧
      checkValue (left.map .bare ++ pieces ++ right.map .bare) =
        .ok (String.ofList before ++ value ++ String.ofList after) ∧
      (before ++ after = [] ↔ ∀ c ∈ left ++ right, c = ' ') := by
  obtain ⟨front, back, split, spaces⟩ := exists_trimPieces pieces
  obtain ⟨before, after, trimmed, inside, nothing⟩ :=
    trimPieces_margins (tight_trimPieces pieces) (left ++ front) (back ++ right)
  have origin : ∀ c ∈ left ++ front ++ (back ++ right), c ∈ left ++ right ∨ c = ' ' := by
    intro c member
    simp only [List.mem_append] at member spaces ⊢
    rcases member with (side | inner) | (inner | side)
    · exact .inl (.inl side)
    · exact .inr (spaces c (.inl inner))
    · exact .inr (spaces c (.inr inner))
    · exact .inl (.inr side)
  have blank : Blank (before ++ after) := by
    intro c member
    rcases origin c (inside c member) with side | space
    · exact early.append late c side
    · exact blank_of_space space
  refine ⟨before, after, fun c member => blank c (List.mem_append_left _ member),
    fun c member => blank c (List.mem_append_right _ member), ?_, ?_⟩
  · rw [checkValue_eq_ok_iff] at checked ⊢
    have regrouped : left.map .bare ++ pieces ++ right.map .bare =
        (left ++ front).map .bare ++ trimPieces pieces ++ (back ++ right).map .bare := by
      conv_lhs => rw [split]
      simp
    rw [regrouped, trimmed]
    simp [checked, octets_bare, Octets.ofText_append]
  · rw [nothing]
    constructor
    · intro all c side
      refine all c ?_
      simp only [List.mem_append] at side ⊢
      exact side.imp .inl .inr
    · exact fun outer c member => (origin c member).elim (outer c) id

end Dn

end Directory
