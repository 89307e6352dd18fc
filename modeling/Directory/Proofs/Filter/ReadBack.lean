import Directory.Filter.Wire
import Directory.Proofs.Wire.ReadBack
/-!
The wire form of a filter is read back as that filter, as far as it is not nested too deep. The parts of a
pattern come in a fixed order, so that each is accepted in the place where it was written.
-/
namespace Directory.Filter

open Wire

theorem depth_le_depthOfList {filter : Filter} {filters : List Filter} (member : filter ∈ filters) :
    filter.depth ≤ depthOfList filters := by
  induction filters with
  | nil => cases member
  | cons first rest ih =>
    rw [depthOfList]
    rcases List.mem_cons.mp member with same | later
    · subst same
      exact Nat.le_max_left _ _
    · exact Nat.le_trans (ih later) (Nat.le_max_right _ _)

theorem depth_pos (filter : Filter) : 0 < filter.depth := by
  cases filter <;> simp [depth]

theorem items_eq_map (filters : List Filter) : items filters = filters.map item := by
  induction filters with
  | nil => rfl
  | cons filter rest ih => rw [items, ih, List.map_cons]

theorem chain_initial (initial : Option Octets) :
    Reading.Chain readPart {} (Item.optional Tag.initialPart initial) { initial } := by
  cases initial with
  | none => exact .nil _
  | some content =>
    refine .cons (fun rest => ?_) (.nil _)
    unfold readPart
    apply Reading.takes_any_bind
    intro _
    simp [Reading.takes_pure]

theorem chain_middle (initial : Option Octets) (before middle : List Octets) :
    Reading.Chain readPart { initial, middle := before } (middle.map (Item.octets Tag.middlePart))
      { initial, middle := before ++ middle } := by
  induction middle generalizing before with
  | nil =>
    rw [List.append_nil]
    exact .nil _
  | cons content others ih =>
    have more := ih (before ++ [content])
    rw [List.append_assoc, List.singleton_append] at more
    refine .cons (fun rest => ?_) more
    unfold readPart
    apply Reading.takes_any_bind
    intro _
    simp [Tag.middlePart, Tag.initialPart, Reading.takes_pure]

theorem chain_final (initial : Option Octets) (middle : List Octets) (final : Option Octets) :
    Reading.Chain readPart { initial, middle } (Item.optional Tag.finalPart final)
      { initial, middle, final } := by
  cases final with
  | none => exact .nil _
  | some content =>
    refine .cons (fun rest => ?_) (.nil _)
    unfold readPart
    apply Reading.takes_any_bind
    intro _
    simp [Tag.finalPart, Tag.middlePart, Tag.initialPart, Reading.takes_pure]

theorem takes_readSubstrings (attr : String) (initial : Option Octets) (middle : List Octets)
    (final : Option Octets) :
    readSubstrings.Takes
      (Item.writeAll [.text Tag.octetString attr,
        .group Tag.sequence (Item.optional Tag.initialPart initial ++
          middle.map (Item.octets Tag.middlePart) ++ Item.optional Tag.finalPart final)])
      (.substrings attr initial middle final) [] := by
  have chain := ((chain_initial initial).append (chain_middle initial [] middle)).append
    (chain_final initial ([] ++ middle) final)
  have parts := Reading.takes_steps chain
  apply (Reading.takes_text Tag.octetString attr _).bind
  exact Reading.takes_element_bind fun short =>
    (Reading.takes_within short parts _).bind_nil (Reading.takes_pure _ _)

theorem takes_readCompare (comparison : Comparison) (attr : String) (value : Octets) :
    (readCompare comparison).Takes
      (Item.writeAll [.text Tag.octetString attr, .octets Tag.octetString value])
      (.compare comparison attr value) [] := by
  apply (Reading.takes_text Tag.octetString attr _).bind
  exact Reading.takes_element_bind fun _ => Reading.takes_pure _ _

theorem takes_read (levels : Nat) (filter : Filter) (shallow : filter.depth ≤ levels)
    (rest : Octets) : (read levels).Takes filter.item.write filter rest := by
  induction levels generalizing filter rest with
  | zero => exact absurd (depth_pos filter) (by omega)
  | succ levels ih =>
    -- The filters inside a list are at most as deep as the list.
    have inner : ∀ filters : List Filter, depthOfList filters ≤ levels →
        (Reading.many (read levels)).Takes (Item.writeAll (items filters)) filters [] := by
      intro filters bound
      rw [items_eq_map]
      refine Reading.takes_many fun filter member rest => ih filter ?_ rest
      exact Nat.le_trans (depth_le_depthOfList member) bound
    cases filter with
    | all filters =>
      apply Reading.takes_any_bind
      intro short
      exact (Reading.takes_whole short (inner filters (Nat.le_of_succ_le_succ shallow)) _).map
    | any filters =>
      apply Reading.takes_any_bind
      intro short
      exact (Reading.takes_whole short (inner filters (Nat.le_of_succ_le_succ shallow)) _).map
    | not filter =>
      apply Reading.takes_any_bind
      intro short
      have one := ih filter (Nat.le_of_succ_le_succ shallow) []
      rw [← List.append_nil filter.item.write] at one
      exact (Reading.takes_whole short one _).map
    | compare comparison attr value =>
      apply Reading.takes_any_bind
      intro short
      have content := Reading.takes_whole short (takes_readCompare comparison attr value) rest
      cases comparison <;> exact content
    | substrings attr initial middle final =>
      apply Reading.takes_any_bind
      intro short
      exact Reading.takes_whole short (takes_readSubstrings attr initial middle final) _
    | present attr =>
      apply Reading.takes_any_bind
      intro short
      exact (Reading.takes_lift (Reading.asText_ofText attr) rest).map

end Directory.Filter
