import Directory.Proofs.Filter.Printing
import Directory.Proofs.Wire.Rejected
/-!
How deep a filter may be. The text of a filter that goes deeper is refused at the parenthesis that is one too
many, and its wire form at the element that is one too many, wherever in the filter that stands: what comes
before it is read as usual, and what comes after it is not looked at.
-/
namespace Directory.Filter

open Wire

mutual
/-- A filter whose text means something but for its depth. The parts of a pattern are not empty; it may have
none, and then its text asks for presence. -/
def Legible : Filter → Prop
  | .all filters | .any filters => filters ≠ [] ∧ AllLegible filters
  | .not filter => filter.Legible
  | .compare _ attr _ | .present attr => IsDescription attr
  | .substrings attr initial middle final =>
    IsDescription attr ∧ initial ≠ some [] ∧ [] ∉ middle ∧ final ≠ some []
def AllLegible : List Filter → Prop
  | [] => True
  | filter :: rest => filter.Legible ∧ AllLegible rest
end

mutual
def settled : Filter → Filter
  | .all filters => .all (settledList filters)
  | .any filters => .any (settledList filters)
  | .not filter => .not filter.settled
  | .substrings attr none [] none => .present attr
  | filter => filter
def settledList : List Filter → List Filter
  | [] => []
  | filter :: rest => filter.settled :: settledList rest
end

theorem AllLegible.of_mem {filters : List Filter} (legible : AllLegible filters) {filter : Filter}
    (member : filter ∈ filters) : filter.Legible := by
  induction filters with
  | nil => cases member
  | cons first rest ih =>
    obtain ⟨here, others⟩ := legible
    rcases List.mem_cons.mp member with rfl | behind
    · exact here
    · exact ih others behind

mutual
theorem chars_settled (filter : Filter) : filter.settled.chars = filter.chars := by
  cases filter with
  | all filters => simp [settled, chars, charsOfList_settledList]
  | any filters => simp [settled, chars, charsOfList_settledList]
  | not filter => simp [settled, chars, chars_settled filter]
  | compare => rfl
  | present => rfl
  | substrings attr initial middle final =>
    unfold settled
    split <;> simp_all [chars, valueChars]
theorem charsOfList_settledList (filters : List Filter) :
    charsOfList (settledList filters) = charsOfList filters := by
  cases filters with
  | nil => rfl
  | cons filter rest => simp [settledList, charsOfList, chars_settled filter, charsOfList_settledList rest]
end

mutual
theorem depth_settled (filter : Filter) : filter.settled.depth = filter.depth := by
  cases filter with
  | all filters => simp [settled, depth, depthOfList_settledList]
  | any filters => simp [settled, depth, depthOfList_settledList]
  | not filter => simp [settled, depth, depth_settled filter]
  | compare => rfl
  | present => rfl
  | substrings attr initial middle final =>
    unfold settled
    split <;> simp_all [depth]
theorem depthOfList_settledList (filters : List Filter) :
    depthOfList (settledList filters) = depthOfList filters := by
  cases filters with
  | nil => rfl
  | cons filter rest => simp [settledList, depthOfList, depth_settled filter, depthOfList_settledList rest]
end

theorem settledList_ne_nil {filters : List Filter} (some : filters ≠ []) : settledList filters ≠ [] := by
  cases filters with
  | nil => exact absurd rfl some
  | cons => simp [settledList]

mutual
theorem Legible.expressible {filter : Filter} (legible : filter.Legible) : filter.settled.Expressible := by
  cases filter with
  | all filters => exact ⟨settledList_ne_nil legible.1, legible.2.expressible⟩
  | any filters => exact ⟨settledList_ne_nil legible.1, legible.2.expressible⟩
  | not filter =>
    have inner : filter.Legible := legible
    exact inner.expressible
  | compare => exact legible
  | present => exact legible
  | substrings attr initial middle final =>
    obtain ⟨named, first, between, last⟩ := legible
    unfold settled
    split <;> simp_all [Expressible, IsPattern]
theorem AllLegible.expressible {filters : List Filter} (legible : AllLegible filters) :
    AllExpressible (settledList filters) := by
  cases filters with
  | nil => trivial
  | cons filter rest => exact ⟨legible.1.expressible, legible.2.expressible⟩
end

theorem exists_deep {filters : List Filter} {levels : Nat} (deep : levels < depthOfList filters) :
    ∃ filter ∈ filters, levels < filter.depth := by
  induction filters with
  | nil => exact absurd deep (Nat.not_lt_zero levels)
  | cons filter rest ih =>
    have either : levels < filter.depth ∨ levels < depthOfList rest := by
      rw [depthOfList] at deep
      omega
    rcases either with here | behind
    · exact ⟨filter, List.mem_cons_self, here⟩
    · obtain ⟨other, member, found⟩ := ih behind
      exact ⟨other, List.mem_cons_of_mem filter member, found⟩

def TooDeep (result : Except Stop α) : Prop := ∃ rest, result = .error ⟨.tooDeep, rest⟩

theorem TooDeep.bind {result : Except Stop α} (stopped : TooDeep result) (next : α → Except Stop β) :
    TooDeep (result >>= next) := by
  obtain ⟨rest, rfl⟩ := stopped
  exact ⟨rest, rfl⟩

theorem TooDeep.map {result : Except Stop α} (stopped : TooDeep result) (f : α → β) :
    TooDeep (result.map f) := by
  obtain ⟨rest, rfl⟩ := stopped
  exact ⟨rest, rfl⟩

theorem readFilter_settled {levels : Nat} {filter : Filter} (legible : filter.Legible)
    (shallow : filter.depth ≤ levels) (rest : List Char) :
    readFilter levels (filter.chars ++ rest) = .ok (filter.settled, rest) := by
  rw [← depth_settled] at shallow
  have spelled : Spells True levels filter.settled.chars filter.settled :=
    spells_chars filter.settled legible.expressible shallow
  rw [chars_settled] at spelled
  exact readFilter_complete spelled

/-- The filters before the first that goes too deep are read. -/
theorem readMany_tooDeep {levels fuel : Nat} {filters : List Filter} (legible : AllLegible filters)
    (refused : ∀ filter ∈ filters, levels < filter.depth → ∀ rest,
      TooDeep (readFilter levels (filter.chars ++ rest)))
    (some : ∃ filter ∈ filters, levels < filter.depth)
    (enough : (charsOfList filters).length ≤ fuel) (rest : List Char) :
    TooDeep (readMany (readFilter levels) fuel (charsOfList filters ++ rest)) := by
  induction filters generalizing fuel with
  | nil =>
    obtain ⟨_, member, _⟩ := some
    cases member
  | cons filter filters ih =>
    have opened : filter.chars.head? = .some '(' := head?_chars filter
    obtain ⟨inner, spelled⟩ : ∃ inner, filter.chars = '(' :: inner := by
      cases found : filter.chars with
      | nil => simp [found] at opened
      | cons c inner => exact ⟨inner, by simpa [found] using opened⟩
    rw [charsOfList] at enough ⊢
    rw [List.length_append, spelled, List.length_cons] at enough
    cases fuel with
    | zero => omega
    | succ fuel =>
      rw [readMany, List.append_assoc, if_pos (by rw [spelled]; rfl)]
      by_cases deep : levels < filter.depth
      · exact (refused filter List.mem_cons_self deep _).bind _
      · rw [readFilter_settled legible.1 (Nat.le_of_not_lt deep)]
        have later : ∃ other ∈ filters, levels < other.depth := by
          obtain ⟨other, member, found⟩ := some
          rcases List.mem_cons.mp member with rfl | behind
          · exact absurd found deep
          · exact ⟨other, behind, found⟩
        have stopped := ih legible.2 (fun other member => refused other (List.mem_cons_of_mem _ member))
          later (by omega : (charsOfList filters).length ≤ fuel)
        exact stopped.bind _

theorem readFilter_tooDeep {levels : Nat} {filter : Filter} (legible : filter.Legible)
    (deep : levels < filter.depth) (rest : List Char) :
    TooDeep (readFilter levels (filter.chars ++ rest)) := by
  induction levels generalizing filter rest with
  | zero =>
    obtain ⟨after, spelled⟩ : ∃ after, filter.chars ++ rest = '(' :: after := by
      cases filter <;> exact ⟨_, rfl⟩
    rw [spelled]
    exact ⟨after, rfl⟩
  | succ levels ih =>
    -- One parenthesis is opened here. A list is too deep if one of its filters is.
    have inList : ∀ filters : List Filter, AllLegible filters → levels < depthOfList filters →
        TooDeep (readList (readFilter levels) (charsOfList filters ++ (')' :: rest))) := by
      intro filters legible deep
      refine (readMany_tooDeep legible (fun filter member deep => ih (legible.of_mem member) deep)
        (exists_deep deep) ?_ _).bind _
      simp
    cases filter with
    | all filters =>
      have stopped := inList filters legible.2 (Nat.lt_of_succ_lt_succ deep)
      simpa [chars, readFilter] using (stopped.map _).bind closing
    | any filters =>
      have stopped := inList filters legible.2 (Nat.lt_of_succ_lt_succ deep)
      simpa [chars, readFilter] using (stopped.map _).bind closing
    | not filter =>
      have inner : filter.Legible := legible
      have stopped := ih inner (Nat.lt_of_succ_lt_succ deep) (')' :: rest)
      simpa [chars, readFilter] using (stopped.map _).bind closing
    | compare | substrings | present => exact absurd deep (by simp [depth])

/-- The text of a filter is read down to the depth that is allowed, and no deeper. -/
theorem parse_print_settled {filter : Filter} (legible : filter.Legible) :
    (filter.depth ≤ maxDepth → parse filter.print = .ok filter.settled) ∧
      (maxDepth < filter.depth → ∃ offset : Nat,
        parse filter.print = .error (.invalidFilter s!"filter nested too deeply at offset {offset}")) := by
  have some : filter.chars.isEmpty = false := by
    have opened := head?_chars filter
    cases found : filter.chars with
    | nil => simp [found] at opened
    | cons => rfl
  have opened : filter.chars.head? = .some '(' := head?_chars filter
  constructor
  · intro shallow
    have read := readFilter_settled legible shallow []
    rw [List.append_nil] at read
    simp [parse, print, trim_chars, some, ofChars, opened, read, bind, Except.bind, Except.mapError]
  · intro deep
    obtain ⟨rest, read⟩ := readFilter_tooDeep legible deep []
    rw [List.append_nil] at read
    refine ⟨octetCount filter.chars - octetCount rest, ?_⟩
    simp only [parse, print, String.toList_ofList, trim_chars, some, ofChars, opened, read, if_true]
    rfl

/-- The wire form of a filter that goes deeper than there are levels is refused for that. -/
theorem rejects_read (levels : Nat) (filter : Filter) (deep : levels < filter.depth) (rest : Octets) :
    (read levels).Rejects filter.item.write (.filterTooDeep maxDepth) rest := by
  induction levels generalizing filter rest with
  | zero => exact Reading.rejects_defect _ _ _
  | succ levels ih =>
    have inList : ∀ filters : List Filter, levels < depthOfList filters →
        (Reading.many (read levels)).Rejects (Item.writeAll (items filters))
          (.filterTooDeep maxDepth) [] := by
      intro filters deep
      rw [items_eq_map]
      exact Reading.rejects_many
        (fun filter _ shallow rest => takes_read levels filter (Nat.le_of_not_lt shallow) rest)
        (fun filter _ deep rest => ih filter deep rest) (exists_deep deep)
    cases filter with
    | all filters =>
      refine Reading.rejects_any_bind fun short => ?_
      exact (Reading.rejects_whole short (inList filters (Nat.lt_of_succ_lt_succ deep)) rest).bind _
    | any filters =>
      refine Reading.rejects_any_bind fun short => ?_
      exact (Reading.rejects_whole short (inList filters (Nat.lt_of_succ_lt_succ deep)) rest).bind _
    | not filter =>
      refine Reading.rejects_any_bind fun short => ?_
      have one := ih filter (Nat.lt_of_succ_lt_succ deep) []
      rw [← List.append_nil filter.item.write] at one
      exact (Reading.rejects_whole short one rest).bind _
    | compare | substrings | present => exact absurd deep (by simp [depth])

end Directory.Filter
