import Directory.Proofs.Wire.ReadBack
/-!
What was written is refused. `Rejects` stands beside `Takes`: the reading finds one certain defect in the
octets, after it has taken whatever comes before it.
-/
namespace Directory.Wire.Reading

/-- From `octets` with `rest` behind them, the reading stops at this defect. -/
def Rejects (reading : Reading α) (octets : Octets) (defect : Defect) (rest : Octets) : Prop :=
  octets.length < lengthLimit → (reading.run (octets ++ rest)).1 = .error (.malformed defect)

theorem rejects_defect (octets : Octets) (defect : Defect) (rest : Octets) :
    (Reading.defect defect : Reading α).Rejects octets defect rest :=
  fun _ => rfl

/-- What follows a refusal is not looked at. -/
theorem Rejects.bind {reading : Reading α} {octets rest : Octets} {defect : Defect}
    (refused : reading.Rejects octets defect rest) (next : α → Reading β) :
    (reading >>= next).Rejects octets defect rest := by
  intro short
  have stopped := refused short
  rw [run_bind]
  cases ran : reading.run (octets ++ rest) with
  | mk result left =>
    rw [ran] at stopped
    cases stopped
    rfl

theorem Rejects.append {reading : Reading α} {xs ys rest : Octets} {defect : Defect}
    (refused : reading.Rejects xs defect (ys ++ rest)) : reading.Rejects (xs ++ ys) defect rest := by
  intro short
  rw [List.length_append] at short
  rw [List.append_assoc]
  exact refused (by omega)

/-- What was taken before does not matter to a refusal. -/
theorem Takes.rejects {reading : Reading α} {next : α → Reading β} {xs ys rest : Octets} {a : α}
    {defect : Defect} (first : reading.Takes xs a (ys ++ rest))
    (refused : (next a).Rejects ys defect rest) :
    (reading >>= next).Rejects (xs ++ ys) defect rest := by
  intro short
  rw [List.length_append] at short
  rw [run_bind, List.append_assoc, first (by omega)]
  exact refused (by omega)

theorem Takes.rejects_nil {reading : Reading α} {next : α → Reading β} {xs rest : Octets} {a : α}
    {defect : Defect} (first : reading.Takes [] a (xs ++ rest))
    (refused : (next a).Rejects xs defect rest) : (reading >>= next).Rejects xs defect rest :=
  first.rejects refused

theorem Takes.rejects_last {reading : Reading α} {next : α → Reading β} {xs rest : Octets} {a : α}
    {defect : Defect} (first : reading.Takes xs a rest) (refused : (next a).Rejects [] defect rest) :
    (reading >>= next).Rejects xs defect rest := by
  have both : (reading >>= next).Rejects (xs ++ []) defect rest := first.rejects refused
  rwa [List.append_nil] at both

theorem rejects_any_bind {tag : UInt8} {content rest : Octets} {next : UInt8 × Octets → Reading β}
    {defect : Defect}
    (later : content.length < lengthLimit → (next (tag, content)).Rejects [] defect rest) :
    (any >>= next).Rejects (Wire.element tag content) defect rest := by
  intro short
  have part := short
  rw [length_element] at part
  exact (takes_any tag content rest).rejects_last (later (by omega)) short

theorem rejects_element_bind {tag : UInt8} {content rest : Octets} {next : Octets → Reading β}
    {defect : Defect}
    (later : content.length < lengthLimit → (next content).Rejects [] defect rest) :
    (element tag >>= next).Rejects (Wire.element tag content) defect rest := by
  intro short
  have part := short
  rw [length_element] at part
  exact (takes_element tag content rest).rejects_last (later (by omega)) short

theorem rejects_within {content : Octets} {inner : Reading α} {defect : Defect}
    (short : content.length < lengthLimit) (inside : inner.Rejects content defect []) (rest : Octets) :
    (within content inner).Rejects [] defect rest := by
  intro _
  have read := inside short
  rw [List.append_nil] at read
  exact read

theorem rejects_whole {content : Octets} {inner : Reading α} {defect : Defect}
    (short : content.length < lengthLimit) (inside : inner.Rejects content defect []) (rest : Octets) :
    (whole content inner).Rejects [] defect rest :=
  rejects_within short (inside.bind _) rest

/-- The items before the first that is refused are taken. -/
theorem rejects_manyUpTo {reading : Reading α} {item : α → Item} {bad : α → Prop} {defect : Defect}
    {xs : List α} (each : ∀ x ∈ xs, ¬ bad x → ∀ rest, reading.Takes (item x).write x rest)
    (refused : ∀ x ∈ xs, bad x → ∀ rest, reading.Rejects (item x).write defect rest)
    (some : ∃ x ∈ xs, bad x) {fuel : Nat} (enough : xs.length ≤ fuel) :
    (manyUpTo reading fuel).Rejects (Item.writeAll (xs.map item)) defect [] := by
  induction xs generalizing fuel with
  | nil =>
    obtain ⟨_, member, _⟩ := some
    cases member
  | cons x xs ih =>
    cases fuel with
    | zero => simp at enough
    | succ fuel =>
      have stopped : Rejects (do return (← reading) :: (← manyUpTo reading fuel))
          ((item x).write ++ Item.writeAll (xs.map item)) defect [] := by
        by_cases first : bad x
        · exact ((refused x List.mem_cons_self first _).append).bind _
        · have later : ∃ y ∈ xs, bad y := by
            obtain ⟨y, member, found⟩ := some
            rcases List.mem_cons.mp member with rfl | behind
            · exact absurd found first
            · exact ⟨y, behind, found⟩
          refine (each x List.mem_cons_self first _).rejects (Rejects.bind ?_ _)
          exact ih (fun y member => each y (List.mem_cons_of_mem x member))
            (fun y member => refused y (List.mem_cons_of_mem x member)) later
            (Nat.le_of_succ_le_succ enough)
      intro short
      have present : (Item.writeAll ((x :: xs).map item) ++ []).isEmpty = false := by
        simp [Item.writeAll, Item.write_ne_nil]
      rw [manyUpTo, run_bind isEmpty, run_isEmpty, present]
      exact stopped short

theorem rejects_many {reading : Reading α} {item : α → Item} {bad : α → Prop} {defect : Defect}
    {xs : List α} (each : ∀ x ∈ xs, ¬ bad x → ∀ rest, reading.Takes (item x).write x rest)
    (refused : ∀ x ∈ xs, bad x → ∀ rest, reading.Rejects (item x).write defect rest)
    (some : ∃ x ∈ xs, bad x) :
    (many reading).Rejects (Item.writeAll (xs.map item)) defect [] := by
  intro short
  have enough := Item.length_le_length_writeAll (xs.map item)
  rw [List.length_map] at enough
  have stopped := rejects_manyUpTo each refused some enough short
  rw [List.append_nil] at stopped ⊢
  exact stopped

end Directory.Wire.Reading
