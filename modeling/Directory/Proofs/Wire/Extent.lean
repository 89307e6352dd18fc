import Directory.Proofs.Wire.Accepted
/-!
How far an element goes. Its first octets tell, so that what stands behind it is told from it, and less than
all of it is never taken.
-/
namespace Directory

theorem Octets.ofText_injective : Function.Injective Octets.ofText := by
  intro a b same
  have read := congrArg Octets.text? same
  rwa [text?_ofText, text?_ofText, Option.some.injEq] at read

theorem Octets.ofNumber_injective : Function.Injective Octets.ofNumber := by
  intro m n same
  have read := congrArg Octets.number? same
  rwa [number?_ofNumber, number?_ofNumber, Option.some.injEq] at read

namespace Wire

theorem element_append_inj {tag other : UInt8} {content inner rest behind : Octets}
    (short : content.length < lengthLimit) (brief : inner.length < lengthLimit)
    (same : element tag content ++ rest = element other inner ++ behind) :
    tag = other ∧ content = inner ∧ rest = behind := by
  have read := congrArg Reading.any.run same
  rw [Reading.any_run_of_short short, Reading.any_run_of_short brief] at read
  simpa [and_assoc] using read

theorem element_inj {tag other : UInt8} {content inner : Octets}
    (same : element tag content = element other inner) (short : content.length < lengthLimit) :
    tag = other ∧ content = inner := by
  have long := congrArg List.length same
  simp only [length_element] at long
  have both : element tag content ++ [] = element other inner ++ [] := by rw [same]
  obtain ⟨tags, contents, _⟩ := element_append_inj short (by omega) both
  exact ⟨tags, contents⟩

/-- The same where both stand inside of something that is short. -/
theorem element_append_inj_of_short {tag other : UInt8} {content inner rest behind : Octets}
    (same : element tag content ++ rest = element other inner ++ behind)
    (short : (element tag content ++ rest).length < lengthLimit) :
    tag = other ∧ content = inner ∧ rest = behind := by
  have brief := short
  rw [same] at brief
  simp only [List.length_append, length_element] at short brief
  exact element_append_inj (by omega) (by omega) same

theorem optional_inj {tag : UInt8} {left right : Option Octets}
    (same : Item.writeAll (Item.optional tag left) = Item.writeAll (Item.optional tag right))
    (short : (Item.writeAll (Item.optional tag left)).length < lengthLimit) : left = right := by
  cases left with
  | none =>
    cases right with
    | none => rfl
    | some => cases same
  | some content =>
    cases right with
    | none => cases same
    | some other => rw [(element_append_inj_of_short same short).2.1]

namespace Reading

theorem any_run_of_cut {tag : UInt8} {content part left : Octets} (short : content.length < lengthLimit)
    (cut : part ++ left = Wire.element tag content) (some : left ≠ []) :
    ∃ shortfall, any.run part = (.error (.truncated shortfall), part) := by
  simp only [any, run]
  split
  · next found a b c d tail =>
    -- All of the length is there, so that what is missing is missing from the content.
    have header : [a, b, c, d] ++ (tail ++ left) =
        Octets.ofNumber (UInt32.ofNat content.length) ++ content := (List.cons.inj cut).2
    obtain ⟨counted, inside⟩ := List.append_inj header rfl
    have declared : (Octets.number a b c d).toNat = content.length := by
      rw [Octets.number_eq_of_ofNumber counted, toNat_length short]
    have less : tail.length < (Octets.number a b c d).toNat := by
      have missing := List.length_pos_iff.mpr some
      rw [declared, ← inside, List.length_append]
      omega
    exact ⟨_, if_pos less⟩
  · exact ⟨_, rfl⟩

theorem element_run_of_cut {tag : UInt8} {content part left : Octets}
    (short : content.length < lengthLimit) (cut : part ++ left = Wire.element tag content)
    (some : left ≠ []) : ∃ shortfall, (element tag).run part = (.error (.truncated shortfall), part) := by
  cases part with
  | nil => exact ⟨.missing tag, rfl⟩
  | cons found others =>
    obtain ⟨rfl, _⟩ := List.cons.inj cut
    obtain ⟨shortfall, stopped⟩ := any_run_of_cut short cut some
    refine ⟨shortfall, ?_⟩
    simp only [element, run_bind, run_peek, List.head?_cons, if_true, stopped]

end Reading

end Wire

end Directory
