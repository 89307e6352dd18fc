import Directory.Proofs.Attributes
import Directory.Proofs.Message.Canonical
/-!
How the attributes of a message were arranged does not show in its frame: not the order in which they were given,
nor the order and the repetitions of their values. Nothing else is lost, for frames that are the same were made of
attributes that differ in their arrangement only.
-/
namespace Directory

open Wire

structure Modification.Given where
  kind : ChangeKind
  attr : Attribute.Given

namespace Modification.Given

def made (given : Given) : Modification := ⟨given.kind, given.attr.made⟩

def Matches (given other : Given) : Prop := given.kind = other.kind ∧ given.attr.Matches other.attr

theorem made_eq_iff {given other : Given} : given.made = other.made ↔ given.Matches other := by
  rw [made, made, Modification.mk.injEq, Attribute.Given.made_eq_iff, Matches]

theorem map_made_eq_iff {given other : List Given} :
    given.map made = other.map made ↔ List.Forall₂ Matches given other := by
  rw [← List.forall₂_eq_eq_eq, List.forall₂_map_left_iff, List.forall₂_map_right_iff]
  simp only [made_eq_iff]

def request (dn : Dn) (changes : List Given) : Operation := .modifyRequest dn (changes.map made)

theorem request_eq_iff {dn : Dn} {changes others : List Given} :
    request dn changes = request dn others ↔ List.Forall₂ Matches changes others := by
  rw [request, request, Operation.modifyRequest.injEq, ← map_made_eq_iff]
  simp

end Modification.Given

namespace Message

def IsAbout (dn : Dn) (op : Operation) : Prop :=
  op.names = [dn] ∧ op.filter? = none ∧ op.isPageable = false

theorem decode_encode_of_isAbout {id : MessageId} {op : Operation} {controls : List Control} {dn : Dn}
    (inRange : id ≤ maxId) (legal : dn.WellFormed) (about : IsAbout dn op)
    (short : (encode ⟨id, op, controls⟩).length < lengthLimit) :
    decode (encode ⟨id, op, controls⟩) = .ok ⟨id, op, controls⟩ := by
  obtain ⟨names, filter, unpaged⟩ := about
  apply decode_encode_of_isPlain ⟨inRange, Operation.wellFormed_of_names names legal filter⟩ _ short
  intro pageable
  rw [unpaged] at pageable
  cases pageable

theorem op_eq_of_encode_eq {id : MessageId} {op other : Operation} {controls : List Control} {dn : Dn}
    (inRange : id ≤ maxId) (legal : dn.WellFormed) (about : IsAbout dn op) (too : IsAbout dn other)
    (short : (encode ⟨id, op, controls⟩).length < lengthLimit)
    (same : encode ⟨id, op, controls⟩ = encode ⟨id, other, controls⟩) : op = other := by
  have first := decode_encode_of_isAbout inRange legal about short
  have second := decode_encode_of_isAbout inRange legal too (same ▸ short)
  rw [same, second] at first
  simpa using first.symm

/-- The arrangement of attributes does not show in a frame: neither their order nor the order and repetitions of
their values. And nothing but the arrangement is lost. -/
theorem arrangement_does_not_show (id : MessageId) (dn : Dn) (controls : List Control) :
    (∀ given other, (given.map Attribute.Given.key).Nodup → Attributes.Rearranged given other →
      ∃ built rebuilt, Attributes.ofGiven given = .ok built ∧ Attributes.ofGiven other = .ok rebuilt ∧
        ∀ make, make = Operation.addRequest ∨ make = Operation.searchEntry →
          encode ⟨id, make ⟨dn, built⟩, controls⟩ = encode ⟨id, make ⟨dn, rebuilt⟩, controls⟩) ∧
      (∀ changes others, List.Forall₂ Modification.Given.Matches changes others →
        encode ⟨id, Modification.Given.request dn changes, controls⟩ =
          encode ⟨id, Modification.Given.request dn others, controls⟩) ∧
      (id ≤ maxId → dn.WellFormed →
        (∀ given other built rebuilt, Attributes.ofGiven given = .ok built →
          Attributes.ofGiven other = .ok rebuilt →
          ∀ make, make = Operation.addRequest ∨ make = Operation.searchEntry →
            (encode ⟨id, make ⟨dn, built⟩, controls⟩).length < lengthLimit →
            encode ⟨id, make ⟨dn, built⟩, controls⟩ = encode ⟨id, make ⟨dn, rebuilt⟩, controls⟩ →
            Attributes.Rearranged given other) ∧
        ∀ changes others,
          (encode ⟨id, Modification.Given.request dn changes, controls⟩).length < lengthLimit →
          encode ⟨id, Modification.Given.request dn changes, controls⟩ =
            encode ⟨id, Modification.Given.request dn others, controls⟩ →
          List.Forall₂ Modification.Given.Matches changes others) := by
  refine ⟨?_, ?_, fun inRange legal => ⟨?_, ?_⟩⟩
  · intro given other distinct moved
    obtain ⟨built, rebuilt, first, second⟩ := Attributes.exists_ofGiven distinct moved
    obtain rfl := (Attributes.eq_iff_rearranged first second).mpr moved
    exact ⟨built, built, first, second, fun _ _ => rfl⟩
  · intro changes others same
    rw [Modification.Given.request_eq_iff.mpr same]
  · intro given other built rebuilt first second make either short same
    have about (attributes : Attributes) : IsAbout dn (make ⟨dn, attributes⟩) := by
      rcases either with rfl | rfl <;> exact ⟨rfl, rfl, rfl⟩
    have ops := op_eq_of_encode_eq inRange legal (about built) (about rebuilt) short same
    have equal : built = rebuilt := by
      rcases either with rfl | rfl <;> simpa using ops
    exact (Attributes.eq_iff_rearranged first second).mp equal
  · intro changes others short same
    have ops := op_eq_of_encode_eq inRange legal ⟨rfl, rfl, rfl⟩ ⟨rfl, rfl, rfl⟩ short same
    exact Modification.Given.request_eq_iff.mp ops

def twoAttributes : List Attribute.Given := [⟨"sn", [[1], [2, 0], []]⟩, ⟨"CN", [[120]]⟩]

def twoRearranged : List Attribute.Given := [⟨"CN", [[120], [120]]⟩, ⟨"sn", [[], [2, 0], [1], []]⟩]

theorem rearranged_twoAttributes : Attributes.Rearranged twoAttributes twoRearranged := by
  refine ⟨[⟨"sn", [[], [2, 0], [1], []]⟩, ⟨"CN", [[120], [120]]⟩], ?_, .swap _ _ []⟩
  refine .cons ⟨rfl, fun value => ?_⟩ (.cons ⟨rfl, fun value => ?_⟩ .nil)
  · simp only [List.mem_cons, List.not_mem_nil]
    grind
  · simp

def oneName : Dn := ⟨[[⟨"cn", "x"⟩]]⟩

def adding (values : List Octets) : Operation := Modification.Given.request oneName [⟨.add, "sn", values⟩]

theorem twoAttributes_do_not_show :
    twoAttributes ≠ twoRearranged ∧
      (∃ built rebuilt, Attributes.ofGiven twoAttributes = .ok built ∧
        Attributes.ofGiven twoRearranged = .ok rebuilt ∧
        encode ⟨5, .addRequest ⟨oneName, built⟩, []⟩ = encode ⟨5, .addRequest ⟨oneName, rebuilt⟩, []⟩) ∧
      encode ⟨5, adding [[1], [2]], []⟩ = encode ⟨5, adding [[2], [1], [2]], []⟩ ∧
      encode ⟨5, adding [[1], [2]], []⟩ ≠ encode ⟨5, adding [[2], [1, 2]], []⟩ := by
  obtain ⟨entries, changes, limits⟩ := arrangement_does_not_show 5 oneName []
  obtain ⟨built, rebuilt, first, second, same⟩ :=
    entries twoAttributes twoRearranged (by decide) rearranged_twoAttributes
  have repeated : encode ⟨5, adding [[1], [2]], []⟩ = encode ⟨5, adding [[2], [1], [2]], []⟩ := by
    refine changes _ _ (.cons ⟨rfl, rfl, fun value => ?_⟩ .nil)
    simp only [List.mem_cons, List.not_mem_nil]
    grind
  refine ⟨by decide, ⟨built, rebuilt, first, second, same _ (.inl rfl)⟩, repeated, fun equal => ?_⟩
  have arranged := (limits (by decide) (by decide)).2 _ _ (by decide +kernel) equal
  cases arranged with
  | cons matched =>
    have gone := (matched.2.2 [1]).mp (by simp)
    simp at gone

end Message

end Directory
