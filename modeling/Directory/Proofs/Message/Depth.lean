import Directory.Proofs.Filter.Depth
import Directory.Proofs.Message.ReadBack
/-!
The text of a filter and the frame of a search agree on how deep a filter may be: one is read exactly if the
other is. Each reader counts on its own, the one the parentheses that are open, the other the elements that it
is inside of.
-/
namespace Directory

open Wire Wire.Reading

theorem SearchRequest.rejects_read {request : SearchRequest} (legal : request.base.WellFormed)
    (deep : Filter.maxDepth < request.filter.depth) (rest : Octets) :
    SearchRequest.read.Rejects (Item.writeAll request.items)
      (.filterTooDeep Filter.maxDepth) rest := by
  obtain ⟨base, scope, deref, sizeLimit, timeLimit, typesOnly, filter, attributes, paging⟩ := request
  apply (Dn.takes_read legal _).rejects
  apply (takes_number Tag.enumerated scope.number _).rejects
  apply (takes_lift (Scope.ofWire_number scope) _).rejects_nil
  apply (takes_number Tag.enumerated deref.number _).rejects
  apply (takes_lift (Deref.ofWire_number deref) _).rejects_nil
  apply (takes_number Tag.integer sizeLimit _).rejects
  apply (takes_number Tag.integer timeLimit _).rejects
  apply (takes_flag typesOnly _).rejects
  exact (Filter.rejects_read Filter.maxDepth filter deep _).append.bind _

namespace Message

variable {id : MessageId} {request : SearchRequest} {controls : List Control}

theorem decode_tooDeep (inRange : id ≤ maxId) (legal : request.base.WellFormed)
    (deep : Filter.maxDepth < request.filter.depth)
    (short : (Message.mk id (.searchRequest request) controls).encode.length < lengthLimit) :
    Message.decode (Message.mk id (.searchRequest request) controls).encode =
      .error (.malformed (.filterTooDeep Filter.maxDepth)) := by
  have small : ¬ maxId < id := UInt32.not_lt.mpr inRange
  have operation (rest : Octets) : Operation.read.Rejects (Operation.searchRequest request).item.write
      (.filterTooDeep Filter.maxDepth) rest := by
    refine rejects_any_bind fun short => ?_
    exact rejects_whole short ((SearchRequest.rejects_read legal deep []).bind _) rest
  have content (tail : List Item) : readContent.Rejects
      (Item.writeAll ([.number Tag.integer id, (Operation.searchRequest request).item] ++ tail))
      (.filterTooDeep Filter.maxDepth) [] := by
    apply (takes_number Tag.integer id _).rejects
    rw [if_neg small]
    exact (operation _).append.bind _
  have read : Message.read.Rejects (Message.mk id (.searchRequest request) controls).encode
      (.filterTooDeep Filter.maxDepth) [] := by
    rw [encode_eq_write]
    refine rejects_element_bind fun inner => ?_
    exact (takes_finish ()).rejects_nil (rejects_within inner (content _) [])
  have stopped := read short
  rwa [List.append_nil] at stopped

/-- Of a filter whose text and whose frame are in order but for the depth, both are read or neither is, and
they are read exactly if it is at most as deep as is allowed. A text that goes deeper is an invalid filter,
and a frame that goes deeper is malformed. -/
theorem filter_depth_limits_agree (legible : request.filter.Legible) (inRange : id ≤ maxId)
    (legal : request.base.WellFormed)
    (short : (Message.mk id (.searchRequest request) controls).encode.length < lengthLimit) :
    ((∃ filter, Filter.parse request.filter.print = .ok filter) ↔
        ∃ message, Message.decode (Message.mk id (.searchRequest request) controls).encode = .ok message) ∧
      ((∃ filter, Filter.parse request.filter.print = .ok filter) ↔
        request.filter.depth ≤ Filter.maxDepth) ∧
      (Filter.maxDepth < request.filter.depth →
        (∃ offset : Nat, Filter.parse request.filter.print =
          .error (.invalidFilter s!"filter nested too deeply at offset {offset}")) ∧
        (Message.decode (Message.mk id (.searchRequest request) controls).encode).mapError Fault.toError =
          .error (.malformed "Filter nested deeper than 256 levels")) := by
  obtain ⟨readText, refusedText⟩ := Filter.parse_print_settled legible
  rcases Nat.lt_or_ge Filter.maxDepth request.filter.depth with deep | shallow
  · obtain ⟨offset, text⟩ := refusedText deep
    have frame := decode_tooDeep inRange legal deep short
    have told : (Fault.malformed (.filterTooDeep Filter.maxDepth)).toError =
        .malformed "Filter nested deeper than 256 levels" := by decide +kernel
    rw [text, frame, Except.mapError, told]
    refine ⟨?_, ?_, fun _ => ⟨⟨offset, rfl⟩, rfl⟩⟩ <;> simp [Nat.not_le.mpr deep]
  · have text := readText shallow
    have wellFormed : (Message.mk id (.searchRequest request) controls).WellFormed := by
      refine ⟨inRange, ?_, ?_⟩
      · simpa [Operation.names] using legal
      · simpa [Operation.filter?] using shallow
    have frame := decode_encode wellFormed short
    rw [text, frame]
    refine ⟨?_, ?_, fun deep => absurd deep (Nat.not_lt.mpr shallow)⟩ <;> simp [shallow]

def tower : Nat → Filter
  | 0 => .substrings "cn" none [] none
  | levels + 1 => .all [tower levels, .compare .equal "sn" [42]]

theorem depth_tower (levels : Nat) : (tower levels).depth = levels + 1 := by
  induction levels with
  | zero => rfl
  | succ levels ih => simp [tower, Filter.depth, Filter.depthOfList, ih]

theorem legible_tower (levels : Nat) : (tower levels).Legible := by
  have cn : Filter.IsDescription "cn" := ⟨by decide, List.all_eq_true.mp (by decide)⟩
  have sn : Filter.IsDescription "sn" := ⟨by decide, List.all_eq_true.mp (by decide)⟩
  induction levels with
  | zero => exact ⟨cn, nofun, nofun, nofun⟩
  | succ levels ih => exact ⟨List.cons_ne_nil _ _, ih, sn, trivial⟩

theorem length_tower (levels : Nat) : (tower levels).item.write.length = 23 * levels + 17 := by
  induction levels with
  | zero => decide
  | succ levels ih =>
    have sibling : (Filter.compare .equal "sn" [42]).item.write.length = 18 := by decide
    rw [tower, Filter.item, Item.write, length_element, Filter.items_eq_map]
    simp only [List.map_cons, List.map_nil, Item.writeAll, List.length_append, ih, sibling, List.length_nil]
    omega

def towerSearch (levels : Nat) : SearchRequest where
  base := ⟨[]⟩
  scope := .subtree
  filter := tower levels

theorem filter_depth_limits_agree_tower :
    (towerSearch 256).filter.Legible ∧ (towerSearch 256).base.WellFormed ∧
      (Message.mk maxId (.searchRequest (towerSearch 256)) []).encode.length < lengthLimit ∧
      (∃ offset : Nat, Filter.parse (towerSearch 256).filter.print =
        .error (.invalidFilter s!"filter nested too deeply at offset {offset}")) ∧
      (Message.decode (Message.mk maxId (.searchRequest (towerSearch 256)) []).encode).mapError
        Fault.toError = .error (.malformed "Filter nested deeper than 256 levels") := by
  have legible : (towerSearch 256).filter.Legible := legible_tower 256
  have legal : (towerSearch 256).base.WellFormed := by decide
  have short : (Message.mk maxId (.searchRequest (towerSearch 256)) []).encode.length < lengthLimit := by
    have written := length_tower 256
    have named : (Octets.ofText (Dn.mk []).print).length = 0 := by decide
    simp [encode_eq_write, Message.item, wireControls, Operation.isPageable, Operation.paging?, Operation.item,
      SearchRequest.items, towerSearch, Dn.item, Item.text, Item.write, Item.writeAll, length_element, written,
      named, Octets.ofNumber, lengthLimit]
  have deep : Filter.maxDepth < (towerSearch 256).filter.depth := by
    rw [towerSearch, depth_tower]
    decide
  exact ⟨legible, legal, short,
    (filter_depth_limits_agree legible (UInt32.le_refl maxId) legal short).2.2 deep⟩

end Message

end Directory
