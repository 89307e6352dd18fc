import Directory.Proofs.Dn.Accepted
import Directory.Proofs.Message.ReadBack
import Directory.Proofs.Wire.Accepted
/-!
Reading brings a message into a form that is kept. Frames may say one thing in many ways: names with other
escapes, values in any order and more than once, any octet for yes. Whatever was read can be written, and is
read again as it is.
-/
namespace Directory

open Wire Wire.Reading

theorem Wire.Reading.content_ok {result : Except Error α} {input rest : Octets} {a : α}
    (read : (Reading.content result).run input = (.ok a, rest)) : result = .ok a ∧ rest = input := by
  cases result with
  | ok b =>
    obtain ⟨rfl, same⟩ := pure_ok read
    exact ⟨rfl, same⟩
  | error => cases read

theorem Wire.Reading.yields_content {result : Except Error α} {good : α → Prop}
    (h : ∀ a, result = .ok a → good a) : (Reading.content result).Yields good :=
  fun _ a _ given => h a (content_ok given).1

theorem Dn.yields_ofOctets (octets : Octets) : (Dn.ofOctets octets).Yields Dn.WellFormed :=
  yields_bind fun _ => yields_content fun _ => Dn.wellFormed_of_parse

theorem Dn.yields_read : Dn.read.Yields Dn.WellFormed :=
  yields_bind Dn.yields_ofOctets

namespace Filter

theorem depthOfList_le {filters : List Filter} {levels : Nat}
    (shallow : ∀ filter ∈ filters, filter.depth ≤ levels) : depthOfList filters ≤ levels := by
  induction filters with
  | nil => exact Nat.zero_le _
  | cons filter rest ih =>
    obtain ⟨first, others⟩ := List.forall_mem_cons.mp shallow
    exact Nat.max_le.mpr ⟨first, ih others⟩

theorem yields_readCompare (comparison : Comparison) :
    (readCompare comparison).Yields fun filter => filter.depth = 1 :=
  yields_bind fun _ => yields_bind fun _ => yields_pure rfl

theorem yields_readSubstrings : readSubstrings.Yields fun filter => filter.depth = 1 :=
  yields_bind fun _ => yields_bind fun _ => yields_bind fun _ => yields_pure rfl

/-- A filter that was read is no deeper than the reader goes. -/
theorem yields_read (levels : Nat) : (read levels).Yields fun filter => filter.depth ≤ levels := by
  induction levels with
  | zero => exact yields_defect _
  | succ levels ih =>
    have leaf {reading : Reading Filter} (flat : reading.Yields fun filter => filter.depth = 1) :
        reading.Yields fun filter => filter.depth ≤ levels + 1 := by
      intro input filter rest given
      rw [flat _ _ _ given]
      exact Nat.succ_le_succ (Nat.zero_le _)
    refine yields_bind fun (tag, content) => ?_
    dsimp only
    split
    · refine (ih.many.whole content).bind fun filters shallow => yields_pure ?_
      exact Nat.succ_le_succ (depthOfList_le shallow)
    split
    · refine (ih.many.whole content).bind fun filters shallow => yields_pure ?_
      exact Nat.succ_le_succ (depthOfList_le shallow)
    split
    · refine (ih.whole content).bind fun filter shallow => yields_pure ?_
      exact Nat.succ_le_succ shallow
    split
    · exact leaf (yields_bind fun _ => yields_pure rfl)
    split
    · exact leaf (yields_readSubstrings.whole content)
    split
    · exact leaf ((yields_readCompare _).whole content)
    · exact yields_defect _

end Filter

theorem Entry.yields_read : Entry.read.Yields fun entry => entry.dn.WellFormed :=
  Dn.yields_read.bind fun _ legal => yields_bind fun _ => yields_pure legal

theorem SearchRequest.yields_read : SearchRequest.read.Yields fun request =>
    request.base.WellFormed ∧ request.filter.depth ≤ Filter.maxDepth := by
  refine Dn.yields_read.bind fun base legal => ?_
  -- The fields between the base and the filter may hold anything.
  refine yields_bind fun _ => yields_bind fun _ => yields_bind fun _ => yields_bind fun _ => ?_
  refine yields_bind fun _ => yields_bind fun _ => yields_bind fun _ => ?_
  refine (Filter.yields_read Filter.maxDepth).bind fun filter shallow => ?_
  exact yields_bind fun _ => yields_bind fun _ => yields_pure ⟨legal, shallow⟩

namespace Operation

/-- Most operations are about no entry and have no filter. -/
theorem wellFormed_of_nameless {op : Operation} (names : op.names = []) (filter : op.filter? = none) :
    op.WellFormed := by
  constructor
  · rw [names]
    nofun
  · rw [filter]
    nofun

theorem wellFormed_of_names {op : Operation} {name : Dn} (names : op.names = [name])
    (legal : name.WellFormed) (filter : op.filter? = none) : op.WellFormed := by
  constructor
  · rw [names]
    exact fun other member => List.mem_singleton.mp member ▸ legal
  · rw [filter]
    nofun

theorem wellFormed_searchRequest {request : SearchRequest} (legal : request.base.WellFormed)
    (shallow : request.filter.depth ≤ Filter.maxDepth) : (searchRequest request).WellFormed := by
  constructor
  · exact fun other member => List.mem_singleton.mp member ▸ legal
  · exact fun filter found => Option.mem_some.mp found ▸ shallow

theorem yields_outcome {make : Outcome → Operation} (content : Octets)
    (plain : ∀ outcome, (make outcome).names = [] ∧ (make outcome).filter? = none) :
    (whole content do return make (← Outcome.read)).Yields Operation.WellFormed :=
  Yields.whole (yields_bind fun outcome =>
    yields_pure (wellFormed_of_nameless (plain outcome).1 (plain outcome).2)) content

theorem yields_readContent (kind : OperationKind) (content : Octets) :
    (readContent kind content).Yields Operation.WellFormed := by
  cases kind with
  | bindRequest =>
    refine Yields.whole ?_ content
    exact yields_bind fun _ => yields_bind fun _ => yields_bind fun _ =>
      yields_pure (wellFormed_of_nameless rfl rfl)
  | bindResponse =>
    refine Yields.whole ?_ content
    exact yields_bind fun _ => yields_bind fun _ => yields_pure (wellFormed_of_nameless rfl rfl)
  | unbindRequest =>
    simp only [readContent]
    split
    · exact yields_pure (wellFormed_of_nameless rfl rfl)
    · exact yields_defect _
  | searchRequest =>
    refine Yields.whole ?_ content
    exact SearchRequest.yields_read.bind fun _ ⟨legal, shallow⟩ =>
      yields_pure (wellFormed_searchRequest legal shallow)
  | searchEntry =>
    refine Yields.whole ?_ content
    exact Entry.yields_read.bind fun _ legal => yields_pure (wellFormed_of_names rfl legal rfl)
  | searchReference =>
    refine Yields.whole ?_ content
    exact yields_bind fun _ => yields_pure (wellFormed_of_nameless rfl rfl)
  | modifyRequest =>
    refine Yields.whole ?_ content
    exact Dn.yields_read.bind fun _ legal => yields_bind fun _ => yields_bind fun _ =>
      yields_pure (wellFormed_of_names rfl legal rfl)
  | addRequest =>
    refine Yields.whole ?_ content
    exact Entry.yields_read.bind fun _ legal => yields_pure (wellFormed_of_names rfl legal rfl)
  | deleteRequest =>
    exact (Dn.yields_ofOctets content).bind fun _ legal => yields_pure (wellFormed_of_names rfl legal rfl)
  | compareRequest =>
    refine Yields.whole ?_ content
    exact Dn.yields_read.bind fun _ legal => yields_bind fun _ => yields_bind fun _ =>
      yields_pure (wellFormed_of_names rfl legal rfl)
  | abandonRequest => exact yields_bind fun _ => yields_pure (wellFormed_of_nameless rfl rfl)
  | extendedRequest =>
    refine Yields.whole ?_ content
    exact yields_bind fun _ => yields_bind fun _ => yields_pure (wellFormed_of_nameless rfl rfl)
  | extendedResponse =>
    refine Yields.whole ?_ content
    refine yields_bind fun outcome => yields_bind fun name => ?_
    have rest (name : Option String) : Yields (do
        return Operation.extendedResponse outcome name (← Reading.optional Tag.responseValue))
        Operation.WellFormed :=
      yields_bind fun _ => yields_pure (wellFormed_of_nameless rfl rfl)
    cases name with
    | none => exact yields_bind rest
    | some octets => exact yields_bind fun _ => yields_bind rest
  | searchDone | modifyResponse | addResponse | deleteResponse | compareResponse =>
    exact yields_outcome content fun _ => ⟨rfl, rfl⟩

theorem yields_read : Operation.read.Yields Operation.WellFormed := by
  refine yields_bind fun (tag, content) => ?_
  dsimp only
  split
  · exact yields_readContent _ content
  · exact yields_defect _

theorem wellFormed_withPaging {op : Operation} (legal : op.WellFormed) (paging : Paging) :
    (op.withPaging paging).WellFormed := by
  cases op <;> exact legal

end Operation

namespace Message

def IsPlain (message : Message) : Prop :=
  message.op.isPageable = true → ∀ control ∈ message.controls, control.isPaging = false

theorem carried_of_isPlain {message : Message} (plain : message.IsPlain) : message.carried = message := by
  unfold carried
  split
  · next pageable =>
    have kept : (message.controls.filter fun control => !control.isPaging) = message.controls := by
      rw [List.filter_eq_self]
      intro control member
      rw [plain pageable control member]
      rfl
    rw [kept]
  · rfl

theorem yields_ofWire {id : MessageId} {op : Operation} (inRange : id ≤ maxId) (legal : op.WellFormed)
    (controls : List Control) :
    (ofWire id op controls).Yields fun message => message.WellFormed ∧ message.IsPlain := by
  unfold ofWire
  split
  · split
    · next none =>
      refine yields_pure ⟨⟨inRange, legal⟩, fun _ control member => ?_⟩
      simpa using List.filter_eq_nil_iff.mp none control member
    · refine yields_bind fun paging => yields_pure ?_
      refine ⟨⟨inRange, Operation.wellFormed_withPaging legal paging⟩, fun _ control member => ?_⟩
      simpa using (List.mem_filter.mp member).2
    · exact yields_defect _
  · next other =>
    exact yields_pure ⟨⟨inRange, legal⟩, fun pageable => absurd pageable other⟩

theorem yields_readContent :
    readContent.Yields fun message => message.WellFormed ∧ message.IsPlain := by
  refine yields_bind fun id => ?_
  dsimp only
  split
  · have refused : (Reading.defect (.idOutOfRange id) : Reading PUnit).Yields fun _ => False :=
      yields_defect _
    exact refused.bind fun _ never => never.elim
  · next inRange =>
    refine Operation.yields_read.bind fun op legal => yields_bind fun content => ?_
    have rest (controls : List Control) : Yields (do
        Reading.finish
        ofWire id op controls) fun message => message.WellFormed ∧ message.IsPlain :=
      yields_bind fun _ => yields_ofWire (UInt32.not_lt.mp inRange) legal controls
    cases content with
    | none => exact yields_bind rest
    | some octets => exact yields_bind rest

/-- A message that was read has a wire form, of which nothing is left out. -/
theorem canonical_of_decode {octets : Octets} {message : Message}
    (decoded : Message.decode octets = .ok message) : message.WellFormed ∧ message.IsPlain := by
  have reads : Message.read.Yields fun message => message.WellFormed ∧ message.IsPlain :=
    yields_bind fun _ => yields_bind fun _ => yields_readContent.within _
  exact reads octets message _ (Prod.ext decoded rfl)

theorem decode_encode_of_isPlain {message : Message} (legal : message.WellFormed) (plain : message.IsPlain)
    (short : message.encode.length < lengthLimit) : Message.decode message.encode = .ok message := by
  have read := takes_read legal short
  rw [List.append_nil, carried_of_isPlain plain] at read
  rw [Message.decode, read]

/-- A message that was read has a number in range, names that can be written, a filter that is not too
deep, and on a search no control that speaks of pages. Written and read again it is the same, and from then
on its frame is the same as well. -/
theorem decode_normalises {octets : Octets} {message : Message}
    (decoded : Message.decode octets = .ok message) :
    message.id ≤ maxId ∧ (∀ name ∈ message.op.names, name.WellFormed) ∧
      (∀ filter ∈ message.op.filter?, filter.depth ≤ Filter.maxDepth) ∧
      (message.op.isPageable = true → ∀ control ∈ message.controls, control.isPaging = false) ∧
      (message.encode.length < lengthLimit →
        Message.decode message.encode = .ok message ∧
          (Message.decode message.encode).map Message.encode = .ok message.encode) := by
  obtain ⟨legal, plain⟩ := canonical_of_decode decoded
  refine ⟨legal.1, legal.2.1, legal.2.2, plain, fun short => ?_⟩
  have again := decode_encode_of_isPlain legal plain short
  exact ⟨again, by rw [again]; rfl⟩

/-- A search with white space in the name of its base, an escape that is not needed, a small yes, and its
page behind another control. -/
def looseSearch : Octets :=
  (Item.group Tag.sequence
    [.number Tag.integer 7,
      .group OperationKind.searchRequest.tag
        [.text Tag.octetString " CN = Smith\\2C J\\2e , dc=x", .number Tag.enumerated 2,
          .number Tag.enumerated 0, .number Tag.integer 0, .number Tag.integer 0,
          .octets Tag.boolean [1], Filter.item (.present "Mail"), .group Tag.sequence []],
      .group Tag.controls
        [Control.item ⟨"1.2", true, none⟩, (Paging.control ⟨5, [255], false⟩).item]]).write

def tidySearch : Message where
  id := 7
  op := .searchRequest
    { base := ⟨[[⟨"CN", "Smith, J."⟩], [⟨"dc", "x"⟩]]⟩
      scope := .subtree
      typesOnly := true
      filter := .present "Mail"
      paging := some ⟨5, [255], false⟩ }
  controls := [⟨"1.2", true, none⟩]

theorem decode_looseSearch :
    Message.decode looseSearch = .ok tidySearch ∧ tidySearch.encode ≠ looseSearch ∧
      Message.decode tidySearch.encode = .ok tidySearch := by
  have decoded : Message.decode looseSearch = .ok tidySearch := by decide +kernel
  have short : tidySearch.encode.length < lengthLimit := by decide +kernel
  exact ⟨decoded, by decide +kernel, ((decode_normalises decoded).2.2.2.2 short).1⟩

end Message

end Directory
