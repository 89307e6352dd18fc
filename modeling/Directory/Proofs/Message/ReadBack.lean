import Directory.Message.Reader
import Directory.Proofs.Attributes
import Directory.Proofs.Dn.ReadBack
import Directory.Proofs.Filter.ReadBack
/-!
A message is read back from its frame. Every part of an operation has its own reading; an optional part is
told from what follows by its tag. The page of a search travels among the controls and returns to the
operation, where it replaces every control of that kind that a caller had added by hand.
-/
namespace Directory

open Wire Wire.Reading

theorem Dn.takes_ofOctets {name : Dn} (legal : name.WellFormed) (rest : Octets) :
    (Dn.ofOctets (Octets.ofText name.print)).Takes [] name rest := by
  apply (takes_lift (asText_ofText name.print) rest).bind_nil
  rw [Dn.parse_print_of_wellFormed legal]
  exact takes_pure _ _

theorem Dn.takes_read {name : Dn} (legal : name.WellFormed) (rest : Octets) :
    Dn.read.Takes name.item.write name rest :=
  (takes_element Tag.octetString _ rest).bind_last (Dn.takes_ofOctets legal rest)

theorem takes_texts (texts : List String) :
    Reading.texts.Takes (Item.writeAll (texts.map (Item.text Tag.octetString))) texts [] :=
  takes_many fun text _ rest => takes_text Tag.octetString text rest

theorem Scope.ofWire_number (scope : Scope) : Scope.ofWire scope.number = .ok scope := by
  rw [Scope.ofWire, Scope.ofNumber?_number]

theorem Deref.ofWire_number (deref : Deref) : Deref.ofWire deref.number = .ok deref := by
  rw [Deref.ofWire, Deref.ofNumber?_number]

theorem ChangeKind.ofWire_number (kind : ChangeKind) : ChangeKind.ofWire kind.number = .ok kind := by
  rw [ChangeKind.ofWire, ChangeKind.ofNumber?_number]

theorem Outcome.takes_read (outcome : Outcome) {rest : Octets} (absent : NotNext Tag.referrals rest) :
    Outcome.read.Takes (Item.writeAll outcome.items) outcome rest := by
  obtain ⟨⟨code⟩, matchedDn, diagnostic, referrals⟩ := outcome
  apply (takes_number Tag.enumerated code _).bind
  apply (takes_text Tag.octetString matchedDn _).bind
  apply (takes_text Tag.octetString diagnostic _).bind
  cases referrals with
  | nil => exact (takes_optional_none absent).bind_nil ((takes_pure _ _).bind_nil (takes_pure _ _))
  | cons url urls =>
    have group : Item.writeAll ([].append
        [.group Tag.referrals ((url :: urls).map (Item.text Tag.octetString))]) =
        Wire.element Tag.referrals (Item.writeAll ((url :: urls).map (Item.text Tag.octetString))) :=
      Item.writeAll_singleton _
    rw [group]
    apply takes_optional_bind
    intro short
    exact (takes_within short (takes_texts (url :: urls)) rest).bind_nil (takes_pure _ _)

theorem Attribute.takes_read (attr : Attribute) (rest : Octets) :
    Attribute.read.Takes attr.item.write attr rest := by
  obtain ⟨name, values⟩ := attr
  apply takes_element_bind_last
  intro short
  have inside : Takes (do
      let name ← Reading.text Tag.octetString
      return (name, ← Reading.element Tag.set))
      (Item.writeAll [.text Tag.octetString name,
        .group Tag.set (values.toList.map (Item.octets Tag.octetString))])
      (name, Item.writeAll (values.toList.map (Item.octets Tag.octetString))) [] :=
    (takes_text Tag.octetString name _).bind (takes_element_bind fun _ => takes_pure _ _)
  apply (takes_whole short inside rest).bind_nil
  have part := short
  simp only [Item.writeAll, Item.write, List.length_append, length_element] at part
  have each : (Reading.many (Reading.element Tag.octetString)).Takes
      (Item.writeAll (values.toList.map (Item.octets Tag.octetString))) values.toList [] :=
    takes_many fun value _ rest => takes_element Tag.octetString value rest
  apply (takes_within (by omega) each rest).bind_nil
  rw [Attribute.ofList, Ascending.ofList_toList]
  exact takes_pure _ _

/-- Attributes are read in the order of their keys, so that none is there twice. -/
theorem Attributes.chain_insertNew {before after : Attributes} {left : List Attribute}
    (h : after.toList = before.toList ++ left) :
    Chain (fun attributes => do
      Reading.content (Attributes.insertNew attributes (← Attribute.read)))
      before (left.map Attribute.item) after := by
  induction left generalizing before with
  | nil =>
    obtain rfl : after = before := Ascending.ext_toList (by simpa using h)
    exact .nil _
  | cons attr left ih =>
    have above := Ascending.above_of_toList_eq h
    have more : after.toList = (before.insert attr).toList ++ left := by
      rw [Ascending.toList_insert_last above, h, List.append_assoc, List.singleton_append]
    refine .cons (fun rest => (Attribute.takes_read attr rest).bind_last ?_) (ih more)
    rw [insertNew_fresh fun other member => Ascending.ne_of_lt (above other member)]
    exact takes_pure _ _

theorem Attributes.takes_read (attributes : Attributes) (rest : Octets) :
    Attributes.read.Takes (Attributes.item attributes).write attributes rest := by
  apply takes_element_bind_last
  intro short
  exact takes_within short (takes_steps (Attributes.chain_insertNew rfl)) rest

theorem Entry.takes_read {entry : Entry} (legal : entry.dn.WellFormed) (rest : Octets) :
    Entry.read.Takes (Item.writeAll entry.items) entry rest := by
  apply (Dn.takes_read legal _).bind
  rw [Item.writeAll_singleton]
  exact (Attributes.takes_read entry.attributes rest).map

theorem Modification.takes_read (change : Modification) (rest : Octets) :
    Modification.read.Takes change.item.write change rest := by
  obtain ⟨kind, attr⟩ := change
  apply takes_element_bind_last
  intro short
  have inside : Takes (do
      let number ← Reading.number Tag.enumerated
      return (number, ← Attribute.read))
      (Item.writeAll [.number Tag.enumerated kind.number, attr.item]) (kind.number, attr) [] := by
    apply (takes_number Tag.enumerated kind.number _).bind
    rw [Item.writeAll_singleton]
    exact (Attribute.takes_read attr []).map
  apply (takes_whole short inside rest).bind_nil
  exact (takes_lift (ChangeKind.ofWire_number kind) rest).map

theorem Credentials.takes_read (credentials : Credentials) (rest : Octets) :
    Credentials.read.Takes credentials.item.write credentials rest := by
  cases credentials with
  | simple password => exact takes_any_bind fun _ => takes_pure _ _
  | sasl mechanism response =>
    refine takes_any_bind fun short => takes_whole short ?_ rest
    apply (takes_text Tag.octetString mechanism _).bind
    exact (takes_optional Tag.octetString response (notNext_nil _)).map

theorem SearchRequest.takes_read {request : SearchRequest} (legal : request.base.WellFormed)
    (shallow : request.filter.depth ≤ Filter.maxDepth) (rest : Octets) :
    SearchRequest.read.Takes (Item.writeAll request.items) { request with paging := none } rest := by
  obtain ⟨base, scope, deref, sizeLimit, timeLimit, typesOnly, filter, attributes, paging⟩ := request
  apply (Dn.takes_read legal _).bind
  apply (takes_number Tag.enumerated scope.number _).bind
  apply (takes_lift (Scope.ofWire_number scope) _).bind_nil
  apply (takes_number Tag.enumerated deref.number _).bind
  apply (takes_lift (Deref.ofWire_number deref) _).bind_nil
  apply (takes_number Tag.integer sizeLimit _).bind
  apply (takes_number Tag.integer timeLimit _).bind
  apply (takes_flag typesOnly _).bind
  apply (Filter.takes_read Filter.maxDepth filter shallow _).bind
  apply takes_element_bind
  intro short
  exact (takes_within short (takes_texts attributes) rest).map

theorem Control.takes_read (control : Control) (rest : Octets) :
    Control.read.Takes control.item.write control rest := by
  refine takes_element_bind_last fun short => takes_whole short ?_ rest
  apply (takes_text Tag.octetString control.oid _).bind
  apply (takes_flag control.critical _).bind
  exact (takes_optional Tag.octetString control.value (notNext_nil _)).map

namespace Operation

def names : Operation → List Dn
  | searchRequest request => [request.base]
  | searchEntry entry | addRequest entry => [entry.dn]
  | modifyRequest dn _ | deleteRequest dn | compareRequest dn _ _ => [dn]
  | _ => []

def filter? : Operation → Option Filter
  | searchRequest request => some request.filter
  | _ => none

def WellFormed (op : Operation) : Prop :=
  (∀ name ∈ op.names, name.WellFormed) ∧ ∀ filter ∈ op.filter?, filter.depth ≤ Filter.maxDepth

instance (op : Operation) : Decidable op.WellFormed :=
  inferInstanceAs (Decidable (_ ∧ _))

def unpaged : Operation → Operation
  | searchRequest request => searchRequest { request with paging := none }
  | searchDone outcome _ => searchDone outcome none
  | op => op

theorem isPageable_unpaged (op : Operation) : op.unpaged.isPageable = op.isPageable := by
  cases op <;> rfl

theorem unpaged_of_paging? {op : Operation} (h : op.paging? = none) : op.unpaged = op := by
  cases op with
  | searchRequest request =>
    obtain ⟨base, scope, deref, sizeLimit, timeLimit, typesOnly, filter, attributes, paging⟩ := request
    obtain rfl : paging = none := h
    rfl
  | searchDone outcome paging =>
    obtain rfl : paging = none := h
    rfl
  | _ => rfl

theorem withPaging_unpaged {op : Operation} {paging : Paging} (h : op.paging? = some paging) :
    op.unpaged.withPaging paging = op := by
  cases op with
  | searchRequest request =>
    obtain ⟨base, scope, deref, sizeLimit, timeLimit, typesOnly, filter, attributes, page⟩ := request
    obtain rfl : page = some paging := h
    rfl
  | searchDone outcome page =>
    obtain rfl : page = some paging := h
    rfl
  | _ => simp [paging?] at h

theorem paging?_of_not_isPageable {op : Operation} (h : op.isPageable = false) : op.paging? = none := by
  cases op <;> simp_all [isPageable, paging?]

/-- Most operations are read inside their element, all of which is taken. -/
theorem exists_whole {tag : UInt8} {content : Octets} {inner : Reading Operation} {op : Operation}
    (inside : inner.Takes content op []) :
    ∃ found, Wire.element tag content = Wire.element tag found ∧
      (found.length < lengthLimit → ∀ rest, (whole found inner).Takes [] op rest) :=
  ⟨content, rfl, fun short rest => takes_whole short inside rest⟩

/-- The content of the element that an operation is written as. -/
theorem exists_content {op : Operation} (legal : op.WellFormed) :
    ∃ content, op.item.write = Wire.element op.kind.tag content ∧
      (content.length < lengthLimit →
        ∀ rest, (readContent op.kind content).Takes [] op.unpaged rest) := by
  obtain ⟨named, shallow⟩ := legal
  cases op with
  | bindRequest version name credentials =>
    apply exists_whole
    apply (takes_number Tag.integer version _).bind
    apply (takes_text Tag.octetString name _).bind
    rw [Item.writeAll_singleton]
    exact (Credentials.takes_read credentials []).map
  | bindResponse outcome credentials =>
    apply exists_whole
    rw [Item.writeAll_append]
    have absent := notNext_optional (show Tag.serverCredentials ≠ Tag.referrals by decide) credentials
      (notNext_nil _)
    apply (Outcome.takes_read outcome absent).bind
    exact (takes_optional Tag.serverCredentials credentials (notNext_nil _)).map
  | unbindRequest => exact ⟨[], rfl, fun _ rest => takes_pure _ rest⟩
  | searchRequest request =>
    apply exists_whole
    exact (SearchRequest.takes_read (named _ List.mem_cons_self) (shallow _ rfl) []).map
  | searchEntry entry =>
    apply exists_whole
    exact (Entry.takes_read (named _ List.mem_cons_self) []).map
  | searchReference urls =>
    apply exists_whole
    exact (takes_texts urls).map
  | searchDone outcome paging =>
    apply exists_whole
    exact (Outcome.takes_read outcome (notNext_nil _)).map
  | modifyRequest dn changes =>
    apply exists_whole
    apply (Dn.takes_read (named _ List.mem_cons_self) _).bind
    apply takes_element_bind
    intro inner
    exact (takes_within inner (takes_many fun change _ => change.takes_read) _).map
  | addRequest entry =>
    apply exists_whole
    exact (Entry.takes_read (named _ List.mem_cons_self) []).map
  | modifyResponse outcome =>
    apply exists_whole
    exact (Outcome.takes_read outcome (notNext_nil _)).map
  | addResponse outcome =>
    apply exists_whole
    exact (Outcome.takes_read outcome (notNext_nil _)).map
  | deleteResponse outcome =>
    apply exists_whole
    exact (Outcome.takes_read outcome (notNext_nil _)).map
  | compareResponse outcome =>
    apply exists_whole
    exact (Outcome.takes_read outcome (notNext_nil _)).map
  | deleteRequest dn =>
    refine ⟨Octets.ofText dn.print, rfl, fun _ rest => ?_⟩
    exact (Dn.takes_ofOctets (named _ List.mem_cons_self) rest).map
  | compareRequest dn attr value =>
    apply exists_whole
    apply (Dn.takes_read (named _ List.mem_cons_self) _).bind
    apply takes_element_bind
    intro inner
    have assertion : Takes (do
        let attr ← Reading.text Tag.octetString
        return (attr, ← Reading.element Tag.octetString))
        (Item.writeAll [.text Tag.octetString attr, .octets Tag.octetString value])
        (attr, value) [] := by
      apply (takes_text Tag.octetString attr _).bind
      rw [Item.writeAll_singleton]
      exact (takes_element Tag.octetString value []).map
    exact (takes_whole inner assertion _).bind_nil (takes_pure _ _)
  | abandonRequest id =>
    refine ⟨Octets.ofNumber id, rfl, fun _ rest => ?_⟩
    exact (takes_lift (asNumber_ofNumber _ id) rest).map
  | extendedRequest name value =>
    apply exists_whole
    apply (takes_text Tag.requestName name _).bind
    exact (takes_optional Tag.requestValue value (notNext_nil _)).map
  | extendedResponse outcome name value =>
    apply exists_whole
    rw [Item.writeAll_append, Item.writeAll_append, List.append_assoc]
    have noName := notNext_optional (show Tag.responseValue ≠ Tag.responseName by decide) value
      (notNext_nil _)
    have noReferrals := notNext_optional (show Tag.responseName ≠ Tag.referrals by decide)
      (name.map Octets.ofText)
      (notNext_optional (show Tag.responseValue ≠ Tag.referrals by decide) value (notNext_nil _))
    rw [← List.append_assoc] at noReferrals
    have last : ∀ name, Takes (do
        return Operation.extendedResponse outcome name (← Reading.optional Tag.responseValue))
        (Item.writeAll (Item.optional Tag.responseValue value))
        (Operation.extendedResponse outcome name value) [] :=
      fun name => (takes_optional Tag.responseValue value (notNext_nil _)).map
    apply (Outcome.takes_read outcome noReferrals).bind
    apply (takes_optional Tag.responseName (name.map Octets.ofText) noName).bind
    cases name with
    | none => exact (takes_pure _ _).bind_nil (last none)
    | some text =>
      apply (takes_lift (asText_ofText text) _).bind_nil
      exact (takes_pure _ _).bind_nil (last (some text))

theorem takes_read {op : Operation} (legal : op.WellFormed) (rest : Octets) :
    Operation.read.Takes op.item.write op.unpaged rest := by
  obtain ⟨content, written, inside⟩ := exists_content legal
  rw [written]
  apply takes_any_bind
  intro short
  dsimp only
  rw [OperationKind.ofTag?_tag]
  exact inside short rest

end Operation

theorem Control.length_value_le {control : Control} {value : Octets}
    (h : control.value = some value) : value.length ≤ control.item.write.length := by
  simp only [Control.item, h, Item.optional, Item.write, Item.writeAll, length_element,
    List.length_append]
  omega

theorem Paging.takes_ofControl (paging : Paging)
    (short : ∀ value, paging.control.value = some value → value.length < lengthLimit)
    (rest : Octets) : (Paging.ofControl paging.control).Takes [] paging rest := by
  have bound := short _ rfl
  have part := bound
  simp only [Item.write, length_element] at part
  apply (takes_whole bound (takes_element Tag.sequence _ []) rest).bind_nil
  have page : Takes (do
      let size ← Reading.number Tag.integer
      return (size, ← Reading.element Tag.octetString))
      (Item.writeAll
        [.number Tag.integer paging.size, .octets Tag.octetString paging.cookie])
      (paging.size, paging.cookie) [] := by
    apply (takes_number Tag.integer paging.size _).bind
    rw [Item.writeAll_singleton]
    exact (takes_element Tag.octetString paging.cookie []).map
  exact (takes_whole (by omega) page rest).bind_nil (takes_pure _ _)

theorem Paging.isPaging_control (paging : Paging) : paging.control.isPaging = true := by
  simp [Control.isPaging, Paging.control]

namespace Message

def WellFormed (message : Message) : Prop := message.id ≤ maxId ∧ message.op.WellFormed

instance (message : Message) : Decidable message.WellFormed :=
  inferInstanceAs (Decidable (_ ∧ _))

/-- What a frame carries of a message: on a search no control speaks of pages but the operation. -/
def carried (message : Message) : Message :=
  if message.op.isPageable then
    { message with controls := message.controls.filter fun control => !control.isPaging }
  else message

def plainControls (message : Message) : List Control :=
  message.controls.filter fun control => !control.isPaging

theorem filter_plainControls (message : Message) :
    message.plainControls.filter Control.isPaging = [] ∧
      message.plainControls.filter (fun control => !control.isPaging) = message.plainControls := by
  simp [plainControls, List.filter_filter]

/-- A page that comes back among the controls returns to its operation. -/
theorem takes_ofWire (message : Message)
    (short : ∀ control ∈ message.wireControls, ∀ value, control.value = some value →
      value.length < lengthLimit) (rest : Octets) :
    (ofWire message.id message.op.unpaged message.wireControls).Takes [] message.carried rest := by
  obtain ⟨none, kept⟩ := filter_plainControls message
  rw [ofWire, Operation.isPageable_unpaged, carried]
  by_cases pageable : message.op.isPageable
  · rw [if_pos pageable, if_pos pageable]
    cases page : message.op.paging? with
    | none =>
      have found : message.wireControls = message.plainControls := by
        simp [wireControls, pageable, page, plainControls]
      rw [found, none, Operation.unpaged_of_paging? page]
      exact takes_pure _ _
    | some paging =>
      have found : message.wireControls = paging.control :: message.plainControls := by
        simp [wireControls, pageable, page, plainControls]
      rw [found] at short ⊢
      have carrier := paging.isPaging_control
      simp only [List.filter_cons, carrier, none, kept, Bool.not_true, if_true]
      apply (paging.takes_ofControl (short _ List.mem_cons_self) rest).bind_nil
      rw [Operation.withPaging_unpaged page]
      exact takes_pure _ _
  · have absent := Operation.paging?_of_not_isPageable (Bool.eq_false_iff.mpr pageable)
    have found : message.wireControls = message.controls := by
      rw [wireControls, if_neg pageable]
    rw [if_neg pageable, if_neg pageable, found, Operation.unpaged_of_paging? absent]
    exact takes_pure _ _

theorem takes_end {message : Message}
    (short : (Item.writeAll (message.wireControls.map Control.item)).length < lengthLimit) :
    Takes (do
      Reading.finish
      ofWire message.id message.op.unpaged message.wireControls) [] message.carried [] := by
  have bound : ∀ control ∈ message.wireControls, ∀ value, control.value = some value →
      value.length < lengthLimit := by
    intro control member value found
    have inner := Control.length_value_le found
    have outer : control.item.write.length ≤ _ :=
      Item.length_write_le_of_mem (List.mem_map_of_mem member)
    omega
  exact (takes_finish ()).bind_nil (takes_ofWire message bound [])

theorem takes_readContent {message : Message} (legal : message.WellFormed) :
    readContent.Takes
      (Item.writeAll ([.number Tag.integer message.id, message.op.item] ++
        match message.wireControls with
        | [] => []
        | controls => [.group Tag.controls (controls.map Control.item)])) message.carried [] := by
  obtain ⟨inRange, operation⟩ := legal
  have small : ¬ maxId < message.id := UInt32.not_lt.mpr inRange
  have ending := message.takes_end
  apply (takes_number Tag.integer message.id _).bind
  rw [if_neg small]
  apply (Operation.takes_read operation _).bind
  cases found : message.wireControls with
  | nil =>
    rw [found] at ending
    apply (takes_optional_none (notNext_nil _)).bind_nil
    exact (takes_pure _ _).bind_nil (ending (by decide))
  | cons control others =>
    rw [found] at ending
    show Takes _ (Item.writeAll [.group Tag.controls ((control :: others).map Control.item)]) _ _
    rw [Item.writeAll_singleton, Item.write]
    apply takes_optional_bind
    intro short
    have controls : (Reading.many Control.read).Takes
        (Item.writeAll ((control :: others).map Control.item)) (control :: others) [] :=
      takes_many fun control _ => control.takes_read
    exact (takes_within short controls _).bind_nil (ending short)

theorem takes_read {message : Message} (legal : message.WellFormed) :
    Message.read.Takes message.encode message.carried [] := by
  rw [encode_eq_write]
  apply takes_element_bind_last
  intro inner
  apply (takes_finish ()).bind_nil
  exact takes_within inner (takes_readContent legal) []

/-- Reading the frame of a message gives back the message itself, but for the controls of a search that
speak of pages. -/
theorem decode_encode {message : Message} (legal : message.WellFormed)
    (short : message.encode.length < lengthLimit) :
    Message.decode message.encode = .ok message.carried := by
  have whole := takes_read legal short
  rw [List.append_nil] at whole
  rw [Message.decode, whole]

def pagedSearch : Message where
  id := maxId
  op := .searchRequest
    { base := ⟨[[⟨"CN", " Smith, J.\x00"⟩, ⟨"uid", "#7 "⟩], [⟨"dc", "ö"⟩]]⟩
      scope := .subtree
      filter := .all [.not (.present "Mail"), .any [], .substrings "cn" none [[42]] (some [])]
      attributes := ["Mail"]
      paging := some ⟨5, [255], true⟩ }
  controls := [⟨"1.2", true, none⟩, ⟨Oid.pagedResults, false, some []⟩]

theorem decode_encode_pagedSearch :
    Message.decode pagedSearch.encode =
      .ok { pagedSearch with controls := [⟨"1.2", true, none⟩] } :=
  decode_encode (by decide +kernel : pagedSearch.WellFormed) (by decide +kernel)

end Message

end Directory
