import Directory.Proofs.Message.Canonical
import Directory.Proofs.Wire.Extent
/-!
What a frame is made of, told from its octets alone: the number of the message, its operation, the attributes
of an entry and the controls, as they stand there. A frame that is accepted has such a layout and no other, and
in it no name and no control stands twice that may not. It also ends where it ends: less of it is truncated,
and more is malformed.
-/
namespace Directory

open Wire Wire.Reading

inductive Wire.Named : Octets → List String → Prop where
  | nil : Named [] []
  | cons {name : String} {tail rest : Octets} {names : List String} (others : Named rest names) :
    Named
      (element Tag.sequence (element Tag.octetString (Octets.ofText name) ++ tail) ++ rest)
      (name :: names)

namespace Wire.Named

theorem append_last {octets : Octets} {names : List String} (named : Named octets names) (name : String)
    (tail : Octets) :
    Named (octets ++ element Tag.sequence (element Tag.octetString (Octets.ofText name) ++ tail))
      (names ++ [name]) := by
  induction named with
  | nil =>
    have alone : Named
        (element Tag.sequence (element Tag.octetString (Octets.ofText name) ++ tail) ++ []) [name] :=
      .cons .nil
    rwa [List.append_nil] at alone
  | cons _ ih =>
    rw [List.append_assoc]
    exact .cons ih

/-- The same octets name the same. -/
theorem unique {octets other : Octets} {xs ys : List String} (left : Named octets xs)
    (right : Named other ys) (same : octets = other) (short : octets.length < lengthLimit) : xs = ys := by
  induction left generalizing other ys with
  | nil =>
    cases right with
    | nil => rfl
    | cons => cases same
  | cons _ ih =>
    cases right with
    | nil => cases same
    | cons others =>
      obtain ⟨_, inside, later⟩ := element_append_inj_of_short same short
      rw [List.length_append, length_element] at short
      obtain ⟨_, text, _⟩ := element_append_inj_of_short inside (by omega)
      obtain rfl := Octets.ofText_injective text
      rw [ih others later (by omega)]

end Wire.Named

def Entry.Lists (content : Octets) (names : List String) : Prop :=
  ∃ dn list, content = Wire.element Tag.octetString dn ++ Wire.element Tag.sequence list ∧
    Named list names

namespace Message

/-- A frame with this number, an operation of this kind with this content, and controls with these
identifiers. -/
def LaidOut (frame : Octets) (id : MessageId) (kind : OperationKind) (content : Octets)
    (oids : List String) : Prop :=
  ∃ controls : Option Octets,
    frame = Wire.element Tag.sequence (Wire.element Tag.integer (Octets.ofNumber id) ++
      (Wire.element kind.tag content ++ Item.writeAll (Item.optional Tag.controls controls))) ∧
    Named (controls.getD []) oids

/-- There is one way to lay a frame out. -/
theorem LaidOut.unique {frame content inner : Octets} {id number : MessageId} {kind other : OperationKind}
    {oids listed : List String} (left : LaidOut frame id kind content oids)
    (right : LaidOut frame number other inner listed) (short : frame.length < lengthLimit + 5) :
    id = number ∧ kind = other ∧ content = inner ∧ oids = listed := by
  obtain ⟨controls, rfl, named⟩ := left
  obtain ⟨behind, same, naming⟩ := right
  rw [length_element] at short
  -- The bound goes from the whole to what stands behind each element.
  have within := Nat.lt_of_add_lt_add_right short
  obtain ⟨_, same⟩ := element_inj same within
  obtain ⟨_, numbers, same⟩ := element_append_inj_of_short same within
  rw [List.length_append] at within
  have later := Nat.lt_of_le_of_lt (Nat.le_add_left _ _) within
  obtain ⟨tags, contents, same⟩ := element_append_inj_of_short same later
  rw [List.length_append] at later
  have last := Nat.lt_of_le_of_lt (Nat.le_add_left _ _) later
  obtain rfl := optional_inj same last
  have inside : (controls.getD []).length < lengthLimit := by
    cases controls with
    | none => decide
    | some list =>
      rw [Item.optional, Item.writeAll_singleton, Item.write, length_element] at last
      exact Nat.lt_of_le_of_lt (Nat.le_add_right _ _) last
  have kinds : kind = other := by
    have found := congrArg OperationKind.ofTag? tags
    rwa [OperationKind.ofTag?_tag, OperationKind.ofTag?_tag, Option.some.injEq] at found
  exact ⟨Octets.ofNumber_injective numbers, kinds, contents, named.unique naming rfl inside⟩

end Message

theorem Attribute.read_ok {input rest : Octets} {attr : Attribute}
    (read : Attribute.read.run input = (.ok attr, rest)) :
    ∃ tail, input = Wire.element Tag.sequence
      (Wire.element Tag.octetString (Octets.ofText attr.name) ++ tail) ++ rest := by
  obtain ⟨content, middle, taken, read⟩ := run_bind_ok_iff.mp read
  obtain ⟨⟨name, values⟩, _, inside, read⟩ := run_bind_ok_iff.mp read
  obtain ⟨found, _, listed, done⟩ := run_bind_ok_iff.mp read
  obtain ⟨rfl, rfl⟩ := pure_ok done
  obtain ⟨rfl, _⟩ := within_ok listed
  obtain ⟨rfl, parts⟩ := whole_ok inside
  obtain ⟨name, tail, first, parts⟩ := run_bind_ok_iff.mp parts
  obtain ⟨_, _, _, done⟩ := run_bind_ok_iff.mp parts
  obtain ⟨same, _⟩ := pure_ok done
  cases same
  exact ⟨tail, by rw [element_ok taken, text_ok first]; rfl⟩

namespace Attributes

def Holds (attributes : Attributes) (items : List Item) : Prop :=
  ∃ names, Named (Item.writeAll items) names ∧
    (attributes.toList.map Attribute.key).Perm (names.map foldCase)

theorem follows_insertNew : Follows (fun attributes => do
    Reading.content (insertNew attributes (← Attribute.read))) Holds := by
  rintro before items input after rest ⟨names, named, keys⟩ read
  obtain ⟨attr, middle, taken, read⟩ := run_bind_ok_iff.mp read
  obtain ⟨put, rfl⟩ := content_ok read
  obtain ⟨tail, split⟩ := Attribute.read_ok taken
  refine ⟨.octets Tag.sequence _, split, names ++ [attr.name], ?_, ?_⟩
  · rw [Item.writeAll_append, Item.writeAll_singleton, Item.write]
    exact named.append_last attr.name tail
  · unfold insertNew at put
    split at put
    · cases put
    · next fresh =>
      cases put
      -- The key was not there yet, so that it joins the others and takes no place of theirs.
      have joined := ((Ascending.toList_insert_perm fresh).map Attribute.key).trans (keys.cons attr.key)
      rw [List.map_append]
      exact joined.trans (List.perm_append_singleton attr.key (names.map foldCase)).symm

theorem read_ok {input rest : Octets} {attributes : Attributes}
    (read : Attributes.read.run input = (.ok attributes, rest)) :
    ∃ items, input = Wire.element Tag.sequence (Item.writeAll items) ++ rest ∧
      attributes.Holds items := by
  obtain ⟨content, middle, taken, read⟩ := run_bind_ok_iff.mp read
  obtain ⟨rfl, left, read⟩ := within_ok read
  obtain ⟨items, rfl, held⟩ := steps_ok follows_insertNew ⟨[], .nil, .refl _⟩ read
  exact ⟨items, element_ok taken, held⟩

end Attributes

/-- Keys stand in a collection but once, so that no two names of the list differ in letter case only. -/
theorem Attributes.Holds.lists {attributes : Attributes} {items : List Item}
    (held : attributes.Holds items) : ∃ names, Named (Item.writeAll items) names ∧
      names.Pairwise fun a b => sameName a b = false := by
  obtain ⟨names, named, keys⟩ := held
  have once : (attributes.toList.map Attribute.key).Nodup := by
    refine List.pairwise_map.mpr (attributes.ascending.imp fun {a b} less same => ?_)
    rw [same] at less
    exact String.lt_irrefl b.key less
  have apart := List.pairwise_map.mp (keys.nodup_iff.mp once)
  refine ⟨names, named, apart.imp fun different => ?_⟩
  rw [sameName, beq_eq_false_iff_ne]
  exact different

theorem Dn.rest_of_ofOctets {octets input rest : Octets} {dn : Dn}
    (read : (Dn.ofOctets octets).run input = (.ok dn, rest)) : rest = input := by
  obtain ⟨text, middle, given, parsed⟩ := run_bind_ok_iff.mp read
  rw [(content_ok parsed).2, (lift_ok given).2]

theorem Dn.read_ok {input rest : Octets} {dn : Dn} (read : Dn.read.run input = (.ok dn, rest)) :
    ∃ octets, input = Wire.element Tag.octetString octets ++ rest := by
  obtain ⟨octets, middle, taken, read⟩ := run_bind_ok_iff.mp read
  obtain rfl := Dn.rest_of_ofOctets read
  exact ⟨octets, element_ok taken⟩

theorem Entry.Lists.unique {content : Octets} {xs ys : List String} (left : Entry.Lists content xs)
    (right : Entry.Lists content ys) (short : content.length < lengthLimit) : xs = ys := by
  obtain ⟨dn, list, rfl, named⟩ := left
  obtain ⟨other, behind, same, naming⟩ := right
  obtain ⟨_, _, same⟩ := element_append_inj_of_short same short
  rw [List.length_append, length_element _ list] at short
  have lists := (element_inj same (by omega)).2
  exact named.unique naming lists (by omega)

theorem Entry.lists_of_read {content : Octets} {entry : Entry}
    (read : Entry.read.run content = (.ok entry, [])) :
    ∃ names, Entry.Lists content names ∧ names.Pairwise fun a b => sameName a b = false := by
  obtain ⟨dn, middle, first, read⟩ := run_bind_ok_iff.mp read
  obtain ⟨attributes, _, second, done⟩ := run_bind_ok_iff.mp read
  obtain ⟨_, rfl⟩ := pure_ok done
  obtain ⟨name, rfl⟩ := Dn.read_ok first
  obtain ⟨items, rfl, held⟩ := Attributes.read_ok second
  obtain ⟨names, named, apart⟩ := held.lists
  exact ⟨names, ⟨name, _, by rw [List.append_nil], named⟩, apart⟩

theorem Control.accepts_read : Control.read.Accepts fun control item => ∃ tail,
    item = .octets Tag.sequence (Wire.element Tag.octetString (Octets.ofText control.oid) ++ tail) := by
  intro input control rest read
  obtain ⟨content, middle, taken, read⟩ := run_bind_ok_iff.mp read
  obtain ⟨rfl, parts⟩ := whole_ok read
  obtain ⟨oid, tail, first, parts⟩ := run_bind_ok_iff.mp parts
  obtain ⟨critical, _, _, parts⟩ := run_bind_ok_iff.mp parts
  obtain ⟨value, _, _, done⟩ := run_bind_ok_iff.mp parts
  obtain ⟨rfl, _⟩ := pure_ok done
  refine ⟨_, ⟨tail, rfl⟩, ?_⟩
  rw [element_ok taken, text_ok first]
  rfl

theorem Control.named_of_read {octets rest : Octets} {controls : List Control}
    (read : (Reading.many Control.read).run octets = (.ok controls, rest)) :
    Named octets (controls.map Control.oid) := by
  obtain ⟨_, items, forms, rfl⟩ := many_ok Control.accepts_read read
  clear read
  induction forms with
  | nil => exact .nil
  | cons form _ ih =>
    obtain ⟨tail, rfl⟩ := form
    exact .cons ih

namespace Operation

/-- What was read from the content of a kind is of that kind. -/
theorem yields_kind (kind : OperationKind) (content : Octets) :
    (readContent kind content).Yields fun op => op.kind = kind := by
  cases kind with
  | unbindRequest =>
    simp only [readContent]
    split
    · exact yields_pure rfl
    · exact yields_defect _
  | deleteRequest | abandonRequest => exact yields_bind fun _ => yields_pure rfl
  | searchRequest | searchEntry | searchReference | searchDone | modifyResponse | addRequest | addResponse
  | deleteResponse | compareResponse =>
    refine Yields.whole ?_ content
    exact yields_bind fun _ => yields_pure rfl
  | bindResponse | extendedRequest =>
    refine Yields.whole ?_ content
    exact yields_bind fun _ => yields_bind fun _ => yields_pure rfl
  | bindRequest | modifyRequest | compareRequest =>
    refine Yields.whole ?_ content
    exact yields_bind fun _ => yields_bind fun _ => yields_bind fun _ => yields_pure rfl
  | extendedResponse =>
    refine Yields.whole ?_ content
    refine yields_bind fun outcome => yields_bind fun name => ?_
    have rest (name : Option String) : Yields (do
        return Operation.extendedResponse outcome name (← Reading.optional Tag.responseValue))
        fun op => op.kind = .extendedResponse :=
      yields_bind fun _ => yields_pure rfl
    cases name with
    | none => exact yields_bind rest
    | some octets => exact yields_bind fun _ => yields_bind rest

/-- The content is all there is to read. -/
theorem rest_of_readContent {kind : OperationKind} {content input rest : Octets} {op : Operation}
    (read : (readContent kind content).run input = (.ok op, rest)) : rest = input := by
  cases kind with
  | unbindRequest =>
    simp only [readContent] at read
    split at read
    · exact (pure_ok read).2
    · cases read
  | deleteRequest =>
    obtain ⟨name, middle, first, done⟩ := run_bind_ok_iff.mp read
    rw [(pure_ok done).2, Dn.rest_of_ofOctets first]
  | abandonRequest =>
    obtain ⟨id, middle, first, done⟩ := run_bind_ok_iff.mp read
    rw [(pure_ok done).2, (lift_ok first).2]
  | bindRequest | bindResponse | searchRequest | searchEntry | searchReference | searchDone | modifyRequest
  | modifyResponse | addRequest | addResponse | deleteResponse | compareRequest | compareResponse
  | extendedRequest | extendedResponse => exact (whole_ok read).1

theorem read_ok {input rest : Octets} {op : Operation} (read : Operation.read.run input = (.ok op, rest)) :
    ∃ content, input = Wire.element op.kind.tag content ++ rest ∧
      (readContent op.kind content).run rest = (.ok op, rest) := by
  obtain ⟨⟨tag, content⟩, middle, taken, inside⟩ := run_bind_ok_iff.mp read
  dsimp only at inside
  split at inside
  · next kind found =>
    obtain rfl := rest_of_readContent inside
    obtain rfl : op.kind = kind := yields_kind kind content _ _ _ inside
    have carried : op.kind.tag = tag := by simpa using List.find?_some found
    exact ⟨content, by rw [carried, any_ok taken], inside⟩
  · cases inside

/-- On the wire of an entry no attribute stands twice. -/
theorem lists_of_readContent {content rest : Octets} {op : Operation}
    (read : (readContent op.kind content).run rest = (.ok op, rest))
    (entry : op.kind = .addRequest ∨ op.kind = .searchEntry) :
    ∃ names, Entry.Lists content names ∧ names.Pairwise fun a b => sameName a b = false := by
  rcases entry with same | same
  all_goals
    rw [same] at read
    obtain ⟨_, inside⟩ := whole_ok read
    obtain ⟨entry, _, first, done⟩ := run_bind_ok_iff.mp inside
    obtain ⟨_, rfl⟩ := pure_ok done
    exact Entry.lists_of_read first

end Operation

namespace Message

theorem ofWire_ok {id : MessageId} {op : Operation} {controls : List Control} {message : Message}
    {input rest : Octets} (given : (ofWire id op controls).run input = (.ok message, rest)) :
    message.id = id ∧ message.op.kind = op.kind ∧
      (op.isPageable = true → (controls.map Control.oid).count Oid.pagedResults ≤ 1) := by
  have counted : (controls.map Control.oid).count Oid.pagedResults =
      (controls.filter Control.isPaging).length := by
    rw [List.count, List.countP_map, List.countP_eq_length_filter]
    rfl
  rw [counted]
  unfold ofWire at given
  split at given
  · next pageable =>
    split at given
    · next none =>
      obtain ⟨rfl, _⟩ := pure_ok given
      exact ⟨rfl, rfl, fun _ => by rw [none]; exact Nat.zero_le _⟩
    · next control one =>
      obtain ⟨paging, _, _, done⟩ := run_bind_ok_iff.mp given
      obtain ⟨rfl, _⟩ := pure_ok done
      exact ⟨rfl, by cases op <;> rfl, fun _ => by rw [one]; exact Nat.le_refl _⟩
    · cases given
  · next other =>
    obtain ⟨rfl, _⟩ := pure_ok given
    exact ⟨rfl, rfl, fun pageable => absurd pageable other⟩

/-- What holds of the parts of a frame that is accepted: the number is in range, a search speaks of its page at
most once, and of the attributes of an entry, which the content lists in one way, no two names differ in letter
case only. -/
def Sound (id : MessageId) (kind : OperationKind) (content : Octets) (oids : List String) : Prop :=
  id ≤ maxId ∧
    (kind = .searchRequest ∨ kind = .searchDone → oids.count Oid.pagedResults ≤ 1) ∧
    (kind = .addRequest ∨ kind = .searchEntry →
      (∃ names, Entry.Lists content names) ∧
        ∀ names, Entry.Lists content names → names.Pairwise fun a b => sameName a b = false)

theorem sound_of_readContent {octets rest : Octets} {message : Message} (short : octets.length < lengthLimit)
    (read : readContent.run octets = (.ok message, rest)) :
    ∃ content oids, LaidOut (Wire.element Tag.sequence octets) message.id message.op.kind content oids ∧
      Sound message.id message.op.kind content oids := by
  obtain ⟨id, middle, numbered, read⟩ := run_bind_ok_iff.mp read
  dsimp only at read
  split at read
  · cases read
  · next inRange =>
    obtain ⟨op, behind, first, read⟩ := run_bind_ok_iff.mp read
    obtain ⟨found, left, second, read⟩ := run_bind_ok_iff.mp read
    have listed : ∃ controls : List Control, Named (found.getD []) (controls.map Control.oid) ∧
        (do finish; ofWire id op controls : Reading Message).run left = (.ok message, rest) := by
      cases found with
      | none => exact ⟨[], .nil, read⟩
      | some list =>
        obtain ⟨controls, _, inside, after⟩ := run_bind_ok_iff.mp read
        obtain ⟨rfl, _, many⟩ := within_ok inside
        exact ⟨controls, Control.named_of_read many, after⟩
    obtain ⟨controls, named, last⟩ := listed
    obtain ⟨_, _, finished, given⟩ := run_bind_ok_iff.mp last
    obtain rfl := finish_ok finished
    obtain ⟨content, split, inside⟩ := Operation.read_ok first
    obtain ⟨rfl, kinds, paged⟩ := ofWire_ok given
    have form := number_ok numbered
    rw [split, optional_ok second, List.append_nil] at form
    rw [kinds]
    refine ⟨content, controls.map Control.oid, ⟨found, by rw [form]; rfl, named⟩,
      UInt32.not_lt.mp inRange, ?_, fun entry => ?_⟩
    · rintro searches
      apply paged
      cases op <;> simp_all [Operation.kind, Operation.isPageable]
    · have brief : content.length < lengthLimit := by
        rw [form] at short
        simp only [List.length_append, length_element] at short
        omega
      obtain ⟨names, lists, apart⟩ := Operation.lists_of_readContent inside entry
      refine ⟨⟨names, lists⟩, fun others same => ?_⟩
      rwa [← lists.unique same brief]

/-- A frame that is accepted is one element, and the message was read from its content. -/
theorem decode_ok {frame : Octets} {message : Message} (decoded : decode frame = .ok message) :
    ∃ octets rest, frame = Wire.element Tag.sequence octets ∧ octets.length < lengthLimit ∧
      readContent.run octets = (.ok message, rest) := by
  have read : Message.read.run frame = (.ok message, (Message.read.run frame).2) := Prod.ext decoded rfl
  obtain ⟨octets, behind, taken, read⟩ := run_bind_ok_iff.mp read
  obtain ⟨_, _, finished, inside⟩ := run_bind_ok_iff.mp read
  obtain rfl := finish_ok finished
  obtain ⟨_, rest, read⟩ := within_ok inside
  refine ⟨octets, rest, ?_, any_short (any_of_element taken), read⟩
  rw [element_ok taken, List.append_nil]

theorem decode_cut {octets part : Octets} (short : octets.length < lengthLimit)
    (cut : part <+: Wire.element Tag.sequence octets) (proper : part ≠ Wire.element Tag.sequence octets) :
    ∃ shortfall, decode part = .error (.truncated shortfall) := by
  obtain ⟨left, whole⟩ := cut
  have some : left ≠ [] := by
    rintro rfl
    rw [List.append_nil] at whole
    exact proper whole
  obtain ⟨shortfall, stopped⟩ := element_run_of_cut short whole some
  refine ⟨shortfall, ?_⟩
  rw [decode, Message.read, run_bind, stopped]

theorem decode_append {octets more : Octets} (short : octets.length < lengthLimit) (some : more ≠ []) :
    decode (Wire.element Tag.sequence octets ++ more) = .error (.malformed (.trailing more.length)) := by
  have stopped : finish.run more = (.error (.malformed (.trailing more.length)), more) := by
    simp [finish, run, some]
  simp only [decode, Message.read, run_bind, element_run_of_short short, stopped]

/-- Octets are a message, malformed or truncated. Those of a message are told from any others by themselves:
less of them is truncated, and more is malformed. They have one layout, and it is sound. -/
theorem decode_delimits (frame : Octets) :
    ((∃ message, decode frame = .ok message) ∨
        (∃ text, (decode frame).mapError Fault.toError = .error (.malformed text)) ∨
        ∃ text, (decode frame).mapError Fault.toError = .error (.truncated text)) ∧
      ∀ message, decode frame = .ok message →
        (∀ part, part <+: frame → part ≠ frame →
          ∃ text, (decode part).mapError Fault.toError = .error (.truncated text)) ∧
        (∀ more, more ≠ [] →
          ∃ text, (decode (frame ++ more)).mapError Fault.toError = .error (.malformed text)) ∧
        (∃ content oids, LaidOut frame message.id message.op.kind content oids) ∧
        ∀ id kind content oids, LaidOut frame id kind content oids → Sound id kind content oids := by
  constructor
  · cases decode frame with
    | ok message => exact .inl ⟨message, rfl⟩
    | error fault =>
      cases fault with
      | malformed defect => exact .inr (.inl ⟨_, rfl⟩)
      | truncated shortfall => exact .inr (.inr ⟨_, rfl⟩)
  · intro message decoded
    obtain ⟨octets, rest, rfl, short, read⟩ := decode_ok decoded
    obtain ⟨content, oids, layout, sound⟩ := sound_of_readContent short read
    refine ⟨fun part cut proper => ?_, fun more some => ?_, ⟨content, oids, layout⟩, ?_⟩
    · obtain ⟨shortfall, stopped⟩ := decode_cut short cut proper
      exact ⟨_, by rw [stopped]; rfl⟩
    · exact ⟨_, by rw [decode_append short some]; rfl⟩
    · intro id kind inner listed other
      have bound : (Wire.element Tag.sequence octets).length < lengthLimit + 5 := by
        rw [length_element]
        omega
      obtain ⟨rfl, rfl, rfl, rfl⟩ := layout.unique other bound
      exact sound

def addition : Message where
  id := maxId
  op := .addRequest ⟨⟨[[⟨"cn", "x"⟩]]⟩, Attributes.ofPairs [("sn", [120]), ("CN", [120, 0])]⟩

theorem decode_delimits_addition :
    decode addition.encode = .ok addition ∧
      (∃ text, (decode (addition.encode.take 20)).mapError Fault.toError = .error (.truncated text)) ∧
      (∃ text, (decode (addition.encode ++ [0])).mapError Fault.toError = .error (.malformed text)) ∧
      ∃ content oids, LaidOut addition.encode maxId .addRequest content oids ∧
        Sound maxId .addRequest content oids := by
  have decoded : decode addition.encode = .ok addition := by decide +kernel
  obtain ⟨cut, more, ⟨content, oids, layout⟩, sound⟩ :=
    (decode_delimits addition.encode).2 addition decoded
  refine ⟨decoded, cut _ (List.take_prefix 20 _) (by decide +kernel), more [0] (by decide), ?_⟩
  exact ⟨content, oids, layout, sound _ _ _ _ layout⟩

end Message

end Directory
