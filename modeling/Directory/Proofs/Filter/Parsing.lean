import Directory.Attempt
import Directory.Proofs.Filter.Grammar
/-!
Reading a filter follows the grammar: whatever is read has a derivation, and whatever has one is read. The
readers for values, assertions and filters are taken in turn, each with the text that it leaves.
-/
namespace Directory.Filter

theorem readSegments_bare {c : Char} (plain : isEscapable c = false) (rest : List Char) :
    readSegments (c :: rest) = (readSegments rest).map fun (segments, after) =>
      (prepend (String.utf8EncodeChar c) segments, after) := by
  have other : c ≠ '*' ∧ c ≠ '(' ∧ c ≠ ')' ∧ c ≠ '\\' := by
    refine ⟨?_, ?_, ?_, ?_⟩ <;>
    · rintro rfl
      cases plain
  rw [readSegments.eq_def]
  split <;> simp_all

theorem readSegments_escape {escape : List Char} {octet : UInt8} (spelled : Escape True escape octet)
    (rest : List Char) :
    readSegments ('\\' :: (escape ++ rest)) = (readSegments rest).map fun (segments, after) =>
      (prepend [octet] segments, after) := by
  cases spelled with
  | named escapable =>
    rw [readSegments.eq_def]
    simp [escapable]
  | digits read =>
    obtain ⟨n, _, digit, _⟩ := Hex.exists_digits_of_octet? read
    obtain ⟨plain, unsigned⟩ := not_isEscapable_of_digit? digit
    rw [readSegments.eq_def]
    simp [plain, escapedOctet?, unsigned, read]
  | signed _ digit =>
    have plain : isEscapable '+' = false := by decide
    rw [readSegments.eq_def]
    simp [plain, escapedOctet?, digit]

theorem escape_of_escapedOctet? {c d : Char} {octet : UInt8} (read : escapedOctet? c d = some octet) :
    Escape True [c, d] octet := by
  unfold escapedOctet? at read
  split at read
  · next sign =>
    subst sign
    obtain ⟨n, digit, rfl⟩ := Option.map_eq_some_iff.mp read
    exact .signed trivial digit
  · exact .digits read

def Closed (rest : List Char) : Prop := ∀ c, rest.head? = some c → c = ')'

theorem prepend_append (octets others : Octets) {segments : List Octets} (some : segments ≠ []) :
    prepend octets (prepend others segments) = prepend (octets ++ others) segments := by
  cases segments with
  | nil => exact absurd rfl some
  | cons segment rest => simp [prepend]

theorem readSegments_sound {text rest : List Char} {segments : List Octets}
    (read : readSegments text = .ok (segments, rest)) :
    Closed rest ∧ ∃ taken, text = taken ++ rest ∧ Joined True taken segments := by
  fun_induction readSegments text generalizing segments rest with
  | case1 =>
    cases read
    exact ⟨nofun, [], rfl, .last .nil⟩
  | case2 after =>
    cases read
    exact ⟨by simp [Closed], [], rfl, .last .nil⟩
  | case3 | case5 | case7 | case8 => cases read
  | case4 text ih =>
    obtain ⟨⟨values, after⟩, found, same⟩ := Attempt.map_eq_ok_iff.mp read
    cases same
    obtain ⟨closed, taken, rfl, joined⟩ := ih found
    exact ⟨closed, '*' :: taken, rfl, .more .nil joined⟩
  | case6 c text escapable ih =>
    obtain ⟨⟨values, after⟩, found, same⟩ := Attempt.map_eq_ok_iff.mp read
    cases same
    obtain ⟨closed, taken, rfl, joined⟩ := ih found
    exact ⟨closed, _, rfl, joined.escaped (.named escapable)⟩
  | case9 c _ d text octet escape ih =>
    obtain ⟨⟨values, after⟩, found, same⟩ := Attempt.map_eq_ok_iff.mp read
    cases same
    obtain ⟨closed, taken, rfl, joined⟩ := ih found
    exact ⟨closed, _, rfl, joined.escaped (escape_of_escapedOctet? escape)⟩
  | case10 c text notClose notOpen notStar notLast notEscape ih =>
    obtain ⟨⟨values, after⟩, found, same⟩ := Attempt.map_eq_ok_iff.mp read
    cases same
    have plain : isEscapable c = false := by
      refine Bool.eq_false_iff.mpr fun escapable => ?_
      rcases isEscapable_iff.mp escapable with star | opening | closing | backslash
      · exact notStar star
      · exact notOpen opening
      · exact notClose closing
      · cases text with
        | nil => exact notLast backslash rfl
        | cons d others => exact notEscape d others backslash rfl
    obtain ⟨closed, taken, rfl, joined⟩ := ih found
    exact ⟨closed, c :: taken, rfl, joined.bare plain⟩

theorem readSegments_closed {rest : List Char} (closed : Closed rest) :
    readSegments rest = .ok ([[]], rest) := by
  cases rest with
  | nil => rfl
  | cons c after =>
    obtain rfl := closed c rfl
    rfl

theorem readSegments_value {text tail after : List Char} {value : Octets} {segments : List Octets}
    (spelled : Value True text value) (read : readSegments tail = .ok (segments, after))
    (some : segments ≠ []) :
    readSegments (text ++ tail) = .ok (prepend value segments, after) := by
  induction spelled with
  | nil =>
    cases segments with
    | nil => exact absurd rfl some
    | cons => exact read
  | bare plain _ ih =>
    rw [List.cons_append, readSegments_bare plain, ih]
    simp [Except.map, prepend_append _ _ some]
  | @escaped escape text octet value spelled _ ih =>
    rw [List.cons_append, List.append_assoc, readSegments_escape spelled, ih]
    simp [Except.map, prepend_append _ _ some]

theorem readSegments_joined {text rest : List Char} {values : List Octets}
    (joined : Joined True text values) (closed : Closed rest) :
    readSegments (text ++ rest) = .ok (values, rest) := by
  induction joined with
  | last value =>
    rw [readSegments_value value (readSegments_closed closed) (List.cons_ne_nil _ _), prepend,
      List.append_nil]
  | @more text others value values spelled _ ih =>
    have star : readSegments ('*' :: (others ++ rest)) = .ok ([] :: values, rest) := by
      simp [readSegments, ih, Except.map]
    rw [List.append_assoc, List.cons_append,
      readSegments_value spelled star (List.cons_ne_nil _ _), prepend, List.append_nil]

theorem checkAttr_eq_ok_iff {text : List Char} {attr : String} :
    checkAttr text = .ok attr ↔ Described text attr := by
  constructor
  · intro checked
    unfold checkAttr at checked
    dsimp only at checked
    split at checked
    · cases checked
    · next some =>
      split at checked
      · next legal =>
        cases checked
        have named : IsDescription (String.ofList (trim text)) := by
          refine ⟨?_, by simpa using legal⟩
          simpa [← String.toList_eq_nil_iff] using some
        obtain ⟨before, after, split, early, late⟩ := exists_trim_eq text
        exact ⟨named, before, after, by rwa [String.toList_ofList], early, late⟩
      · cases checked
  · rintro ⟨⟨some, legal⟩, before, after, rfl, early, late⟩
    have kept := trim_surrounded early late fun c member => isBlank_of_isAttrChar (legal c member)
    have present : attr.toList.isEmpty = false := by
      simpa [String.toList_eq_nil_iff] using some
    rw [checkAttr, kept, present]
    simp [List.all_eq_true.mpr legal, String.ofList_toList]

theorem nonEmpty?_eq_none_iff {octets : Octets} : nonEmpty? octets = none ↔ octets = [] := by
  simp [nonEmpty?]

/-- No part of a pattern counts if all are empty. -/
theorem nothing_counts_iff (initial final : Octets) (middle : List Octets) :
    ((nonEmpty? initial).isNone && (middle.filter fun part => !part.isEmpty).isEmpty &&
      (nonEmpty? final).isNone) = true ↔ ∀ part ∈ initial :: (middle ++ [final]), part = [] := by
  simp [nonEmpty?_eq_none_iff, or_imp, forall_and, and_assoc]

theorem ofSegments?_pattern (attr : String) {initial final : Octets} {middle : List Octets}
    (some : ∃ part ∈ initial :: (middle ++ [final]), part ≠ []) :
    ofSegments? attr (initial :: (middle ++ [final])) = .some (.substrings attr (nonEmpty? initial)
      (middle.filter fun part => !part.isEmpty) (nonEmpty? final)) := by
  obtain ⟨part, member, filled⟩ := some
  have counts : ¬ _ = true := mt (nothing_counts_iff initial final middle).mp fun nothing =>
    filled (nothing part member)
  unfold ofSegments?
  split
  · next none => cases none
  · next single => simp at single
  · next pair =>
    -- Both parts are empty, but one of them is not.
    rw [pair] at member
    simp [filled] at member
  · next same =>
    cases same
    rw [List.dropLast_concat, List.getLast?_concat, Option.bind_some, if_neg counts]

theorem ofSegments?_cases {attr : String} {segments : List Octets} {filter : Filter}
    (meant : ofSegments? attr segments = some filter) :
    (∃ value, segments = [value] ∧ filter = .compare .equal attr value) ∨
      (segments = [[], []] ∧ filter = .present attr) ∨
      ∃ initial middle final, segments = initial :: (middle ++ [final]) ∧
        (∃ part ∈ initial :: (middle ++ [final]), part ≠ []) ∧
        filter = .substrings attr (nonEmpty? initial) (middle.filter fun part => !part.isEmpty)
            (nonEmpty? final) := by
  unfold ofSegments? at meant
  split at meant
  · cases meant
  · next value =>
    cases meant
    exact .inl ⟨value, rfl, rfl⟩
  · cases meant
    exact .inr (.inl ⟨rfl, rfl⟩)
  · next initial others single _ =>
    have some : others ≠ [] := fun none => single (by rw [none])
    obtain ⟨middle, final, rfl⟩ : ∃ middle final, others = middle ++ [final] :=
      ⟨_, _, (List.dropLast_concat_getLast some).symm⟩
    rw [List.dropLast_concat, List.getLast?_concat, Option.bind_some] at meant
    dsimp only at meant
    split at meant
    · cases meant
    · next counts =>
      cases meant
      have filled : ∃ part ∈ initial :: (middle ++ [final]), part ≠ [] := by
        by_contra none
        refine counts ((nothing_counts_iff initial final middle).mpr fun part member => ?_)
        by_contra filled
        exact none ⟨part, member, filled⟩
      exact .inr (.inr ⟨initial, middle, final, rfl, filled, rfl⟩)

theorem readOrdering_sound {comparison : Comparison} {attr : String} {text rest : List Char}
    {filter : Filter} (read : readOrdering comparison attr text = .ok (filter, rest)) :
    Closed rest ∧ ∃ taken value, text = '=' :: (taken ++ rest) ∧ Value True taken value ∧
      filter = .compare comparison attr value := by
  unfold readOrdering at read
  split at read
  · next text =>
    obtain ⟨⟨segments, after⟩, found, read⟩ := Attempt.bind_eq_ok_iff.mp read
    split at read
    · next value after same =>
      cases same
      cases read
      obtain ⟨closed, taken, rfl, joined⟩ := readSegments_sound found
      exact ⟨closed, taken, value, rfl, joined.single, rfl⟩
    · cases read
  · cases read

theorem readOperator_sound {attr : String} {text rest : List Char} {filter : Filter}
    (read : readOperator attr text = .ok (filter, rest)) :
    Closed rest ∧ ∃ taken, text = taken ++ rest ∧ Assertion True attr taken filter := by
  have ordering : ∀ {comparison : Comparison} {symbol : Char} {after : List Char},
      comparison.chars = [symbol, '='] → readOrdering comparison attr after = .ok (filter, rest) →
        Closed rest ∧ ∃ taken, symbol :: after = taken ++ rest ∧ Assertion True attr taken filter := by
    intro comparison symbol after written found
    obtain ⟨closed, taken, value, rfl, spelled, rfl⟩ := readOrdering_sound found
    refine ⟨closed, comparison.chars ++ taken, ?_, .compare comparison spelled⟩
    rw [written]
    rfl
  unfold readOperator at read
  split at read
  · obtain ⟨⟨segments, after⟩, found, read⟩ := Attempt.bind_eq_ok_iff.mp read
    dsimp only at read
    split at read
    · next other meant =>
      cases read
      obtain ⟨closed, taken, rfl, joined⟩ := readSegments_sound found
      refine ⟨closed, '=' :: taken, rfl, ?_⟩
      rcases ofSegments?_cases meant with ⟨value, rfl, rfl⟩ | ⟨rfl, rfl⟩ | ⟨_, _, _, rfl, some, rfl⟩
      · exact .compare .equal joined.single
      · rw [joined.bare_star]
        exact .present
      · exact .substrings joined some
    · cases read
  · exact ordering rfl read
  · exact ordering rfl read
  · exact ordering rfl read
  · cases read

theorem readOrdering_value {attr : String} (comparison : Comparison) {text rest : List Char}
    {value : Octets} (spelled : Value True text value) (closed : Closed rest) :
    readOrdering comparison attr ('=' :: (text ++ rest)) =
      .ok (.compare comparison attr value, rest) := by
  simp [readOrdering, readSegments_joined (.last spelled) closed, bind, Except.bind]

theorem readOperator_segments {attr : String} {text rest : List Char} {segments : List Octets}
    {filter : Filter} (joined : Joined True text segments) (meant : ofSegments? attr segments = some filter)
    (closed : Closed rest) : readOperator attr ('=' :: (text ++ rest)) = .ok (filter, rest) := by
  simp [readOperator, readSegments_joined joined closed, meant, bind, Except.bind]

theorem readOperator_complete {attr : String} {text rest : List Char} {filter : Filter}
    (asserted : Assertion True attr text filter) (closed : Closed rest) :
    readOperator attr (text ++ rest) = .ok (filter, rest) := by
  cases asserted with
  | compare comparison spelled =>
    cases comparison with
    | equal => exact readOperator_segments (.last spelled) rfl closed
    | greaterOrEqual => exact readOrdering_value .greaterOrEqual spelled closed
    | lessOrEqual => exact readOrdering_value .lessOrEqual spelled closed
    | approximate => exact readOrdering_value .approximate spelled closed
  | present => exact readOperator_segments (.more .nil (.last .nil)) rfl closed
  | substrings joined some => exact readOperator_segments joined (ofSegments?_pattern attr some) closed

theorem readItem_sound {text rest : List Char} {filter : Filter}
    (read : readItem text = .ok (filter, rest)) :
    Closed rest ∧ ∃ taken, text = taken ++ rest ∧ Single True taken filter := by
  unfold readItem at read
  dsimp only at read
  split at read
  · cases read
  · next attr checked =>
    obtain ⟨closed, taken, split, asserted⟩ := readOperator_sound read
    have whole := List.takeWhile_append_dropWhile (p := fun c => !isAttrEnd c) (l := text)
    rw [split, ← List.append_assoc] at whole
    exact ⟨closed, _, whole.symm, _, taken, attr, rfl, checkAttr_eq_ok_iff.mp checked, asserted⟩

theorem readItem_complete {text rest : List Char} {filter : Filter} (single : Single True text filter)
    (closed : Closed rest) : readItem (text ++ rest) = .ok (filter, rest) := by
  obtain ⟨name, text, attr, rfl, described, asserted⟩ := single
  have inside : ∀ c ∈ name, (!isAttrEnd c) = true := by
    intro c member
    rw [described.not_isAttrEnd member]
    rfl
  obtain ⟨c, others, start, ends⟩ := asserted.head
  have name_taken : (name ++ (text ++ rest)).takeWhile (fun c => !isAttrEnd c) = name := by
    rw [List.takeWhile_append_of_pos inside, start]
    simp [ends]
  have name_dropped : (name ++ (text ++ rest)).dropWhile (fun c => !isAttrEnd c) = text ++ rest := by
    rw [List.dropWhile_append_of_pos inside, start]
    simp [ends]
  rw [List.append_assoc, readItem, name_taken, name_dropped, checkAttr_eq_ok_iff.mpr described]
  exact readOperator_complete asserted closed

theorem readMany_sound {levels fuel : Nat} {text rest : List Char} {filters : List Filter}
    (each : ∀ {text rest filter}, readFilter levels text = .ok (filter, rest) →
      ∃ taken, text = taken ++ rest ∧ Spells True levels taken filter)
    (read : readMany (readFilter levels) fuel text = .ok (filters, rest)) :
    ∃ taken, text = taken ++ rest ∧ SpellsMany True levels taken filters := by
  induction fuel generalizing text filters with
  | zero =>
    cases read
    exact ⟨[], rfl, .nil⟩
  | succ fuel ih =>
    rw [readMany] at read
    split at read
    · obtain ⟨⟨filter, others⟩, first, read⟩ := Attempt.bind_eq_ok_iff.mp read
      obtain ⟨⟨later, last⟩, more, read⟩ := Attempt.bind_eq_ok_iff.mp read
      cases read
      obtain ⟨taken, rfl, spelled⟩ := each first
      obtain ⟨further, rfl, many⟩ := ih more
      exact ⟨taken ++ further, by rw [List.append_assoc], .cons spelled many⟩
    · cases read
      exact ⟨[], rfl, .nil⟩

theorem readMany_complete {levels fuel : Nat} {text rest : List Char} {filters : List Filter}
    (each : ∀ {taken rest filter}, Spells True levels taken filter →
      readFilter levels (taken ++ rest) = .ok (filter, rest))
    (enough : text.length ≤ fuel) (ended : rest.head? ≠ some '(')
    (spelled : SpellsMany True levels text filters) :
    readMany (readFilter levels) fuel (text ++ rest) = .ok (filters, rest) := by
  induction filters generalizing text fuel with
  | nil =>
    cases spelled
    cases fuel with
    | zero => rfl
    | succ fuel => rw [readMany, List.nil_append, if_neg ended]
  | cons filter filters ih =>
    cases spelled with
    | @cons _ first others _ _ one many =>
      obtain ⟨inner, rfl⟩ := one.exists_eq_cons
      cases fuel with
      | zero => simp at enough
      | succ fuel =>
        -- Each filter takes up its parenthesis at least, so that the fuel lasts.
        have shorter : others.length ≤ fuel := by
          simp only [List.length_append, List.length_cons] at enough
          omega
        rw [readMany, List.append_assoc, each one]
        simp [ih shorter many, bind, Except.bind, pure, Except.pure]

theorem readList_sound {levels : Nat} {text rest : List Char} {filters : List Filter}
    (each : ∀ {text rest filter}, readFilter levels text = .ok (filter, rest) →
      ∃ taken, text = taken ++ rest ∧ Spells True levels taken filter)
    (read : readList (readFilter levels) text = .ok (filters, rest)) :
    ∃ taken, text = taken ++ rest ∧ filters ≠ [] ∧ SpellsMany True levels taken filters := by
  obtain ⟨⟨found, left⟩, many, read⟩ := Attempt.bind_eq_ok_iff.mp read
  dsimp only at read
  split at read
  · cases read
  · next some =>
    cases read
    obtain ⟨taken, split, spelled⟩ := readMany_sound each many
    exact ⟨taken, split, by simpa using some, spelled⟩

theorem readList_complete {levels : Nat} {text rest : List Char} {filters : List Filter}
    (each : ∀ {taken rest filter}, Spells True levels taken filter →
      readFilter levels (taken ++ rest) = .ok (filter, rest))
    (ended : rest.head? ≠ some '(') (some : filters ≠ []) (spelled : SpellsMany True levels text filters) :
    readList (readFilter levels) (text ++ rest) = .ok (filters, rest) := by
  have enough : text.length ≤ (text ++ rest).length := by simp
  rw [readList, readMany_complete each enough ended spelled]
  simp [some, bind, Except.bind]

theorem closing_ok {filter inner : Filter} {rest after : List Char}
    (closed : closing (inner, rest) = .ok (filter, after)) : filter = inner ∧ rest = ')' :: after := by
  unfold closing at closed
  split at closed
  · next same =>
    cases same
    cases closed
    exact ⟨rfl, rfl⟩
  · cases closed

theorem readFilter_sound {levels : Nat} {text rest : List Char} {filter : Filter}
    (read : readFilter levels text = .ok (filter, rest)) :
    ∃ taken, text = taken ++ rest ∧ Spells True levels taken filter := by
  induction levels generalizing text rest filter with
  | zero =>
    rw [readFilter.eq_def] at read
    split at read <;> cases read
  | succ levels ih =>
    -- One parenthesis is opened here, and whatever is inside has one level less.
    rw [readFilter.eq_def] at read
    split at read
    · next levels' text =>
      dsimp only at read
      obtain ⟨⟨inner, after⟩, content, closed⟩ := Attempt.bind_eq_ok_iff.mp read
      obtain ⟨rfl, rfl⟩ := closing_ok closed
      split at content
      · next text =>
        obtain ⟨⟨filters, left⟩, found, same⟩ := Attempt.map_eq_ok_iff.mp content
        cases same
        obtain ⟨taken, rfl, some, many⟩ := readList_sound ih found
        exact ⟨_, by simp, .all some many⟩
      · next text =>
        obtain ⟨⟨filters, left⟩, found, same⟩ := Attempt.map_eq_ok_iff.mp content
        cases same
        obtain ⟨taken, rfl, some, many⟩ := readList_sound ih found
        exact ⟨_, by simp, .any some many⟩
      · next text =>
        obtain ⟨⟨one, left⟩, found, same⟩ := Attempt.map_eq_ok_iff.mp content
        cases same
        obtain ⟨taken, rfl, spelled⟩ := ih found
        exact ⟨_, by simp, .not spelled⟩
      · cases content
      · obtain ⟨_, taken, rfl, single⟩ := readItem_sound content
        exact ⟨_, by simp, .single single⟩
    · cases read

theorem readFilter_item {levels : Nat} {c : Char} {rest : List Char}
    (plain : c ≠ '&' ∧ c ≠ '|' ∧ c ≠ '!') :
    readFilter (levels + 1) ('(' :: c :: rest) = readItem (c :: rest) >>= closing := by
  obtain ⟨notAll, notAny, notNot⟩ := plain
  rw [readFilter.eq_def]
  split
  · next same =>
    cases same
    dsimp only
    split <;> simp_all
  · next other => exact absurd rfl (other _)

theorem readFilter_complete {levels : Nat} {text rest : List Char} {filter : Filter}
    (spelled : Spells True levels text filter) :
    readFilter levels (text ++ rest) = .ok (filter, rest) := by
  induction levels generalizing text rest filter with
  | zero => cases spelled
  | succ levels ih =>
    have ended : ∀ after : List Char, (')' :: after).head? ≠ some '(' := by simp
    have closed : ∀ after, Closed (')' :: after) := by simp [Closed]
    cases spelled with
    | all some many =>
      simp [readFilter, readList_complete ih (ended rest) some many, Except.map, bind, Except.bind, closing]
    | any some many =>
      simp [readFilter, readList_complete ih (ended rest) some many, Except.map, bind, Except.bind, closing]
    | not one =>
      simp [readFilter, ih one, Except.map, bind, Except.bind, closing]
    | single single =>
      have inner := readItem_complete single (closed rest)
      obtain ⟨c, others, rfl, _, plain⟩ := single.exists_eq_cons
      rw [List.cons_append] at inner
      simp [readFilter_item plain, inner, bind, Except.bind, closing]

/-- Nothing is left behind a filter that is the whole text. -/
theorem finished_ok {read : Except Stop (Filter × List Char)} {filter : Filter}
    (finished : (read >>= fun (found, rest) =>
      if rest.isEmpty then .ok found else .error ⟨.trailing, rest⟩) = .ok filter) :
    read = .ok (filter, []) := by
  obtain ⟨⟨found, rest⟩, same, done⟩ := Attempt.bind_eq_ok_iff.mp finished
  cases rest with
  | nil =>
    cases done
    exact same
  | cons => cases done

theorem ofChars_eq_ok_iff {text : List Char} {filter : Filter} :
    ofChars text = .ok filter ↔ Denotes True text filter := by
  constructor
  · intro read
    rw [ofChars] at read
    split at read
    · obtain ⟨taken, rfl, spelled⟩ := readFilter_sound (finished_ok read)
      exact .inl (by rwa [List.append_nil])
    · obtain ⟨_, taken, rfl, single⟩ := readItem_sound (finished_ok read)
      exact .inr (by rwa [List.append_nil])
  · rintro (spelled | single)
    · have read : readFilter maxDepth (text ++ []) = .ok (filter, []) := readFilter_complete spelled
      obtain ⟨rest, rfl⟩ := spelled.exists_eq_cons
      rw [List.append_nil] at read
      simp [ofChars, read, bind, Except.bind]
    · have read : readItem (text ++ []) = .ok (filter, []) := readItem_complete single nofun
      obtain ⟨c, rest, rfl, bare, _⟩ := single.exists_eq_cons
      rw [List.append_nil] at read
      simp [ofChars, read, bare, bind, Except.bind]

/-- The filter that a text means, without the white space around it. -/
theorem parse_eq_ok_iff {text : String} {filter : Filter} :
    parse text = .ok filter ↔ Denotes True (trim text.toList) filter := by
  rw [← ofChars_eq_ok_iff, parse]
  split
  · next nothing =>
    have none : ofChars (trim text.toList) ≠ .ok filter := by
      intro read
      exact (ofChars_eq_ok_iff.mp read).ne_nil (List.isEmpty_iff.mp nothing)
    simp [none]
  · cases ofChars (trim text.toList) <;> simp [Except.mapError]

/-- A text is read as a filter exactly if the grammar gives it that meaning. Of the grammar without signs
that is true of the texts in which no plus sign stands behind a backslash, and it has no others. -/
theorem parse_iff_denotes (text : String) (filter : Filter) :
    (parse text = .ok filter ↔ Denotes True (trim text.toList) filter) ∧
      (Denotes False (trim text.toList) filter ↔
        parse text = .ok filter ∧ hasSign (trim text.toList) = false) := by
  refine ⟨parse_eq_ok_iff, ?_⟩
  rw [parse_eq_ok_iff]
  exact denotes_documented_iff

/-- A plus sign behind a backslash is read, although the documented grammar has no meaning for it. -/
theorem parse_signed : parse "(cn=\\+f)" = .ok (.compare .equal "cn" [15]) ∧
    ∀ filter, ¬ Denotes False (trim "(cn=\\+f)".toList) filter := by
  refine ⟨by decide +kernel, fun filter documented => ?_⟩
  have unsigned := (denotes_documented_iff.mp documented).2
  exact absurd unsigned (by decide +kernel)

end Directory.Filter
