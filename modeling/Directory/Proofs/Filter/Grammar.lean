import Directory.Filter.Printer
import Directory.Filter.Reader
import Directory.Proofs.Text.Blank
/-!
The grammar of filters. A text is read as a filter exactly when the grammar gives the text that meaning. The
documented grammar has two hexadecimal digits behind a backslash; what is read may have a plus sign in place
of the first digit, and there is no other difference.
-/
namespace Directory.Filter

/-- What may stand behind a backslash, and the octet that it stands for. Where `signs` holds, a plus sign
may take the place of a leading zero. -/
inductive Escape (signs : Prop) : List Char → UInt8 → Prop where
  | named {c : Char} : isEscapable c = true → Escape signs [c] (UInt8.ofNat c.toNat)
  | digits {high low : Char} {octet : UInt8} :
      Hex.octet? high low = some octet → Escape signs [high, low] octet
  | signed {low : Char} {n : Nat} :
      signs → Hex.digit? low = some n → Escape signs ['+', low] (UInt8.ofNat n)

inductive Value (signs : Prop) : List Char → Octets → Prop where
  | nil : Value signs [] []
  | bare {c : Char} {text : List Char} {value : Octets} :
      isEscapable c = false → Value signs text value →
        Value signs (c :: text) (String.utf8EncodeChar c ++ value)
  | escaped {escape text : List Char} {octet : UInt8} {value : Octets} :
      Escape signs escape octet → Value signs text value →
        Value signs ('\\' :: (escape ++ text)) (octet :: value)

def IsDescription (attr : String) : Prop := attr ≠ "" ∧ ∀ c ∈ attr.toList, isAttrChar c = true

def Described (text : List Char) (attr : String) : Prop :=
  IsDescription attr ∧ ∃ before after, text = before ++ attr.toList ++ after ∧ Blank before ∧ Blank after

inductive Joined (signs : Prop) : List Char → List Octets → Prop where
  | last {text : List Char} {value : Octets} : Value signs text value → Joined signs text [value]
  | more {text rest : List Char} {value : Octets} {values : List Octets} :
      Value signs text value → Joined signs rest values →
        Joined signs (text ++ '*' :: rest) (value :: values)

/-- An operator with the value or the pattern behind it. Of a pattern the empty parts do not count, but one
part at least is not empty. -/
inductive Assertion (signs : Prop) (attr : String) : List Char → Filter → Prop where
  | compare (comparison : Comparison) {text : List Char} {value : Octets} :
      Value signs text value →
        Assertion signs attr (comparison.chars ++ text) (.compare comparison attr value)
  | present : Assertion signs attr ['=', '*'] (.present attr)
  | substrings {text : List Char} {initial final : Octets} {middle : List Octets} :
      Joined signs text (initial :: (middle ++ [final])) →
        (∃ part ∈ initial :: (middle ++ [final]), part ≠ []) →
        Assertion signs attr ('=' :: text) (.substrings attr (nonEmpty? initial)
          (middle.filter fun part => !part.isEmpty) (nonEmpty? final))

def Single (signs : Prop) (text : List Char) (filter : Filter) : Prop :=
  ∃ name rest attr, text = name ++ rest ∧ Described name attr ∧ Assertion signs attr rest filter

mutual
inductive Spells (signs : Prop) : Nat → List Char → Filter → Prop where
  | all {levels : Nat} {text : List Char} {filters : List Filter} :
      filters ≠ [] → SpellsMany signs levels text filters →
        Spells signs (levels + 1) ('(' :: '&' :: (text ++ [')'])) (.all filters)
  | any {levels : Nat} {text : List Char} {filters : List Filter} :
      filters ≠ [] → SpellsMany signs levels text filters →
        Spells signs (levels + 1) ('(' :: '|' :: (text ++ [')'])) (.any filters)
  | not {levels : Nat} {text : List Char} {filter : Filter} :
      Spells signs levels text filter →
        Spells signs (levels + 1) ('(' :: '!' :: (text ++ [')'])) (.not filter)
  | single {levels : Nat} {text : List Char} {filter : Filter} :
      Single signs text filter → Spells signs (levels + 1) ('(' :: (text ++ [')'])) filter
inductive SpellsMany (signs : Prop) : Nat → List Char → List Filter → Prop where
  | nil {levels : Nat} : SpellsMany signs levels [] []
  | cons {levels : Nat} {text rest : List Char} {filter : Filter} {filters : List Filter} :
      Spells signs levels text filter → SpellsMany signs levels rest filters →
        SpellsMany signs levels (text ++ rest) (filter :: filters)
end

def Denotes (signs : Prop) (text : List Char) (filter : Filter) : Prop :=
  Spells signs maxDepth text filter ∨ Single signs text filter

theorem isEscapable_iff {c : Char} : isEscapable c = true ↔ c = '*' ∨ c = '(' ∨ c = ')' ∨ c = '\\' := by
  simp only [isEscapable, Bool.or_eq_true, decide_eq_true_eq, or_assoc]

theorem not_isEscapable_of_digit? {c : Char} {n : Nat} (digit : Hex.digit? c = some n) :
    isEscapable c = false ∧ c ≠ '+' := by
  constructor
  · refine Bool.eq_false_iff.mpr fun escapable => ?_
    rcases isEscapable_iff.mp escapable with rfl | rfl | rfl | rfl <;> cases digit
  · rintro rfl
    cases digit

theorem isBlank_of_isAttrChar {c : Char} (h : isAttrChar c = true) : isBlank c = false := by
  simp only [isAttrChar, Bool.or_eq_true, decide_eq_true_eq] at h
  rcases h with ((letter | rfl) | rfl) | rfl
  · exact not_isBlank_of_isAlphanum letter
  · rfl
  · rfl
  · rfl

/-- What stands before the first value belongs to it. -/
theorem Joined.prepend {signs : Prop} {text : List Char} {values : List Octets} (front : List Char)
    (octets : Octets)
    (grow : ∀ {text value}, Value signs text value → Value signs (front ++ text) (octets ++ value))
    (joined : Joined signs text values) :
    Joined signs (front ++ text) (Filter.prepend octets values) := by
  cases joined with
  | last value => exact .last (grow value)
  | more value rest =>
    rw [← List.append_assoc]
    exact .more (grow value) rest

theorem Joined.bare {signs : Prop} {c : Char} {text : List Char} {values : List Octets}
    (plain : isEscapable c = false) (joined : Joined signs text values) :
    Joined signs (c :: text) (Filter.prepend (String.utf8EncodeChar c) values) :=
  Joined.prepend [c] (String.utf8EncodeChar c) (.bare plain) joined

theorem Joined.escaped {signs : Prop} {escape text : List Char} {octet : UInt8} {values : List Octets}
    (spelled : Escape signs escape octet) (joined : Joined signs text values) :
    Joined signs ('\\' :: (escape ++ text)) (Filter.prepend [octet] values) :=
  Joined.prepend ('\\' :: escape) [octet] (.escaped spelled) joined

theorem Value.eq_nil {signs : Prop} {text : List Char} (spelled : Value signs text []) : text = [] := by
  generalize none : ([] : Octets) = value at spelled
  cases spelled with
  | nil => rfl
  | @bare c text value _ _ =>
    have empty := (List.append_eq_nil_iff.mp none.symm).1
    have length := String.length_utf8EncodeChar c
    rw [empty] at length
    exact absurd length (Nat.ne_of_lt c.utf8Size_pos)
  | escaped => cases none

theorem Joined.single {signs : Prop} {text : List Char} {value : Octets}
    (joined : Joined signs text [value]) : Value signs text value := by
  cases joined with
  | last spelled => exact spelled
  | more _ rest => cases rest

theorem Joined.bare_star {signs : Prop} {text : List Char} (joined : Joined signs text [[], []]) :
    text = ['*'] := by
  cases joined with
  | more first rest =>
    rw [first.eq_nil, rest.single.eq_nil]
    rfl

theorem Described.mem {name : List Char} {attr : String} (described : Described name attr) {c : Char}
    (member : c ∈ name) : isBlank c = true ∨ isAttrChar c = true := by
  obtain ⟨⟨_, legal⟩, before, after, rfl, early, late⟩ := described
  simp only [List.mem_append] at member
  rcases member with (front | inside) | back
  · exact .inl (early c front)
  · exact .inr (legal c inside)
  · exact .inl (late c back)

theorem Described.ne_nil {name : List Char} {attr : String} (described : Described name attr) :
    name ≠ [] := by
  obtain ⟨⟨some, _⟩, before, after, rfl, _, _⟩ := described
  intro nothing
  simp only [List.append_eq_nil_iff, String.toList_eq_nil_iff] at nothing
  exact some nothing.1.2

theorem not_isBlank_of_isAttrEnd {c : Char} (ends : isAttrEnd c = true) :
    isBlank c = false ∧ isAttrChar c = false := by
  simp only [isAttrEnd, Bool.or_eq_true, decide_eq_true_eq, or_assoc] at ends
  rcases ends with rfl | rfl | rfl | rfl | rfl | rfl <;> decide

theorem Described.not_isAttrEnd {name : List Char} {attr : String} (described : Described name attr)
    {c : Char} (member : c ∈ name) : isAttrEnd c = false := by
  refine Bool.eq_false_iff.mpr fun ends => ?_
  obtain ⟨solid, foreign⟩ := not_isBlank_of_isAttrEnd ends
  rcases described.mem member with blank | legal
  · exact Bool.false_ne_true (solid ▸ blank)
  · exact Bool.false_ne_true (foreign ▸ legal)

theorem Assertion.head {signs : Prop} {attr : String} {text : List Char} {filter : Filter}
    (asserted : Assertion signs attr text filter) : ∃ c rest, text = c :: rest ∧ isAttrEnd c = true := by
  cases asserted with
  | compare comparison => cases comparison <;> exact ⟨_, _, rfl, rfl⟩
  | present => exact ⟨_, _, rfl, rfl⟩
  | substrings => exact ⟨_, _, rfl, rfl⟩

theorem Spells.exists_eq_cons {signs : Prop} {levels : Nat} {text : List Char} {filter : Filter}
    (spelled : Spells signs levels text filter) : ∃ rest, text = '(' :: rest := by
  cases spelled <;> exact ⟨_, rfl⟩

/-- An assertion begins with none of the signs that begin something else. -/
theorem Single.exists_eq_cons {signs : Prop} {text : List Char} {filter : Filter}
    (single : Single signs text filter) :
    ∃ c rest, text = c :: rest ∧ c ≠ '(' ∧ c ≠ '&' ∧ c ≠ '|' ∧ c ≠ '!' := by
  obtain ⟨name, others, attr, rfl, described, _⟩ := single
  obtain ⟨c, rest, rfl⟩ := List.exists_cons_of_ne_nil described.ne_nil
  have kind := described.mem (List.mem_cons_self)
  refine ⟨c, rest ++ others, rfl, ?_, ?_, ?_, ?_⟩ <;>
  · rintro rfl
    revert kind
    decide

theorem Denotes.ne_nil {signs : Prop} {text : List Char} {filter : Filter}
    (denoted : Denotes signs text filter) : text ≠ [] := by
  rintro rfl
  rcases denoted with spelled | single
  · obtain ⟨_, same⟩ := spelled.exists_eq_cons
    cases same
  · obtain ⟨_, _, same, _⟩ := single.exists_eq_cons
    cases same

def hasSign : List Char → Bool
  | '\\' :: c :: rest => c = '+' || hasSign rest
  | _ :: rest => hasSign rest
  | [] => false

theorem hasSign_cons {c : Char} (plain : c ≠ '\\') (rest : List Char) :
    hasSign (c :: rest) = hasSign rest := by
  rw [hasSign.eq_def]
  split <;> simp_all

theorem hasSign_append_of_plain {text : List Char} (plain : '\\' ∉ text) (tail : List Char) :
    hasSign (text ++ tail) = hasSign tail := by
  induction text with
  | nil => rfl
  | cons c rest ih =>
    have first : c ≠ '\\' := fun same => plain (same ▸ List.mem_cons_self)
    have others : '\\' ∉ rest := fun member => plain (List.mem_cons_of_mem c member)
    rw [List.cons_append, hasSign_cons first, ih others]

/-- What there is to know of the signs in a piece of text: no escape is left open at its end, a sign stands
in it only where signs are allowed, and without one it has its form whether they are allowed or not. -/
structure Scans (signs : Prop) (text : List Char) (form : Prop → Prop) : Prop where
  whole : ∀ tail, hasSign (text ++ tail) = (hasSign text || hasSign tail)
  allowed : hasSign text = true → signs
  kept : hasSign text = false → ∀ other, form other

section
variable {signs : Prop} {form next both : Prop → Prop}

theorem scans_plain {text : List Char} (plain : '\\' ∉ text) (formed : ∀ other, form other) :
    Scans signs text form := by
  have unsigned : hasSign text = false := by simpa [hasSign] using hasSign_append_of_plain plain []
  refine ⟨fun tail => ?_, fun sign => ?_, fun _ => formed⟩
  · rw [hasSign_append_of_plain plain, unsigned, Bool.false_or]
  · exact absurd sign (by simp [unsigned])

theorem Scans.imp {text : List Char} (scanned : Scans signs text form)
    (build : ∀ {other}, form other → both other) : Scans signs text both :=
  ⟨scanned.whole, scanned.allowed, fun unsigned other => build (scanned.kept unsigned other)⟩

theorem Scans.append {front back : List Char} (first : Scans signs front form)
    (second : Scans signs back next) (join : ∀ {other}, form other → next other → both other) :
    Scans signs (front ++ back) both := by
  refine ⟨fun tail => ?_, fun sign => ?_, fun unsigned other => ?_⟩
  · rw [List.append_assoc, first.whole, second.whole, first.whole, Bool.or_assoc]
  · rw [first.whole, Bool.or_eq_true] at sign
    exact sign.elim first.allowed second.allowed
  · rw [first.whole, Bool.or_eq_false_iff] at unsigned
    exact join (first.kept unsigned.1 other) (second.kept unsigned.2 other)

/-- Names, operators and parentheses are no escapes. -/
theorem Scans.behind {text : List Char} (scanned : Scans signs text form) {front : List Char}
    (plain : '\\' ∉ front) (build : ∀ {other}, form other → both other) :
    Scans signs (front ++ text) both := by
  have nothing : Scans signs front fun _ => True := scans_plain plain fun _ => trivial
  exact nothing.append scanned fun _ formed => build formed

theorem Scans.closed {text : List Char} (scanned : Scans signs text form) :
    Scans signs (text ++ [')']) form := by
  have closing : Scans signs [')'] fun _ => True := scans_plain (by decide) fun _ => trivial
  exact scanned.append closing fun formed _ => formed

theorem Escape.scans {escape : List Char} {octet : UInt8} (spelled : Escape signs escape octet) :
    Scans signs ('\\' :: escape) fun other => Escape other escape octet := by
  cases spelled with
  | @named c escapable =>
    have unsigned : c ≠ '+' := by
      rintro rfl
      cases escapable
    exact ⟨fun tail => by simp [hasSign, unsigned], fun sign => by simp [hasSign, unsigned] at sign,
      fun _ _ => .named escapable⟩
  | @digits high low octet read =>
    obtain ⟨n, m, first, second⟩ := Hex.exists_digits_of_octet? read
    have unsigned := (not_isEscapable_of_digit? first).2
    have notEscape : low ≠ '\\' := by
      rintro rfl
      cases second
    exact ⟨fun tail => by simp [hasSign, unsigned, hasSign_cons notEscape],
      fun sign => by simp [hasSign, unsigned, hasSign_cons notEscape] at sign, fun _ _ => .digits read⟩
  | signed allowed digit =>
    exact ⟨fun tail => by simp [hasSign], fun _ => allowed, fun unsigned => by simp [hasSign] at unsigned⟩

theorem Value.scans {text : List Char} {value : Octets} (spelled : Value signs text value) :
    Scans signs text fun other => Value other text value := by
  induction spelled with
  | nil => exact scans_plain nofun fun _ => .nil
  | @bare c _ _ plain _ ih =>
    have notEscape : '\\' ∉ [c] := by
      intro member
      obtain rfl := List.mem_singleton.mp member
      cases plain
    exact ih.behind notEscape (.bare plain)
  | escaped spelled _ ih => exact spelled.scans.append ih .escaped

theorem Joined.scans {text : List Char} {values : List Octets} (joined : Joined signs text values) :
    Scans signs text fun other => Joined other text values := by
  induction joined with
  | last value => exact value.scans.imp .last
  | @more _ rest _ values spelled _ ih =>
    have star : Scans signs (['*'] ++ rest) fun other => Joined other rest values :=
      ih.behind (by decide) fun joined => joined
    exact spelled.scans.append star .more

theorem Assertion.scans {attr : String} {text : List Char} {filter : Filter}
    (asserted : Assertion signs attr text filter) :
    Scans signs text fun other => Assertion other attr text filter := by
  cases asserted with
  | compare comparison value =>
    have plain : '\\' ∉ comparison.chars := by cases comparison <;> decide
    exact value.scans.behind plain (.compare comparison)
  | present => exact scans_plain (by decide) fun _ => .present
  | @substrings text _ _ _ joined some =>
    have equals : '\\' ∉ ['='] := by decide
    exact joined.scans.behind equals fun joined => .substrings joined some

theorem Described.plain {name : List Char} {attr : String} (described : Described name attr) :
    '\\' ∉ name := by
  intro member
  rcases described.mem member with blank | legal
  · exact absurd blank (by decide)
  · exact absurd legal (by decide)

theorem Single.scans {text : List Char} {filter : Filter} (single : Single signs text filter) :
    Scans signs text fun other => Single other text filter := by
  obtain ⟨name, rest, attr, rfl, described, asserted⟩ := single
  exact asserted.scans.behind described.plain fun asserted =>
    ⟨name, rest, attr, rfl, described, asserted⟩

mutual
theorem Spells.scans {levels : Nat} {text : List Char} {filter : Filter}
    (spelled : Spells signs levels text filter) :
    Scans signs text fun other => Spells other levels text filter := by
  cases spelled with
  | all some many =>
    have front : '\\' ∉ ['(', '&'] := by decide
    exact many.scans.closed.behind front (.all some)
  | any some many =>
    have front : '\\' ∉ ['(', '|'] := by decide
    exact many.scans.closed.behind front (.any some)
  | not one =>
    have front : '\\' ∉ ['(', '!'] := by decide
    exact one.scans.closed.behind front .not
  | single single =>
    have front : '\\' ∉ ['('] := by decide
    exact single.scans.closed.behind front .single
theorem SpellsMany.scans {levels : Nat} {text : List Char} {filters : List Filter}
    (spelled : SpellsMany signs levels text filters) :
    Scans signs text fun other => SpellsMany other levels text filters := by
  cases spelled with
  | nil => exact scans_plain nofun fun _ => .nil
  | cons one many => exact one.scans.append many.scans .cons
end

theorem Denotes.scans {text : List Char} {filter : Filter} (denoted : Denotes signs text filter) :
    Scans signs text fun other => Denotes other text filter := by
  rcases denoted with spelled | single
  · exact spelled.scans.imp .inl
  · exact single.scans.imp .inr

end

/-- The documented grammar is the one that is read, but for the signs. -/
theorem denotes_documented_iff {text : List Char} {filter : Filter} :
    Denotes False text filter ↔ Denotes True text filter ∧ hasSign text = false := by
  constructor
  · intro documented
    have unsigned : hasSign text = false := Bool.eq_false_iff.mpr documented.scans.allowed
    exact ⟨documented.scans.kept unsigned True, unsigned⟩
  · rintro ⟨denoted, unsigned⟩
    exact denoted.scans.kept unsigned False

end Directory.Filter
