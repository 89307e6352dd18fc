import Directory.Proofs.Dn.Accepted
import Directory.Proofs.Dn.Margins
/-!
The grammar of names. A text is read as a name exactly when the grammar gives it that meaning. What may stand
around an attribute is a parameter of the grammar: the reader lets white space pass there, which is the space
alone in a text that has no other.
-/
namespace Directory.Dn

inductive Escape : List Char → UInt8 → Prop where
  | digits {high low : Char} {octet : UInt8} :
      Hex.octet? high low = some octet → Escape ['\\', high, low] octet
  | named {c : Char} : c ∈ [',', '+', '"', '\\', '<', '>', ';', '=', ' ', '#'] →
      Escape ['\\', c] (UInt8.ofNat c.toNat)

inductive Value : List Char → List Piece → Prop where
  | nil : Value [] []
  | bare {c : Char} {text : List Char} {pieces : List Piece} :
      c ≠ ',' ∧ c ≠ '+' ∧ c ≠ '\\' → Value text pieces → Value (c :: text) (.bare c :: pieces)
  | escaped {escape text : List Char} {octet : UInt8} {pieces : List Piece} :
      Escape escape octet → Value text pieces → Value (escape ++ text) (.escaped octet :: pieces)

/-- The value that pieces hold. Bare spaces at the ends do not count, and the octets of all the others are
the UTF-8 form of the value. -/
def Holds (pieces : List Piece) (value : String) : Prop :=
  ∃ before core after, pieces = before ++ core ++ after ∧ (∀ piece ∈ before ++ after, piece = .bare ' ') ∧
    Tight core ∧ core.flatMap Piece.octets = Octets.ofText value

def Component (gap : Char → Bool) (text : List Char) (ava : Ava) : Prop :=
  ava.WellFormed ∧ ∃ before after value pieces, text = before ++ ava.attr.toList ++ after ++ '=' :: value ∧
    (∀ c ∈ before ++ after, gap c = true) ∧ Value value pieces ∧ Holds pieces ava.value

inductive Level (gap : Char → Bool) : List Char → Rdn → Prop where
  | last {text : List Char} {ava : Ava} : Component gap text ava → Level gap text [ava]
  | more {text rest : List Char} {ava : Ava} {rdn : Rdn} :
      Component gap text ava → Level gap rest rdn → Level gap (text ++ '+' :: rest) (ava :: rdn)

inductive Levels (gap : Char → Bool) : List Char → List Rdn → Prop where
  | last {text : List Char} {rdn : Rdn} : Level gap text rdn → Levels gap text [rdn]
  | more {text rest : List Char} {rdn : Rdn} {rdns : List Rdn} :
      Level gap text rdn → Levels gap rest rdns → Levels gap (text ++ ',' :: rest) (rdn :: rdns)

/-- Nothing but gaps is the root; any other name has at least one level. -/
def Denotes (gap : Char → Bool) (text : List Char) (name : Dn) : Prop :=
  (∀ c ∈ text, gap c = true) ∧ name = root ∨ Levels gap text name.rdns

theorem Escape.readPieces_eq {escape : List Char} {octet : UInt8} (escapes : Escape escape octet)
    (rest : List Char) : readPieces (escape ++ rest) = (readPieces rest).map (consPiece (.escaped octet)) := by
  cases escapes with
  | digits read => exact readPieces_octet rest read
  | @named c member =>
    have named : (isSpecial c || c = ' ' || c = '#') = true := by
      simpa [isSpecial, or_assoc] using member
    exact readPieces_special rest (escapable named).1 named

theorem Value.readPieces_eq {text tail : List Char} {pieces : List Piece}
    {ending : Option (Separator × List Char)} (value : Value text pieces) (ends : Ends tail ending) :
    readPieces (text ++ tail) = .ok (pieces, ending) := by
  induction value with
  | nil => exact ends.readPieces_eq
  | bare plain _ ih =>
    rw [List.cons_append, readPieces_bare _ plain, ih]
    rfl
  | escaped escapes _ ih =>
    rw [List.append_assoc, escapes.readPieces_eq, ih]
    rfl

/-- What is read as the pieces of a value is the text of a value, up to a separator or the end. -/
theorem value_of_readPieces {text : List Char} {pieces : List Piece}
    {ending : Option (Separator × List Char)} (read : readPieces text = .ok (pieces, ending)) :
    ∃ value tail, text = value ++ tail ∧ Value value pieces ∧ Ends tail ending := by
  fun_induction readPieces text generalizing pieces with
  | case1 =>
    cases read
    exact ⟨[], [], rfl, .nil, .nothing⟩
  | case2 rest =>
    cases read
    exact ⟨[], _, rfl, .nil, .level rest⟩
  | case3 rest =>
    cases read
    exact ⟨[], _, rfl, .nil, .sibling rest⟩
  | case4 | case5 | case6 | case9 => cases read
  | case7 high _ low rest octet digits ih =>
    obtain ⟨others, found, rfl⟩ := map_consPiece read
    obtain ⟨value, tail, rfl, spelled, ends⟩ := ih found
    exact ⟨_, tail, rfl, .escaped (.digits digits) spelled, ends⟩
  | case8 c rest notDigit named ih =>
    obtain ⟨others, found, rfl⟩ := map_consPiece read
    obtain ⟨value, tail, rfl, spelled, ends⟩ := ih found
    have member : c ∈ [',', '+', '"', '\\', '<', '>', ';', '=', ' ', '#'] := by
      simpa [isSpecial, or_assoc] using named
    exact ⟨_, tail, rfl, .escaped (.named member) spelled, ends⟩
  | case10 c rest notComma notPlus alone followed ih =>
    obtain ⟨others, found, rfl⟩ := map_consPiece read
    obtain ⟨value, tail, rfl, spelled, ends⟩ := ih found
    have notEscape : c ≠ '\\' := by
      rintro rfl
      cases hidden : value ++ tail with
      | nil => exact alone rfl hidden
      | cons d rest => exact followed d rest rfl hidden
    exact ⟨_, tail, rfl, .bare ⟨notComma, notPlus, notEscape⟩ spelled, ends⟩

theorem isLoose_iff {piece : Piece} : piece.isLoose = true ↔ piece = .bare ' ' := by
  cases piece <;> simp [Piece.isLoose]

/-- The value that is taken for the pieces is the one that they hold. -/
theorem checkValue_eq_ok_iff_holds {pieces : List Piece} {value : String} :
    checkValue pieces = .ok value ↔ Holds pieces value := by
  rw [checkValue_eq_ok_iff]
  constructor
  · intro octets
    obtain ⟨before, after, split, spaces⟩ := exists_trimPieces pieces
    refine ⟨before.map .bare, _, after.map .bare, split, ?_, tight_trimPieces pieces, octets⟩
    rw [← List.map_append]
    intro piece member
    obtain ⟨c, inside, rfl⟩ := List.mem_map.mp member
    rw [spaces c inside]
  · rintro ⟨before, core, after, rfl, spaces, tight, octets⟩
    obtain ⟨front, rfl, early⟩ := exists_loose fun piece member =>
      isLoose_iff.mpr (spaces piece (List.mem_append_left after member))
    obtain ⟨back, rfl, late⟩ := exists_loose fun piece member =>
      isLoose_iff.mpr (spaces piece (List.mem_append_right _ member))
    obtain ⟨first, last, trimmed, _, nothing⟩ := trimPieces_margins tight front back
    obtain ⟨rfl, rfl⟩ := List.append_eq_nil_iff.mp
      (nothing.mpr fun c member => (List.mem_append.mp member).elim (early c) (late c))
    rw [trimmed, List.map_nil, List.nil_append, List.append_nil, octets]

/-- The text in front of the first `=`. -/
theorem split_of_readAttr {text attr after : List Char} (read : readAttr text = .ok (attr, after)) :
    text = attr ++ '=' :: after := by
  induction text generalizing attr with
  | nil => cases read
  | cons c text ih =>
    rw [readAttr] at read
    split at read
    · next equals =>
      cases read
      rw [equals, List.nil_append]
    · split at read
      · cases read
      · obtain ⟨⟨others, left⟩, found, same⟩ := Attempt.map_eq_ok_iff.mp read
        cases same
        rw [ih found, List.cons_append]

/-- What is left of the text of an attribute, and what was around it. -/
theorem split_of_checkAttr {text : List Char} {attr : String} (checked : checkAttr text = .ok attr) :
    ∃ before after, text = before ++ attr.toList ++ after ∧ ∀ c ∈ before ++ after, isBlank c = true := by
  obtain ⟨before, after, split, early, late⟩ := exists_trim_eq text
  have same : attr = String.ofList (trim text) := by
    unfold checkAttr at checked
    dsimp only at checked
    split at checked
    · cases checked
    · split at checked <;> cases checked
      rfl
  refine ⟨before, after, ?_, early.append late⟩
  rw [same, String.toList_ofList]
  exact split

theorem checkAttr_surrounded {ava : Ava} (legal : ava.WellFormed) {before after : List Char}
    (gaps : ∀ c ∈ before ++ after, isBlank c = true) :
    checkAttr (before ++ ava.attr.toList ++ after) = .ok ava.attr := by
  have early : Blank before := fun c member => gaps c (List.mem_append_left after member)
  have late : Blank after := fun c member => gaps c (List.mem_append_right before member)
  have checked := checkAttr_toList legal.1 legal.2
  rw [checkAttr, trim_append_right late, trim_append_left early]
  exact checked

/-- One assertion is read exactly where one is written, up to a separator or the end. -/
theorem readAva_eq_ok_iff {text : List Char} {ava : Ava} {ending : Option (Separator × List Char)} :
    readAva text = .ok (ava, ending) ↔
      ∃ own tail, text = own ++ tail ∧ Component isBlank own ava ∧ Ends tail ending := by
  constructor
  · intro read
    have legal := wellFormed_of_readAva read
    obtain ⟨⟨name, after⟩, named, read⟩ := Attempt.bind_eq_ok_iff.mp read
    obtain ⟨attr, checked, read⟩ := Attempt.bind_eq_ok_iff.mp read
    obtain ⟨⟨pieces, left⟩, pieced, read⟩ := Attempt.bind_eq_ok_iff.mp read
    obtain ⟨content, valued, read⟩ := Attempt.bind_eq_ok_iff.mp read
    cases read
    obtain ⟨front, back, rfl, gaps⟩ := split_of_checkAttr checked
    obtain ⟨value, tail, rfl, spelled, ends⟩ := value_of_readPieces pieced
    refine ⟨_, tail, ?_, ⟨legal, front, back, value, pieces, rfl, gaps, spelled, ?_⟩, ends⟩
    · rw [split_of_readAttr named]
      simp
    · exact checkValue_eq_ok_iff_holds.mp valued
  · rintro ⟨_, tail, rfl, ⟨legal, front, back, value, pieces, rfl, gaps, spelled, holds⟩, ends⟩
    have plain : ∀ c ∈ front ++ ava.attr.toList ++ back, c ≠ '=' ∧ c ≠ ',' ∧ c ≠ '+' := by
      intro c member
      simp only [List.mem_append] at member gaps
      rcases member with (outer | inner) | outer
      · obtain ⟨notEquals, notComma, notPlus, _⟩ := ne_of_isBlank (gaps c (.inl outer))
        exact ⟨notEquals, notComma, notPlus⟩
      · exact ne_of_isAttrChar (legal.2 c inner)
      · obtain ⟨notEquals, notComma, notPlus, _⟩ := ne_of_isBlank (gaps c (.inr outer))
        exact ⟨notEquals, notComma, notPlus⟩
    have named := readAttr_append plain (value ++ tail)
    have checked := checkAttr_surrounded legal gaps
    have pieced := spelled.readPieces_eq ends
    have valued := checkValue_eq_ok_iff_holds.mpr holds
    rw [List.append_assoc, List.cons_append]
    simp only [readAva, named, checked, pieced, valued, bind, Except.bind, pure, Except.pure]

/-- An assertion in front of the first level belongs to that level. -/
theorem Levels.sibling {gap : Char → Bool} {text rest : List Char} {ava : Ava} {rdns : List Rdn}
    (component : Component gap text ava) (levels : Levels gap rest rdns) :
    Levels gap (text ++ '+' :: rest) (addSibling ava rdns) := by
  cases levels with
  | last level => exact .last (.more component level)
  | more level levels =>
    have joined := Levels.more (.more component level) levels
    rwa [List.append_assoc, List.cons_append] at joined

theorem levels_of_readRdns {text : List Char} {avas : List (Ava × Separator)} (read : readAvas text = .ok avas) :
    Levels isBlank text (group avas) := by
  fun_induction readAvas text generalizing avas with
  | case1 => cases read
  | case2 text ava last =>
    cases read
    obtain ⟨own, tail, rfl, component, ends⟩ := readAva_eq_ok_iff.mp last
    cases ends
    rw [List.append_nil]
    exact .last (.last component)
  | case3 text ava separator rest first ih =>
    obtain ⟨others, more, rfl⟩ := Attempt.map_eq_ok_iff.mp read
    obtain ⟨own, tail, rfl, component, ends⟩ := readAva_eq_ok_iff.mp first
    have behind := ih more
    cases ends with
    | level => exact .more (.last component) behind
    | sibling =>
      rw [group_sibling]
      exact behind.sibling component

theorem Level.readRdns_eq {text : List Char} {rdn : Rdn} (level : Level isBlank text rdn) :
    readRdns text = .ok [rdn] ∧ ∀ rest, readRdns (text ++ ',' :: rest) = (readRdns rest).map (rdn :: ·) := by
  induction level with
  | @last text ava component =>
    constructor
    · exact readRdns_last (readAva_eq_ok_iff.mpr ⟨text, [], (List.append_nil text).symm, component, .nothing⟩)
    · intro rest
      exact readRdns_level (readAva_eq_ok_iff.mpr ⟨text, _, rfl, component, .level rest⟩)
  | @more text rest ava rdn component level ih =>
    have first (behind : List Char) : readAva (text ++ '+' :: behind) = .ok (ava, some (.sibling, behind)) :=
      readAva_eq_ok_iff.mpr ⟨text, _, rfl, component, .sibling behind⟩
    constructor
    · rw [readRdns_sibling (first rest), ih.1]
      rfl
    · intro behind
      rw [List.append_assoc, List.cons_append, readRdns_sibling (first _), ih.2]
      cases readRdns behind <;> rfl

theorem Levels.readRdns_eq {text : List Char} {rdns : List Rdn}
    (levels : Levels isBlank text rdns) : readRdns text = .ok rdns := by
  induction levels with
  | last level => exact level.readRdns_eq.1
  | more level _ ih =>
    rw [level.readRdns_eq.2, ih]
    rfl

theorem readRdns_eq_ok_iff {text : List Char} {rdns : List Rdn} :
    readRdns text = .ok rdns ↔ Levels isBlank text rdns := by
  constructor
  · intro read
    obtain ⟨avas, found, rfl⟩ := Attempt.map_eq_ok_iff.mp read
    exact levels_of_readRdns found
  · exact Levels.readRdns_eq

/-- The name that a text means, with white space for gaps. -/
theorem parse_eq_ok_iff_denotes {text : String} {name : Dn} :
    parse text = .ok name ↔ Denotes isBlank text.toList name := by
  obtain ⟨rdns⟩ := name
  rw [parse_eq_ok_iff, ofChars_eq_ok_iff, Denotes, ← readRdns_eq_ok_iff, readRdns, Attempt.map_eq_ok_iff]
  refine or_congr Iff.rfl (exists_congr fun avas => and_congr_right fun _ => ?_)
  rw [Dn.mk.injEq, eq_comm]

section
variable {gap other : Char → Bool}

/-- Other gaps, where the text has none that the others are not. -/
theorem Component.imp {text : List Char} {ava : Ava} (component : Component gap text ava)
    (fewer : ∀ c ∈ text, gap c = true → other c = true) : Component other text ava := by
  obtain ⟨legal, before, after, value, pieces, rfl, gaps, spelled, holds⟩ := component
  refine ⟨legal, before, after, value, pieces, rfl, fun c member => fewer c ?_ (gaps c member), spelled, holds⟩
  simp only [List.mem_append] at member ⊢
  exact .inl (member.imp .inl id)

theorem Level.imp {text : List Char} {rdn : Rdn} (level : Level gap text rdn)
    (fewer : ∀ c ∈ text, gap c = true → other c = true) : Level other text rdn := by
  induction level with
  | last component => exact .last (component.imp fewer)
  | more component _ ih =>
    obtain ⟨early, late⟩ := List.forall_mem_append.mp fewer
    exact .more (component.imp early) (ih fun c member => late c (List.mem_cons_of_mem _ member))

theorem Levels.imp {text : List Char} {rdns : List Rdn} (levels : Levels gap text rdns)
    (fewer : ∀ c ∈ text, gap c = true → other c = true) : Levels other text rdns := by
  induction levels with
  | last level => exact .last (level.imp fewer)
  | more level _ ih =>
    obtain ⟨early, late⟩ := List.forall_mem_append.mp fewer
    exact .more (level.imp early) (ih fun c member => late c (List.mem_cons_of_mem _ member))

theorem Denotes.imp {text : List Char} {name : Dn} (denotes : Denotes gap text name)
    (fewer : ∀ c ∈ text, gap c = true → other c = true) : Denotes other text name := by
  rcases denotes with ⟨gaps, same⟩ | levels
  · exact .inl ⟨fun c member => fewer c member (gaps c member), same⟩
  · exact .inr (levels.imp fewer)

end

theorem parse_failure {text : String} {error : Error} (failed : parse text = .error error) :
    ∃ reason, error = .invalidDn reason := by
  unfold parse at failed
  cases read : ofChars text.toList with
  | ok name =>
    rw [read] at failed
    cases failed
  | error fault =>
    rw [read] at failed
    cases failed
    exact ⟨_, rfl⟩

/-- A text without white space but spaces is read as a name exactly if the grammar gives it that meaning, with
spaces for gaps, and any other such text is no valid name. -/
theorem parse_spaced {text : String} (spaced : ∀ c ∈ text.toList, isBlank c = true → c = ' ') :
    (∀ name, parse text = .ok name ↔ Denotes (· == ' ') text.toList name) ∧
      ((¬∃ name, Denotes (· == ' ') text.toList name) → ∃ reason, parse text = .error (.invalidDn reason)) := by
  have means (name : Dn) : parse text = .ok name ↔ Denotes (· == ' ') text.toList name := by
    rw [parse_eq_ok_iff_denotes]
    constructor
    · intro denotes
      exact denotes.imp fun c member blank => beq_iff_eq.mpr (spaced c member blank)
    · intro denotes
      exact denotes.imp fun c _ space => blank_of_space (beq_iff_eq.mp space)
  refine ⟨means, fun senseless => ?_⟩
  cases read : parse text with
  | ok name => exact absurd ⟨name, (means name).mp read⟩ senseless
  | error error =>
    obtain ⟨reason, rfl⟩ := parse_failure read
    exact ⟨reason, rfl⟩

/-- A name with two assertions on its first level, spaces that count and spaces that do not, and a character
put together of octets. -/
theorem parse_spaced_twoLevels :
    (∀ c ∈ " cn = \\ a\\20 +sn=b,o=\\C3\\A9 ".toList, isBlank c = true → c = ' ') ∧
      Denotes (· == ' ') " cn = \\ a\\20 +sn=b,o=\\C3\\A9 ".toList
        ⟨[[⟨"cn", " a "⟩, ⟨"sn", "b"⟩], [⟨"o", "é"⟩]]⟩ := by
  have spaced : ∀ c ∈ " cn = \\ a\\20 +sn=b,o=\\C3\\A9 ".toList, isBlank c = true → c = ' ' := by
    intro c member blank
    have all : (" cn = \\ a\\20 +sn=b,o=\\C3\\A9 ".toList.all fun c => !isBlank c || c == ' ') = true := by decide
    have kept := List.all_eq_true.mp all c member
    rw [blank] at kept
    exact beq_iff_eq.mp kept
  exact ⟨spaced, ((parse_spaced spaced).1 _).mp (by decide +kernel)⟩

end Directory.Dn
