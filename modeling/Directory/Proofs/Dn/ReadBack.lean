import Directory.Dn.Reader
import Directory.Proofs.Text.Blank
/-!
The text of a name is read back as that name. A value is followed piece by piece: every character is
written as one piece, and no piece at either end is a space that the reader would drop.
-/
namespace Directory

/-- An assertion that can be read: the attribute is written with letters, digits, `-` and `.` only. -/
def Ava.WellFormed (ava : Ava) : Prop :=
  ava.attr ≠ "" ∧ ∀ c ∈ ava.attr.toList, Dn.isAttrChar c = true

def Dn.WellFormed (name : Dn) : Prop :=
  ∀ rdn ∈ name.rdns, rdn ≠ [] ∧ ∀ ava ∈ rdn, ava.WellFormed

instance (ava : Ava) : Decidable ava.WellFormed :=
  decidable_of_iff (ava.attr ≠ "" ∧ ava.attr.toList.all Dn.isAttrChar = true) (by simp [Ava.WellFormed])

instance (name : Dn) : Decidable name.WellFormed :=
  inferInstanceAs (Decidable (∀ rdn ∈ name.rdns, _))

theorem Octets.ofText_ofList (chars : List Char) :
    Octets.ofText (String.ofList chars) = chars.flatMap String.utf8EncodeChar := by
  simp [Octets.ofText, List.utf8Encode]

theorem utf8EncodeChar_ascii {c : Char} (small : c.toNat < 128) :
    String.utf8EncodeChar c = [UInt8.ofNat c.toNat] := by
  have width : c.utf8Size = 1 := by
    rw [Char.utf8Size_eq_one_iff]
    show c.val.toNat ≤ 127
    exact Nat.le_of_lt_succ small
  rw [String.utf8EncodeChar_eq_singleton width]
  rfl

namespace Dn

theorem isBlank_of_isAttrChar {c : Char} (h : isAttrChar c = true) : isBlank c = false := by
  simp only [isAttrChar, Bool.or_eq_true, decide_eq_true_eq] at h
  rcases h with (letter | rfl) | rfl
  · exact not_isBlank_of_isAlphanum letter
  · rfl
  · rfl

theorem ne_of_isAttrChar {c : Char} (h : isAttrChar c = true) : c ≠ '=' ∧ c ≠ ',' ∧ c ≠ '+' := by
  refine ⟨?_, ?_, ?_⟩ <;>
  · rintro rfl
    revert h
    decide

theorem readAttr_append {attr : List Char} (plain : ∀ c ∈ attr, c ≠ '=' ∧ c ≠ ',' ∧ c ≠ '+')
    (rest : List Char) : readAttr (attr ++ '=' :: rest) = .ok (attr, rest) := by
  induction attr with
  | nil => simp [readAttr]
  | cons c attr ih =>
    obtain ⟨notEquals, notComma, notPlus⟩ := plain c List.mem_cons_self
    have others := ih fun d member => plain d (List.mem_cons_of_mem c member)
    simp [readAttr, notEquals, notComma, notPlus, others, Except.map]

theorem checkAttr_toList {attr : String} (some : attr ≠ "")
    (legal : ∀ c ∈ attr.toList, isAttrChar c = true) : checkAttr attr.toList = .ok attr := by
  have same : trim attr.toList = attr.toList := by
    apply trim_eq_self_of_ends
    · exact fun c first => isBlank_of_isAttrChar (legal c (List.mem_of_mem_head? first))
    · exact fun c last => isBlank_of_isAttrChar (legal c (List.mem_of_mem_getLast? last))
  have present : attr.toList.isEmpty = false := by
    simpa [String.toList_eq_nil_iff] using some
  simp [checkAttr, same, present, List.all_eq_true.mpr legal, String.ofList_toList]

inductive Ends : List Char → Option (Separator × List Char) → Prop where
  | nothing : Ends [] none
  | level (rest : List Char) : Ends (',' :: rest) (some (.level, rest))
  | sibling (rest : List Char) : Ends ('+' :: rest) (some (.sibling, rest))

theorem Ends.readPieces_eq {text : List Char} {ending : Option (Separator × List Char)}
    (ends : Ends text ending) : readPieces text = .ok ([], ending) := by
  cases ends <;> simp [readPieces]

theorem readPieces_bare {c : Char} (rest : List Char)
    (plain : c ≠ ',' ∧ c ≠ '+' ∧ c ≠ '\\') :
    readPieces (c :: rest) = (readPieces rest).map (consPiece (.bare c)) := by
  obtain ⟨notComma, notPlus, notEscape⟩ := plain
  rw [readPieces.eq_def]
  split <;> simp_all

theorem readPieces_special {c : Char} (rest : List Char) (notDigit : Hex.isDigit c = false)
    (named : (isSpecial c || c = ' ' || c = '#') = true) :
    readPieces ('\\' :: c :: rest) =
      (readPieces rest).map (consPiece (.escaped (UInt8.ofNat c.toNat))) := by
  rw [readPieces.eq_def]
  simp [notDigit, named]

theorem isDigit_of_octet? {high low : Char} {octet : UInt8} (read : Hex.octet? high low = some octet) :
    Hex.isDigit high = true ∧ Hex.isDigit low = true := by
  obtain ⟨n, m, first, second⟩ := Hex.exists_digits_of_octet? read
  simp [Hex.isDigit, first, second]

theorem readPieces_octet {high low : Char} {octet : UInt8} (rest : List Char)
    (read : Hex.octet? high low = some octet) :
    readPieces ('\\' :: high :: low :: rest) =
      (readPieces rest).map (consPiece (.escaped octet)) := by
  rw [readPieces.eq_def]
  simp [(isDigit_of_octet? read).1, read]

theorem readPieces_hex (octet : UInt8) (rest : List Char) :
    readPieces ('\\' :: Hex.upper octet ++ rest) =
      (readPieces rest).map (consPiece (.escaped octet)) :=
  readPieces_octet rest (Hex.octet?_upper octet)

theorem escapable {c : Char} (h : (isSpecial c || c = ' ' || c = '#') = true) :
    Hex.isDigit c = false ∧ c.toNat < 128 := by
  simp only [isSpecial, Bool.or_eq_true, decide_eq_true_eq] at h
  rcases h with ((((((((rfl | rfl) | rfl) | rfl) | rfl) | rfl) | rfl) | rfl) | rfl) | rfl <;> decide

/-- A character of a value becomes one piece. At the ends of the value that piece is kept. -/
theorem readPieces_escapeChar (first last : Bool) (c : Char) :
    ∃ piece : Piece, piece.octets = String.utf8EncodeChar c ∧
      ((first || last) = true → piece.isLoose = false) ∧
      ∀ rest, readPieces (escapeChar first last c ++ rest) =
        (readPieces rest).map (consPiece piece) := by
  unfold escapeChar
  split
  · next marked =>
    have named : (isSpecial c || c = ' ' || c = '#') = true := by
      simp only [Bool.or_eq_true, Bool.and_eq_true, decide_eq_true_eq] at marked ⊢
      exact marked.imp (Or.imp id And.left) And.left
    obtain ⟨notDigit, small⟩ := escapable named
    refine ⟨.escaped (UInt8.ofNat c.toNat), (utf8EncodeChar_ascii small).symm, fun _ => rfl, ?_⟩
    intro rest
    exact readPieces_special rest notDigit named
  · next unmarked =>
    split
    · next control =>
      refine ⟨.escaped (UInt8.ofNat c.toNat), (utf8EncodeChar_ascii (by omega)).symm, fun _ => rfl, ?_⟩
      intro rest
      exact readPieces_hex (UInt8.ofNat c.toNat) rest
    · simp only [Bool.or_eq_true, Bool.and_eq_true, decide_eq_true_eq, not_or, not_and] at unmarked
      refine ⟨.bare c, rfl, ?_, ?_⟩
      · intro atEnd
        have solid : c ≠ ' ' := by
          intro space
          obtain ⟨notFirst, notLast⟩ := unmarked.1.2 space
          simp [notFirst, notLast] at atEnd
        simpa [Piece.isLoose] using solid
      · intro rest
        refine readPieces_bare rest ⟨?_, ?_, ?_⟩ <;>
        · rintro rfl
          exact absurd unmarked.1.1 (by decide)

/-- No piece at either end is a space that the reader drops. -/
def Tight (pieces : List Piece) : Prop :=
  (∀ piece, pieces.head? = some piece → piece.isLoose = false) ∧
    ∀ piece, pieces.getLast? = some piece → piece.isLoose = false

theorem trimPieces_eq_self {pieces : List Piece} (tight : Tight pieces) :
    trimPieces pieces = pieces := by
  have backwards : ∀ piece, pieces.reverse.head? = some piece → piece.isLoose = false := by
    simpa using tight.2
  rw [trimPieces, dropWhile_eq_self_of_head? tight.1, dropWhile_eq_self_of_head? backwards,
    List.reverse_reverse]

theorem readPieces_escapeRest {tail : List Char} {ending : Option (Separator × List Char)}
    (ends : Ends tail ending) (value : List Char) :
    ∃ pieces, readPieces (escapeRest value ++ tail) = .ok (pieces, ending) ∧
      pieces.flatMap Piece.octets = value.flatMap String.utf8EncodeChar ∧
      (pieces = [] → value = []) ∧
      ∀ piece, pieces.getLast? = some piece → piece.isLoose = false := by
  induction value with
  | nil => exact ⟨[], ends.readPieces_eq, rfl, fun _ => rfl, nofun⟩
  | cons c rest ih =>
    obtain ⟨pieces, read, octets, none, solid⟩ := ih
    obtain ⟨piece, same, kept, step⟩ := readPieces_escapeChar false rest.isEmpty c
    refine ⟨piece :: pieces, ?_, ?_, nofun, ?_⟩
    · rw [escapeRest, List.append_assoc, step, read]
      rfl
    · simp [same, octets]
    · intro last found
      cases pieces with
      | nil =>
        obtain rfl : piece = last := by simpa using found
        exact kept (by simp [none rfl])
      | cons next others =>
        rw [List.getLast?_cons_cons] at found
        exact solid last found

theorem readPieces_escapeValue {tail : List Char} {ending : Option (Separator × List Char)}
    (ends : Ends tail ending) (value : List Char) :
    ∃ pieces, readPieces (escapeValue value ++ tail) = .ok (pieces, ending) ∧
      pieces.flatMap Piece.octets = value.flatMap String.utf8EncodeChar ∧ Tight pieces := by
  cases value with
  | nil => exact ⟨[], ends.readPieces_eq, rfl, nofun, nofun⟩
  | cons c rest =>
    obtain ⟨pieces, read, octets, none, solid⟩ := readPieces_escapeRest ends rest
    obtain ⟨piece, same, kept, step⟩ := readPieces_escapeChar true rest.isEmpty c
    refine ⟨piece :: pieces, ?_, ?_, ?_, ?_⟩
    · rw [escapeValue, List.append_assoc, step, read]
      rfl
    · simp [same, octets]
    · intro head found
      obtain rfl : piece = head := by simpa using found
      exact kept rfl
    · intro last found
      cases pieces with
      | nil =>
        obtain rfl : piece = last := by simpa using found
        exact kept rfl
      | cons next others =>
        rw [List.getLast?_cons_cons] at found
        exact solid last found

theorem readAva_chars {ava : Ava} (legal : ava.WellFormed) {tail : List Char}
    {ending : Option (Separator × List Char)} (ends : Ends tail ending) :
    readAva (ava.chars ++ tail) = .ok (ava, ending) := by
  obtain ⟨pieces, read, octets, tight⟩ := readPieces_escapeValue ends ava.value.toList
  have value : checkValue pieces = .ok ava.value := by
    rw [checkValue, trimPieces_eq_self tight, octets, ← Octets.ofText_ofList, String.ofList_toList,
      Octets.text?_ofText]
  have split : ava.chars ++ tail = ava.attr.toList ++ '=' :: (escapeValue ava.value.toList ++ tail) := by
    simp [Ava.chars]
  have named := readAttr_append (fun c member => ne_of_isAttrChar (legal.2 c member))
    (escapeValue ava.value.toList ++ tail)
  simp only [readAva, split, named, checkAttr_toList legal.1 legal.2, read, value,
    bind, Except.bind, pure, Except.pure]

def readRdns (text : List Char) : Except Fault (List Rdn) := (readAvas text).map group

theorem readAvas_error {text : List Char} {fault : Fault} (h : readAva text = .error fault) :
    readAvas text = .error fault := by
  rw [readAvas.eq_def]
  split <;> simp_all

theorem readAvas_last {text : List Char} {ava : Ava} (h : readAva text = .ok (ava, none)) :
    readAvas text = .ok [(ava, .level)] := by
  rw [readAvas.eq_def]
  split <;> simp_all

theorem readAvas_more {text rest : List Char} {ava : Ava} {separator : Separator}
    (h : readAva text = .ok (ava, some (separator, rest))) :
    readAvas text = (readAvas rest).map ((ava, separator) :: ·) := by
  rw [readAvas.eq_def]
  split <;> simp_all

def addSibling (ava : Ava) : List Rdn → List Rdn
  | [] => [[ava]]
  | rdn :: rdns => (ava :: rdn) :: rdns

theorem group_sibling (ava : Ava) (rest : List (Ava × Separator)) :
    group ((ava, .sibling) :: rest) = addSibling ava (group rest) := by
  rw [group]
  cases group rest <;> rfl

theorem readRdns_last {text : List Char} {ava : Ava} (h : readAva text = .ok (ava, none)) :
    readRdns text = .ok [[ava]] := by
  rw [readRdns, readAvas_last h]
  rfl

theorem readRdns_level {text rest : List Char} {ava : Ava}
    (h : readAva text = .ok (ava, some (.level, rest))) :
    readRdns text = (readRdns rest).map ([ava] :: ·) := by
  rw [readRdns, readAvas_more h, readRdns]
  cases readAvas rest <;> rfl

theorem readRdns_sibling {text rest : List Char} {ava : Ava}
    (h : readAva text = .ok (ava, some (.sibling, rest))) :
    readRdns text = (readRdns rest).map (addSibling ava) := by
  rw [readRdns, readAvas_more h, readRdns]
  cases readAvas rest with
  | error => rfl
  | ok avas => simp only [Except.map, group_sibling]

theorem Rdn.chars_cons (ava next : Ava) (others : List Ava) :
    Rdn.chars (ava :: next :: others) = ava.chars ++ '+' :: Rdn.chars (next :: others) := by
  simp [Rdn.chars, List.intercalate_cons_cons]

theorem readRdns_rdn {rdn : Rdn} (some : rdn ≠ []) (legal : ∀ ava ∈ rdn, ava.WellFormed) :
    readRdns rdn.chars = .ok [rdn] := by
  induction rdn with
  | nil => exact absurd rfl some
  | cons ava others ih =>
    have first := legal ava List.mem_cons_self
    cases others with
    | nil =>
      have read := readAva_chars first .nothing
      rw [List.append_nil] at read
      rw [Rdn.chars, List.map_singleton, List.intercalate_singleton]
      exact readRdns_last read
    | cons next others =>
      have more := ih nofun fun ava member => legal ava (List.mem_cons_of_mem _ member)
      rw [Rdn.chars_cons, readRdns_sibling (readAva_chars first (.sibling _)), more]
      rfl

theorem readRdns_rdn_append {rdn : Rdn} (some : rdn ≠ []) (legal : ∀ ava ∈ rdn, ava.WellFormed)
    (rest : List Char) : readRdns (rdn.chars ++ ',' :: rest) = (readRdns rest).map (rdn :: ·) := by
  induction rdn with
  | nil => exact absurd rfl some
  | cons ava others ih =>
    have first := legal ava List.mem_cons_self
    cases others with
    | nil =>
      rw [Rdn.chars, List.map_singleton, List.intercalate_singleton]
      exact readRdns_level (readAva_chars first (.level rest))
    | cons next others =>
      have more := ih nofun fun ava member => legal ava (List.mem_cons_of_mem _ member)
      rw [Rdn.chars_cons, List.append_assoc, List.cons_append,
        readRdns_sibling (readAva_chars first (.sibling _)), more]
      cases readRdns rest <;> rfl

theorem chars_cons (rdn next : Rdn) (others : List Rdn) :
    chars ⟨rdn :: next :: others⟩ = rdn.chars ++ ',' :: chars ⟨next :: others⟩ := by
  simp [chars, List.intercalate_cons_cons]

theorem readRdns_chars {rdns : List Rdn} (some : rdns ≠ []) (legal : WellFormed ⟨rdns⟩) :
    readRdns (chars ⟨rdns⟩) = .ok rdns := by
  induction rdns with
  | nil => exact absurd rfl some
  | cons rdn others ih =>
    obtain ⟨present, avas⟩ := legal rdn List.mem_cons_self
    cases others with
    | nil =>
      rw [chars, List.map_singleton, List.intercalate_singleton]
      exact readRdns_rdn present avas
    | cons next others =>
      have more := ih nofun fun rdn member => legal rdn (List.mem_cons_of_mem _ member)
      rw [chars_cons, readRdns_rdn_append present avas, more]
      rfl

theorem Rdn.exists_chars_eq (ava : Ava) (others : List Ava) :
    ∃ tail, Rdn.chars (ava :: others) = ava.attr.toList ++ tail := by
  cases others with
  | nil => exact ⟨'=' :: escapeValue ava.value.toList, by simp [Rdn.chars, Ava.chars]⟩
  | cons next others => exact ⟨_, by rw [Rdn.chars_cons, Ava.chars, List.append_assoc]⟩

theorem exists_chars_eq (rdn : Rdn) (others : List Rdn) :
    ∃ tail, chars ⟨rdn :: others⟩ = rdn.chars ++ tail := by
  cases others with
  | nil => exact ⟨[], by simp [chars]⟩
  | cons next others => exact ⟨_, chars_cons rdn next others⟩

theorem chars_head {rdn : Rdn} {others : List Rdn} (legal : WellFormed ⟨rdn :: others⟩) :
    ∃ c rest, chars ⟨rdn :: others⟩ = c :: rest ∧ isBlank c = false := by
  obtain ⟨present, avas⟩ := legal rdn List.mem_cons_self
  obtain ⟨ava, siblings, rfl⟩ := List.exists_cons_of_ne_nil present
  obtain ⟨named, letters⟩ := avas ava List.mem_cons_self
  have some : ava.attr.toList ≠ [] := by simpa [String.toList_eq_nil_iff] using named
  obtain ⟨c, rest, start⟩ := List.exists_cons_of_ne_nil some
  obtain ⟨level, first⟩ := Rdn.exists_chars_eq ava siblings
  obtain ⟨levels, whole⟩ := exists_chars_eq (ava :: siblings) others
  refine ⟨c, rest ++ level ++ levels, ?_, isBlank_of_isAttrChar (letters c (by simp [start]))⟩
  rw [whole, first, start]
  simp

theorem ofChars_chars {name : Dn} (legal : name.WellFormed) : ofChars name.chars = .ok name := by
  obtain ⟨rdns⟩ := name
  cases rdns with
  | nil => rfl
  | cons rdn others =>
    obtain ⟨c, rest, start, solid⟩ := chars_head legal
    have read := readRdns_chars (List.cons_ne_nil rdn others) legal
    rw [start] at read ⊢
    rw [ofChars, trimStart_eq_self solid]
    simp only [readRdns] at read
    obtain ⟨avas, found, same⟩ := Attempt.map_eq_ok_iff.mp read
    simp [found, Except.map, same]

theorem parse_eq_ok_iff {text : String} {name : Dn} :
    parse text = .ok name ↔ ofChars text.toList = .ok name := by
  rw [parse]
  cases ofChars text.toList <;> simp [Except.mapError]

/-- Printing a name and reading the text gives the name again. -/
theorem parse_print_of_wellFormed {name : Dn} (legal : name.WellFormed) :
    parse name.print = .ok name := by
  rw [parse_eq_ok_iff, print, String.toList_ofList]
  exact ofChars_chars legal

end Dn

end Directory
