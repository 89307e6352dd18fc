import Directory.Proofs.Dn.Spaces
import Mathlib.Data.List.Forall2
/-!
White space around the separators of a name and around the `=` of its assertions. The name is read all the
same. In front of an `=` and behind a separator all white space goes, but next to a value only spaces do:
the name stays as it was exactly if nothing else was put there.
-/
namespace Directory

def Ava.Padded (ava other : Ava) : Prop :=
  other.attr = ava.attr ∧ ∃ before after, Blank before ∧ Blank after ∧
    other.value = String.ofList before ++ ava.value ++ String.ofList after

namespace Dn

inductive Place where
  | attr
  | value

/-- White space put into a text that continues in the given part of an assertion: around each `=` that ends
an attribute, around each separator, and behind the whole. The last text is what was put next to values. -/
inductive Widens : Place → List Char → List Char → List Char → Prop where
  | finishAttr {margin : List Char} : Blank margin → Widens .attr [] margin []
  | finishValue {margin : List Char} : Blank margin → Widens .value [] margin margin
  | equals {before after text wide beside : List Char} : Blank before → Blank after →
      Widens .value text wide beside →
      Widens .attr ('=' :: text) (before ++ '=' :: (after ++ wide)) (after ++ beside)
  | separator {c : Char} {before after text wide beside : List Char} : c = ',' ∨ c = '+' →
      Blank before → Blank after → Widens .attr text wide beside →
      Widens .value (c :: text) (before ++ c :: (after ++ wide)) (before ++ beside)
  | escape {c : Char} {text wide beside : List Char} : Widens .value text wide beside →
      Widens .value ('\\' :: c :: text) ('\\' :: c :: wide) beside
  | keepAttr {c : Char} {text wide beside : List Char} : c ≠ '=' → Widens .attr text wide beside →
      Widens .attr (c :: text) (c :: wide) beside
  | keepValue {c : Char} {text wide beside : List Char} : c ≠ ',' ∧ c ≠ '+' ∧ c ≠ '\\' →
      Widens .value text wide beside → Widens .value (c :: text) (c :: wide) beside

def Widened (text wide beside : List Char) : Prop :=
  ∃ lead rest, wide = lead ++ rest ∧ Blank lead ∧ Widens .attr text rest beside

theorem Widens.of_escape {c : Char} {text wide beside : List Char}
    (widens : Widens .value ('\\' :: c :: text) wide beside) :
    ∃ inner, wide = '\\' :: c :: inner ∧ Widens .value text inner beside := by
  cases widens with
  | escape widens => exact ⟨_, rfl, widens⟩
  | separator kind => rcases kind with kind | kind <;> cases kind
  | keepValue plain => exact absurd rfl plain.2.2

theorem Widens.of_plain {c : Char} {text wide beside : List Char} (plain : c ≠ ',' ∧ c ≠ '+' ∧ c ≠ '\\')
    (widens : Widens .value (c :: text) wide beside) :
    ∃ inner, wide = c :: inner ∧ Widens .value text inner beside := by
  obtain ⟨notComma, notPlus, notEscape⟩ := plain
  cases widens with
  | keepValue _ widens => exact ⟨_, rfl, widens⟩
  | separator kind => exact (kind.elim notComma notPlus).elim
  | escape => exact absurd rfl notEscape

theorem plain_of_isDigit {c : Char} (digit : Hex.isDigit c = true) : c ≠ ',' ∧ c ≠ '+' ∧ c ≠ '\\' := by
  refine ⟨?_, ?_, ?_⟩ <;>
  · rintro rfl
    cases digit

theorem ne_of_isBlank {c : Char} (blank : isBlank c = true) :
    c ≠ '=' ∧ c ≠ ',' ∧ c ≠ '+' ∧ c ≠ '\\' := by
  refine ⟨?_, ?_, ?_, ?_⟩ <;>
  · rintro rfl
    revert blank
    decide

theorem readAttr_blank_append {lead : List Char} (blank : Blank lead) (text : List Char) :
    readAttr (lead ++ text) = (readAttr text).map fun (attr, after) => (lead ++ attr, after) := by
  induction lead with
  | nil =>
    rw [List.nil_append]
    cases readAttr text <;> rfl
  | cons c lead ih =>
    obtain ⟨notEquals, notComma, notPlus, _⟩ := ne_of_isBlank (blank c List.mem_cons_self)
    have others := ih fun d member => blank d (List.mem_cons_of_mem c member)
    rw [List.cons_append, readAttr, if_neg notEquals, if_neg (by simp [notComma, notPlus]), others]
    cases readAttr text <;> rfl

theorem readAva_blank_append {lead : List Char} (blank : Blank lead) (text : List Char) :
    readAva (lead ++ text) = readAva text := by
  rw [readAva, readAttr_blank_append blank, readAva]
  cases readAttr text with
  | error => rfl
  | ok found =>
    have same : checkAttr (lead ++ found.1) = checkAttr found.1 := by
      rw [checkAttr, trim_append_left blank, checkAttr]
    simp only [Except.map, bind, Except.bind, same]

theorem readAvas_blank_append {lead : List Char} (blank : Blank lead) (text : List Char) :
    readAvas (lead ++ text) = readAvas text := by
  have same := readAva_blank_append blank text
  cases read : readAva text with
  | error fault => rw [readAvas_error read, readAvas_error (same.trans read)]
  | ok found =>
    obtain ⟨ava, _ | ⟨separator, rest⟩⟩ := found
    · rw [readAvas_last read, readAvas_last (same.trans read)]
    · rw [readAvas_more read, readAvas_more (same.trans read)]

theorem readPieces_blank_append {lead : List Char} (blank : Blank lead) {text : List Char}
    {pieces : List Piece} {ending : Option (Separator × List Char)}
    (read : readPieces text = .ok (pieces, ending)) :
    readPieces (lead ++ text) = .ok (lead.map .bare ++ pieces, ending) := by
  induction lead with
  | nil => exact read
  | cons c lead ih =>
    obtain ⟨_, plain⟩ := ne_of_isBlank (blank c List.mem_cons_self)
    rw [List.cons_append, readPieces_bare _ plain, ih fun d member => blank d (List.mem_cons_of_mem c member)]
    rfl

theorem readAttr_widens {text wide beside attr after : List Char} (widens : Widens .attr text wide beside)
    (read : readAttr text = .ok (attr, after)) :
    ∃ margin inner rest others, readAttr wide = .ok (attr ++ margin, inner ++ rest) ∧ Blank margin ∧
      Blank inner ∧ Widens .value after rest others ∧ beside = inner ++ others := by
  induction text generalizing wide attr with
  | nil => cases read
  | cons c text ih =>
    cases widens with
    | @equals before inner _ rest others early late widens =>
      -- What stands in front of the `=` is read with the attribute, and goes when that is checked.
      cases read
      refine ⟨before, inner, rest, others, ?_, early, late, widens, rfl⟩
      rw [readAttr_blank_append early]
      simp [readAttr, Except.map]
    | @keepAttr _ _ wide _ notEquals widens =>
      rw [readAttr, if_neg notEquals] at read
      split at read
      · cases read
      · next legal =>
        obtain ⟨⟨attr, left⟩, found, same⟩ := Attempt.map_eq_ok_iff.mp read
        cases same
        obtain ⟨margin, inner, rest, others, wider, facts⟩ := ih widens found
        refine ⟨margin, inner, rest, others, ?_, facts⟩
        rw [readAttr, if_neg notEquals, if_neg legal, wider]
        rfl

inductive Follows : Option (Separator × List Char) → Option (Separator × List Char) → List Char → Prop where
  | nothing : Follows none none []
  | more {separator : Separator} {lead text wide beside : List Char} : Blank lead →
      Widens .attr text wide beside →
      Follows (some (separator, text)) (some (separator, lead ++ wide)) beside

/-- A value read from the widened text has the white space in front of its end as further pieces. -/
def ReadWidened (wide beside : List Char) (pieces : List Piece)
    (ending : Option (Separator × List Char)) : Prop :=
  ∃ margin wider others, readPieces wide = .ok (pieces ++ margin.map .bare, wider) ∧ Blank margin ∧
    Follows ending wider others ∧ beside = margin ++ others

theorem ReadWidened.cons {wide more beside : List Char} {pieces : List Piece}
    {ending : Option (Separator × List Char)} {piece : Piece}
    (read : ReadWidened wide beside pieces ending)
    (step : readPieces more = (readPieces wide).map (consPiece piece)) :
    ReadWidened more beside (piece :: pieces) ending := by
  obtain ⟨margin, wider, others, found, facts⟩ := read
  refine ⟨margin, wider, others, ?_, facts⟩
  rw [step, found]
  rfl

theorem readPieces_ends {margin rest : List Char} {wider : Option (Separator × List Char)}
    (blank : Blank margin) (ends : Ends rest wider) :
    readPieces (margin ++ rest) = .ok ([] ++ margin.map .bare, wider) := by
  simpa using readPieces_blank_append blank ends.readPieces_eq

theorem readPieces_widens {text wide beside : List Char} {pieces : List Piece}
    {ending : Option (Separator × List Char)} (widens : Widens .value text wide beside)
    (read : readPieces text = .ok (pieces, ending)) : ReadWidened wide beside pieces ending := by
  fun_induction readPieces text generalizing wide pieces with
  | case1 =>
    cases read
    cases widens with
    | finishValue blank =>
      refine ⟨_, none, [], ?_, blank, .nothing, (List.append_nil _).symm⟩
      simpa using readPieces_ends blank .nothing
  | case2 text =>
    cases read
    cases widens with
    | separator _ early late widens =>
      exact ⟨_, _, _, readPieces_ends early (.level _), early, .more late widens, rfl⟩
    | keepValue plain => exact absurd rfl plain.1
  | case3 text =>
    cases read
    cases widens with
    | separator _ early late widens =>
      exact ⟨_, _, _, readPieces_ends early (.sibling _), early, .more late widens, rfl⟩
    | keepValue plain => exact absurd rfl plain.2.1
  | case4 | case5 | case6 | case9 => cases read
  | case7 high _ low rest octet digits ih =>
    obtain ⟨others, found, rfl⟩ := map_consPiece read
    -- Neither digit is a separator, so that nothing was put between them.
    obtain ⟨inner, rfl, second⟩ := widens.of_escape
    obtain ⟨inner, rfl, behind⟩ := second.of_plain (plain_of_isDigit (isDigit_of_octet? digits).2)
    exact (ih behind found).cons (readPieces_octet inner digits)
  | case8 c rest notDigit named ih =>
    obtain ⟨others, found, rfl⟩ := map_consPiece read
    obtain ⟨inner, rfl, behind⟩ := widens.of_escape
    exact (ih behind found).cons (readPieces_special inner (Bool.eq_false_iff.mpr notDigit) named)
  | case10 c rest notComma notPlus alone followed ih =>
    obtain ⟨others, found, rfl⟩ := map_consPiece read
    have notEscape : c ≠ '\\' := by
      rintro rfl
      cases rest with
      | nil => exact alone rfl rfl
      | cons d rest => exact followed d rest rfl rfl
    have plain : c ≠ ',' ∧ c ≠ '+' ∧ c ≠ '\\' := ⟨notComma, notPlus, notEscape⟩
    obtain ⟨inner, rfl, behind⟩ := widens.of_plain plain
    exact (ih behind found).cons (readPieces_bare inner plain)

theorem readAva_widens {text wide beside : List Char} {ava : Ava}
    {ending : Option (Separator × List Char)} (widens : Widens .attr text wide beside)
    (read : readAva text = .ok (ava, ending)) :
    ∃ other wider margin others, readAva wide = .ok (other, wider) ∧ ava.Padded other ∧
      Follows ending wider others ∧ beside = margin ++ others ∧
      (other = ava ↔ ∀ c ∈ margin, c = ' ') := by
  obtain ⟨⟨name, after⟩, named, read⟩ := Attempt.bind_eq_ok_iff.mp read
  obtain ⟨attr, checked, read⟩ := Attempt.bind_eq_ok_iff.mp read
  obtain ⟨⟨pieces, left⟩, pieced, read⟩ := Attempt.bind_eq_ok_iff.mp read
  obtain ⟨value, valued, read⟩ := Attempt.bind_eq_ok_iff.mp read
  cases read
  obtain ⟨outer, inner, rest, _, wideName, blank, early, behind, rfl⟩ := readAttr_widens widens named
  obtain ⟨last, wider, others, wideRest, late, follows, rfl⟩ := readPieces_widens behind pieced
  have widePieces := readPieces_blank_append early wideRest
  obtain ⟨before, after, first, second, wideValue, nothing⟩ := checkValue_margins valued early late
  have wideAttr : checkAttr (name ++ outer) = .ok attr := by
    rw [← checked, checkAttr, trim_append_right blank, checkAttr]
  rw [List.append_assoc] at wideValue
  refine ⟨⟨attr, String.ofList before ++ value ++ String.ofList after⟩, wider, inner ++ last, others, ?_,
    ⟨rfl, before, after, first, second, rfl⟩, follows, (List.append_assoc ..).symm, ?_⟩
  · simp only [readAva, wideName, wideAttr, widePieces, wideValue, bind, Except.bind, pure, Except.pure]
  · rw [← nothing, ← padded_eq_iff value]
    simp

def Counterpart (found other : Ava × Separator) : Prop := found.1.Padded other.1 ∧ other.2 = found.2

theorem readAvas_widens {text wide beside : List Char} {avas : List (Ava × Separator)}
    (widens : Widens .attr text wide beside) (read : readAvas text = .ok avas) :
    ∃ others, readAvas wide = .ok others ∧ List.Forall₂ Counterpart avas others ∧
      (others = avas ↔ ∀ c ∈ beside, c = ' ') := by
  fun_induction readAvas text generalizing avas wide beside with
  | case1 => cases read
  | case2 _ ava last =>
    cases read
    obtain ⟨other, wider, margin, others, wideRead, padded, follows, rfl, kept⟩ := readAva_widens widens last
    cases follows
    refine ⟨[(other, .level)], readAvas_last wideRead, .cons ⟨padded, rfl⟩ .nil, ?_⟩
    simpa using kept
  | case3 _ ava separator rest first ih =>
    obtain ⟨avas, more, rfl⟩ := Attempt.map_eq_ok_iff.mp read
    obtain ⟨other, wider, margin, others, wideRead, padded, follows, rfl, kept⟩ := readAva_widens widens first
    cases follows with
    | more blank behind =>
      -- White space behind the separator stands in front of an attribute, where it does not count.
      obtain ⟨siblings, wideMore, alike, same⟩ := ih behind more
      refine ⟨(other, separator) :: siblings, ?_, .cons ⟨padded, rfl⟩ alike, ?_⟩
      · rw [readAvas_more wideRead, readAvas_blank_append blank, wideMore]
        rfl
      · simp [kept, same, or_imp, forall_and]

theorem forall₂_group {avas others : List (Ava × Separator)} (alike : List.Forall₂ Counterpart avas others) :
    List.Forall₂ (List.Forall₂ Ava.Padded) (group avas) (group others) := by
  induction alike with
  | nil => exact .nil
  | @cons found other avas others first rest ih =>
    obtain ⟨ava, separator⟩ := found
    obtain ⟨wide, own⟩ := other
    obtain ⟨padded, same⟩ := first
    obtain rfl : own = separator := same
    cases own with
    | level => exact .cons (.cons padded .nil) ih
    | sibling =>
      rw [group, group]
      generalize group avas = levels at ih ⊢
      generalize group others = wider at ih ⊢
      cases ih with
      | nil => exact .cons (.cons padded .nil) .nil
      | cons level levels => exact .cons (.cons padded level) levels

/-- Nothing but the separators is lost when assertions are grouped. -/
theorem flatten_group (avas : List (Ava × Separator)) : (group avas).flatten = avas.map Prod.fst := by
  fun_induction group avas <;> simp_all

theorem group_eq_iff {avas others : List (Ava × Separator)} (alike : List.Forall₂ Counterpart avas others) :
    group others = group avas ↔ others = avas := by
  constructor
  · -- The separators are the same on both sides, so that the assertions alone decide.
    intro same
    have firsts : others.map Prod.fst = avas.map Prod.fst := by
      rw [← flatten_group, same, flatten_group]
    clear same
    induction alike with
    | nil => rfl
    | @cons found other avas others first rest ih =>
      obtain ⟨one, others⟩ := List.cons.inj firsts
      rw [ih others, Prod.ext one first.2]
  · exact congrArg group

theorem readAvas_nil : readAvas [] = .error .missingEquals := by
  rw [readAvas_error]
  rfl

theorem readAvas_trimStart (text : List Char) : readAvas (trimStart text) = readAvas text := by
  have blank : Blank (text.takeWhile isBlank) := fun c member => List.mem_takeWhile_imp member
  rw [← readAvas_blank_append blank, trimStart, List.takeWhile_append_dropWhile]

theorem ofChars_eq_ok_iff {text : List Char} {name : Dn} :
    ofChars text = .ok name ↔ Blank text ∧ name = root ∨
      ∃ avas, readAvas text = .ok avas ∧ name = ⟨group avas⟩ := by
  rw [← readAvas_trimStart, ofChars, ← trimStart_eq_nil_iff]
  split
  · next nothing =>
    rw [nothing, readAvas_nil]
    simp [eq_comm]
  · next some =>
    rw [Attempt.map_eq_ok_iff]
    constructor
    · rintro ⟨avas, found, rfl⟩
      exact .inr ⟨avas, found, rfl⟩
    · rintro (⟨nothing, _⟩ | ⟨avas, found, rfl⟩)
      · exact absurd nothing some
      · exact ⟨avas, found, rfl⟩

/-- White space has no `=` in it, so that all of it stays before an attribute. -/
theorem Widens.of_blank {text wide beside : List Char} (widens : Widens .attr text wide beside)
    (blank : Blank text) : Blank wide ∧ beside = [] := by
  induction text generalizing wide with
  | nil =>
    cases widens with
    | finishAttr margin => exact ⟨margin, rfl⟩
  | cons c text ih =>
    have first := blank c List.mem_cons_self
    cases widens with
    | equals => exact absurd first (by decide)
    | keepAttr _ widens =>
      obtain ⟨others, nothing⟩ := ih widens fun d member => blank d (List.mem_cons_of_mem c member)
      refine ⟨fun d member => ?_, nothing⟩
      rcases List.mem_cons.mp member with rfl | later
      · exact first
      · exact others d later

/-- White space around the separators of a name that can be read leaves a name that can be read. It has the
same levels, attributes and separators, and white space is all that values gain. The name is the same if and
only if nothing but spaces was put next to values. -/
theorem parse_widened {text wide : String} {name : Dn} {beside : List Char} (read : parse text = .ok name)
    (widened : Widened text.toList wide.toList beside) :
    ∃ other, parse wide = .ok other ∧ List.Forall₂ (List.Forall₂ Ava.Padded) name.rdns other.rdns ∧
      (other = name ↔ ∀ c ∈ beside, c = ' ') := by
  obtain ⟨lead, rest, chars, blank, widens⟩ := widened
  simp only [parse_eq_ok_iff, chars] at read ⊢
  rcases ofChars_eq_ok_iff.mp read with ⟨nothing, rfl⟩ | ⟨avas, found, rfl⟩
  · obtain ⟨more, rfl⟩ := widens.of_blank nothing
    exact ⟨root, ofChars_eq_ok_iff.mpr (.inl ⟨blank.append more, rfl⟩), .nil, by simp⟩
  · obtain ⟨others, wideFound, alike, same⟩ := readAvas_widens widens found
    have wideRead : readAvas (lead ++ rest) = .ok others := by
      rw [readAvas_blank_append blank, wideFound]
    refine ⟨⟨group others⟩, ofChars_eq_ok_iff.mpr (.inr ⟨others, wideRead, rfl⟩), forall₂_group alike, ?_⟩
    rw [Dn.mk.injEq, group_eq_iff alike, same]

/-- Spaces and a tab, put everywhere where they may be. -/
theorem parse_widened_everywhere :
    parse "cn=a,o= b" = .ok ⟨[[⟨"cn", "a"⟩], [⟨"o", "b"⟩]]⟩ ∧
      Widened "cn=a,o= b".toList "\ncn\t=  a ,\t o= \t b ".toList [' ', ' ', ' ', ' ', '\t', ' '] ∧
      ∃ other, parse "\ncn\t=  a ,\t o= \t b " = .ok other ∧
        List.Forall₂ (List.Forall₂ Ava.Padded) [[⟨"cn", "a"⟩], [⟨"o", "b"⟩]] other.rdns ∧
        (other = ⟨[[⟨"cn", "a"⟩], [⟨"o", "b"⟩]]⟩ ↔ ∀ c ∈ [' ', ' ', ' ', ' ', '\t', ' '], c = ' ') := by
  have read : parse "cn=a,o= b" = .ok ⟨[[⟨"cn", "a"⟩], [⟨"o", "b"⟩]]⟩ := by decide +kernel
  have short : "cn=a,o= b".toList = ['c', 'n', '=', 'a', ',', 'o', '=', ' ', 'b'] := rfl
  have long : "\ncn\t=  a ,\t o= \t b ".toList = ['\n', 'c', 'n', '\t', '=', ' ', ' ', 'a', ' ', ',',
    '\t', ' ', 'o', '=', ' ', '\t', ' ', 'b', ' '] := rfl
  have widened : Widened "cn=a,o= b".toList "\ncn\t=  a ,\t o= \t b ".toList
      [' ', ' ', ' ', ' ', '\t', ' '] := by
    rw [short, long]
    refine ⟨['\n'], _, rfl, by decide, .keepAttr (by decide) (.keepAttr (by decide) ?_)⟩
    refine .equals (show Blank ['\t'] by decide) (show Blank [' ', ' '] by decide) ?_
    refine .keepValue (by decide) ?_
    refine .separator (.inl rfl) (show Blank [' '] by decide) (show Blank ['\t', ' '] by decide) ?_
    refine .keepAttr (by decide) ?_
    refine .equals (show Blank [] by decide) (show Blank [' ', '\t'] by decide) ?_
    exact .keepValue (by decide) (.keepValue (by decide) (.finishValue (by decide)))
  exact ⟨read, widened, parse_widened read widened⟩

/-- White space other than a space becomes a part of the value that it is next to. -/
theorem parse_tab_before_value :
    parse "cn=a" = .ok ⟨[[⟨"cn", "a"⟩]]⟩ ∧ Widened "cn=a".toList "cn=\ta".toList ['\t'] ∧
      parse "cn=\ta" = .ok ⟨[[⟨"cn", "\ta"⟩]]⟩ := by
  have short : "cn=a".toList = ['c', 'n', '=', 'a'] := rfl
  have long : "cn=\ta".toList = ['c', 'n', '=', '\t', 'a'] := rfl
  refine ⟨by decide +kernel, ?_, by decide +kernel⟩
  rw [short, long]
  refine ⟨[], _, rfl, by decide, .keepAttr (by decide) (.keepAttr (by decide) ?_)⟩
  refine .equals (show Blank [] by decide) (show Blank ['\t'] by decide) ?_
  exact .keepValue (by decide) (.finishValue (show Blank [] by decide))

end Dn

end Directory
