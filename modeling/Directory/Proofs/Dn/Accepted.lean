import Directory.Proofs.Dn.ReadBack
/-!
A name that was read can be written: its attributes are of the characters that the reader lets pass, and no
level of it is empty.
-/
namespace Directory.Dn

theorem wellFormed_of_checkAttr {text : List Char} {attr : String} (checked : checkAttr text = .ok attr) :
    attr ≠ "" ∧ ∀ c ∈ attr.toList, isAttrChar c = true := by
  unfold checkAttr at checked
  dsimp only at checked
  split at checked
  · cases checked
  · next some =>
    split at checked
    · next legal =>
      cases checked
      constructor
      · intro nothing
        apply some
        simpa [← String.toList_eq_nil_iff] using nothing
      · rw [String.toList_ofList]
        exact List.all_eq_true.mp legal
    · cases checked

theorem wellFormed_of_readAva {text : List Char} {ava : Ava} {ending : Option (Separator × List Char)}
    (read : readAva text = .ok (ava, ending)) : ava.WellFormed := by
  obtain ⟨⟨name, after⟩, _, read⟩ := Attempt.bind_eq_ok_iff.mp read
  obtain ⟨attr, checked, read⟩ := Attempt.bind_eq_ok_iff.mp read
  obtain ⟨⟨pieces, left⟩, _, read⟩ := Attempt.bind_eq_ok_iff.mp read
  obtain ⟨value, _, read⟩ := Attempt.bind_eq_ok_iff.mp read
  cases read
  exact wellFormed_of_checkAttr checked

theorem wellFormed_of_readAvas {text : List Char} {avas : List (Ava × Separator)}
    (read : readAvas text = .ok avas) : ∀ found ∈ avas, found.1.WellFormed := by
  fun_induction readAvas text generalizing avas with
  | case1 => cases read
  | case2 _ ava last =>
    cases read
    intro found member
    obtain rfl := List.mem_singleton.mp member
    exact wellFormed_of_readAva last
  | case3 _ ava separator rest first ih =>
    obtain ⟨others, more, rfl⟩ := Attempt.map_eq_ok_iff.mp read
    intro found member
    rcases List.mem_cons.mp member with rfl | later
    · exact wellFormed_of_readAva first
    · exact ih more found later

theorem wellFormed_group {avas : List (Ava × Separator)} (legal : ∀ found ∈ avas, found.1.WellFormed) :
    WellFormed ⟨group avas⟩ := by
  fun_induction group avas with
  | case1 => nofun
  | case2 ava rest ih =>
    have others := ih fun found member => legal found (List.mem_cons_of_mem _ member)
    have first := legal _ List.mem_cons_self
    intro rdn member
    rcases List.mem_cons.mp member with rfl | later
    · exact ⟨List.cons_ne_nil _ _, by simpa using first⟩
    · exact others rdn later
  | case3 ava rest none ih =>
    have first := legal _ List.mem_cons_self
    intro rdn member
    obtain rfl := List.mem_singleton.mp member
    exact ⟨List.cons_ne_nil _ _, by simpa using first⟩
  | case4 ava rest rdn rdns found ih =>
    have others := ih fun found member => legal found (List.mem_cons_of_mem _ member)
    have first := legal _ List.mem_cons_self
    rw [found] at others
    obtain ⟨_, siblings⟩ := others rdn List.mem_cons_self
    intro level member
    rcases List.mem_cons.mp member with rfl | later
    · exact ⟨List.cons_ne_nil _ _, by simpa using ⟨first, siblings⟩⟩
    · exact others level (List.mem_cons_of_mem _ later)

theorem wellFormed_of_ofChars {text : List Char} {name : Dn} (read : ofChars text = .ok name) :
    name.WellFormed := by
  unfold ofChars at read
  split at read
  · cases read
    nofun
  · obtain ⟨avas, found, rfl⟩ := Attempt.map_eq_ok_iff.mp read
    exact wellFormed_group (wellFormed_of_readAvas found)

theorem wellFormed_of_parse {text : String} {name : Dn} (read : parse text = .ok name) :
    name.WellFormed :=
  wellFormed_of_ofChars (parse_eq_ok_iff.mp read)

/-- The well-formed names are those that are read back from their own text, and nothing else is ever read:
whatever text a name came from, its own text means the same. -/
theorem parse_print_name (name : Dn) :
    (name.WellFormed ↔ parse name.print = .ok name) ∧
      ∀ text, parse text = .ok name → name.WellFormed ∧ parse name.print = .ok name := by
  refine ⟨⟨parse_print_of_wellFormed, wellFormed_of_parse⟩, fun text read => ?_⟩
  have legal := wellFormed_of_parse read
  exact ⟨legal, parse_print_of_wellFormed legal⟩

/-- Only the spaces that count are printed, and octets are put together to characters. -/
theorem parse_print_name_spaced :
    ∃ name, parse " cn =  \\ \\20  + OU=#\\00 , dc= \\C3\\a9 #,o=" = .ok name ∧
      name.print = "cn=\\ \\ +OU=\\#\\00,dc=é #,o=" ∧
      name.WellFormed ∧ parse name.print = .ok name := by
  have read : parse " cn =  \\ \\20  + OU=#\\00 , dc= \\C3\\a9 #,o=" = .ok
      ⟨[[⟨"cn", "  "⟩, ⟨"OU", "#\x00"⟩], [⟨"dc", "é #"⟩], [⟨"o", ""⟩]]⟩ := by
    decide +kernel
  exact ⟨_, read, by decide +kernel, (parse_print_name _).2 _ read⟩

end Directory.Dn
