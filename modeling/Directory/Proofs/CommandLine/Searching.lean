import Directory.CommandLine
import Directory.Proofs.Paging.Collection
import Directory.Proofs.Session.Meaning
/-!
What a search prints. With pages and without, the entries and their count are the same, however the server spreads
them over its pages. The references are printed without pages only.
-/
namespace Directory.CommandLine

open Session PagedEntries Listing

def referenceLines (urls : List String) : List String := urls.map fun url => s!"# referral: {url}"

def opened (session : Session) (request : SearchRequest) {pageSize : UInt32} (positive : pageSize ≠ 0) :
    PagedEntries where
  cursor := ⟨pageSize, .notStarted, positive⟩
  request := request
  timeout := session.config.operationTimeout

variable {base filter : String} {scope : Scope} {attributes : List String} {request : SearchRequest}
  {session : Session}

theorem plainSearch_prints (asks : Client.Asks base scope filter attributes request) (sound : session.IsSound)
    {result : SearchResult} (answers : session.Answers session.config.operationTimeout request result) :
    ((Command.search base scope 0 filter attributes).execute session).1 =
      ⟨result.entries.flatMap entryLines ++ referenceLines result.referrals ++ [countLine result.entries],
        .ok ()⟩ := by
  have made := Client.searchRequest_eq_ok_iff.mpr asks
  have found := (search_ok_iff sound _ _ _).mpr answers
  have called : (Client.search base scope filter attributes).run session =
      (.ok result, ((search session.config.operationTimeout request).run session).2) := by
    rw [Client.search, SessionM.run_bind, SessionM.run_lift, made]
    exact Prod.ext found rfl
  rw [Command.execute, if_pos rfl, plainSearch, printing, SessionM.run_bind, called]
  rfl

theorem pagedSearch_prints (asks : Client.Asks base scope filter attributes request) (sound : session.IsSound)
    {pageSize : UInt32} (positive : pageSize ≠ 0) {pages : List SearchResult}
    (listing : Listing (pages.map .ok))
    (answered : AnsweredBy ((opened session request positive).searches session) (pages.map .ok)) :
    ((Command.search base scope pageSize filter attributes).execute session).1 =
      ⟨(pages.flatMap SearchResult.entries).flatMap entryLines ++
        [countLine (pages.flatMap SearchResult.entries)], .ok ()⟩ := by
  have made := Client.searchRequest_eq_ok_iff.mpr asks
  have begun : (Client.pagedSearch base scope filter attributes pageSize).run session =
      (.ok (opened session request positive), session) := by
    rw [Client.pagedSearch, SessionM.run_bind, SessionM.run_lift, Cursor.ofPageSize, dif_neg positive]
    dsimp only
    rw [SessionM.run_bind, SessionM.run_lift, made]
    rfl
  have collected := collect_of_pages rfl (.going [] rfl rfl listing) sound answered
  rw [Command.execute, if_neg positive, pagedSearch, begun]
  dsimp only
  generalize (opened session request positive).collect session = outcome at collected ⊢
  obtain ⟨⟨entries, ending⟩, after⟩ := outcome
  cases collected
  rfl

/-- A search prints the same with pages and without, if and only if there are no references. The entries and their
count are the same in any case, and the references are left out where there are pages. -/
theorem searches_print_alike_iff {plain paged : Session} (asks : Client.Asks base scope filter attributes request)
    {pageSize : UInt32} (positive : pageSize ≠ 0) (plainSound : plain.IsSound) (pagedSound : paged.IsSound)
    {whole : SearchResult} {pages : List SearchResult}
    (answers : plain.Answers plain.config.operationTimeout request whole)
    (listing : Listing (pages.map .ok))
    (answered : AnsweredBy ((opened paged request positive).searches paged) (pages.map .ok))
    (entries : whole.entries = pages.flatMap SearchResult.entries)
    (references : whole.referrals = pages.flatMap SearchResult.referrals) :
    let printed := ((Command.search base scope 0 filter attributes).execute plain).1
    let printedByPage := ((Command.search base scope pageSize filter attributes).execute paged).1
    printed = ⟨whole.entries.flatMap entryLines ++ referenceLines (pages.flatMap SearchResult.referrals) ++
        [countLine whole.entries], .ok ()⟩ ∧
      printedByPage = ⟨whole.entries.flatMap entryLines ++ [countLine whole.entries], .ok ()⟩ ∧
      (printed = printedByPage ↔ ∀ page ∈ pages, page.referrals = []) := by
  intro printed printedByPage
  have plainly : printed = _ := plainSearch_prints asks plainSound answers
  have byPage : printedByPage = _ := pagedSearch_prints asks pagedSound positive listing answered
  rw [references] at plainly
  rw [← entries] at byPage
  refine ⟨plainly, byPage, ?_⟩
  rw [plainly, byPage, Report.mk.injEq, List.append_assoc, List.append_cancel_left_eq, List.append_left_eq_self,
    and_iff_left rfl, referenceLines, List.map_eq_nil_iff, List.flatMap_eq_nil_iff]

def anyEntry : SearchRequest := { base := .root, scope := .base, filter := .present "a" }

theorem asks_anyEntry : Client.Asks "" .base "(a=*)" [] anyEntry := .intro (by decide +kernel) (by decide +kernel)

def answeredAtOnce : Session :=
  establish
    { script :=
        [.actions
          [.message none (.searchEntry ⟨.root, .empty⟩) [], .message none (.searchReference ["ldap://b"]) [],
            .message none (.searchDone ⟨.success, "", "", []⟩ none) []]] } {}

def answeredByPage : Session :=
  establish
    { script :=
        [.actions
          [.message none (.searchReference ["ldap://b"]) [],
            .message none (.searchDone ⟨.success, "", "", []⟩ (some ⟨0, [7], false⟩)) []],
          .actions
            [.message none (.searchEntry ⟨.root, .empty⟩) [],
              .message none (.searchDone ⟨.success, "", "", []⟩ none) []]] } {}

def wholeAnswer : SearchResult := ⟨[⟨.root, .empty⟩], ["ldap://b"], ⟨.success, "", "", []⟩, []⟩

def referencePage : SearchResult := ⟨[], ["ldap://b"], ⟨.success, "", "", []⟩, [7]⟩

def entryPage : SearchResult := ⟨[⟨.root, .empty⟩], [], ⟨.success, "", "", []⟩, []⟩

theorem sound_atOnce : answeredAtOnce.IsSound := IsNew.isSound ⟨_, _, .inr rfl⟩

theorem sound_byPage : answeredByPage.IsSound := IsNew.isSound ⟨_, _, .inr rfl⟩

theorem answers_atOnce : answeredAtOnce.Answers 30000 anyEntry wholeAnswer :=
  (search_ok_iff sound_atOnce _ _ _).mp (by decide +kernel)

theorem two_positive : (2 : UInt32) ≠ 0 := by decide

def pageOne : PagedEntries := opened answeredByPage anyEntry two_positive

def pageTwo : PagedEntries := { pageOne with cursor := { pageOne.cursor with position := .hasMore [7] } }

def noPage : PagedEntries := { pageOne with cursor := { pageOne.cursor with position := .exhausted } }

def turnedOnce : Session := ((pageOne.cursor.fetch 30000 anyEntry).run answeredByPage).2

def turnedTwice : Session := ((pageTwo.cursor.fetch 30000 anyEntry).run turnedOnce).2

theorem searches_byPage :
    pageOne.searches answeredByPage =
      [⟨answeredByPage, 30000, pageOne.cursor.pageRequest anyEntry []⟩,
        ⟨turnedOnce, 30000, pageOne.cursor.pageRequest anyEntry [7]⟩] := by
  have first : (pageOne.cursor.fetch 30000 anyEntry).run answeredByPage =
      (.ok (referencePage, pageTwo.cursor), turnedOnce) :=
    Prod.ext (by decide +kernel) rfl
  have second : (pageTwo.cursor.fetch 30000 anyEntry).run turnedOnce =
      (.ok (entryPage, noPage.cursor), turnedTwice) :=
    Prod.ext (by decide +kernel) rfl
  have starting : ¬(pageOne.hasFailed || pageOne.cursor.isExhausted) = true := by decide
  have going : ¬(pageTwo.hasFailed || pageTwo.cursor.isExhausted) = true := by decide
  have handed : pageOne.next answeredByPage = ((some (.ok ⟨.root, .empty⟩), noPage), turnedTwice) := by
    have early : pageOne.next answeredByPage = pageTwo.next turnedOnce := next_fetched rfl starting first
    have late : pageTwo.next turnedOnce = _ := next_fetched rfl going second
    rw [early, late, next]
    rfl
  have ended : noPage.next turnedTwice = ((none, noPage), turnedTwice) := by
    rw [next]
    rfl
  -- The first call asks for both pages, the second for none.
  have early : pageOne.inquiries answeredByPage = _ := along_fetched ignores_inquiries rfl starting rfl first
  have late : pageTwo.inquiries turnedOnce = _ := along_fetched ignores_inquiries rfl going rfl second
  have nothing : noPage.inquiries turnedTwice = [] := along_idle (.inr (.inr rfl)) turnedTwice
  rw [along_idle (.inl (by decide))] at late
  rw [searches, visits_more handed, visits_last (by simp [ended]), asked, callByCall, callByCall, handed, nothing,
    early]
  exact congrArg (_ :: · ++ []) late

theorem answered_byPage : AnsweredBy (pageOne.searches answeredByPage) ([referencePage, entryPage].map .ok) := by
  have steady : ∀ inquiry ∈ pageOne.searches answeredByPage, inquiry.session.IsSound :=
    sound_of_mem_asked (sound_of_mem_visits sound_byPage)
  rw [searches_byPage] at steady ⊢
  rintro (_ | _ | k) inquiry answer search found
  · cases search
    cases found
    exact (Inquiry.brings_iff sound_byPage _).mpr (by decide +kernel)
  · cases search
    cases found
    exact (Inquiry.brings_iff (steady _ (by simp)) _).mpr (by decide +kernel)
  · cases search

theorem listing_byPage : Listing ([referencePage, entryPage].map .ok) :=
  .more referencePage (by decide) (.last entryPage rfl)

theorem searches_print_alike_twoPages :
    Client.Asks "" .base "(a=*)" [] anyEntry ∧ answeredAtOnce.Answers 30000 anyEntry wholeAnswer ∧
      Listing ([referencePage, entryPage].map .ok) ∧
      AnsweredBy (pageOne.searches answeredByPage) ([referencePage, entryPage].map .ok) ∧
      ((Command.search "" .base 0 "(a=*)" []).execute answeredAtOnce).1 =
        ⟨["dn: ", "", "# referral: ldap://b", "# 1 entries"], .ok ()⟩ ∧
      ((Command.search "" .base 2 "(a=*)" []).execute answeredByPage).1 =
        ⟨["dn: ", "", "# 1 entries"], .ok ()⟩ := by
  obtain ⟨plain, byPage, -⟩ := searches_print_alike_iff asks_anyEntry two_positive sound_atOnce
    sound_byPage answers_atOnce listing_byPage answered_byPage rfl rfl
  refine ⟨asks_anyEntry, answers_atOnce, listing_byPage, answered_byPage, plain.trans ?_, byPage.trans ?_⟩
  · exact congrArg (Report.mk · (.ok ())) (by decide +kernel)
  · exact congrArg (Report.mk · (.ok ())) (by decide +kernel)

/-- The pages hold what is in the one answer, and the reference on the first of them is not printed. -/
theorem reference_left_out :
    answeredAtOnce.Answers 30000 anyEntry wholeAnswer ∧ Listing ([referencePage, entryPage].map .ok) ∧
      AnsweredBy (pageOne.searches answeredByPage) ([referencePage, entryPage].map .ok) ∧
      wholeAnswer.entries = [referencePage, entryPage].flatMap SearchResult.entries ∧
      wholeAnswer.referrals = [referencePage, entryPage].flatMap SearchResult.referrals ∧
      ((Command.search "" .base 0 "(a=*)" []).execute answeredAtOnce).1.printed ≠
        ((Command.search "" .base 2 "(a=*)" []).execute answeredByPage).1.printed := by
  refine ⟨answers_atOnce, listing_byPage, answered_byPage, rfl, rfl, ?_⟩
  rw [plainSearch_prints asks_anyEntry sound_atOnce answers_atOnce,
    pagedSearch_prints asks_anyEntry sound_byPage two_positive listing_byPage answered_byPage]
  decide +kernel

end Directory.CommandLine
