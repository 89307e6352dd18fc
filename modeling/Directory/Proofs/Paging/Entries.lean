import Directory.Proofs.Paging.Cookies
/-!
The entries of all pages. They are handed out in order and each of them once, call after call, and a page is
asked for when everything before it has been handed out, and not earlier.
-/
namespace Directory

open Session

/-- What becomes of the pages of a search. Each leads to the next by its cookie, up to the last, which has none;
or a failure comes in place of a page. -/
inductive Listing : List (Except Error SearchResult) → Prop where
  | last (page : SearchResult) : page.cookie = [] → Listing [.ok page]
  | failed (error : Error) : Listing [.error error]
  | more (page : SearchResult) {later : List (Except Error SearchResult)} : page.cookie ≠ [] → Listing later →
      Listing (.ok page :: later)

namespace Listing

def content : Except Error SearchResult → List (Except Error Entry)
  | .ok page => page.entries.map .ok
  | .error error => [.error error]

def items (answers : List (Except Error SearchResult)) : List (Except Error Entry) := answers.flatMap content

def pages (answers : List (Except Error SearchResult)) : List SearchResult := answers.filterMap Except.toOption

theorem items_cons (answer : Except Error SearchResult) (later : List (Except Error SearchResult)) :
    items (answer :: later) = content answer ++ items later := List.flatMap_cons

theorem items_append (early late : List (Except Error SearchResult)) :
    items (early ++ late) = items early ++ items late := List.flatMap_append

theorem pages_append (early late : List (Except Error SearchResult)) :
    pages (early ++ late) = pages early ++ pages late := List.filterMap_append

def AnsweredBy (asked : List Inquiry) (answers : List (Except Error SearchResult)) : Prop :=
  ∀ (k : Nat) (inquiry : Inquiry) answer, asked[k]? = some inquiry → answers[k]? = some answer →
    inquiry.Brings answer

theorem AnsweredBy.append {asked further : List Inquiry} {answers : List (Except Error SearchResult)}
    (answered : AnsweredBy (asked ++ further) answers) :
    AnsweredBy asked answers ∧ AnsweredBy further (answers.drop asked.length) := by
  constructor
  · intro k inquiry answer search found
    refine answered k inquiry answer ?_ found
    rw [List.getElem?_append_left (List.getElem?_eq_some_iff.mp search).1, search]
  · intro k inquiry answer search found
    rw [List.getElem?_drop] at found
    refine answered (asked.length + k) inquiry answer ?_ found
    rw [List.getElem?_append_right (Nat.le_add_right ..), Nat.add_sub_cancel_left, search]

end Listing

open Listing

namespace PagedEntries

def due (entries : PagedEntries) (answers : List (Except Error SearchResult)) : List (Except Error Entry) :=
  entries.buffer.map .ok ++ items answers

inductive Expects (entries : PagedEntries) : List (Except Error SearchResult) → Prop where
  | spent : (entries.hasFailed || entries.cursor.isExhausted) = true → Expects entries []
  | going (cookie : Octets) {answers : List (Except Error SearchResult)} : entries.hasFailed = false →
      entries.cursor.position.cookie? = some cookie → Listing answers → Expects entries answers

def inquiries (entries : PagedEntries) (session : Session) : List Inquiry :=
  Session.inquiries (entries.steps session) session

/-- What so many calls come to where these are the answers to come: what they hand out, the searches that they
ask for, and what is left. -/
structure Draws (entries : PagedEntries) (answers : List (Except Error SearchResult)) (calls : Nat)
    (handed : List (Option (Except Error Entry))) (asked : List Inquiry) (later : PagedEntries) : Prop where
  handed : handed = (List.range calls).map ((entries.due answers)[·]?)
  due : later.due (answers.drop asked.length) = (entries.due answers).drop calls
  expects : later.Expects (answers.drop asked.length)
  same : later.request = entries.request ∧ later.timeout = entries.timeout
  cursor : later.cursor =
    { entries.cursor with
      position := .beyond (pages (answers.take asked.length)) entries.cursor.position }
  cookies : ∀ k inquiry, asked[k]? = some inquiry → ∃ cookie,
    (Position.beyond (pages (answers.take k)) entries.cursor.position).cookie? = some cookie ∧
      inquiry.request = entries.cursor.pageRequest entries.request cookie
  -- A page is asked for once all that comes before it is handed out and more is wanted.
  lazily : ∀ k, k < asked.length ↔
    k < answers.length ∧ entries.buffer.length + (items (answers.take k)).length < calls

theorem length_due (entries : PagedEntries) (answers : List (Except Error SearchResult)) :
    (entries.due answers).length = entries.buffer.length + (items answers).length := by
  rw [due, List.length_append, List.length_map]

variable {entries later last : PagedEntries} {session : Session} {answers : List (Except Error SearchResult)}

namespace Draws

theorem length_le {calls : Nat} {handed : List (Option (Except Error Entry))} {asked : List Inquiry}
    (draws : entries.Draws answers calls handed asked later) : asked.length ≤ answers.length := by
  have most := draws.lazily answers.length
  omega

/-- No call. -/
theorem none (expects : entries.Expects answers) : entries.Draws answers 0 [] [] entries := by
  constructor
  · rfl
  · rfl
  · exact expects
  · exact ⟨rfl, rfl⟩
  · rfl
  · simp
  · simp

/-- Calls, and calls after them. -/
theorem trans {calls more : Nat} {handed others : List (Option (Except Error Entry))}
    {asked further : List Inquiry} (first : entries.Draws answers calls handed asked later)
    (second : later.Draws (answers.drop asked.length) more others further last) :
    entries.Draws answers (calls + more) (handed ++ others) (asked ++ further) last := by
  have within := first.length_le
  have taken (k : Nat) : answers.take (asked.length + k) =
      answers.take asked.length ++ (answers.drop asked.length).take k := List.take_add
  constructor
  · rw [List.range_add, List.map_append, first.handed, second.handed, first.due, List.map_map]
    congr 1
    apply List.map_congr_left
    intro i _
    rw [Function.comp_apply, List.getElem?_drop]
  · rw [List.length_append, ← List.drop_drop, second.due, first.due, List.drop_drop]
  · rw [List.length_append, ← List.drop_drop]
    exact second.expects
  · exact ⟨second.same.1.trans first.same.1, second.same.2.trans first.same.2⟩
  · rw [second.cursor, first.cursor, List.length_append, taken, pages_append, Position.beyond_append]
  · intro k inquiry member
    by_cases early : k < asked.length
    · rw [List.getElem?_append_left early] at member
      exact first.cookies k inquiry member
    · obtain ⟨j, rfl⟩ := Nat.exists_eq_add_of_le (Nat.not_lt.mp early)
      rw [List.getElem?_append_right (Nat.le_add_right ..), Nat.add_sub_cancel_left] at member
      obtain ⟨cookie, standing, request⟩ := second.cookies j inquiry member
      refine ⟨cookie, ?_, ?_⟩
      · rw [taken, pages_append, Position.beyond_append]
        rw [first.cursor] at standing
        exact standing
      · rw [request, first.cursor, first.same.1]
        rfl
  · intro k
    have due := congrArg List.length first.due
    rw [List.length_drop, length_due, length_due] at due
    have whole := congrArg List.length (items_append (answers.take asked.length) (answers.drop asked.length))
    rw [List.take_append_drop, List.length_append] at whole
    have here := first.lazily asked.length
    by_cases early : k < asked.length
    · have now := (first.lazily k).mp early
      rw [List.length_append]
      omega
    · obtain ⟨j, rfl⟩ := Nat.exists_eq_add_of_le (Nat.not_lt.mp early)
      have after := second.lazily j
      rw [List.length_drop] at after
      rw [taken, items_append, List.length_append, List.length_append]
      omega

end Draws

/-- A page that was fetched for a call, and what the call comes to with it. -/
theorem Draws.fetched {cookie : Octets} {page : SearchResult} {handed : List (Option (Except Error Entry))}
    {asked : List Inquiry} (empty : entries.buffer = [])
    (standing : entries.cursor.position.cookie? = some cookie)
    (rest : Draws { entries with
      cursor := { entries.cursor with position := .behind page.cookie }
      buffer := page.entries } answers 1 handed asked later) :
    entries.Draws (.ok page :: answers) 1 handed
      (⟨session, entries.timeout, entries.cursor.pageRequest entries.request cookie⟩ :: asked) later := by
  have first (k : Nat) :
      pages ((Except.ok page :: answers).take (k + 1)) = [page] ++ pages (answers.take k) := rfl
  have due : entries.due (.ok page :: answers) = page.entries.map .ok ++ items answers := by
    rw [PagedEntries.due, empty, items_cons]
    rfl
  constructor
  · rw [due]
    exact rest.handed
  · rw [due]
    exact rest.due
  · exact rest.expects
  · exact rest.same
  · rw [List.length_cons, first, Position.beyond_append]
    exact rest.cursor
  · intro k inquiry member
    cases k with
    | zero =>
      obtain rfl := Option.some.inj member
      exact ⟨cookie, standing, rfl⟩
    | succ k =>
      rw [first, Position.beyond_append]
      exact rest.cookies k inquiry member
  · intro k
    cases k with
    | zero => simp [empty, items]
    | succ k =>
      have later := rest.lazily k
      rw [List.take_succ_cons, items_cons, Listing.content, List.length_append, List.length_map,
        List.length_cons, List.length_cons, empty, List.length_nil]
      dsimp only at later
      omega

/-- A fetch that failed, which is the last of what is handed out. -/
theorem Draws.failed {cookie : Octets} (empty : entries.buffer = [])
    (standing : entries.cursor.position.cookie? = some cookie) (error : Error) :
    entries.Draws [.error error] 1 [some (.error error)]
      [⟨session, entries.timeout, entries.cursor.pageRequest entries.request cookie⟩]
      { entries with hasFailed := true } := by
  constructor
  · simp [PagedEntries.due, empty, items, Listing.content]
  · simp [PagedEntries.due, empty, items, Listing.content]
  · exact .spent rfl
  · exact ⟨rfl, rfl⟩
  · rfl
  · intro k inquiry member
    obtain ⟨rfl, rfl⟩ : k = 0 ∧ _ = inquiry := by
      rw [List.getElem?_singleton] at member
      split at member
      · next same => exact ⟨same, Option.some.inj member⟩
      · cases member
    exact ⟨cookie, standing, rfl⟩
  · intro k
    cases k with
    | zero => simp [empty, items]
    | succ k => simp

theorem exists_cookie (going : ¬(entries.hasFailed || entries.cursor.isExhausted) = true) :
    ∃ cookie, entries.cursor.position.cookie? = some cookie := by
  rw [Bool.or_eq_true, not_or] at going
  cases standing : entries.cursor.position.cookie? with
  | none => exact absurd ((Cursor.isExhausted_iff _).mpr standing) going.2
  | some cookie => exact ⟨cookie, rfl⟩

theorem Expects.listing (expects : entries.Expects answers)
    (going : ¬(entries.hasFailed || entries.cursor.isExhausted) = true) : Listing answers := by
  cases expects with
  | spent halted => exact absurd halted going
  | going _ _ _ listing => exact listing

theorem Expects.exists_cons (expects : entries.Expects answers)
    (going : ¬(entries.hasFailed || entries.cursor.isExhausted) = true) :
    ∃ answer rest, answers = answer :: rest := by
  cases expects.listing going with
  | last page _ | failed error | more page _ _ => exact ⟨_, _, rfl⟩

/-- Behind a page the rest of the answers is to come. -/
theorem Expects.behind {page : SearchResult} (expects : entries.Expects (.ok page :: answers)) :
    Expects { entries with
      cursor := { entries.cursor with position := .behind page.cookie }
      buffer := page.entries } answers := by
  cases expects with
  | going _ unfailed _ listing =>
    cases listing with
    | last _ done =>
      apply Expects.spent
      rw [done]
      simp [Cursor.isExhausted, Position.behind]
    | more _ leads rest => exact .going page.cookie unfailed (Position.cookie?_behind leads) rest

/-- A fetch comes to what its search is answered with. -/
theorem fetch_of_brings {cookie : Octets} (standing : entries.cursor.position.cookie? = some cookie)
    (sound : session.IsSound) {answer : Except Error SearchResult}
    (brings : Inquiry.Brings ⟨session, entries.timeout, entries.cursor.pageRequest entries.request cookie⟩ answer) :
    ((entries.cursor.fetch entries.timeout entries.request).run session).1 =
      answer.map fun page => (page, { entries.cursor with position := .behind page.cookie }) := by
  rw [Cursor.fetch_run standing, (Inquiry.brings_iff sound answer).mp brings]

section Along

variable {each : Session → Step → List α}

theorem along_idle (idle : entries.buffer ≠ [] ∨ entries.hasFailed = true ∨ entries.cursor.isExhausted = true)
    (session : Session) : along each (entries.steps session) session = [] := by
  rw [steps, if_pos idle]
  rfl

theorem along_request {cookie : Octets} (ignores : Ignores each)
    (standing : entries.cursor.position.cookie? = some cookie) (session : Session) :
    along each (requestSteps session entries.request?) session =
      each session
        (.post (.searchRequest (entries.cursor.pageRequest entries.request cookie)) [] entries.timeout) := by
  rw [request?, Query.request?, standing]
  exact ignores.search _ _ _

theorem along_fetched {cookie : Octets} (ignores : Ignores each) (empty : entries.buffer = [])
    (going : ¬(entries.hasFailed || entries.cursor.isExhausted) = true)
    (standing : entries.cursor.position.cookie? = some cookie) {page : SearchResult} {cursor : Cursor}
    {after : Session} (fetched : (entries.cursor.fetch entries.timeout entries.request).run session =
      (.ok (page, cursor), after)) :
    along each (entries.steps session) session =
      each session
        (.post (.searchRequest (entries.cursor.pageRequest entries.request cookie)) [] entries.timeout) ++
        along each (steps { entries with cursor, buffer := page.entries } after) after := by
  have onwards : run (requestSteps session entries.request?) session = after := by
    rw [run_fetch, fetched]
  rw [steps_fetched empty going fetched, along_append, onwards, along_request ignores standing]

end Along

/-- One call, on a session where the searches that it asks for are answered so. -/
theorem draws_next (expects : entries.Expects answers) (sound : session.IsSound)
    (answered : AnsweredBy (entries.inquiries session) answers) :
    entries.Draws answers 1 [(entries.next session).1.1] (entries.inquiries session)
      (entries.next session).1.2 := by
  fun_induction next entries session generalizing answers with
  | case1 entries session entry rest buffered =>
    have none : entries.inquiries session = [] := along_idle (.inl (by simp [buffered])) session
    rw [none]
    constructor
    · simp [due, buffered]
    · simp [due, buffered]
    · cases expects with
      | spent halted => exact .spent halted
      | going cookie unfailed standing listing => exact .going cookie unfailed standing listing
    · exact ⟨rfl, rfl⟩
    · rfl
    · simp
    · simp [buffered]
  | case2 entries session empty halted =>
    have none : entries.inquiries session = [] := along_idle (.inr (by simpa using halted)) session
    obtain rfl : answers = [] := by
      cases expects with
      | spent _ => rfl
      | going cookie unfailed standing listing =>
        rw [unfailed, Bool.false_or, Cursor.isExhausted_iff, standing] at halted
        cases halted
    rw [none]
    constructor
    · simp [due, empty, items]
    · simp [due, empty, items]
    · exact .spent halted
    · exact ⟨rfl, rfl⟩
    · rfl
    · simp
    · simp
  | case3 entries session empty going error after failed =>
    obtain ⟨cookie, standing⟩ := exists_cookie going
    have asked : entries.inquiries session =
        [⟨session, entries.timeout, entries.cursor.pageRequest entries.request cookie⟩] := by
      rw [inquiries, steps_failed empty going failed]
      exact along_request ignores_inquiries standing session
    obtain ⟨answer, rest, rfl⟩ := expects.exists_cons going
    rw [asked] at answered
    have brings := fetch_of_brings standing sound (answered 0 _ _ rfl rfl)
    rw [failed] at brings
    obtain rfl : answer = .error error := by
      cases answer with
      | error other => exact congrArg _ (Except.error.inj brings).symm
      | ok page => cases brings
    obtain rfl : rest = [] := by
      cases expects.listing going
      rfl
    rw [asked]
    exact .failed empty standing error
  | case4 entries session empty going page cursor after fetched ih =>
    obtain ⟨cookie, standing⟩ := exists_cookie going
    have asked : entries.inquiries session =
        ⟨session, entries.timeout, entries.cursor.pageRequest entries.request cookie⟩ ::
          { entries with cursor, buffer := page.entries }.inquiries after :=
      along_fetched ignores_inquiries empty going standing fetched
    have later : after.IsSound := by
      have evolves := run_evolves (requestSteps session entries.request?) session
      rw [run_fetch, fetched] at evolves
      exact evolves.sound sound
    obtain ⟨answer, rest, rfl⟩ := expects.exists_cons going
    rw [asked] at answered
    have brings := fetch_of_brings standing sound (answered 0 _ _ rfl rfl)
    rw [fetched] at brings
    obtain ⟨rfl, rfl⟩ : answer = .ok page ∧ cursor = { entries.cursor with position := .behind page.cookie } := by
      cases answer with
      | error other => cases brings
      | ok other =>
        cases brings
        exact ⟨rfl, rfl⟩
    rw [asked]
    exact .fetched empty standing (ih expects.behind later fun k => answered (k + 1))

def callByCall (each : PagedEntries → Session → List α) : List Session → PagedEntries → List α
  | [], _ => []
  | session :: sessions, entries =>
    each entries session ++ callByCall each sessions (entries.next session).1.2

def handed : List Session → PagedEntries → List (Option (Except Error Entry)) :=
  callByCall fun entries session => [(entries.next session).1.1]

def asked : List Session → PagedEntries → List Inquiry := callByCall inquiries

def sent : List Session → PagedEntries → List Message :=
  callByCall fun entries session => written (entries.steps session) session

def left (sessions : List Session) (entries : PagedEntries) : PagedEntries :=
  sessions.foldl (fun entries session => (entries.next session).1.2) entries

/-- Calls, one after the other. -/
theorem draws_calls {sessions : List Session} (expects : entries.Expects answers)
    (sound : ∀ session ∈ sessions, session.IsSound) (answered : AnsweredBy (asked sessions entries) answers) :
    entries.Draws answers sessions.length (handed sessions entries) (asked sessions entries)
      (left sessions entries) := by
  induction sessions generalizing entries answers with
  | nil => exact .none expects
  | cons session sessions ih =>
    rw [List.forall_mem_cons] at sound
    obtain ⟨now, after⟩ := AnsweredBy.append answered
    have call := draws_next expects sound.1 now
    have calls := call.trans (ih call.expects sound.2 after)
    rw [List.length_cons, Nat.add_comm]
    exact calls

/-- All that a call writes are the searches that it asks for. -/
theorem written_next (entries : PagedEntries) (session : Session) :
    written (entries.steps session) session = (entries.inquiries session).flatMap Inquiry.writes := by
  rw [written, inquiries, Session.inquiries]
  fun_induction next entries session with
  | case1 entries session entry rest buffered =>
    rw [along_idle (.inl (by simp [buffered])), along_idle (.inl (by simp [buffered])), List.flatMap_nil]
  | case2 entries session empty halted =>
    rw [along_idle (.inr (by simpa using halted)), along_idle (.inr (by simpa using halted)), List.flatMap_nil]
  | case3 entries session empty going error after failed =>
    obtain ⟨cookie, standing⟩ := exists_cookie going
    rw [steps_failed empty going failed, along_request ignores_writes standing,
      along_request ignores_inquiries standing]
    exact (List.flatMap_singleton ..).symm
  | case4 entries session empty going page cursor after fetched ih =>
    obtain ⟨cookie, standing⟩ := exists_cookie going
    rw [along_fetched ignores_writes empty going standing fetched,
      along_fetched ignores_inquiries empty going standing fetched, ih, List.flatMap_append]
    exact congrArg (· ++ _) (List.flatMap_singleton ..).symm

theorem sent_eq (sessions : List Session) (entries : PagedEntries) :
    sent sessions entries = (asked sessions entries).flatMap Inquiry.writes := by
  induction sessions generalizing entries with
  | nil => rfl
  | cons session sessions ih =>
    rw [sent, callByCall, written_next, asked, callByCall, List.flatMap_append]
    exact congrArg _ (ih _)

theorem sound_of_mem_asked {sessions : List Session} (sound : ∀ session ∈ sessions, session.IsSound) :
    ∀ inquiry ∈ asked sessions entries, inquiry.session.IsSound := by
  induction sessions generalizing entries with
  | nil => exact List.forall_mem_nil _
  | cons session sessions ih =>
    rw [List.forall_mem_cons] at sound
    intro inquiry member
    rcases List.mem_append.mp member with now | later
    · exact sound_of_mem_inquiries sound.1 inquiry now
    · exact ih sound.2 inquiry later

/-- A cursor that has come so far along a listing asks with the cookie of the page before. -/
theorem cookie_of_listing (listing : Listing answers) {start : Position} {first cookie : Octets}
    (opening : start.cookie? = some first) {k : Nat} (within : k < answers.length)
    (standing : (Position.beyond (pages (answers.take k)) start).cookie? = some cookie) :
    (first :: (pages answers).map SearchResult.cookie)[k]? = some cookie := by
  induction listing generalizing start first k with
  | last | failed =>
    obtain rfl : k = 0 := Nat.lt_one_iff.mp within
    exact opening.symm.trans standing
  | more page leads rest ih =>
    cases k with
    | zero => exact opening.symm.trans standing
    | succ k =>
      rw [List.take_succ_cons, ← List.singleton_append, pages_append, Position.beyond_append] at standing
      exact ih (Position.cookie?_behind leads) (Nat.lt_of_succ_lt_succ within) standing

/-- Where a server answers page after page, calls to `next` hand out all entries in order and each of them once,
and then the failure if there is one, and nothing after that. The requests ask for pages of one size, each with
the cookie of the page before, and there are as many of them as pages; each is sent by the call that comes when
all entries before its page are handed out. The cursor is left behind the last page that was fetched. -/
theorem pages_handed_out_once (listing : Listing answers) {first : Octets} (empty : entries.buffer = [])
    (unfailed : entries.hasFailed = false) (start : entries.cursor.position.cookie? = some first)
    {sessions : List Session} (sound : ∀ session ∈ sessions, session.IsSound)
    (answered : AnsweredBy (asked sessions entries) answers) :
    handed sessions entries = (List.range sessions.length).map ((items answers)[·]?) ∧
      (∀ k, k < (asked sessions entries).length ↔
        k < answers.length ∧ (items (answers.take k)).length < sessions.length) ∧
      (asked sessions entries).map Inquiry.request =
        ((first :: (pages answers).map SearchResult.cookie).take (asked sessions entries).length).map
          (entries.cursor.pageRequest entries.request) ∧
      sent sessions entries = (asked sessions entries).flatMap Inquiry.writes ∧
      (∀ (k : Nat) inquiry page, (asked sessions entries)[k]? = some inquiry →
        answers[k]? = some (.ok page) →
        inquiry.writes = [⟨inquiry.session.nextId, .searchRequest inquiry.request, []⟩]) ∧
      (left sessions entries).cursor = { entries.cursor with
        position := .beyond (pages (answers.take (asked sessions entries).length)) entries.cursor.position } := by
  have draws := draws_calls (.going first unfailed start listing) sound answered
  have whole : entries.due answers = items answers := by
    rw [due, empty]
    rfl
  refine ⟨?_, ?_, ?_, sent_eq sessions entries, ?_, draws.cursor⟩
  · rw [draws.handed, whole]
  · intro k
    rw [draws.lazily, empty, List.length_nil, Nat.zero_add]
  · apply List.ext_getElem?
    intro k
    rw [List.getElem?_map, List.getElem?_map, List.getElem?_take]
    by_cases within : k < (asked sessions entries).length
    · have search := List.getElem?_eq_getElem within
      obtain ⟨cookie, standing, request⟩ := draws.cookies k _ search
      have short := Nat.lt_of_lt_of_le within draws.length_le
      rw [if_pos within, search, cookie_of_listing listing start short standing, Option.map_some,
        Option.map_some, request]
    · rw [if_neg within, List.getElem?_eq_none (Nat.not_lt.mp within)]
      rfl
  · intro k inquiry page search answer
    exact Inquiry.writes_of_brings
      (sound_of_mem_asked sound inquiry (List.mem_of_getElem? search)) (answered k _ _ search answer)

def booklet : Session :=
  establish
    { script :=
        [.actions [.message none (.searchDone ⟨.success, "", "", []⟩ (some ⟨0, [7], false⟩)) []],
          .actions
            [.message none (.searchEntry ⟨.root, .empty⟩) [],
              .message none (.searchDone ⟨.success, "", "", []⟩ none) []]] } {}

def firstPage : SearchResult := ⟨[], [], ⟨.success, "", "", []⟩, [7]⟩

def secondPage : SearchResult := ⟨[⟨.root, .empty⟩], [], ⟨.success, "", "", []⟩, []⟩

def twoAtATime : Cursor := ⟨2, .notStarted, by decide⟩

def unopened : PagedEntries := { cursor := twoAtATime, request := Cursor.nines, timeout := 10 }

def turned : Session := ((twoAtATime.fetch 10 Cursor.nines).run booklet).2

def halfway : PagedEntries :=
  { cursor := { twoAtATime with position := .hasMore [7] }, request := Cursor.nines, timeout := 10 }

def readThrough : PagedEntries :=
  { cursor := { twoAtATime with position := .exhausted }, request := Cursor.nines, timeout := 10 }

theorem next_booklet :
    unopened.inquiries booklet =
        [⟨booklet, 10, twoAtATime.pageRequest Cursor.nines []⟩,
          ⟨turned, 10, twoAtATime.pageRequest Cursor.nines [7]⟩] ∧
      (unopened.next booklet).1.2 = readThrough := by
  have opened : (twoAtATime.fetch 10 Cursor.nines).run booklet = (.ok (firstPage, halfway.cursor), turned) :=
    Prod.ext (by decide +kernel) rfl
  have closed : (halfway.cursor.fetch 10 Cursor.nines).run turned =
      (.ok (secondPage, readThrough.cursor), ((halfway.cursor.fetch 10 Cursor.nines).run turned).2) :=
    Prod.ext (by decide +kernel) rfl
  have starting : ¬(unopened.hasFailed || unopened.cursor.isExhausted) = true := by decide
  have going : ¬(halfway.hasFailed || halfway.cursor.isExhausted) = true := by decide
  have early : unopened.inquiries booklet = _ := along_fetched ignores_inquiries rfl starting rfl opened
  have late : halfway.inquiries turned = _ := along_fetched ignores_inquiries rfl going rfl closed
  have first : unopened.next booklet = halfway.next turned := next_fetched rfl starting opened
  have second : halfway.next turned = _ := next_fetched rfl going closed
  constructor
  · rw [along_idle (.inl (by decide))] at late
    rw [early]
    exact congrArg (_ :: ·) late
  · rw [first, second, next]
    rfl

theorem handed_booklet :
    Listing [.ok firstPage, .ok secondPage] ∧ booklet.IsSound ∧
      AnsweredBy (asked [booklet, booklet] unopened) [.ok firstPage, .ok secondPage] ∧
      handed [booklet, booklet] unopened = [some (.ok ⟨.root, .empty⟩), none] ∧
      (asked [booklet, booklet] unopened).map Inquiry.request =
        [{ Cursor.nines with paging := some ⟨2, [], false⟩ },
          { Cursor.nines with paging := some ⟨2, [7], false⟩ }] := by
  have listing : Listing [.ok firstPage, .ok secondPage] :=
    .more firstPage (by decide) (.last secondPage rfl)
  have new : booklet.IsNew := ⟨_, _, .inr rfl⟩
  have sound : ∀ session ∈ [booklet, booklet], session.IsSound := by
    simpa using new.isSound
  obtain ⟨searches, left⟩ := next_booklet
  have none : readThrough.inquiries booklet = [] := along_idle (.inr (.inr rfl)) booklet
  have all : asked [booklet, booklet] unopened = unopened.inquiries booklet := by
    rw [asked, callByCall, callByCall, left, none]
    exact List.append_nil _
  rw [searches] at all
  have answered : AnsweredBy (asked [booklet, booklet] unopened) [.ok firstPage, .ok secondPage] := by
    have steady : ∀ inquiry ∈ asked [booklet, booklet] unopened, inquiry.session.IsSound :=
      sound_of_mem_asked sound
    rw [all] at steady ⊢
    rintro (_ | _ | k) inquiry answer search found
    · cases search
      cases found
      exact (Inquiry.brings_iff new.isSound _).mpr (by decide +kernel)
    · cases search
      cases found
      exact (Inquiry.brings_iff (steady _ (by simp)) _).mpr (by decide +kernel)
    · cases search
  obtain ⟨entries, _, requests, _⟩ := pages_handed_out_once listing rfl rfl rfl sound answered
  refine ⟨listing, new.isSound, answered, entries, ?_⟩
  rw [requests, all]
  rfl

end PagedEntries

end Directory
