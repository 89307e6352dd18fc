import Directory.Proofs.Paging.Entries
import Directory.Proofs.Session.Recorded
/-!
What a paged search sends. Whatever its pages are and whatever becomes of it, each of its requests asks for the
page behind the last one that came, and the peer gets the requests one frame each and in order, up to one that
could not be sent.
-/
namespace Directory

open Session Listing

namespace Session.Inquiry

def message (inquiry : Inquiry) : Message := ⟨inquiry.session.nextId, .searchRequest inquiry.request, []⟩

theorem writes_of_ready {inquiry : Inquiry} (ready : inquiry.session.IsReady) :
    inquiry.writes = [inquiry.message] := writes_of_isReady ready _ _ _

def result (inquiry : Inquiry) : Except Error SearchResult :=
  ((search inquiry.timeout inquiry.request).run inquiry.session).1

def brought (asked : List Inquiry) : List SearchResult := pages (asked.map result)

theorem brought_append (early late : List Inquiry) : brought (early ++ late) = brought early ++ brought late := by
  rw [brought, List.map_append, pages_append]
  rfl

/-- Each of the searches asks with the cookie of the place where the ones before it have led, from one place to
another. -/
inductive Pursues (size : UInt32) (request : SearchRequest) : Position → List Inquiry → Position → Prop where
  | rest (place : Position) : Pursues size request place [] place
  | ask {place last : Position} {cookie : Octets} {inquiry : Inquiry} {later : List Inquiry} :
      place.cookie? = some cookie → inquiry.request = { request with paging := some ⟨size, cookie, false⟩ } →
      Pursues size request (.beyond (brought [inquiry]) place) later last →
      Pursues size request place (inquiry :: later) last

namespace Pursues

variable {size : UInt32} {request : SearchRequest} {place next last : Position} {early late : List Inquiry}

theorem trans (first : Pursues size request place early next) (second : Pursues size request next late last) :
    Pursues size request place (early ++ late) last := by
  induction first with
  | rest => exact second
  | ask standing asks _ ih => exact .ask standing asks (ih second)

theorem asks (pursues : Pursues size request place early last) {k : Nat} {inquiry : Inquiry}
    (search : early[k]? = some inquiry) : ∃ cookie,
      (Position.beyond (brought (early.take k)) place).cookie? = some cookie ∧
        inquiry.request = { request with paging := some ⟨size, cookie, false⟩ } := by
  induction pursues generalizing k with
  | rest => cases search
  | @ask place _ cookie first later standing asks _ ih =>
    cases k with
    | zero =>
      obtain rfl := Option.some.inj search
      exact ⟨cookie, standing, asks⟩
    | succ k =>
      have further := ih search
      rwa [← Position.beyond_append, ← brought_append] at further

/-- From the beginning, each of the searches asks for the page behind those that the ones before it brought. -/
theorem asks_behind (pursues : Pursues size request .notStarted early last) {k : Nat} {inquiry : Inquiry}
    (search : early[k]? = some inquiry) : inquiry.request = request.behind size (brought (early.take k)) := by
  obtain ⟨cookie, standing, asks⟩ := pursues.asks search
  have going : Position.beyond (brought (early.take k)) .notStarted ≠ .exhausted := by
    intro spent
    rw [spent] at standing
    cases standing
  obtain rfl : lastCookie _ = cookie := Option.some.inj ((Position.cookie?_beyond going).symm.trans standing)
  exact asks

end Pursues

end Session.Inquiry

open Inquiry

namespace PagedEntries

variable {entries : PagedEntries} {session after : Session}

def inquiry (entries : PagedEntries) (session : Session) (cookie : Octets) : Inquiry :=
  ⟨session, entries.timeout, entries.cursor.pageRequest entries.request cookie⟩

theorem fetch_eq {cookie : Octets} (standing : entries.cursor.position.cookie? = some cookie) (session : Session) :
    ((entries.cursor.fetch entries.timeout entries.request).run session).1 =
      (entries.inquiry session cookie).result.map fun page =>
        (page, { entries.cursor with position := .behind page.cookie }) := by
  rw [Cursor.fetch_run standing]
  rfl

/-- A page that was fetched, and where the cursor has come with it. -/
theorem brought_of_fetched {cookie : Octets} (standing : entries.cursor.position.cookie? = some cookie)
    {page : SearchResult} {cursor : Cursor}
    (fetched : (entries.cursor.fetch entries.timeout entries.request).run session = (.ok (page, cursor), after)) :
    brought [entries.inquiry session cookie] = [page] ∧
      cursor = { entries.cursor with position := .behind page.cookie } := by
  have found := fetch_eq standing session
  rw [fetched] at found
  obtain ⟨same, result, moved⟩ := exists_of_map_ok found.symm
  cases moved
  exact ⟨by rw [brought, List.map_singleton, result]; rfl, rfl⟩

theorem brought_of_failed {cookie : Octets} (standing : entries.cursor.position.cookie? = some cookie)
    {error : Error}
    (failed : (entries.cursor.fetch entries.timeout entries.request).run session = (.error error, after)) :
    brought [entries.inquiry session cookie] = [] := by
  have found := fetch_eq standing session
  rw [failed] at found
  rw [brought, List.map_singleton]
  cases result : (entries.inquiry session cookie).result with
  | error other => rfl
  | ok page =>
    rw [result] at found
    cases found

/-- One call asks for page after page. -/
theorem pursues_next (entries : PagedEntries) (session : Session) :
    Pursues entries.cursor.pageSize entries.request entries.cursor.position (entries.inquiries session)
        (entries.next session).1.2.cursor.position ∧
      (entries.next session).1.2.cursor.pageSize = entries.cursor.pageSize ∧
      (entries.next session).1.2.request = entries.request := by
  fun_induction next entries session with
  | case1 entries session entry rest buffered =>
    have none : entries.inquiries session = [] := along_idle (.inl (by simp [buffered])) session
    rw [none]
    exact ⟨.rest _, rfl, rfl⟩
  | case2 entries session empty halted =>
    have none : entries.inquiries session = [] := along_idle (.inr (by simpa using halted)) session
    rw [none]
    exact ⟨.rest _, rfl, rfl⟩
  | case3 entries session empty going error after failed =>
    obtain ⟨cookie, standing⟩ := exists_cookie going
    have asked : entries.inquiries session = [entries.inquiry session cookie] := by
      rw [inquiries, steps_failed empty going failed]
      exact along_request ignores_inquiries standing session
    rw [asked]
    refine ⟨.ask standing rfl ?_, rfl, rfl⟩
    rw [brought_of_failed standing failed]
    exact .rest _
  | case4 entries session empty going page cursor after fetched ih =>
    obtain ⟨cookie, standing⟩ := exists_cookie going
    have asked : entries.inquiries session =
        entries.inquiry session cookie :: { entries with cursor, buffer := page.entries }.inquiries after :=
      along_fetched ignores_inquiries empty going standing fetched
    obtain ⟨brings, rfl⟩ := brought_of_fetched standing fetched
    obtain ⟨pursues, sized, same⟩ := ih
    rw [asked]
    refine ⟨.ask standing rfl ?_, sized, same⟩
    rw [brings]
    exact pursues

/-- Calls, one after the other, whatever is done with the sessions between them. -/
theorem pursues_calls (sessions : List Session) (entries : PagedEntries) :
    Pursues entries.cursor.pageSize entries.request entries.cursor.position (asked sessions entries)
        (left sessions entries).cursor.position ∧
      (left sessions entries).cursor.pageSize = entries.cursor.pageSize ∧
      (left sessions entries).request = entries.request := by
  induction sessions generalizing entries with
  | nil => exact ⟨.rest _, rfl, rfl⟩
  | cons session sessions ih =>
    obtain ⟨pursues, sized, same⟩ := entries.pursues_next session
    have further := ih (entries.next session).1.2
    rw [sized, same] at further
    exact ⟨pursues.trans further.1, further.2⟩

/-- A search for a page asks for the one behind all that came, in this call and in those before it. -/
theorem request_of_left (unopened : entries.cursor.position = .notStarted) (earlier : List Session) {k : Nat}
    {inquiry : Inquiry} (search : ((left earlier entries).inquiries session)[k]? = some inquiry) :
    inquiry.request = entries.request.behind entries.cursor.pageSize
      (brought (asked earlier entries ++ ((left earlier entries).inquiries session).take k)) := by
  obtain ⟨before, sized, same⟩ := pursues_calls earlier entries
  have now := ((left earlier entries).pursues_next session).1
  rw [sized, same] at now
  have pursues := before.trans now
  rw [unopened] at pursues
  have found : (asked earlier entries ++
      (left earlier entries).inquiries session)[(asked earlier entries).length + k]? = some inquiry := by
    rw [List.getElem?_append_right (Nat.le_add_right ..), Nat.add_sub_cancel_left, search]
  have asks := pursues.asks_behind found
  rwa [List.take_length_add_append] at asks

/-- The search of a page fails without a trace with the peer, or the peer gets it as one frame. -/
theorem tells_fetch {cookie : Octets} (standing : entries.cursor.position.cookie? = some cookie)
    (flushed : session.IsFlushed) {result : Except Error (SearchResult × Cursor)}
    (fetched : (entries.cursor.fetch entries.timeout entries.request).run session = (result, after)) :
    session.Tells (entries.inquiry session cookie).message result after := by
  have told :=
    (Request.search entries.timeout (entries.cursor.pageRequest entries.request cookie) []).tells nofun flushed
  have same := Cursor.fetch_run standing entries.timeout entries.request session
  rw [fetched] at same
  obtain ⟨rfl, rfl⟩ := Prod.mk.inj same
  exact told.bind rfl

theorem flushed_fetch (sound : session.IsSound) (flushed : session.IsFlushed)
    {result : Except Error (SearchResult × Cursor)}
    (fetched : (entries.cursor.fetch entries.timeout entries.request).run session = (result, after)) :
    after.IsSound ∧ after.IsFlushed := by
  have onwards : run (requestSteps session entries.request?) session = after := by
    rw [run_fetch, fetched]
  rw [← onwards]
  refine ⟨(run_evolves _ session).sound sound, run_isFlushed sound ?_ flushed⟩
  intro step member
  unfold requestSteps at member
  split at member
  · exact Step.returnsFlushed_of_plain (plain_requestSteps _ session step member)
  · cases member

/-- The peer gets the requests of a call as one frame each, all of them or, if the call fails, all up to one that
could not be sent. -/
theorem sent_next (entries : PagedEntries) (sound : session.IsSound) (flushed : session.IsFlushed) :
    ∃ gone, gone <+: entries.inquiries session ∧
      (gone = entries.inquiries session ∨ ∃ error, (entries.next session).1.1 = some (.error error)) ∧
      (entries.next session).2.transport.sent =
        session.transport.sent ++ (gone.map Inquiry.message).map Message.encode ∧
      (gone.map Inquiry.message).Sublist (written (entries.steps session) session) := by
  rw [written_next]
  -- Page by page. Only the fetch that ends the call can fail, so a request that is not sent is the last one.
  fun_induction next entries session with
  | case1 entries session entry rest buffered =>
    have none : entries.inquiries session = [] := along_idle (.inl (by simp [buffered])) session
    exact ⟨[], List.nil_prefix, .inl none.symm, (List.append_nil _).symm, List.nil_sublist _⟩
  | case2 entries session empty halted =>
    have none : entries.inquiries session = [] := along_idle (.inr (by simpa using halted)) session
    exact ⟨[], List.nil_prefix, .inl none.symm, (List.append_nil _).symm, List.nil_sublist _⟩
  | case3 entries session empty going error after failed =>
    obtain ⟨cookie, standing⟩ := exists_cookie going
    have asked : entries.inquiries session = [entries.inquiry session cookie] := by
      rw [inquiries, steps_failed empty going failed]
      exact along_request ignores_inquiries standing session
    rw [asked]
    cases tells_fetch standing flushed failed with
    | nothing _ same =>
      refine ⟨[], List.nil_prefix, .inr ⟨error, rfl⟩, ?_, List.nil_sublist _⟩
      rw [same]
      exact (List.append_nil _).symm
    | whole grown ready =>
      refine ⟨_, List.prefix_refl _, .inl rfl, grown, ?_⟩
      rw [List.flatMap_singleton, writes_of_ready ready]
      exact List.Sublist.refl _
  | case4 entries session empty going page cursor after fetched ih =>
    obtain ⟨cookie, standing⟩ := exists_cookie going
    have asked : entries.inquiries session =
        entries.inquiry session cookie :: { entries with cursor, buffer := page.entries }.inquiries after :=
      along_fetched ignores_inquiries empty going standing fetched
    obtain ⟨later, idle⟩ := flushed_fetch sound flushed fetched
    obtain _ | ⟨grown, ready⟩ := tells_fetch standing flushed fetched
    obtain ⟨gone, front, all, more, part⟩ := ih later idle
    refine ⟨entries.inquiry session cookie :: gone, ?_, ?_, ?_, ?_⟩
    · rw [asked]
      exact List.cons_prefix_cons.mpr ⟨rfl, front⟩
    · rw [asked]
      exact all.imp_left (congrArg _)
    · rw [more, grown, List.append_assoc]
      rfl
    · rw [asked, List.flatMap_cons, writes_of_ready ready]
      exact part.cons_cons _

end PagedEntries

end Directory
