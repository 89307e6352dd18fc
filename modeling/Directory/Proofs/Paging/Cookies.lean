import Directory.Proofs.Session.Findings
/-!
The cookies of a cursor. Whatever becomes of the fetches, the cursor stands behind the last page that was
fetched, and asks for the next one with the cookie that came with that page.
-/
namespace Directory

open Session

def lastCookie (pages : List SearchResult) : Octets := (pages.getLast?.map SearchResult.cookie).getD []

def SearchRequest.behind (request : SearchRequest) (size : UInt32) (pages : List SearchResult) : SearchRequest :=
  { request with paging := some ⟨size, lastCookie pages, false⟩ }

namespace Position

def beyond (pages : List SearchResult) (start : Position) : Position :=
  match pages.getLast? with
  | none => start
  | some page => .behind page.cookie

theorem beyond_append (early late : List SearchResult) (start : Position) :
    beyond (early ++ late) start = beyond late (beyond early start) := by
  unfold beyond
  rw [List.getLast?_append]
  cases late.getLast? <;> rfl

theorem behind_eq_exhausted_iff (cookie : Octets) : behind cookie = .exhausted ↔ cookie = [] := by
  cases cookie <;> simp [behind]

theorem cookie?_eq_none_iff (position : Position) : position.cookie? = none ↔ position = .exhausted := by
  cases position <;> simp [cookie?]

theorem cookie?_behind {cookie : Octets} (more : cookie ≠ []) : (behind cookie).cookie? = some cookie := by
  cases cookie with
  | nil => exact absurd rfl more
  | cons => rfl

theorem cookie?_beyond {pages : List SearchResult} (going : beyond pages .notStarted ≠ .exhausted) :
    (beyond pages .notStarted).cookie? = some (lastCookie pages) := by
  unfold beyond lastCookie at *
  cases last : pages.getLast? with
  | none => rfl
  | some page =>
    rw [last] at going
    exact cookie?_behind fun empty => going ((behind_eq_exhausted_iff _).mpr empty)

end Position

namespace Cursor

variable {cursor : Cursor} {session : Session} {timeout : Nat} {request : SearchRequest}

theorem isExhausted_iff (cursor : Cursor) : cursor.isExhausted = true ↔ cursor.position.cookie? = none := by
  rw [isExhausted, beq_iff_eq, Position.cookie?_eq_none_iff]

theorem fetch_exhausted (spent : cursor.isExhausted = true) (timeout : Nat) (request : SearchRequest)
    (session : Session) :
    (cursor.fetch timeout request).run session = (.error .cursorExhausted, session) := by
  rw [fetch, (isExhausted_iff cursor).mp spent]
  rfl

/-- A fetch is a search with the cookie of the cursor. -/
theorem fetch_run {cookie : Octets} (standing : cursor.position.cookie? = some cookie) (timeout : Nat)
    (request : SearchRequest) (session : Session) :
    (cursor.fetch timeout request).run session =
      (((search timeout (cursor.pageRequest request cookie)).run session).1.map fun page =>
          (page, { cursor with position := .behind page.cookie }),
        ((search timeout (cursor.pageRequest request cookie)).run session).2) := by
  rw [fetch, standing]
  dsimp only
  rw [SessionM.run_bind]
  rcases (search timeout (cursor.pageRequest request cookie)).run session with ⟨_ | _, _⟩ <;> rfl

/-- An attempt to fetch a page, on the session as it is by then. -/
structure Trial where
  session : Session
  timeout : Nat
  request : SearchRequest

namespace Trial

def result (trial : Trial) (cursor : Cursor) : Except Error (SearchResult × Cursor) :=
  ((cursor.fetch trial.timeout trial.request).run trial.session).1

def writes (trial : Trial) (cursor : Cursor) : List Message :=
  written ((Act.query trial.timeout (.fetch trial.request cursor)).steps trial.session) trial.session

def pages (trial : Trial) (cursor : Cursor) : List SearchResult :=
  ((trial.result cursor).map Prod.fst).toOption.toList

def move (trial : Trial) (cursor : Cursor) : Cursor := ((trial.result cursor).map Prod.snd).toOption.getD cursor

theorem move_eq (trial : Trial) (cursor : Cursor) :
    trial.move cursor = { cursor with position := .beyond (trial.pages cursor) cursor.position } := by
  unfold move pages result
  cases standing : cursor.position.cookie? with
  | none =>
    rw [fetch_exhausted ((isExhausted_iff cursor).mpr standing)]
    rfl
  | some cookie =>
    rw [fetch_run standing]
    cases ((search trial.timeout (cursor.pageRequest trial.request cookie)).run trial.session).1 <;> rfl

theorem pages_exhausted (trial : Trial) {cursor : Cursor} (spent : cursor.isExhausted = true) :
    trial.pages cursor = [] := by
  rw [pages, result, fetch_exhausted spent]
  rfl

end Trial

def walk (trials : List Trial) (cursor : Cursor) : Cursor :=
  trials.foldl (fun cursor trial => trial.move cursor) cursor

theorem walk_cons (trial : Trial) (later : List Trial) (cursor : Cursor) :
    walk (trial :: later) cursor = walk later (trial.move cursor) := rfl

def gained : List Trial → Cursor → List SearchResult
  | [], _ => []
  | trial :: later, cursor => trial.pages cursor ++ gained later (trial.move cursor)

theorem walk_eq (trials : List Trial) (cursor : Cursor) :
    walk trials cursor = { cursor with position := .beyond (gained trials cursor) cursor.position } := by
  induction trials generalizing cursor with
  | nil => rfl
  | cons trial later ih =>
    rw [walk_cons, ih, trial.move_eq, gained, Position.beyond_append, trial.move_eq]

/-- A cursor is exhausted by a page without a cookie, and by nothing else. -/
theorem Trial.isExhausted_move (trial : Trial) (cursor : Cursor) :
    (trial.move cursor).isExhausted = true ↔
      cursor.isExhausted = true ∨ ∃ page ∈ trial.pages cursor, page.cookie = [] := by
  have exhausted (cursor : Cursor) : cursor.isExhausted = true ↔ cursor.position = .exhausted := beq_iff_eq
  rw [trial.move_eq, exhausted, exhausted]
  by_cases spent : cursor.position = .exhausted
  · rw [trial.pages_exhausted ((exhausted cursor).mpr spent)]
    exact iff_of_true spent (.inl spent)
  · rw [or_iff_right spent, Trial.pages]
    cases ((trial.result cursor).map Prod.fst).toOption with
    | none => exact iff_of_false spent (by simp)
    | some page =>
      have behind : Position.beyond [page] cursor.position = .behind page.cookie := rfl
      simp only [Option.toList_some, behind, Position.behind_eq_exhausted_iff, List.mem_singleton,
        exists_eq_left]

theorem isExhausted_walk (trials : List Trial) (cursor : Cursor) :
    (walk trials cursor).isExhausted = true ↔
      cursor.isExhausted = true ∨ ∃ page ∈ gained trials cursor, page.cookie = [] := by
  induction trials generalizing cursor with
  | nil => simp [walk, gained]
  | cons trial later ih =>
    simp only [walk_cons, ih, trial.isExhausted_move, gained, List.mem_append, or_and_right, exists_or,
      or_assoc]

theorem Trial.writes_eq (trial : Trial) {cursor : Cursor} {cookie : Octets}
    (standing : cursor.position.cookie? = some cookie) :
    trial.writes cursor =
      Inquiry.writes ⟨trial.session, trial.timeout, cursor.pageRequest trial.request cookie⟩ := by
  have steps : (Act.query trial.timeout (.fetch trial.request cursor)).steps trial.session =
      Request.steps trial.session (.search trial.timeout (cursor.pageRequest trial.request cookie) []) := by
    rw [Act.steps, Query.request?, standing]
    rfl
  rw [Trial.writes, steps]
  exact ignores_writes.search _ _ _

theorem Trial.writes_exhausted (trial : Trial) {cursor : Cursor} (spent : cursor.isExhausted = true) :
    trial.writes cursor = [] := by
  rw [Trial.writes, Act.steps, Query.request?, (isExhausted_iff cursor).mp spent]
  rfl

theorem ofPageSize_ok {size : UInt32} {fresh : Cursor} (made : Cursor.ofPageSize size = .ok fresh) :
    fresh.pageSize = size ∧ fresh.position = .notStarted := by
  unfold ofPageSize at made
  split at made
  · cases made
  · cases made
    exact ⟨rfl, rfl⟩

/-- Whatever was tried with a cursor that was new, and on whatever sessions, it stands behind the last page that
it brought. It is exhausted once a page came without a cookie, and not before; then nothing is asked for or done
any more. Until then the next attempt asks for a page of the size of the cursor with the cookie of the last page,
whatever paging the caller's request has. It succeeds with the page that the server answers with, and goes on to
the cookie of that; or it fails and leaves the cursor where it was. -/
theorem fetches_follow_cookies {size : UInt32} {fresh : Cursor} (made : Cursor.ofPageSize size = .ok fresh)
    (trials : List Trial) (trial : Trial) (sound : trial.session.IsSound) :
    walk trials fresh = { fresh with position := .beyond (gained trials fresh) .notStarted } ∧
      ((walk trials fresh).isExhausted = true ↔ ∃ page ∈ gained trials fresh, page.cookie = []) ∧
      ((walk trials fresh).isExhausted = true →
        ((walk trials fresh).fetch trial.timeout trial.request).run trial.session =
            (.error .cursorExhausted, trial.session) ∧
          trial.writes (walk trials fresh) = []) ∧
      ((walk trials fresh).isExhausted = false →
        trial.writes (walk trials fresh) =
            Inquiry.writes ⟨trial.session, trial.timeout, trial.request.behind size (gained trials fresh)⟩ ∧
          (∀ error, trial.result (walk trials fresh) = .error error →
            trial.move (walk trials fresh) = walk trials fresh) ∧
          ∀ page later, trial.result (walk trials fresh) = .ok (page, later) →
            trial.session.Answers trial.timeout (trial.request.behind size (gained trials fresh)) page ∧
              trial.writes (walk trials fresh) = [⟨trial.session.nextId,
                .searchRequest (trial.request.behind size (gained trials fresh)), []⟩] ∧
              trial.move (walk trials fresh) = { walk trials fresh with position := .behind page.cookie }) := by
  obtain ⟨sized, start⟩ := ofPageSize_ok made
  have standing := walk_eq trials fresh
  rw [start] at standing
  have exhausted := isExhausted_walk trials fresh
  have unspent : ¬fresh.isExhausted = true := by
    rw [isExhausted, start]
    decide
  rw [or_iff_right unspent] at exhausted
  refine ⟨standing, exhausted, fun spent => ?_, fun going => ?_⟩
  · exact ⟨fetch_exhausted spent _ _ _, trial.writes_exhausted spent⟩
  · have cookie : (walk trials fresh).position.cookie? = some (lastCookie (gained trials fresh)) := by
      rw [standing]
      apply Position.cookie?_beyond
      intro spent
      rw [isExhausted, standing, beq_eq_false_iff_ne] at going
      exact going spent
    have asked : (walk trials fresh).pageRequest trial.request (lastCookie (gained trials fresh)) =
        trial.request.behind size (gained trials fresh) := by
      rw [pageRequest, standing, sized, SearchRequest.behind]
    have writes := trial.writes_eq cookie
    rw [asked] at writes
    refine ⟨writes, fun error failed => ?_, fun page later fetched => ?_⟩
    · rw [Trial.move, failed]
      rfl
    · rw [Trial.result, fetch_run cookie, asked] at fetched
      obtain ⟨found, searched, same⟩ := exists_of_map_ok fetched
      cases same
      have answers := (search_ok_iff sound _ _ _).mp searched
      refine ⟨answers, writes.trans (Inquiry.writes_of_brings sound answers), ?_⟩
      rw [Trial.move, Trial.result, fetch_run cookie, asked, searched]
      rfl

def leading : Session :=
  establish
    { script :=
        [.actions
          [.message none (.searchEntry ⟨.root, .empty⟩) [],
            .message none (.searchDone ⟨.success, "", "", []⟩ (some ⟨0, [7], false⟩)) []]] } {}

def final : Session :=
  establish { script := [.actions [.message none (.searchDone ⟨.success, "", "", []⟩ none) []]] } {}

def nines : SearchRequest :=
  { base := .root, scope := .base, filter := .present "a", paging := some ⟨9, [9], true⟩ }

def twice : List Trial := [⟨.ofTransport {} {}, 10, nines⟩, ⟨leading, 10, nines⟩]

theorem fetches_twice :
    Cursor.ofPageSize 2 = .ok ⟨2, .notStarted, by decide⟩ ∧ final.IsSound ∧
      (walk twice ⟨2, .notStarted, by decide⟩).position = .hasMore [7] ∧
      (Trial.mk final 10 nines).writes (walk twice ⟨2, .notStarted, by decide⟩) =
        [⟨1, .searchRequest { nines with paging := some ⟨2, [7], false⟩ }, []⟩] ∧
      ((Trial.mk final 10 nines).move (walk twice ⟨2, .notStarted, by decide⟩)).position = .exhausted := by
  have made : Cursor.ofPageSize 2 = .ok ⟨2, .notStarted, by decide⟩ := rfl
  have new : final.IsNew := ⟨_, _, .inr rfl⟩
  obtain ⟨standing, _, _, going⟩ := fetches_follow_cookies made twice ⟨final, 10, nines⟩ new.isSound
  have brought : gained twice ⟨2, .notStarted, by decide⟩ =
      [⟨[⟨.root, .empty⟩], [], ⟨.success, "", "", []⟩, [7]⟩] := by
    decide +kernel
  have fetched : ((Trial.mk final 10 nines).result (walk twice ⟨2, .notStarted, by decide⟩)) =
      .ok (⟨[], [], ⟨.success, "", "", []⟩, []⟩, ⟨2, .exhausted, by decide⟩) := by
    decide +kernel
  rw [brought] at standing going
  obtain ⟨_, _, succeeded⟩ := going (by rw [standing]; rfl)
  obtain ⟨_, writes, moved⟩ := succeeded _ _ fetched
  exact ⟨made, new.isSound, by rw [standing]; rfl, writes, by rw [moved]; rfl⟩

end Cursor

end Directory
