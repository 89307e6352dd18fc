import Directory.Operations
/-! Large results, a page at a time: the cookie that comes with one page asks for the next. A page that
could not be fetched leaves the cursor where it was. -/
namespace Directory

inductive Position where
  | notStarted
  | hasMore (cookie : Octets)
  | exhausted
  deriving DecidableEq, Repr

namespace Position

def cookie? : Position → Option Octets
  | notStarted => some []
  | hasMore cookie => some cookie
  | exhausted => none

def behind (cookie : Octets) : Position := if cookie.isEmpty then exhausted else hasMore cookie

end Position

structure Cursor where
  pageSize : UInt32
  position : Position := .notStarted
  pageSize_ne_zero : pageSize ≠ 0
  deriving DecidableEq

namespace Cursor

def ofPageSize (pageSize : UInt32) : Except Error Cursor :=
  if h : pageSize = 0 then .error (.invalidArgument "page size must be positive")
  else .ok ⟨pageSize, .notStarted, h⟩

def isExhausted (cursor : Cursor) : Bool := cursor.position == .exhausted

def pageRequest (cursor : Cursor) (request : SearchRequest) (cookie : Octets) : SearchRequest :=
  { request with paging := some ⟨cursor.pageSize, cookie, false⟩ }

def fetch (timeout : Nat) (request : SearchRequest) (cursor : Cursor) :
    SessionM (SearchResult × Cursor) := do
  match cursor.position.cookie? with
  | none => throw .cursorExhausted
  | some cookie =>
    let page ← Session.search timeout (cursor.pageRequest request cookie)
    return (page, { cursor with position := .behind page.cookie })

theorem fetch_advances {timeout : Nat} {request : SearchRequest} {cursor later : Cursor}
    {session after : Session} {page : SearchResult}
    (h : (cursor.fetch timeout request).run session = (.ok (page, later), after)) :
    session.Advances after := by
  unfold fetch at h
  split at h
  · cases h
  · rw [SessionM.run_bind] at h
    split at h
    · next found =>
      cases h
      exact Session.search_advances found
    · cases h

end Cursor

/-- The entries of all pages, fetched as they are asked for. A failure is handed out once and ends them. -/
structure PagedEntries where
  cursor : Cursor
  request : SearchRequest
  timeout : Nat
  /-- Fetched, but not yet handed out. -/
  buffer : List Entry := []
  hasFailed : Bool := false

namespace PagedEntries

def next (entries : PagedEntries) :
    StateM Session (Option (Except Error Entry) × PagedEntries) := fun session =>
  match entries.buffer with
  | entry :: rest => ((some (.ok entry), { entries with buffer := rest }), session)
  | [] =>
    if entries.hasFailed || entries.cursor.isExhausted then ((none, entries), session)
    else
      match _fetched : (entries.cursor.fetch entries.timeout entries.request).run session with
      | (.error error, after) => ((some (.error error), { entries with hasFailed := true }), after)
      | (.ok (page, cursor), after) => next { entries with cursor, buffer := page.entries } after
termination_by session => session.toCome
decreasing_by exact (Cursor.fetch_advances _fetched).lex

/-- An entry comes from the buffer, or from a page that was fetched. -/
theorem next_ok {entries later : PagedEntries} {session after : Session} {entry : Entry}
    (h : entries.next session = ((some (.ok entry), later), after)) :
    session.Advances after ∨ after = session ∧ later.buffer.length < entries.buffer.length := by
  fun_induction next entries session with
  | case1 _ _ _ _ found =>
    cases h
    exact .inr ⟨rfl, by simp [found]⟩
  | case2 => cases h
  | case3 => cases h
  | case4 _ _ _ _ _ _ _ fetched ih =>
    have advances := Cursor.fetch_advances fetched
    rcases ih h with more | ⟨rfl, _⟩
    · exact .inl (advances.trans more)
    · exact .inl advances

def collect (entries : PagedEntries) : StateM Session (List Entry × Except Error Unit) :=
  fun session =>
    match _handed : entries.next session with
    | ((none, _), after) => (([], .ok ()), after)
    | ((some (.error error), _), after) => (([], .error error), after)
    | ((some (.ok entry), later), after) =>
      let ((others, ending), last) := later.collect after
      ((entry :: others, ending), last)
termination_by session => (session.toCome, entries.buffer.length)
decreasing_by
  rcases next_ok _handed with advances | ⟨rfl, shorter⟩
  · exact .left _ _ advances.lex
  · exact .right _ shorter

end PagedEntries

end Directory
