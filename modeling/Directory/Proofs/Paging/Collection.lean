import Directory.Proofs.Paging.Entries
/-!
All entries of a paged search at once. They are those of the pages, in order, however the entries are spread over
the pages; of the references on the pages nothing is handed out.
-/
namespace Directory

open Session Listing

namespace PagedEntries

def visits (entries : PagedEntries) (session : Session) : List Session :=
  match _handed : entries.next session with
  | ((some (.ok _), later), after) => session :: later.visits after
  | _ => [session]
termination_by (session.toCome, entries.buffer.length)
decreasing_by
  rcases next_ok _handed with advances | ⟨rfl, shorter⟩
  · exact .left _ _ advances.lex
  · exact .right _ shorter

def searches (entries : PagedEntries) (session : Session) : List Inquiry :=
  asked (entries.visits session) entries

variable {entries later : PagedEntries} {session after : Session}

theorem isSound_next (sound : session.IsSound) (entries : PagedEntries) : (entries.next session).2.IsSound := by
  rw [← entries.run_steps]
  exact (run_evolves _ _).sound sound

theorem visits_more {entry : Entry} (found : entries.next session = ((some (.ok entry), later), after)) :
    entries.visits session = session :: later.visits after := by
  rw [visits]
  split
  · next same =>
    rw [found] at same
    cases same
    rfl
  · next other => exact absurd found (other _ _ _)

theorem visits_last (last : ∀ entry, (entries.next session).1.1 ≠ some (.ok entry)) :
    entries.visits session = [session] := by
  rw [visits]
  split
  · next entry _ _ same => exact absurd (congrArg (·.1.1) same) (last entry)
  · rfl

theorem sound_of_mem_visits (sound : session.IsSound) : ∀ visited ∈ entries.visits session, visited.IsSound := by
  fun_induction visits entries session with
  | case1 entries session entry later after found ih =>
    have onwards := isSound_next sound entries
    rw [found] at onwards
    exact List.forall_mem_cons.mpr ⟨sound, ih onwards⟩
  | case2 entries session _ => simpa using sound

/-- The calls hand out what is collected, and then the end or the failure. -/
theorem handed_visits (entries : PagedEntries) (session : Session) :
    handed (entries.visits session) entries =
      (entries.collect session).1.1.map (fun entry => some (.ok entry)) ++
        [match (entries.collect session).1.2 with | .ok () => none | .error error => some (.error error)] := by
  fun_induction collect entries session with
  | case1 entries session later after found =>
    rw [visits_last (by simp [found])]
    simp [handed, callByCall, found]
  | case2 entries session error later after found =>
    rw [visits_last (by simp [found])]
    simp [handed, callByCall, found]
  | case3 entries session entry later after found others ending last rest ih =>
    have onwards : handed (session :: later.visits after) entries =
        some (.ok entry) :: handed (later.visits after) later := by
      rw [handed, callByCall, found]
      rfl
    rw [visits_more found, onwards, ih, rest]
    rfl

/-- What is handed out as long as there is something, and then nothing, are all entries. -/
theorem eq_of_handed {collected whole : List Entry} {ending : Except Error Unit} {calls : Nat}
    (handed : collected.map (fun entry => some (.ok entry)) ++
        [match ending with | .ok () => none | .error error => some (.error error)] =
      (List.range calls).map fun k => (whole.map (Except.ok (ε := Error)))[k]?) :
    collected = whole ∧ ending = .ok () := by
  -- The last call hands out no entry, so there is one more of them than there are entries.
  obtain rfl : calls = collected.length + 1 := by simpa using (congrArg List.length handed).symm
  rw [List.range_succ, List.map_append, List.map_singleton] at handed
  obtain ⟨front, last⟩ := List.append_inj handed (by simp)
  have each (k : Nat) (within : k < collected.length) : whole[k]? = collected[k]? := by
    have here := congrArg (·[k]?) front
    simpa [within, eq_comm] using here
  have final := List.singleton_inj.mp last
  cases ending with
  | error error =>
    rw [List.getElem?_map] at final
    cases there : whole[collected.length]? with
    | none => simp [there] at final
    | some entry => simp [there] at final
  | ok =>
    have short : whole.length ≤ collected.length := by simpa using final.symm
    refine ⟨List.ext_getElem? fun k => ?_, rfl⟩
    by_cases within : k < collected.length
    · exact (each k within).symm
    · rw [List.getElem?_eq_none (Nat.not_lt.mp within), List.getElem?_eq_none]
      omega

/-- Pages that lead from one to the next, the last without a cookie, are collected to all their entries. -/
theorem collect_of_pages {pages : List SearchResult} (empty : entries.buffer = [])
    (expects : entries.Expects (pages.map .ok)) (sound : session.IsSound)
    (answered : AnsweredBy (entries.searches session) (pages.map .ok)) :
    (entries.collect session).1 = (pages.flatMap SearchResult.entries, .ok ()) := by
  have draws := (draws_calls expects (sound_of_mem_visits sound) answered).handed
  have due : entries.due (pages.map .ok) = (pages.flatMap SearchResult.entries).map .ok := by
    rw [PagedEntries.due, empty, items, List.flatMap_map, List.map_flatMap]
    rfl
  rw [handed_visits, due] at draws
  obtain ⟨all, ends⟩ := eq_of_handed draws
  exact Prod.ext all ends

end PagedEntries

end Directory
