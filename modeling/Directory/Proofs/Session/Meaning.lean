import Directory.Proofs.Filter.Printing
import Directory.Proofs.Message.Canonical
import Directory.Proofs.Session.Recorded
import Directory.Proofs.Session.Refusals
/-!
What the calls of a client mean. Names and filters are given as text, and the operation that is asked for is made
of what the texts denote and of the other arguments as they are. All such operations have a wire form.
-/
namespace Directory

open Session

namespace Client

variable {config : Config}

def Names (text : String) (dn : Dn) : Prop := Dn.parse text = .ok dn ∧ dn.isRoot = false

/-- The search that is given as text: without limits, not following aliases, for values as well. -/
inductive Asks (base : String) (scope : Scope) (filter : String) (attributes : List String) :
    SearchRequest → Prop where
  | intro {dn : Dn} {condition : Filter} : Dn.parse base = .ok dn → Filter.parse filter = .ok condition →
      Asks base scope filter attributes
        { base := dn, scope, deref := .never, sizeLimit := 0, timeLimit := 0, typesOnly := false,
          filter := condition, attributes, paging := none }

namespace Call

def IsTextual : Call → Prop
  | searchFor _ | fetch _ _ _ | abandon _ => False
  | _ => True

inductive Means (config : Config) : Call → Operation → Prop where
  | bind {name password : String} : (name ≠ "" → password ≠ "") →
      Means config (.bind name password)
        (.bindRequest config.protocolVersion name (.simple (Octets.ofText password)))
  | add {text : String} {dn : Dn} {attributes : Attributes} : Names text dn →
      Means config (.add text attributes) (.addRequest ⟨dn, attributes⟩)
  | applyChanges {text : String} {dn : Dn} {changes : List Modification} : Names text dn → changes ≠ [] →
      Means config (.applyChanges text changes) (.modifyRequest dn changes)
  | delete {text : String} {dn : Dn} : Names text dn → Means config (.delete text) (.deleteRequest dn)
  | compare {text : String} {dn : Dn} {attr : String} {value : Octets} : Names text dn →
      Means config (.compare text attr value) (.compareRequest dn attr value)
  | search {base : String} {scope : Scope} {filter : String} {attributes : List String}
      {request : SearchRequest} : Asks base scope filter attributes request →
      Means config (.search base scope filter attributes) (.searchRequest request)
  | extended {name : String} {value : Option Octets} : name ≠ "" →
      Means config (.extended name value) (.extendedRequest name value)
  | whoAmI : Means config .whoAmI (.extendedRequest Oid.whoAmI none)
  | cancel (target : MessageId) :
      Means config (.cancel target) (.extendedRequest Oid.cancel
        (some (Wire.Item.group Wire.Tag.sequence [.number Wire.Tag.integer target]).write))

end Call

theorem searchRequest_eq_ok_iff {base filter : String} {scope : Scope} {attributes : List String}
    {request : SearchRequest} :
    searchRequest base scope filter attributes = .ok request ↔ Asks base scope filter attributes request := by
  unfold searchRequest
  constructor
  · intro made
    cases named : Dn.parse base with
    | error error =>
      rw [named] at made
      cases made
    | ok dn =>
      cases read : Filter.parse filter with
      | error error =>
        rw [named, read] at made
        cases made
      | ok condition =>
        rw [named, read] at made
        cases made
        exact .intro named read
  · rintro ⟨named, read⟩
    rw [named, read]
    rfl

theorem Asks.legal {base filter : String} {scope : Scope} {attributes : List String} {request : SearchRequest}
    (asks : Asks base scope filter attributes request) :
    request.base.WellFormed ∧ request.filter.depth ≤ Filter.maxDepth := by
  cases asks with
  | intro named read => exact ⟨Dn.wellFormed_of_parse named, (Filter.parse_eq_ok_iff.mp read).wellFormed.2⟩

namespace Call

/-- Readers bring nothing that cannot be written. -/
theorem Means.wellFormed {call : Call} {op : Operation} (means : call.Means config op) : op.WellFormed := by
  cases means with
  | add named | applyChanges named | delete named | compare named =>
    exact Operation.wellFormed_of_names rfl (Dn.wellFormed_of_parse named.1) rfl
  | search asks => exact Operation.wellFormed_searchRequest asks.legal.1 asks.legal.2
  | bind | extended | whoAmI | cancel => exact Operation.wellFormed_of_nameless rfl rfl

/-- The request of a call is for the operation that the call is about, and for nothing besides. -/
theorem means_of_request {call : Call} (textual : call.IsTextual) {request : Request}
    (asked : call.request? config = some request) :
    call.Means config request.op ∧ request.controls = [] := by
  cases call with
  | bind name password => cases asked
  | add text attributes | delete text | compare text attr value =>
    obtain ⟨dn, named, made⟩ := Option.bind_eq_some_iff.mp asked
    cases made
    refine ⟨?_, rfl⟩
    constructor
    exact name?_eq_some_iff.mp named
  | applyChanges text changes =>
    obtain ⟨dn, named, made⟩ := Option.bind_eq_some_iff.mp asked
    split at made
    · cases made
    · next some =>
      cases made
      exact ⟨.applyChanges (name?_eq_some_iff.mp named) (by simpa using some), rfl⟩
  | search base scope filter attributes =>
    obtain ⟨search, made, same⟩ := Option.bind_eq_some_iff.mp asked
    cases same
    cases read : searchRequest base scope filter attributes with
    | error error =>
      rw [read] at made
      cases made
    | ok other =>
      rw [read] at made
      cases made
      exact ⟨.search (searchRequest_eq_ok_iff.mp read), rfl⟩
  | extended name value =>
    dsimp only [request?] at asked
    split at asked
    · cases asked
    · next given =>
      cases asked
      exact ⟨.extended (by simpa [String.isEmpty_iff] using given), rfl⟩
  | whoAmI =>
    cases asked
    exact ⟨.whoAmI, rfl⟩
  | cancel target =>
    cases asked
    exact ⟨.cancel target, rfl⟩
  | searchFor | fetch | abandon => exact absurd textual id

end Call

end Client

end Directory
