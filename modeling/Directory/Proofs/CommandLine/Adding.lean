import Directory.Proofs.CommandLine.Grouping
import Directory.Proofs.Dn.Grammar
import Directory.Proofs.Session.Faithful
import Directory.Proofs.Session.Resilience
/-!
Adding an entry from the command line. The pairs that are given become the attributes of one request, and no choice
of pairs makes an attribute that is there twice.
-/
namespace Directory

open SessionM Session

def Error.IsRepetition (error : Error) : Prop := ∃ name, error = .duplicateAttribute name

namespace Session

variable {session : Session}

theorem Posts.unrepeated {op : Operation} {controls : List Control} {timeout : Nat} {error : Error}
    {after : Session} (posted : session.Posts op controls timeout (.error error) after) : ¬error.IsRepetition := by
  rintro ⟨name, rfl⟩
  cases posted with
  | refused _ _ refused => cases refused
  | failed _ _ _ _ sends => cases sends

theorem Receives.unrepeated {handle : Handle} {error : Error} {after : Session}
    (received : session.Receives handle (.error error) after) : ¬error.IsRepetition := by
  rintro ⟨name, repeated⟩
  cases received with
  | timedOut => cases repeated
  | spent =>
    unfold lastWord at repeated
    split at repeated
    · next reason _ => cases reason <;> cases repeated
    · cases repeated

theorem exchange_unrepeated (op : Operation) (controls : List Control) (timeout : Nat) :
    (exchange op controls timeout).FailsOnly (¬·.IsRepetition) := by
  intro session error after failed
  rcases run_bind_error failed with early | ⟨handle, middle, _, late⟩
  · rw [submit, attending_run, Prod.mk.injEq] at early
    have posted := post_cases session op controls timeout
    rw [early.1] at posted
    exact posted.unrepeated
  · rw [releasing_run, Prod.mk.injEq] at late
    have received := receive_cases middle handle
    rw [late.1] at received
    exact received.unrepeated

theorem check_unrepeated (outcome : Outcome) : outcome.check.FailsOnly (¬·.IsRepetition) := by
  unfold Outcome.check
  split
  · exact failsOnly_pure ()
  · exact failsOnly_throw nofun

theorem add_unrepeated (timeout : Nat) (entry : Entry) : (add timeout entry).FailsOnly (¬·.IsRepetition) := by
  apply (exchange_unrepeated _ _ _).bind
  intro message
  split
  · exact check_unrepeated _
  · exact failsOnly_throw nofun

theorem requestBind_unrepeated (name : String) (credentials : Credentials) :
    (requestBind name credentials).FailsOnly (¬·.IsRepetition) := by
  refine failsOnly_get.bind fun session => ?_
  apply (exchange_unrepeated _ _ _).bind
  intro message
  split
  · exact failsOnly_pure _
  · exact failsOnly_throw nofun

theorem finishBind_unrepeated (name : String) (outcome : Outcome) :
    (finishBind name outcome).FailsOnly (¬·.IsRepetition) := by
  unfold finishBind
  split
  · split
    · exact failsOnly_modify _
    · exact failsOnly_modify _
  · exact (failsOnly_modify _).bind fun _ => failsOnly_throw nofun

def Takes (session : Session) (message : Message) : Prop :=
  session.nextId ≤ Message.maxId ∧ ¬session.IsUnreadable ∧
    (session.transport.send message.encode).1 = .ok ()

/-- The peer gets a message; or the session does not take it, and then there is an error and the peer gets
nothing. -/
inductive Conveys (session : Session) (message : Message) (result : Except Error α) (after : Session) : Prop where
  | whole : session.Delivers [message] after → Conveys session message result after
  | nothing (error : Error) : ¬session.Takes message → result = .error error → session.Delivers [] after →
      Conveys session message result after

theorem sent_exchange {op : Operation} {controls : List Control} (held : session.holdsTransport = true)
    (live : session.phase.isLive = true) (flushed : session.IsFlushed)
    (takes : session.Takes ⟨session.nextId, op, controls⟩) (timeout : Nat) :
    ((exchange op controls timeout).run session).2.transport.sent =
      session.transport.sent ++ [session.nextFrame op controls] := by
  obtain ⟨left, readable, written⟩ := takes
  have accepted := run_post held live left readable (Prod.ext written rfl) timeout
  have whole := Request.run_steps (.exchange op controls timeout) session
  change _ = ((exchange op controls timeout).run session).2 at whole
  rw [← whole]
  exact Request.sent_of_post accepted (flushed live) fun _ _ _ => List.mem_singleton.mp

theorem conveys_of_makes {action : SessionM α} {op : Operation} {timeout : Nat}
    (makes : action.Makes session.config (some (.exchange op [] timeout))) (legal : op.WellFormed)
    (held : session.holdsTransport = true) (live : session.phase.isLive = true) (flushed : session.IsFlushed) :
    session.Conveys ⟨session.nextId, op, []⟩ (action.run session).1 (action.run session).2 := by
  by_cases takes : session.Takes ⟨session.nextId, op, []⟩
  · apply Conveys.whole
    have sent := sent_exchange held live flushed takes timeout
    cases makes with
    | request _ read same =>
      rw [same session rfl]
      exact .one legal takes.1 sent
  -- A transport that fails to flush may have passed the frame on all the same.
  · rcases (tells_of_makes makes nofun flushed).delivers legal with ⟨⟨error, failed⟩, silent⟩ | whole
    · exact .nothing error takes failed silent
    · exact .whole whole

end Session

namespace Client

theorem add_unrepeated (dn : String) (attributes : Attributes) :
    (Client.add dn attributes).FailsOnly (¬·.IsRepetition) := by
  have named : (entryName dn).FailsOnly (¬·.IsRepetition) := by
    refine (failsOnly_lift fun error refused => ?_).bind fun name => ?_
    · obtain ⟨reason, rfl⟩ := Dn.parse_failure refused
      nofun
    · split
      · exact (failsOnly_throw nofun).bind fun _ => failsOnly_pure name
      · exact failsOnly_pure name
  apply named.bind
  intro name
  exact (failsOnly_get.bind fun _ => failsOnly_pure _).bind fun timeout => Session.add_unrepeated timeout _

theorem bind_unrepeated (name password : String) : (Client.bind name password).FailsOnly (¬·.IsRepetition) := by
  have bound : (simpleBind name password).FailsOnly (¬·.IsRepetition) :=
    (requestBind_unrepeated _ _).bind fun _ => finishBind_unrepeated _ _
  unfold Client.bind
  split
  · exact (failsOnly_throw nofun).bind fun _ => bound
  · exact bound

end Client

namespace CommandLine

variable {pairs : List String} {attributes : Attributes} {session : Session} {dn : String}

/-- A command that prints what its action returns tells the peer what the action tells it. -/
theorem conveys_printing {message : Message} {action : SessionM (List String)}
    (conveys : session.Conveys message (action.run session).1 (action.run session).2) :
    session.Conveys message (printing action session).1.result (printing action session).2 := by
  rw [printing_after]
  cases conveys with
  | whole delivers => exact .whole delivers
  | nothing error takes failed silent => exact .nothing error takes (printing_result.mpr failed) silent

def adding (dn : String) (attributes : Attributes) : SessionM (List String) := do
  Client.add dn attributes
  return [s!"added {dn}"]

theorem execute_add (made : attributesOf pairs = .ok attributes) (dn : String) (session : Session) :
    (Command.add dn pairs).execute session = printing (adding dn attributes) session := by
  rw [Command.execute, printing, run_bind, run_lift, made]
  rfl

theorem execute_bare (bare : ∃ pair ∈ pairs, '=' ∉ pair.toList) (dn : String) (session : Session) :
    ∃ text, (Command.add dn pairs).execute session = (⟨[], .error (.invalidArgument text)⟩, session) := by
  obtain ⟨pair, member, lacks⟩ := bare
  have some : (pairs.find? ('=' ∉ ·.toList)).isSome = true :=
    List.find?_isSome.mpr ⟨pair, member, decide_eq_true lacks⟩
  obtain ⟨first, found⟩ := Option.isSome_iff_exists.mp some
  obtain ⟨unsigned, early, late, rfl, others⟩ := List.find?_eq_some_iff_append.mp found
  have signed : ∀ pair ∈ early, '=' ∈ pair.toList := by simpa using others
  have refused : attributesOf (early ++ first :: late) = _ := attributesOf_bare signed (of_decide_eq_true unsigned)
  exact ⟨_, printing_error (by rw [run_bind, run_lift, refused])⟩

theorem makes_adding {name : Dn} (named : Client.Names dn name) (attributes : Attributes) (config : Config) :
    (adding dn attributes).Makes config
      (some (.exchange (.addRequest ⟨name, attributes⟩) [] config.operationTimeout)) := by
  have makes : (Client.add dn attributes).Makes config _ :=
    Client.makes_onEntry dn fun name => Client.makes_timed (makes_add _ ⟨name, attributes⟩)
  rw [Client.name?_eq_some_iff.mpr named] at makes
  exact makes.after fun _ => steady_pure _

theorem execute_add_unrepeated (made : attributesOf pairs = .ok attributes) (dn : String) (session : Session)
    {error : Error} (failed : ((Command.add dn pairs).execute session).1.result = .error error) :
    ¬error.IsRepetition := by
  rw [execute_add made, printing_result] at failed
  have unrepeated : (adding dn attributes).FailsOnly (¬·.IsRepetition) :=
    (Client.add_unrepeated dn attributes).bind fun _ => failsOnly_pure _
  exact unrepeated session error _ (Prod.ext failed rfl)

theorem connect_unrepeated {network : Network} {address : String} {config : Config} {error : Error}
    (failed : connect network address config = .error error) : ¬error.IsRepetition := by
  rintro ⟨name, rfl⟩
  unfold connect at failed
  split at failed
  · cases failed
  · split at failed
    · next reason _ => cases reason <;> cases failed
    · cases failed

/-- Neither does anything fail so that comes before the command. -/
theorem run_unrepeated (made : attributesOf pairs = .ok attributes) {invocation : Invocation}
    (asks : invocation.command = .add dn pairs) (network : Network) {error : Error}
    (failed : (invocation.run network).1.result = .error error) : ¬error.IsRepetition := by
  have bound : invocation.bind.FailsOnly (¬·.IsRepetition) := by
    unfold Invocation.bind
    split
    · exact Client.bind_unrepeated _ _
    · exact failsOnly_pure ()
  unfold Invocation.run at failed
  dsimp only at failed
  split at failed
  · next refused =>
    cases failed
    exact connect_unrepeated refused
  · next session _ =>
    change (invocation.converse session).1.result = _ at failed
    unfold Invocation.converse at failed
    split at failed
    · next early after refused =>
      cases failed
      exact bound session _ after refused
    · next ready _ =>
      rw [asks] at failed
      exact execute_add_unrepeated made dn ready failed

/-- Pairs that each have an equals sign are never an attribute twice, whatever the letter case of their names: the
program that is run with them does not fail with such an error. On a live session, and with a name for the entry,
the peer gets one request to add, with one attribute for each name and all values that any pair gives to the
name; or the session does not take the request. With a pair that has no equals sign the command fails before
it does anything. -/
theorem add_groups_pairs (dn : String) (pairs : List String) :
    ((∀ pair ∈ pairs, '=' ∈ pair.toList) →
      (∀ session other, ((Command.add dn pairs).execute session).1.result ≠ .error (.duplicateAttribute other)) ∧
      (∀ invocation : Invocation, invocation.command = .add dn pairs → ∀ network other,
        (invocation.run network).1.result ≠ .error (.duplicateAttribute other)) ∧
      ∃ attributes, Groups pairs attributes ∧
        ∀ (start session : Session) (steps : List Step) (name : Dn), start.IsNew → start.Flushes steps →
          run steps start = session → session.phase.isLive = true → Client.Names dn name →
          session.Conveys ⟨session.nextId, .addRequest ⟨name, attributes⟩, []⟩
            ((Command.add dn pairs).execute session).1.result ((Command.add dn pairs).execute session).2) ∧
    ((∃ pair ∈ pairs, '=' ∉ pair.toList) → ∀ session, ∃ text,
      (Command.add dn pairs).execute session = (⟨[], .error (.invalidArgument text)⟩, session)) := by
  refine ⟨fun signed => ?_, fun bare => execute_bare bare dn⟩
  obtain ⟨attributes, made, groups⟩ := attributesOf_signed signed
  refine ⟨fun session other failed => ?_, fun invocation asks network other failed => ?_, attributes, groups,
    ?_⟩
  · exact execute_add_unrepeated made dn session failed ⟨other, rfl⟩
  · exact run_unrepeated made asks network failed ⟨other, rfl⟩
  · rintro start session steps name new flushes rfl live named
    have held := new.held_of_isLive steps live
    have flushed : (run steps start).IsFlushed := fun live => flushes.outgoing new live
    have means : (Client.Call.add dn attributes).Means (run steps start).config (.addRequest ⟨name, attributes⟩) :=
      .add named
    rw [execute_add made]
    have makes := makes_adding named attributes (run steps start).config
    exact conveys_printing (conveys_of_makes makes means.wellFormed held live flushed)

def obliging : Session :=
  establish { script := [.actions [.message none (.addResponse ⟨.success, "", "", []⟩) []]] } {}

def spelledTwice : List String := ["cn=a", "CN=b=c", "cn=a", "sn=x"]

theorem obliging_gets_groups :
    (∀ pair ∈ spelledTwice, '=' ∈ pair.toList) ∧ obliging.IsNew ∧ obliging.Flushes [] ∧
      obliging.phase.isLive = true ∧ Client.Names "dc=example" ⟨[[⟨"dc", "example"⟩]]⟩ ∧
      ((Command.add "dc=example" spelledTwice).execute obliging).1.result ≠ .error (.duplicateAttribute "CN") ∧
      ((Invocation.mk "localhost:389" none "" 1000 (.add "dc=example" spelledTwice)).run
          fun _ => .ok {}).1.result ≠ .error (.duplicateAttribute "CN") ∧
      (∃ attributes, Groups spelledTwice attributes ∧
        obliging.Delivers [⟨1, .addRequest ⟨⟨[[⟨"dc", "example"⟩]]⟩, attributes⟩, []⟩]
          ((Command.add "dc=example" spelledTwice).execute obliging).2) ∧
      (∃ pair ∈ ["cn=a", "sn"], '=' ∉ pair.toList) ∧
      ∃ text, (Command.add "dc=example" ["cn=a", "sn"]).execute obliging =
        (⟨[], .error (.invalidArgument text)⟩, obliging) := by
  have signed : ∀ pair ∈ spelledTwice, '=' ∈ pair.toList := by decide
  have bare : ∃ pair ∈ ["cn=a", "sn"], '=' ∉ pair.toList := by decide
  have new : obliging.IsNew := ⟨_, _, .inr rfl⟩
  have flushes : obliging.Flushes [] := ⟨rfl, List.forall_mem_nil _⟩
  have live : obliging.phase.isLive = true := rfl
  have named : Client.Names "dc=example" ⟨[[⟨"dc", "example"⟩]]⟩ := ⟨by decide +kernel, rfl⟩
  obtain ⟨unrepeated, never, attributes, groups, sends⟩ :=
    (add_groups_pairs "dc=example" spelledTwice).1 signed
  have refused := (add_groups_pairs "dc=example" ["cn=a", "sn"]).2 bare obliging
  refine ⟨signed, new, flushes, live, named, unrepeated obliging "CN", never _ rfl _ "CN",
    ⟨attributes, groups, ?_⟩, bare, refused⟩
  cases sends obliging obliging [] _ new flushes rfl live named with
  | whole delivers => exact delivers
  | nothing _ _ _ silent => exact absurd silent.sent (by decide +kernel)

end CommandLine

end Directory
