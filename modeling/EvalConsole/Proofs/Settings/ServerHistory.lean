/-
The default server follows what was saved and forgotten.

The saved server is changed by the program's own calls, by its subcommand, and by a line of a
session. Whichever way is taken, the database is opened anew, and what is reported to have
been saved last is the default server.

* `ServerChange` is a change of the saved server, `ServerChange.carryOut` what the program
  makes of it.
* `ServerChange.history` keeps the server that was saved last, by the reports only.
* `ServerCall.Settles` is what a call that succeeds does to a table.
* `ServerSaved` is the invariant: the saved server is that one, and it is the address of
  something.
* `ServerChange.resolve_history`: the default server after any changes.
-/
import EvalConsole.Proofs.Settings.Reopening
import EvalConsole.Proofs.Settings.ServerCall
import EvalConsole.Proofs.Text.Trim

namespace EvalConsole

-- What a server comes to is never looked into here.
attribute [local irreducible] endpoint

/-! ### Changes -/

/-- A change of the saved server. -/
inductive ServerChange where
  | call (call : ServerCall)
  /-- The subcommand with an argument, when a server is perhaps named explicitly. -/
  | subcommand (explicit? : Option String) (argument : String)
  /-- A line of a session with a server. -/
  | line (server text : String)
  deriving DecidableEq, Repr

namespace ServerChange

/-- What the program makes of a change: whether it reports a success, and the files after
it. -/
def carryOut (path : String) (files : Files) : ServerChange → Bool × Files
  | call c => ((c.run path files).1.isOk, (c.run path files).2)
  | subcommand explicit? argument =>
    let start := Program.serverCommand path explicit? (some argument) files
    (start.isSuccess, start.files)
  | line server text =>
    let (reaction, files) := dispatch text ⟨server, path⟩ files
    (reaction.request.isChange, files)

/-- The call that a change asks for. -/
def asked : ServerChange → ServerCall
  | call c => c
  | subcommand _ argument => .ofArgument argument
  | line _ text => .ofArgument (splitLine text).2

/-- Carries changes out, and keeps the server that was saved last and not forgotten since. -/
def history (path : String) : (changes : List ServerChange) → (files : Files) →
    (last : Option String) → Files × Option String
  | [], files, last => (files, last)
  | change :: rest, files, last =>
    let (succeeded, files) := change.carryOut path files
    history path rest files (if succeeded then change.asked.saved? else last)

end ServerChange

/-! ### Calls on a table -/

/-- A saved server is read when it is a text or when there is none. -/
theorem Store.get?_of_lookup {store : Store} {files : Files} {rows : List (String × Cell)}
    {last : Option String} (hcontent : store.content files = .table rows)
    (hlast : rows.lookup serverKey = last.map Cell.text) :
    store.get? files serverKey = .ok last := by
  rw [Store.get?, hcontent, Database.get?, Database.valueIn, hlast]
  cases last <;> rfl

/-- The saved server is the server in effect when none is named explicitly. -/
theorem resolveServer_of_lookup {store : Store} {files : Files} {rows : List (String × Cell)}
    {explicit? last : Option String} (hexplicit : explicitServer? explicit? = none)
    (hcontent : store.content files = .table rows)
    (hlast : rows.lookup serverKey = last.map Cell.text) :
    resolveServer explicit? store files = .ok (last.getD defaultServer) := by
  unfold resolveServer
  rw [hexplicit]
  dsimp only
  rw [Store.get?_of_lookup hcontent hlast]

namespace ServerCall

/-- What a call leaves in a table when it has succeeded: the server that it saves, which is
the address of something, or none; the rows of other keys are as they were. -/
structure Settles (call : ServerCall) (rows rows' : List (String × Cell)) : Prop where
  lookup_server : rows'.lookup serverKey = call.saved?.map Cell.text
  lookup_of_ne : ∀ key, key ≠ serverKey → rows'.lookup key = rows.lookup key
  isAddress : ∀ server, call.saved? = some server → ∃ url, endpoint server = .ok url

variable {path : String} {files : Files} {rows : List (String × Cell)}

/-- A server is saved if it is the address of something and the table may be written. Otherwise
the table stays as it was. -/
theorem save_of_opensTo (h : Store.OpensTo path files (.table rows)) (server : String) :
    (∃ files' rows', saveServer path server files = (.ok (Text.trim server), files') ∧
        Store.OpensTo path files' (.table rows') ∧ (save server).Settles rows rows') ∨
      ∃ cause files', saveServer path server files = (.error cause, files') ∧
        Store.OpensTo path files' (.table rows) := by
  unfold saveServer
  dsimp only
  -- the text that is checked is the text that is saved
  cases hendpoint : endpoint (Text.trim server) with
  | error cause => exact .inr ⟨_, files, rfl, h⟩
  | ok url =>
    obtain ⟨store, opened, hopen, hcontent, hkept, hnext⟩ := h.openAt
    have hset : (store.content opened).set serverKey (Text.trim server) =
        .ok (.table (Database.upsert serverKey (.text (Text.trim server)) rows)) := by
      rw [hcontent]
      rfl
    dsimp only
    rw [hopen]
    dsimp only
    rw [Store.set]
    cases hreadOnly : store.isReadOnly with
    | true =>
      rw [Store.bind_write_of_isReadOnly hset hreadOnly]
      exact .inr ⟨_, opened, rfl, hkept⟩
    | false =>
      rw [Store.bind_write_of_ok hset hreadOnly]
      refine .inl ⟨_, _, rfl, hnext _, ?_, fun key hkey => ?_, ?_⟩
      · rw [Database.lookup_upsert, if_pos rfl]
        rfl
      · rw [Database.lookup_upsert, if_neg hkey]
      · intro saved hsaved
        obtain rfl := Option.some.inj hsaved
        exact ⟨url, hendpoint⟩

/-- The saved server is forgotten, if the table may be written. -/
theorem reset_of_opensTo (h : Store.OpensTo path files (.table rows)) :
    (∃ files' rows', resetServer path files = (.ok defaultServer, files') ∧
        Store.OpensTo path files' (.table rows') ∧ reset.Settles rows rows') ∨
      ∃ cause files', resetServer path files = (.error cause, files') ∧
        Store.OpensTo path files' (.table rows) := by
  obtain ⟨store, opened, hopen, hcontent, hkept, hnext⟩ := h.openAt
  have hremove : (store.content opened).remove serverKey =
      .ok (.table (rows.filter fun row => row.1 != serverKey)) := by
    rw [hcontent]
    rfl
  have hlookup : (rows.filter fun row => row.1 != serverKey).lookup serverKey =
      (none : Option String).map Cell.text := by
    rw [lookup_filter_key, if_pos rfl]
    rfl
  unfold resetServer
  rw [hopen]
  dsimp only
  rw [Store.remove]
  cases hreadOnly : store.isReadOnly with
  | true =>
    rw [Store.bind_write_of_isReadOnly hremove hreadOnly]
    exact .inr ⟨_, opened, rfl, hkept⟩
  | false =>
    rw [Store.bind_write_of_ok hremove hreadOnly]
    dsimp only
    rw [resolveServer_of_lookup rfl (Store.content_replace ..) hlookup]
    exact .inl ⟨_, _, rfl, hnext _, hlookup, fun key hkey => by
      rw [lookup_filter_key, if_neg hkey], nofun⟩

/-- A call on a table succeeds and answers with the server in effect, or it fails and the table
stays as it was. -/
theorem run_of_opensTo (h : Store.OpensTo path files (.table rows)) (call : ServerCall) :
    (∃ files' rows', call.run path files = (.ok (call.saved?.getD defaultServer), files') ∧
        Store.OpensTo path files' (.table rows') ∧ call.Settles rows rows') ∨
      ∃ cause files', call.run path files = (.error cause, files') ∧
        Store.OpensTo path files' (.table rows) := by
  cases call with
  | save server => exact save_of_opensTo h server
  | reset => exact reset_of_opensTo h

end ServerCall

/-! ### The saved server -/

/-- A path opens to a table in which a server is saved, or none; a saved one is the address
of something. -/
structure ServerSaved (path : String) (files : Files) (last : Option String) : Prop where
  opensTo : ∃ rows, Store.OpensTo path files (.table rows) ∧
    rows.lookup serverKey = last.map Cell.text
  isAddress : ∀ server, last = some server → ∃ url, endpoint server = .ok url

/-- What is saved depends on the table that the path opens to. -/
theorem ServerSaved.of_opensTo {path : String} {files files' : Files} {last : Option String}
    {rows : List (String × Cell)} (h : ServerSaved path files last)
    (hopens : Store.OpensTo path files (.table rows))
    (hopens' : Store.OpensTo path files' (.table rows)) : ServerSaved path files' last := by
  obtain ⟨⟨rows', hrows, hlookup⟩, haddress⟩ := h
  obtain rfl := Database.table.inj (hrows.unique hopens)
  exact ⟨⟨rows', hopens', hlookup⟩, haddress⟩

/-- A call that succeeds leaves what it saves. -/
theorem ServerCall.Settles.serverSaved {call : ServerCall} {rows rows' : List (String × Cell)}
    {path : String} {files : Files} (h : call.Settles rows rows')
    (hopens : Store.OpensTo path files (.table rows')) : ServerSaved path files call.saved? :=
  ⟨⟨rows', hopens, h.lookup_server⟩, h.isAddress⟩

namespace ServerSaved

variable {path : String} {files : Files} {last : Option String}

theorem call (h : ServerSaved path files last) (c : ServerCall) :
    ServerSaved path (c.run path files).2 (if (c.run path files).1.isOk then c.saved? else last) := by
  obtain ⟨rows, hopens, -⟩ := h.opensTo
  rcases ServerCall.run_of_opensTo hopens c with
    ⟨files', rows', hrun, hopens', hsettles⟩ | ⟨cause, files', hrun, hopens'⟩
  · rw [hrun]
    exact hsettles.serverSaved hopens'
  · rw [hrun]
    exact h.of_opensTo hopens hopens'

end ServerSaved

namespace ServerChange

variable {path : String} {files : Files} {last : Option String}

/-- A change makes the call that it asks for, or it changes nothing and reports no success. -/
theorem carryOut_cases (path : String) (files : Files) (change : ServerChange) :
    change.carryOut path files =
        ((change.asked.run path files).1.isOk, (change.asked.run path files).2) ∨
      change.carryOut path files = (false, files) := by
  cases change with
  | call c => exact .inl rfl
  | subcommand explicit? argument =>
    left
    rw [carryOut, Program.serverCommand_eq, Program.isSuccess_conclude, Program.files_conclude]
    rfl
  | line server text =>
    obtain ⟨success, hcall⟩ | ⟨hfiles, hrequest⟩ :=
      dispatch_call_or_same text ⟨server, path⟩ files
    · left
      rw [carryOut, hcall]
      dsimp only
      rw [Command.isChange_serverReaction]
      rfl
    · right
      rw [carryOut]
      -- the reaction is taken as it is: computing it would mean carrying the line out
      generalize dispatch text ⟨server, path⟩ files = answer at hfiles hrequest ⊢
      exact Prod.ext hrequest hfiles

end ServerChange

namespace ServerSaved

variable {path : String} {files : Files} {last : Option String}

theorem carryOut (h : ServerSaved path files last) (change : ServerChange) :
    ServerSaved path (change.carryOut path files).2
      (if (change.carryOut path files).1 then change.asked.saved? else last) := by
  rcases change.carryOut_cases path files with hcall | hsame
  · rw [hcall]
    exact h.call change.asked
  · rw [hsame]
    exact h

/-- The saved server is the one that was saved last, whatever the changes are. -/
theorem history (h : ServerSaved path files last) (changes : List ServerChange) :
    ServerSaved path (ServerChange.history path changes files last).1
      (ServerChange.history path changes files last).2 := by
  induction changes generalizing files last with
  | nil => exact h
  | cons change rest ih => exact ih (h.carryOut change)

/-- A database that is opened anew resolves to the saved server, or to the fixed one. -/
theorem currentServer (h : ServerSaved path files last) {explicit? : Option String}
    (hexplicit : explicitServer? explicit? = none) :
    ∃ files', Program.currentServer path explicit? files =
      (.ok (last.getD defaultServer), files') := by
  obtain ⟨⟨rows, hopens, hlast⟩, -⟩ := h
  obtain ⟨store, files', hopen, hcontent, -⟩ := hopens.openAt
  refine ⟨files', ?_⟩
  unfold Program.currentServer
  rw [hopen]
  exact congrArg (·, files') (resolveServer_of_lookup hexplicit hcontent hlast)

end ServerSaved

theorem exists_endpoint_defaultServer : ∃ url, endpoint defaultServer = .ok url := by
  -- the one fact about a server that is computed
  have hok : (endpoint defaultServer).isOk = true := by decide +kernel
  cases h : endpoint defaultServer with
  | ok url => exact ⟨url, rfl⟩
  | error cause =>
    rw [h] at hok
    cases hok

/-- The default server is the address of something. -/
theorem ServerSaved.exists_endpoint {path : String} {files : Files} {last : Option String}
    (h : ServerSaved path files last) : ∃ url, endpoint (last.getD defaultServer) = .ok url := by
  cases last with
  | none => exact exists_endpoint_defaultServer
  | some server => exact h.isAddress server rfl

/-! ### Explicit servers -/

/-- A text of blanks names no server explicitly. -/
theorem explicitServer?_of_blank {text : String} (h : text.toList.all Text.isBlank = true) :
    explicitServer? (some text) = none := by
  rw [explicitServer?, Option.map_some, Text.trim_eq_empty_iff.mpr h]
  rfl

theorem explicitServer?_of_not_blank {text : String}
    (h : text.toList.all Text.isBlank = false) :
    explicitServer? (some text) = some (Text.trim text) := by
  have hne : Text.trim text ≠ "" := by
    rw [Ne, Text.trim_eq_empty_iff, h]
    nofun
  rw [explicitServer?, Option.map_some, Option.filter_some, if_pos (by simpa using hne)]

/-! ### The default server -/

/-- A start without an explicit server comes to a console if its default server is the
address of something. -/
theorem Program.exists_console {s : Surroundings} {a : Arguments} {server : String}
    {files' : Files} {url : Url} (hparse : Arguments.parse s.server s.arguments = .ok a)
    (hcommand : a.command = none)
    (hcurrent : currentServer (a.database.getD (defaultDatabasePath s.home)) a.server s.files =
      (.ok server, files'))
    (hendpoint : endpoint server = .ok url) : ∃ c, start s = .console c := by
  have hof : Evaluator.of server (a.timeout.map (1000 * ·)) =
      .ok ⟨url, a.timeout.map (1000 * ·)⟩ := by
    rw [Evaluator.of, hendpoint]
    rfl
  exact ⟨_, start_of_server hparse hcommand hcurrent hof⟩

/-- The default server after any changes of the saved one. When a path that stays opens to a
table without a server, then the server in effect afterwards is the one that was saved last
and not forgotten since, or else the fixed one. It is the address of something, so that a
later start which names no server gets as far as a console. A server that is named explicitly
is in effect in any case, and a text of blanks names none. -/
theorem ServerChange.resolve_history {path : String} {files opened : Files} {store : Store}
    {rows : List (String × Cell)} (hstays : Store.isTransient path = false)
    (hopen : Store.openAt path files = (.ok store, opened))
    (htable : store.content opened = .table rows) (hnone : rows.lookup serverKey = none)
    (changes : List ServerChange) :
    let after := ServerChange.history path changes files none
    (∃ files', Program.currentServer path none after.1 =
      (.ok (after.2.getD defaultServer), files')) ∧
    (∃ url, endpoint (after.2.getD defaultServer) = .ok url) ∧
    (∀ s a, Arguments.parse s.server s.arguments = .ok a → a.command = none →
      a.database.getD (defaultDatabasePath s.home) = path → s.files = after.1 →
      (∀ text, a.server = some text → text.toList.all Text.isBlank = true) →
      ∃ c, Program.start s = .console c) ∧
    (∀ text store files, text.toList.all Text.isBlank = false →
      resolveServer (some text) store files = .ok (Text.trim text)) ∧
    ∀ text store files, text.toList.all Text.isBlank = true →
      resolveServer (some text) store files = resolveServer none store files := by
  intro after
  have hsaved : ServerSaved path files none :=
    ⟨⟨rows, ⟨hstays, store, opened, hopen, htable⟩, hnone⟩, nofun⟩
  have hafter : ServerSaved path after.1 after.2 := hsaved.history changes
  obtain ⟨url, hendpoint⟩ := hafter.exists_endpoint
  refine ⟨hafter.currentServer rfl, ⟨url, hendpoint⟩, fun s a hparse hcommand hpath hfiles hblank => ?_,
    fun text store files hblank => ?_, fun text store files hblank => ?_⟩
  · have hexplicit : explicitServer? a.server = none := by
      cases hserver : a.server with
      | none => rfl
      | some text => exact explicitServer?_of_blank (hblank text hserver)
    obtain ⟨files', hcurrent⟩ := hafter.currentServer hexplicit
    rw [← hpath, ← hfiles] at hcurrent
    exact Program.exists_console hparse hcommand hcurrent hendpoint
  · unfold resolveServer
    rw [explicitServer?_of_not_blank hblank]
  · unfold resolveServer
    rw [explicitServer?_of_blank hblank]
    rfl

/-- A server is saved, forgotten, and saved again in a session; the last change fails. -/
def ServerChange.several : List ServerChange :=
  [.call (.save " http://a.example "), .call .reset,
    .line "http://b.example" "/server  https://c.example/x\t", .subcommand none "nonsense"]

theorem ServerChange.resolve_history_several :
    Store.isTransient "x.db" = false ∧
      Store.openAt "x.db" .empty =
        (.ok (.shared ["x.db"]), ⟨[(["x.db"], .database .empty)]⟩) ∧
      ∃ files', Program.currentServer "x.db" none
          (ServerChange.history "x.db" ServerChange.several .empty none).1 =
        (.ok "https://c.example/x", files') := by
  have hopen : Store.openAt "x.db" .empty =
      (.ok (.shared ["x.db"]), ⟨[(["x.db"], .database .empty)]⟩) := rfl
  have hlast : (ServerChange.history "x.db" ServerChange.several .empty none).2 =
      some "https://c.example/x" := by
    decide +kernel
  have htable : (Store.shared ["x.db"]).content ⟨[(["x.db"], .database .empty)]⟩ = .table [] := rfl
  refine ⟨rfl, hopen, ?_⟩
  have hcurrent :=
    (ServerChange.resolve_history (by decide) hopen htable rfl ServerChange.several).1
  rwa [hlast] at hcurrent

end EvalConsole
