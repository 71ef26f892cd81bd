/-
A session and its settings.

The server of a session is kept twice: by the session itself, and in the database, where a
later start will look for it. Lines change both at once or neither of them.

* `Session.Course` is a session in which lines are carried out, with what they have asked for.
* `dispatch_of_opensTo` is what one line does to a table: nothing, or what a call does.
* `Session.Course.Agrees` is the invariant: once a change has been reported, the server of the
  session is the saved one, or the fixed one.
* `Session.Course.agrees_run`: after any lines, and whatever the next line is, the two agree.
-/
import EvalConsole.Proofs.Settings.Reading
import EvalConsole.Proofs.Settings.ServerHistory

namespace EvalConsole

-- What a server comes to is never looked into here, nor is a line but by the lemma about it.
attribute [local irreducible] endpoint dispatch

/-! ### Lines of a session -/

/-- The session after a request: it goes on with another server if that is asked for. -/
def Session.follow (session : Session) : Request → Session
  | .changeServer server => { session with server }
  | .expression => session
  | .handled => session
  | .quit => session

theorem Session.follow_of_not_isChange {request : Request} (h : request.isChange = false)
    (session : Session) : session.follow request = session := by
  cases request with
  | changeServer server => cases h
  | expression => rfl
  | handled => rfl
  | quit => rfl

theorem Session.database_follow (session : Session) (request : Request) :
    (session.follow request).database = session.database := by
  cases request <;> rfl

/-- A session in which lines are carried out: what they have asked for, and the session and
the files that they have led to. -/
structure Session.Course where
  requests : List Request
  session : Session
  files : Files

namespace Session.Course

/-- Carries one more line out. -/
def line (c : Course) (text : String) : Course :=
  let answer := dispatch text c.session c.files
  ⟨c.requests ++ [answer.1.request], c.session.follow answer.1.request, answer.2⟩

/-- Carries lines out one after the other. -/
def run (c : Course) (lines : List String) : Course :=
  lines.foldl line c

/-- Whether another server has been reported. -/
def hasChanged (c : Course) : Bool :=
  c.requests.any Request.isChange

end Session.Course

/-! ### One line -/

section Line

variable {path : String} {files : Files} {rows : List (String × Cell)}

theorem readSetting_of_opensTo {content : Database} (h : Store.OpensTo path files content)
    (key : String) : readSetting path key files = (content.get? key).mapError .cannotRead := by
  obtain ⟨-, store, opened, hopen, rfl⟩ := h
  exact readSetting_of_openAt hopen key

/-- A call that settles a table leaves the other keys as they were. -/
theorem ServerCall.Settles.readSetting {call : ServerCall} {rows' : List (String × Cell)}
    {files' : Files} (h : call.Settles rows rows') (hopens : Store.OpensTo path files (.table rows))
    (hopens' : Store.OpensTo path files' (.table rows')) {key : String} (hkey : key ≠ serverKey) :
    readSetting path key files' = readSetting path key files := by
  rw [readSetting_of_opensTo hopens, readSetting_of_opensTo hopens', Database.get?, Database.get?,
    Database.valueIn, Database.valueIn, h.lookup_of_ne key hkey]

/-- A line leaves the table as it was and reports no change, or it makes a call and reports the
server that is in effect after it. -/
theorem dispatch_of_opensTo (h : Store.OpensTo path files (.table rows)) (text server : String) :
    ((dispatch text ⟨server, path⟩ files).1.request.isChange = false ∧
        Store.OpensTo path (dispatch text ⟨server, path⟩ files).2 (.table rows)) ∨
      ∃ (call : ServerCall) (rows' : List (String × Cell)),
        (dispatch text ⟨server, path⟩ files).1.request =
          .changeServer (call.saved?.getD defaultServer) ∧
        Store.OpensTo path (dispatch text ⟨server, path⟩ files).2 (.table rows') ∧
        call.Settles rows rows' := by
  obtain ⟨success, hcall⟩ | ⟨hfiles, hrequest⟩ := dispatch_call_or_same text ⟨server, path⟩ files
  · rw [hcall]
    rcases ServerCall.run_of_opensTo h (.ofArgument (splitLine text).2) with
      ⟨files', rows', hrun, hopens', hsettles⟩ | ⟨cause, files', hrun, hopens'⟩
    · right
      rw [hrun]
      exact ⟨_, rows', rfl, hopens', hsettles⟩
    · left
      rw [hrun]
      exact ⟨rfl, hopens'⟩
  · left
    rw [hfiles]
    exact ⟨hrequest, h⟩

end Line

/-! ### Many lines -/

namespace Session.Course

variable {path : String} {c : Course}

/-- The database of a session is a table. Once a change has been reported, its server is the
saved one, or the fixed one if none is saved. -/
structure Agrees (path : String) (c : Course) : Prop where
  database : c.session.database = path
  opensTo : ∃ rows, Store.OpensTo path c.files (.table rows)
  serverSaved : c.hasChanged = true →
    ∃ last, ServerSaved path c.files last ∧ c.session.server = last.getD defaultServer

theorem session_line (c : Course) (text : String) : (c.line text).session =
    c.session.follow (dispatch text c.session c.files).1.request :=
  rfl

theorem hasChanged_line (c : Course) (text : String) : (c.line text).hasChanged =
    (c.hasChanged || (dispatch text c.session c.files).1.request.isChange) := by
  simp [line, hasChanged]

namespace Agrees

theorem line (h : c.Agrees path) (text : String) : (c.line text).Agrees path := by
  obtain ⟨rows, hopens⟩ := h.opensTo
  have hsession : c.session = ⟨c.session.server, path⟩ := h.database ▸ rfl
  have hdispatch := dispatch_of_opensTo hopens text c.session.server
  rw [← hsession] at hdispatch
  have hdatabase : (c.line text).session.database = path :=
    (Session.database_follow ..).trans h.database
  rcases hdispatch with ⟨hrequest, hopens'⟩ | ⟨call, rows', hrequest, hopens', hsettles⟩
  · refine ⟨hdatabase, ⟨rows, hopens'⟩, fun hchanged => ?_⟩
    -- the report is an earlier one
    rw [hasChanged_line, hrequest, Bool.or_false] at hchanged
    obtain ⟨last, hsaved, hserver⟩ := h.serverSaved hchanged
    rw [session_line, Session.follow_of_not_isChange hrequest]
    exact ⟨last, hsaved.of_opensTo hopens hopens', hserver⟩
  · refine ⟨hdatabase, ⟨rows', hopens'⟩, fun _ => ?_⟩
    rw [session_line, hrequest]
    exact ⟨call.saved?, hsettles.serverSaved hopens', rfl⟩

theorem run (h : c.Agrees path) (lines : List String) : (c.run lines).Agrees path := by
  induction lines generalizing c with
  | nil => exact h
  | cons text rest ih => exact ih (h.line text)

end Agrees

end Session.Course

/-- The session that a start comes to has the server in effect. -/
theorem Program.session_of_start {s : Surroundings} {a : Arguments} {server : String}
    {files' : Files} {c : Console} (hparse : Arguments.parse s.server s.arguments = .ok a)
    (hcurrent : currentServer (a.database.getD (defaultDatabasePath s.home)) a.server s.files =
      (.ok server, files'))
    (hstart : start s = .console c) :
    c.session = ⟨server, a.database.getD (defaultDatabasePath s.home)⟩ := by
  obtain ⟨-, other, evaluator, opened, hother, -, rfl⟩ := exists_of_start hparse hstart
  cases hcurrent.symm.trans hother
  exact session_begun ..

namespace Session.Course

/-- A session and its settings agree. When the path of a session stays and opens to a table,
then this holds after any lines, whatever server the session has started with. A line that
reports no change leaves the server and the values of all keys as they are. A line that
reports a change to a server leaves the values of the other keys as they are, and makes it
the default server. Once a change has been reported, the default server is the server of the
session, and another start which names no server comes to a session just like it. -/
theorem agrees_run {path : String} {files opened : Files} {store : Store}
    {rows : List (String × Cell)} (hstays : Store.isTransient path = false)
    (hopen : Store.openAt path files = (.ok store, opened))
    (htable : store.content opened = .table rows) (server : String) (lines : List String) :
    let after := Course.run ⟨[], ⟨server, path⟩, files⟩ lines
    (∀ text,
      let answer := dispatch text after.session after.files
      (answer.1.request.isChange = false → (after.line text).session = after.session ∧
        ∀ key, readSetting path key answer.2 = readSetting path key after.files) ∧
      ∀ next, answer.1.request = .changeServer next →
        (after.line text).session.server = next ∧
        (∀ key, key ≠ serverKey →
          readSetting path key answer.2 = readSetting path key after.files) ∧
        ∃ files', Program.currentServer path none answer.2 = (.ok next, files')) ∧
    (after.hasChanged = true →
      (∃ files', Program.currentServer path none after.files =
        (.ok after.session.server, files')) ∧
      ∀ s a, Arguments.parse s.server s.arguments = .ok a → a.command = none →
        a.database.getD (defaultDatabasePath s.home) = path → s.files = after.files →
        explicitServer? a.server = none →
        ∃ c, Program.start s = .console c ∧ c.session = after.session) := by
  intro after
  have hfirst : Agrees path ⟨[], ⟨server, path⟩, files⟩ :=
    ⟨rfl, ⟨rows, hstays, store, opened, hopen, htable⟩, nofun⟩
  have hagrees : after.Agrees path := hfirst.run lines
  have hsession : after.session = ⟨after.session.server, path⟩ := hagrees.database ▸ rfl
  obtain ⟨rows', hopens⟩ := hagrees.opensTo
  refine ⟨fun text => ?_, fun hchanged => ?_⟩
  · have hdispatch := dispatch_of_opensTo hopens text after.session.server
    rw [← hsession] at hdispatch
    intro answer
    rw [session_line]
    rcases hdispatch with ⟨hrequest, hopens'⟩ | ⟨call, rows'', hrequest, hopens', hsettles⟩
    · rw [Session.follow_of_not_isChange hrequest]
      refine ⟨fun _ => ⟨rfl, fun key => ?_⟩, fun next hnext => ?_⟩
      · rw [readSetting_of_opensTo hopens', readSetting_of_opensTo hopens]
      rw [hnext] at hrequest
      cases hrequest
    · refine ⟨fun hsame => ?_, fun next hnext => ?_⟩
      · rw [hrequest] at hsame
        cases hsame
      · obtain rfl := Request.changeServer.inj (hrequest.symm.trans hnext)
        rw [hrequest]
        exact ⟨rfl, fun key hkey => hsettles.readSetting hopens hopens' hkey,
          (hsettles.serverSaved hopens').currentServer rfl⟩
  · obtain ⟨last, hsaved, hserver⟩ := hagrees.serverSaved hchanged
    rw [hserver]
    refine ⟨hsaved.currentServer rfl, fun s a hparse hcommand hpath hfiles hexplicit => ?_⟩
    obtain ⟨url, hendpoint⟩ := hsaved.exists_endpoint
    obtain ⟨files', hcurrent⟩ := hsaved.currentServer hexplicit
    rw [← hpath, ← hfiles] at hcurrent
    obtain ⟨c, hstart⟩ := Program.exists_console hparse hcommand hcurrent hendpoint
    refine ⟨c, hstart, ?_⟩
    rw [Program.session_of_start hparse hcurrent hstart, hsession, hserver, hpath]

/-- A database with a saved server that cannot be read, and with another setting. -/
def withTheme : Files :=
  ⟨[(["x.db"], .database (.table [("server", .blob), ("theme", .text "dark")]))]⟩

/-- Lines of which the second one changes the server. -/
def several : List String :=
  ["/status", "/server  https://c.example/x\t", "/server nonsense", "1 + 1"]

theorem agrees_run_several :
    let after := Course.run ⟨[], ⟨"http://a.example", "x.db"⟩, withTheme⟩ several
    (∃ files', Program.currentServer "x.db" none after.files =
      (.ok "https://c.example/x", files')) ∧
    readSetting "x.db" "theme" (dispatch "/server reset" after.session after.files).2 =
      readSetting "x.db" "theme" after.files ∧
    readSetting "x.db" "server" (dispatch "/server b" after.session after.files).2 =
      readSetting "x.db" "server" after.files := by
  intro after
  have hopen : Store.openAt "x.db" withTheme = (.ok (.shared ["x.db"]), withTheme) := rfl
  obtain ⟨hlines, hchange⟩ := agrees_run (by decide) hopen rfl "http://a.example" several
  have hchanged : after.hasChanged = true := by decide +kernel
  have hserver : after.session.server = "https://c.example/x" := by decide +kernel
  have hreset : (dispatch "/server reset" after.session after.files).1.request =
      .changeServer defaultServer := by decide +kernel
  have hrejected : (dispatch "/server b" after.session after.files).1.request.isChange = false := by
    decide +kernel
  refine ⟨?_, ?_, ?_⟩
  · rw [← hserver]
    exact (hchange hchanged).1
  · exact ((hlines "/server reset").2 _ hreset).2.1 "theme" (by decide)
  · exact ((hlines "/server b").1 hrejected).2 "server"

end Session.Course

end EvalConsole
