/-
The subcommand and the command of a session.

The saved server is changed from outside by the subcommand, and from within a session by a
line. Both make the same call with the same text, and they tell the same about it, each in its
own words.

* `splitLine_server`: a line made of the word for the server and an argument.
* `saveServer_of_ok`: what is true once a server has been saved.
* `ServerCall.Attains` is what is true once a call has come to a server.
* `subcommand_agrees_with_line`: the two leave the same behind, come to the same server, or
  fail for the same causes.
-/
import EvalConsole.Proofs.Console.Padding
import EvalConsole.Proofs.Settings.Reset

namespace EvalConsole

-- What a server comes to is never looked into here.
attribute [local irreducible] endpoint

/-! ### The line -/

section Line

variable {argument : String} (front : ∀ c ∈ argument.toList.head?, Text.isBlank c = false)
  (back : ∀ c ∈ argument.toList.getLast?, Text.isBlank c = false)

include front back

/-- The argument is the text behind the word, if it does not start or end with a blank. -/
theorem splitLine_server : splitLine ("/server " ++ argument) = ("/server", argument) := by
  have hline : "/server " ++ argument = "/server" ++ " " ++ argument := rfl
  have hvisible : ∀ c ∈ "/server".toList, Text.isBlank c = false := by simp [Text.isBlank]
  have hblank : ∀ c ∈ " ".toList, Text.isBlank c = true := by simp [Text.isBlank]
  rw [hline, splitLine_of_word hvisible (by decide) hblank (by decide), Text.trim,
    Text.trimChars_of_ends front back, String.ofList_toList]

/-- Such a line is carried out by the command for the server. -/
theorem dispatch_server (session : Session) (files : Files) :
    dispatch ("/server " ++ argument) session files =
      Command.runServer argument session files := by
  have hmem : "/server" ∈ Command.server.words := List.mem_cons_self
  rw [dispatch_of_mem_words hmem (splitLine_server front back), Command.run]

end Line

/-! ### Calls that succeed -/

section Calls

variable {path server next : String} {files after : Files}

/-- A key that was given a value has it. -/
theorem Database.get?_of_set {db db' : Database} {key value : String}
    (h : db.set key value = .ok db') : db'.get? key = .ok (some value) := by
  cases db with
  | table rows =>
    obtain rfl := Except.ok.inj h
    rw [get?, valueIn, lookup_upsert, if_pos rfl]
  | list rows => cases h
  | withoutValues => cases h
  | view server acceptsRemoval => cases h

/-- A server that was saved is the trimmed text, and the address of something. It is what is
read at a path that stays. -/
theorem saveServer_of_ok (h : saveServer path server files = (.ok next, after)) :
    next = Text.trim server ∧ (∃ url, endpoint next = .ok url) ∧
      (Store.isTransient path = false → readSetting path serverKey after = .ok (some next)) := by
  unfold saveServer at h
  dsimp only at h
  cases hendpoint : endpoint (Text.trim server) with
  | error cause =>
    rw [hendpoint] at h
    cases h
  | ok url =>
    rw [hendpoint] at h
    dsimp only at h
    cases hopen : Store.openAt path files with
    | mk result opened =>
      rw [hopen] at h
      cases result with
      | error cause => cases h
      | ok store =>
        dsimp only at h
        cases hchanged : store.set opened serverKey (Text.trim server) with
        | error cause =>
          rw [hchanged] at h
          cases h
        | ok changed =>
          rw [hchanged] at h
          obtain ⟨-, content, hset, rfl⟩ := Store.bind_write_ok hchanged
          obtain rfl : Text.trim server = next := Except.ok.inj (congrArg Prod.fst h)
          obtain rfl : (store.replace opened content).2 = after := congrArg Prod.snd h
          refine ⟨rfl, ⟨url, hendpoint⟩, fun hstays => ?_⟩
          have hempty : Store.isTransient path = true → content = .empty := by
            rw [hstays]
            nofun
          obtain ⟨hagain, hcontent, -⟩ := Store.openAt_replace hopen hempty
          rw [readSetting_of_openAt hagain, hcontent, Database.get?_of_set hset]
          rfl

/-- What is true once a call has come to a server. A server that was to be saved is the trimmed
text, and the address of something, and it is read at a path that stays. After a reset the server
is the one in effect. -/
def ServerCall.Attains (path : String) (after : Files) (next : String) : ServerCall → Prop
  | save server => next = Text.trim server ∧ (∃ url, endpoint next = .ok url) ∧
      (Store.isTransient path = false → readSetting path serverKey after = .ok (some next))
  | reset => Program.currentServer path none after = (.ok next, after)

theorem ServerCall.attains_of_ok {call : ServerCall}
    (h : call.run path files = (.ok next, after)) : call.Attains path after next := by
  cases call with
  | save server => exact saveServer_of_ok h
  | reset => exact currentServer_of_resetServer h

end Calls

/-- The subcommand and the command of a session do the same. With an argument that is not empty
and has no blank at either end, either both come to one server and write it each in its own way,
and the line asks to go on with that server. Or both fail for the same causes, which the line
writes on the error output, and it asks for nothing. The files are the same afterwards. Neither
the server that is perhaps named explicitly nor that of the session has a part in it. -/
theorem subcommand_agrees_with_line {argument : String} (hsome : argument ≠ "")
    (front : ∀ c ∈ argument.toList.head?, Text.isBlank c = false)
    (back : ∀ c ∈ argument.toList.getLast?, Text.isBlank c = false) (path : String)
    (files : Files) :
    let call := ServerCall.ofArgument argument
    (∃ next after, call.run path files = (.ok next, after) ∧ call.Attains path after next ∧
      ∀ explicit? server,
        Program.serverCommand path explicit? (some argument) files =
          Program.succeed (call.announcement path next) after ∧
        dispatch ("/server " ++ argument) ⟨server, path⟩ files =
          (⟨.changeServer next, "  " ++ tick ++ " " ++ call.success ++ next ++ "\n", ""⟩, after)) ∨
    ∃ cause after, call.run path files = (.error cause, after) ∧
      ∀ explicit? server,
        Program.serverCommand path explicit? (some argument) files =
          Program.fail cause.chain after ∧
        dispatch ("/server " ++ argument) ⟨server, path⟩ files =
          (⟨.handled, "",
            "  " ++ cross ++ " " ++ String.intercalate ": " cause.chain ++ "\n"⟩, after) := by
  intro call
  have hempty : argument.isEmpty = false := by
    rw [Bool.eq_false_iff, Ne, String.isEmpty_iff]
    exact hsome
  have hline (server : String) : dispatch ("/server " ++ argument) ⟨server, path⟩ files =
      (Command.serverReaction call.success (call.run path files).1, (call.run path files).2) := by
    rw [dispatch_server front back, Command.runServer_eq hempty]
  have hstart (explicit? : Option String) :=
    Program.serverCommand_eq path explicit? argument files
  cases hrun : call.run path files with
  | mk answer after =>
    cases answer with
    | ok next =>
      left
      refine ⟨next, after, rfl, ServerCall.attains_of_ok hrun, fun explicit? server => ⟨?_, ?_⟩⟩
      · rw [hstart, hrun]
        rfl
      · rw [hline, hrun]
        rfl
    | error cause =>
      right
      refine ⟨cause, after, rfl, fun explicit? server => ⟨?_, ?_⟩⟩
      · rw [hstart, hrun]
        rfl
      · rw [hline, hrun]
        rfl

/-- A view that refuses a removal. -/
def Files.refusing : Files :=
  ⟨[(["v.db"], .database (.view "http://v" false))]⟩

theorem subcommand_agrees_with_line_both_ways :
    (∃ after, (∀ server, dispatch ("/server " ++ "http://a.example") ⟨server, "x.db"⟩ .empty =
        (⟨.changeServer "http://a.example", "  ✓ server changed to http://a.example\n", ""⟩,
          after)) ∧
      readSetting "x.db" "server" after = .ok (some "http://a.example")) ∧
    ∃ after, ∀ explicit? server,
      Program.serverCommand "v.db" explicit? (some "reset") .refusing =
        Program.fail ["failed to clear saved server", "cannot modify config because it is a view",
          "Error code 1: SQL logic error"] after ∧
      dispatch ("/server " ++ "reset") ⟨server, "v.db"⟩ .refusing =
        (⟨.handled, "", "  ✗ failed to clear saved server: cannot modify config because it is a "
          ++ "view: Error code 1: SQL logic error\n"⟩, after) := by
  have hsaved : ((ServerCall.ofArgument "http://a.example").run "x.db" .empty).1.isOk = true := by
    decide +kernel
  have hrefused : ((ServerCall.ofArgument "reset").run "v.db" .refusing).1 =
      .error (.cannotReset .isView) := rfl
  have hurl : "http://a.example" ≠ "" := by decide
  have hurlFront : ∀ c ∈ "http://a.example".toList.head?, Text.isBlank c = false := by
    rintro c ⟨⟩
    rfl
  have hurlBack : ∀ c ∈ "http://a.example".toList.getLast?, Text.isBlank c = false := by
    rintro c ⟨⟩
    rfl
  have hreset : "reset" ≠ "" := by decide
  have hresetFront : ∀ c ∈ "reset".toList.head?, Text.isBlank c = false := by
    rintro c ⟨⟩
    rfl
  have hresetBack : ∀ c ∈ "reset".toList.getLast?, Text.isBlank c = false := by
    rintro c ⟨⟩
    rfl
  constructor
  · obtain ⟨next, after, -, hattains, hboth⟩ | ⟨cause, after, hrun, -⟩ :=
      subcommand_agrees_with_line hurl hurlFront hurlBack "x.db" .empty
    · obtain ⟨rfl, -, hread⟩ := hattains
      exact ⟨after, fun server => (hboth none server).2, hread rfl⟩
    · rw [hrun] at hsaved
      cases hsaved
  · obtain ⟨next, after, hrun, -⟩ | ⟨cause, after, hrun, hboth⟩ :=
      subcommand_agrees_with_line hreset hresetFront hresetBack "v.db" .refusing
    · rw [hrun] at hrefused
      cases hrefused
    · rw [hrun] at hrefused
      obtain rfl := Except.error.inj hrefused
      exact ⟨after, hboth⟩

end EvalConsole
