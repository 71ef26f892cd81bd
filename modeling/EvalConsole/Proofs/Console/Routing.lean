/-
What becomes of a line.

The first word of a line decides whether it is an expression, which command it is, or that it is
none: every word of a command starts with a slash, and no word stands for two of them. Nothing but
the command for the server looks at the files.

* `firstWord` is the first word of a line, `splitLine_eq` finds it in the parts of the line.
* `Command.ofWord?_eq_some_iff`: a word stands for the command that it is a name or alias of.
* `dispatch_cases`: the three kinds of lines, with what is made of them.
* `dispatch_routes`: what is asked for and written, for every line.
-/
import EvalConsole.Proofs.Settings.ServerCall
import EvalConsole.Proofs.Text.Words

namespace EvalConsole

/-! ### Words -/

/-- The first word of a line. -/
def firstWord (line : String) : String :=
  String.ofList (Text.firstWord line.toList)

/-- A line is cut into its first word and what stands behind it, trimmed. -/
theorem splitLine_eq (line : String) : splitLine line =
    (firstWord line, String.ofList (Text.trimChars (Text.behindFirstWord line.toList))) := by
  show (String.ofList (Text.cutWord (Text.trimChars line.toList)).1,
    String.ofList (Text.trimChars (Text.cutWord (Text.trimChars line.toList)).2)) = _
  rw [Text.cutWord_trimChars, Text.trimChars_cutWord]
  rfl

/-- There is no argument if nothing but blanks stands behind the first word. -/
theorem isEmpty_argument_iff {line : String} : (splitLine line).2.isEmpty = true ↔
    ∀ c ∈ Text.behindFirstWord line.toList, Text.isBlank c = true := by
  rw [splitLine_eq, String.isEmpty_iff, String.ofList_eq_empty_iff, Text.trimChars_eq_nil_iff]

/-- The first word starts with the first character of the line that is no blank. -/
theorem head?_firstWord (line : String) :
    (firstWord line).toList.head? = line.toList.find? fun c => !Text.isBlank c := by
  rw [firstWord, String.toList_ofList, Text.head?_firstWord]

namespace Command

variable {word : String} {c : Command}

/-- The words of commands are slash words. -/
theorem head?_of_mem_words (h : word ∈ c.words) : word.toList.head? = some '/' := by
  have hall : ∀ c : Command, ∀ word ∈ c.words, word.toList.head? = some '/' := by
    intro c
    cases c <;> decide
  exact hall c word h

/-- A word stands for the command that it is a name or alias of, and for no other. -/
theorem ofWord?_eq_some_iff : ofWord? word = some c ↔ word ∈ c.words := by
  constructor
  · intro h
    have hfound := List.find?_some h
    simpa using hfound
  · intro h
    have hall : ∀ c : Command, ∀ word ∈ c.words, ofWord? word = some c := by
      intro c
      cases c <;> decide
    exact hall c word h

/-- No word stands for two commands. -/
theorem eq_iff_mem_words {d : Command} (h : word ∈ c.words) : c = d ↔ word ∈ d.words := by
  constructor
  · rintro rfl
    exact h
  · intro hd
    exact Option.some.inj ((ofWord?_eq_some_iff.mpr h).symm.trans (ofWord?_eq_some_iff.mpr hd))

theorem ofWord?_eq_none_iff : ofWord? word = none ↔ ∀ c : Command, word ∉ c.words := by
  rw [Option.eq_none_iff_forall_ne_some]
  exact forall_congr' fun c => not_congr ofWord?_eq_some_iff

end Command

/-! ### Lines -/

variable {line : String} {session : Session} {files : Files}

/-- A slash word that is none of the words of commands is hinted at. -/
def unknownCommand (word : String) : Reaction :=
  ⟨.handled, "unknown command: " ++ word ++ "\ntype /help for available commands\n", ""⟩

/-- A line is an expression, or its first word is unknown, or it is that of a command. -/
theorem dispatch_cases (line : String) :
    ((line.toList.find? fun c => !Text.isBlank c) ≠ some '/' ∧
        (∀ c : Command, firstWord line ∉ c.words) ∧
        ∀ session files, dispatch line session files = (⟨.expression, "", ""⟩, files)) ∨
      ((line.toList.find? fun c => !Text.isBlank c) = some '/' ∧
        (∀ c : Command, firstWord line ∉ c.words) ∧
        ∀ session files,
          dispatch line session files = (unknownCommand (firstWord line), files)) ∨
      (line.toList.find? fun c => !Text.isBlank c) = some '/' ∧
        ∃ c : Command, firstWord line ∈ c.words ∧
          ∀ session files, dispatch line session files = c.run (splitLine line).2 session files := by
  have hword : (splitLine line).1 = firstWord line := congrArg Prod.fst (splitLine_eq line)
  cases hfound : Command.ofWord? (firstWord line) with
  | some c =>
    have hmem : firstWord line ∈ c.words := Command.ofWord?_eq_some_iff.mp hfound
    have hslash : (firstWord line).toList.head? = some '/' := Command.head?_of_mem_words hmem
    rw [head?_firstWord] at hslash
    exact .inr (.inr ⟨hslash, c, hmem, dispatch_of_command (hword ▸ hfound)⟩)
  | none =>
    have hnone : ∀ c : Command, firstWord line ∉ c.words := Command.ofWord?_eq_none_iff.mp hfound
    have hdispatch (session : Session) (files : Files) : dispatch line session files =
        if (firstWord line).toList.head? = some '/' then (unknownCommand (firstWord line), files)
        else (⟨.expression, "", ""⟩, files) := by
      unfold dispatch
      rw [splitLine_eq]
      dsimp only
      rw [hfound]
      rfl
    rw [head?_firstWord] at hdispatch
    by_cases hslash : (line.toList.find? fun c => !Text.isBlank c) = some '/'
    · simp only [if_pos hslash] at hdispatch
      exact .inr (.inl ⟨hslash, hnone, hdispatch⟩)
    · simp only [if_neg hslash] at hdispatch
      exact .inl ⟨hslash, hnone, hdispatch⟩

/-! ### Requests -/

namespace Command

/-- What a command asks for. The end is asked for by the command for it; another server is asked
for by the command for that, and only with an argument. -/
theorem request_run (c : Command) (argument : String) (session : Session) (files : Files) :
    (c.run argument session files).1.request = (if c = quit then .quit else .handled) ∨
      c = server ∧ argument.isEmpty = false ∧
        ∃ next, (c.run argument session files).1.request = .changeServer next := by
  cases c with
  | help => exact .inl rfl
  | status => exact .inl rfl
  | quit => exact .inl rfl
  | server =>
    rw [run]
    cases hempty : argument.isEmpty with
    | true =>
      left
      rw [runServer, if_pos hempty]
      rfl
    | false =>
      rw [runServer_eq hempty]
      cases ((ServerCall.ofArgument argument).run session.database files).1 with
      | ok next => exact .inr ⟨rfl, rfl, next, rfl⟩
      | error cause => exact .inl rfl

/-- The command for the server is the only one to which the files matter. -/
theorem exists_reaction {c : Command} (h : c ≠ server) (argument : String) (session : Session) :
    ∃ reaction, ∀ files, c.run argument session files = (reaction, files) := by
  cases c with
  | help => exact ⟨_, fun _ => rfl⟩
  | status => exact ⟨_, fun _ => rfl⟩
  | quit => exact ⟨_, fun _ => rfl⟩
  | server => exact absurd rfl h

end Command

theorem request_eq_expression_iff (line : String) (session : Session) (files : Files) :
    (dispatch line session files).1.request = .expression ↔
      (line.toList.find? fun c => !Text.isBlank c) ≠ some '/' := by
  rcases dispatch_cases line with
    ⟨hslash, -, hline⟩ | ⟨hslash, -, hline⟩ | ⟨hslash, c, -, hline⟩
  · rw [hline]
    exact iff_of_true rfl hslash
  · rw [hline]
    exact iff_of_false nofun (not_not.mpr hslash)
  · rw [hline]
    refine iff_of_false (fun hexpression => ?_) (not_not.mpr hslash)
    rcases c.request_run (splitLine line).2 session files with hrequest | ⟨-, -, next, hrequest⟩
    · rw [hexpression] at hrequest
      split at hrequest <;> cases hrequest
    · cases hexpression.symm.trans hrequest

theorem request_eq_quit_iff (line : String) (session : Session) (files : Files) :
    (dispatch line session files).1.request = .quit ↔ firstWord line ∈ Command.quit.words := by
  rcases dispatch_cases line with
    ⟨-, hnone, hline⟩ | ⟨-, hnone, hline⟩ | ⟨-, c, hmem, hline⟩
  · rw [hline]
    exact iff_of_false nofun (hnone .quit)
  · rw [hline]
    exact iff_of_false nofun (hnone .quit)
  · rw [hline, ← Command.eq_iff_mem_words hmem]
    rcases c.request_run (splitLine line).2 session files with
      hrequest | ⟨hserver, -, next, hrequest⟩
    · rw [hrequest]
      by_cases hquit : c = .quit
      · rw [if_pos hquit]
        exact iff_of_true rfl hquit
      · rw [if_neg hquit]
        exact iff_of_false nofun hquit
    · rw [hrequest, hserver]
      exact iff_of_false nofun nofun

/-- Another server is asked for by the word for that, with something behind it. -/
theorem of_request_eq_changeServer {next : String}
    (h : (dispatch line session files).1.request = .changeServer next) :
    firstWord line ∈ Command.server.words ∧ (splitLine line).2.isEmpty = false := by
  rcases dispatch_cases line with ⟨-, -, hline⟩ | ⟨-, -, hline⟩ | ⟨-, c, hmem, hline⟩
  · rw [hline] at h
    cases h
  · rw [hline] at h
    cases h
  · rw [hline] at h
    rcases c.request_run (splitLine line).2 session files with hrequest | ⟨rfl, hempty, -⟩
    · rw [h] at hrequest
      split at hrequest <;> cases hrequest
    · exact ⟨hmem, hempty⟩

/-- A line that is not about the server is carried out alike whatever the files are. -/
theorem exists_reaction_of_ne_server (h : firstWord line ∉ Command.server.words)
    (session : Session) : ∃ reaction, ∀ files, dispatch line session files = (reaction, files) := by
  rcases dispatch_cases line with ⟨-, -, hline⟩ | ⟨-, -, hline⟩ | ⟨-, c, hmem, hline⟩
  · exact ⟨_, hline session⟩
  · exact ⟨_, hline session⟩
  · have hne : c ≠ .server := fun hserver => h (hserver ▸ hmem)
    obtain ⟨reaction, hreaction⟩ := Command.exists_reaction hne (splitLine line).2 session
    exact ⟨reaction, fun files => (hline session files).trans (hreaction files)⟩

/-- An expression writes nothing yet, and neither does the end. -/
theorem silent_of_request
    (h : (dispatch line session files).1.request = .expression ∨
      (dispatch line session files).1.request = .quit) :
    (dispatch line session files).1.stdout = "" ∧ (dispatch line session files).1.stderr = "" := by
  rcases dispatch_cases line with ⟨-, -, hline⟩ | ⟨-, -, hline⟩ | ⟨-, c, hmem, hline⟩
  · rw [hline]
    exact ⟨rfl, rfl⟩
  · rw [hline] at h
    rcases h with h | h <;> cases h
  · rcases h with h | h
    · rw [request_eq_expression_iff, ← head?_firstWord] at h
      exact absurd (Command.head?_of_mem_words hmem) h
    · rw [request_eq_quit_iff, ← Command.eq_iff_mem_words hmem] at h
      rw [hline, h]
      exact ⟨rfl, rfl⟩

/-- What becomes of any line. It is an expression if its first character that is no blank is no
slash, or if there is none. It ends the session if its first word is one of the two for that. A
change of the server is asked for only by the word for the server with something behind it, and
that is the only command to which the files matter. A slash word that stands for no command is
named in a hint, and nothing else happens. An expression writes nothing, nor does the end. -/
theorem dispatch_routes (line : String) (session : Session) :
    (∀ files, (dispatch line session files).1.request = .expression ↔
      (line.toList.find? fun c => !Text.isBlank c) ≠ some '/') ∧
    (∀ files, (dispatch line session files).1.request = .quit ↔
      firstWord line = "/quit" ∨ firstWord line = "/exit") ∧
    (∀ files server, (dispatch line session files).1.request = .changeServer server →
      firstWord line = "/server" ∧
        ∃ c ∈ Text.behindFirstWord line.toList, Text.isBlank c = false) ∧
    ((line.toList.find? fun c => !Text.isBlank c) = some '/' →
      (∀ c : Command, firstWord line ∉ c.words) →
      ∀ files, dispatch line session files =
        (⟨.handled, "unknown command: " ++ firstWord line
          ++ "\ntype /help for available commands\n", ""⟩, files)) ∧
    (firstWord line ≠ "/server" →
      ∃ reaction, ∀ files, dispatch line session files = (reaction, files)) ∧
    ∀ files, (dispatch line session files).1.request = .expression ∨
        (dispatch line session files).1.request = .quit →
      (dispatch line session files).1.stdout = "" ∧
        (dispatch line session files).1.stderr = "" := by
  have hserver : firstWord line ∈ Command.server.words ↔ firstWord line = "/server" :=
    List.mem_singleton
  have hquit : firstWord line ∈ Command.quit.words ↔
      firstWord line = "/quit" ∨ firstWord line = "/exit" :=
    List.mem_pair
  refine ⟨request_eq_expression_iff line session, fun files => ?_, fun files server hchange => ?_,
    fun hslash hunknown files => ?_, fun hother => ?_, fun files => silent_of_request⟩
  · rw [request_eq_quit_iff, hquit]
  · obtain ⟨hword, hargument⟩ := of_request_eq_changeServer hchange
    refine ⟨hserver.mp hword, ?_⟩
    by_contra! hblank
    have hempty := isEmpty_argument_iff.mpr fun c hc => by simpa using hblank c hc
    rw [hargument] at hempty
    cases hempty
  · rcases dispatch_cases line with ⟨hne, -⟩ | ⟨-, -, hline⟩ | ⟨-, c, hmem, -⟩
    · exact absurd hslash hne
    · exact hline session files
    · exact absurd hmem (hunknown c)
  · exact exists_reaction_of_ne_server (hserver.not.mpr hother) session

end EvalConsole
