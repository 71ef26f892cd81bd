/-
Blanks around the words of a line.

A line is cut into a word and an argument. How many blanks stand before the word, between the two
and behind the argument, and which ones, is lost when the line is cut; and nothing but the two
parts is looked at afterwards.

* `splitLine_surrounded`: blanks at the ends of a line make no difference to its parts.
* `splitLine_padded`: a padded line is cut into its word and its argument.
* `dispatch_padded`: a padded line is carried out like the plain one, by whichever word for its
  command it is given.
-/
import EvalConsole.Proofs.Console.Routing

namespace EvalConsole

-- What a server comes to is never looked into here.
attribute [local irreducible] endpoint

variable {word argument before between behind : String}

/-! ### The parts of a padded line -/

/-- Blanks at the ends of a line make no difference to its parts. -/
theorem splitLine_surrounded (hbefore : ∀ c ∈ before.toList, Text.isBlank c = true)
    (hbehind : ∀ c ∈ behind.toList, Text.isBlank c = true) (line : String) :
    splitLine (before ++ line ++ behind) = splitLine line := by
  rw [splitLine, splitLine, String.toList_append, String.toList_append,
    Text.trimChars_append_blanks hbehind, Text.trimChars_blanks_append hbefore]

/-- A line that starts with its word is cut there, and the argument behind it is trimmed. -/
theorem splitLine_of_word (hword : ∀ c ∈ word.toList, Text.isBlank c = false) (hsome : word ≠ "")
    (hbetween : ∀ c ∈ between.toList, Text.isBlank c = true) (hgap : between ≠ "")
    (argument : String) : splitLine (word ++ between ++ argument) = (word, Text.trim argument) := by
  obtain ⟨blank, blanks, hblanks⟩ : ∃ blank blanks, between.toList = blank :: blanks :=
    List.exists_cons_of_ne_nil fun hnil => hgap (String.toList_eq_nil_iff.mp hnil)
  rw [hblanks] at hbetween
  obtain ⟨hblank, hmore⟩ := List.forall_mem_cons.mp hbetween
  have hline : (word ++ between ++ argument).toList =
      word.toList ++ blank :: (blanks ++ argument.toList) := by
    simp [hblanks]
  obtain ⟨hfirst, hbehind⟩ := Text.firstWord_append
    (fun hnil => hsome (String.toList_eq_nil_iff.mp hnil)) hword hblank
    (blanks ++ argument.toList)
  rw [splitLine_eq, firstWord, hline, hfirst, hbehind, Text.trimChars_cons_of_blank hblank,
    Text.trimChars_blanks_append hmore, String.ofList_toList, Text.trim]

section Padding

variable (hword : ∀ c ∈ word.toList, Text.isBlank c = false)
  (hbefore : ∀ c ∈ before.toList, Text.isBlank c = true)
  (hbetween : ∀ c ∈ between.toList, Text.isBlank c = true) (hgap : between ≠ "")
  (hbehind : ∀ c ∈ behind.toList, Text.isBlank c = true)

include hword hbefore hbetween hgap hbehind

/-- A padded line is cut into its word and its argument. Without a word all of the padding stands
around the argument, which is then cut itself. -/
theorem splitLine_padded (argument : String) :
    splitLine (before ++ word ++ between ++ argument ++ behind) =
      if word = "" then splitLine argument else (word, Text.trim argument) := by
  split
  · subst word
    have hfront : ∀ c ∈ (before ++ "" ++ between).toList, Text.isBlank c = true := by
      intro c there
      simp only [String.toList_append, String.toList_empty, List.append_nil,
        List.mem_append] at there
      exact there.elim (hbefore c) (hbetween c)
    exact splitLine_surrounded hfront hbehind argument
  · have hinner : before ++ word ++ between ++ argument ++ behind =
        before ++ (word ++ between ++ argument) ++ behind := by
      simp only [String.append_assoc]
    rw [hinner, splitLine_surrounded hbefore hbehind,
      splitLine_of_word hword ‹_› hbetween hgap argument]

end Padding

/-- With a single space there is no other padding. -/
theorem splitLine_plain (hword : ∀ c ∈ word.toList, Text.isBlank c = false) (argument : String) :
    splitLine (word ++ " " ++ argument) =
      if word = "" then splitLine argument else (word, Text.trim argument) := by
  have hspace : ∀ c ∈ " ".toList, Text.isBlank c = true := by simp [Text.isBlank]
  have hnone : ∀ c ∈ "".toList, Text.isBlank c = true := by simp
  simpa using splitLine_padded hword hnone hspace (by decide) hnone argument

/-! ### Lines that are cut alike -/

/-- Nothing but the word and the argument of a line is looked at. -/
theorem dispatch_congr {line other : String} (h : splitLine line = splitLine other)
    (session : Session) (files : Files) :
    dispatch line session files = dispatch other session files := by
  unfold dispatch
  rw [h]

namespace Command

variable {command : Command}

/-- The words for commands can be cut from a line. -/
theorem visible_of_mem_words (h : word ∈ command.words) :
    word ≠ "" ∧ ∀ c ∈ word.toList, Text.isBlank c = false := by
  have hall : ∀ command : Command, ∀ word ∈ command.words,
      word ≠ "" ∧ ∀ c ∈ word.toList, Text.isBlank c = false := by
    intro command
    cases command <;> simp [words, name, aliases, Text.isBlank]
  exact hall command word h

end Command

/-- A line whose word is one for a command is carried out by that command. -/
theorem dispatch_of_mem_words {line argument : String} {command : Command}
    (h : word ∈ command.words) (hline : splitLine line = (word, argument)) (session : Session)
    (files : Files) : dispatch line session files = command.run argument session files := by
  have hfound : Command.ofWord? (splitLine line).1 = some command := by
    rw [hline]
    exact Command.ofWord?_eq_some_iff.mpr h
  rw [dispatch_of_command hfound, hline]

/-- White space and the choice of a word do not matter to commands. Any blanks may stand before a
word, between the word and its argument, and behind the argument: the line asks for the same,
writes the same and leaves the same files as with a single space between the two. Another word
for the same command changes nothing of that either. -/
theorem dispatch_padded (hword : ∀ c ∈ word.toList, Text.isBlank c = false)
    (hbefore : ∀ c ∈ before.toList, Text.isBlank c = true)
    (hbetween : ∀ c ∈ between.toList, Text.isBlank c = true) (hgap : between ≠ "")
    (hbehind : ∀ c ∈ behind.toList, Text.isBlank c = true) (argument : String)
    (session : Session) (files : Files) :
    dispatch (before ++ word ++ between ++ argument ++ behind) session files =
        dispatch (word ++ " " ++ argument) session files ∧
      ∀ (command : Command) (other : String), word ∈ command.words → other ∈ command.words →
        dispatch (before ++ other ++ between ++ argument ++ behind) session files =
          dispatch (word ++ " " ++ argument) session files := by
  constructor
  · refine dispatch_congr ?_ session files
    rw [splitLine_padded hword hbefore hbetween hgap hbehind, splitLine_plain hword]
  · intro command other hmem hother
    obtain ⟨hsome, -⟩ := Command.visible_of_mem_words hmem
    obtain ⟨hsome', hword'⟩ := Command.visible_of_mem_words hother
    -- both lines are cut into a word for the command and the trimmed argument
    have hplain : splitLine (word ++ " " ++ argument) = (word, Text.trim argument) := by
      rw [splitLine_plain hword, if_neg hsome]
    have hpadded : splitLine (before ++ other ++ between ++ argument ++ behind) =
        (other, Text.trim argument) := by
      rw [splitLine_padded hword' hbefore hbetween hgap hbehind, if_neg hsome']
    rw [dispatch_of_mem_words hmem hplain, dispatch_of_mem_words hother hpadded]

/-- A saved server is shown to be reset, with blanks of three sorts in the line; and a session is
ended by the other word for that, with something behind it. -/
theorem dispatch_padded_unicode :
    let session : Session := ⟨"http://a.example", "x.db"⟩
    dispatch "\u3000/server\u00a0\treset\u2003" session .empty =
        dispatch "/server reset" session .empty ∧
      dispatch "\u0085/exit\u2028 now  then\n" session .empty =
        dispatch "/quit now  then" session .empty := by
  intro session
  have hserver := @dispatch_padded "/server" "\u3000" "\u00a0\t" "\u2003"
    (by simp [Text.isBlank]) (by simp [Text.isBlank]) (by simp [Text.isBlank]) (by decide)
    (by simp [Text.isBlank]) "reset" session .empty
  have hquit := @dispatch_padded "/quit" "\u0085" "\u2028 " "\n"
    (by simp [Text.isBlank]) (by simp [Text.isBlank]) (by simp [Text.isBlank]) (by decide)
    (by simp [Text.isBlank]) "now  then" session .empty
  exact ⟨hserver.1, hquit.2 .quit "/exit" (by decide) (by decide)⟩

end EvalConsole
