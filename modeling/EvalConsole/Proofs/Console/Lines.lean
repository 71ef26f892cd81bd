/-
What the bytes of a line stand for.

* `Input.cut_of_not_mem` and `Input.cut_append_lineFeed`: bytes are cut behind each line feed, and
  nowhere else.
* `Input.event_of_line`: a line stands for its text, whichever end it has.
* `Input.events_of_line`: so does an input that holds one line only.
-/
import EvalConsole.Console.Input
import EvalConsole.Proofs.Text.Utf8

namespace EvalConsole.Input

variable {line ending : String}

/-! ### Cutting -/

theorem cut_of_not_mem {bytes : List UInt8} (h : lineFeed ∉ bytes) : cut bytes = ([], bytes) := by
  induction bytes with
  | nil => rfl
  | cons b bytes ih =>
    rw [List.mem_cons, not_or] at h
    rw [cut, ih h.2]
    exact if_neg (Ne.symm h.1)

/-- Bytes are cut behind the first line feed. -/
theorem cut_append_lineFeed {bytes : List UInt8} (h : lineFeed ∉ bytes) (rest : List UInt8) :
    cut (bytes ++ lineFeed :: rest) =
      ((bytes ++ [lineFeed]) :: (cut rest).1, (cut rest).2) := by
  induction bytes with
  | nil =>
    rw [List.nil_append, cut]
    exact if_pos rfl
  | cons b bytes ih =>
    rw [List.mem_cons, not_or] at h
    rw [List.cons_append, cut, ih h.2]
    exact if_neg (Ne.symm h.1)

theorem lineFeed_not_mem_encode {s : List Char} (h : '\n' ∉ s) : lineFeed ∉ Utf8.encode s := by
  intro there
  obtain ⟨c, inside, byte⟩ := List.mem_flatMap.mp there
  have number := Utf8.toNat_of_mem_encodeChar byte (by decide)
  obtain rfl : c = '\n' := Char.toNat_inj.mp number.symm
  exact h inside

/-! ### One line -/

/-- What can end a line: a line feed, with a carriage return in front or not. The last line of an
input may lack its end, but then it has to have a text. -/
def IsEnd (line ending : String) : Prop :=
  ending = "\n" ∨ ending = "\r\n" ∨ ending = "" ∧ line ≠ ""

theorem withoutEnd_of_plain {s : List Char} (feed : '\n' ∉ s) (carriage : '\r' ∉ s) :
    withoutEnd s = s ∧ withoutEnd (s ++ ['\n']) = s ∧ withoutEnd (s ++ ['\r', '\n']) = s := by
  have last {c : Char} (h : c ∉ s) (rest : List Char) : s.reverse ≠ c :: rest := by
    intro same
    have there : c ∈ s.reverse := by
      rw [same]
      exact List.mem_cons_self
    exact h (List.mem_reverse.mp there)
  refine ⟨?_, ?_, ?_⟩
  · rw [withoutEnd]
    split
    · exact absurd ‹_› (last feed _)
    · exact absurd ‹_› (last feed _)
    · rfl
  · rw [withoutEnd, List.reverse_append]
    split
    · rename_i rest same
      exact absurd (List.cons.inj same).2 (last carriage rest)
    · rename_i rest _ same
      obtain rfl : s.reverse = rest := (List.cons.inj same).2
      exact List.reverse_reverse s
    · rename_i other
      exact absurd rfl (other s.reverse)
  · simp [withoutEnd, List.reverse_append]

/-- A line stands for its text, whichever end it has. -/
theorem event_of_line (feed : '\n' ∉ line.toList) (carriage : '\r' ∉ line.toList)
    (h : IsEnd line ending) : event (Utf8.encode (line ++ ending).toList) = .line line := by
  obtain ⟨bare, short, long⟩ := withoutEnd_of_plain feed carriage
  have rest : withoutEnd (line ++ ending).toList = line.toList := by
    rw [String.toList_append]
    rcases h with rfl | rfl | ⟨rfl, -⟩
    · exact short
    · exact long
    · exact (congrArg withoutEnd (List.append_nil _)).trans bare
  rw [event, Utf8.decode_encode]
  dsimp only
  rw [String.toList_ofList, rest, String.ofList_toList]

theorem events_of_ended {s : List Char} (feed : '\n' ∉ s) :
    events (Utf8.encode (s ++ ['\n'])) = [event (Utf8.encode (s ++ ['\n'])), .endOfInput] := by
  have bytes : Utf8.encode (s ++ ['\n']) = Utf8.encode s ++ lineFeed :: [] := List.flatMap_append
  rw [events, bytes, cut_append_lineFeed (lineFeed_not_mem_encode feed)]
  rfl

theorem events_of_unended {s : List Char} (feed : '\n' ∉ s) (text : s ≠ []) :
    events (Utf8.encode s) = [event (Utf8.encode s), .endOfInput] := by
  have bytes : (Utf8.encode s).isEmpty = false := by
    obtain ⟨c, rest, rfl⟩ := List.exists_cons_of_ne_nil text
    have first : (String.utf8EncodeChar c).length ≠ 0 := by
      rw [String.length_utf8EncodeChar]
      exact Nat.ne_of_gt c.utf8Size_pos
    rw [List.isEmpty_eq_false_iff]
    intro empty
    exact first (congrArg List.length (List.append_eq_nil_iff.mp empty).1)
  rw [events, cut_of_not_mem (lineFeed_not_mem_encode feed)]
  show lastEvents (Utf8.encode s) = _
  rw [lastEvents, bytes]
  rfl

/-- An input that holds one line only stands for this line and its own end. -/
theorem events_of_line (feed : '\n' ∉ line.toList) (carriage : '\r' ∉ line.toList)
    (h : IsEnd line ending) :
    events (Utf8.encode (line ++ ending).toList) = [.line line, .endOfInput] := by
  rw [← event_of_line feed carriage h, String.toList_append]
  rcases h with rfl | rfl | ⟨rfl, text⟩
  · exact events_of_ended feed
  · have whole : line.toList ++ "\r\n".toList = (line.toList ++ ['\r']) ++ ['\n'] :=
      (List.append_assoc line.toList ['\r'] ['\n']).symm
    have absent : '\n' ∉ line.toList ++ ['\r'] := by simpa using feed
    rw [whole]
    exact events_of_ended absent
  · have whole : line.toList ++ "".toList = line.toList := List.append_nil _
    rw [whole]
    exact events_of_unended feed fun empty => text (String.toList_eq_nil_iff.mp empty)

end EvalConsole.Input
