/-
The first word of a line, and what stands behind it.

A line is trimmed before it is cut behind its first word, and what is left is trimmed again. The
blanks at the ends of the line make no difference to either part.

* `Text.firstWord` and `Text.behindFirstWord` are the two parts of a line, read from its start.
* `Text.cutWord_trimChars` and `Text.trimChars_cutWord`: they are what the line is cut into.
* `Text.head?_firstWord`: the word starts with the first character that is no blank.
-/
import EvalConsole.Proofs.Text.Trim

namespace EvalConsole.Text

variable {s t blanks : List Char}

/-- The characters up to the first blank, behind the blanks at the start. -/
def firstWord (s : List Char) : List Char :=
  (s.dropWhile isBlank).takeWhile fun c => !isBlank c

/-- What stands behind the first word. -/
def behindFirstWord (s : List Char) : List Char :=
  (s.dropWhile isBlank).dropWhile fun c => !isBlank c

/-- The first word starts with the first character that is no blank. -/
theorem head?_firstWord (s : List Char) : (firstWord s).head? = s.find? fun c => !isBlank c := by
  induction s with
  | nil => rfl
  | cons c s ih =>
    rw [firstWord] at ih ⊢
    cases hblank : isBlank c with
    | true =>
      rw [List.dropWhile_cons_of_pos hblank, ih, List.find?_cons_of_neg (by simp [hblank])]
    | false =>
      rw [List.dropWhile_cons_of_neg (by simp [hblank]), List.takeWhile_cons_of_pos (by simp [hblank]),
        List.find?_cons_of_pos (by simp [hblank]), List.head?_cons]

/-! ### Blanks at the ends -/

/-- A blank in front is trimmed. -/
theorem trimChars_cons_of_blank {c : Char} (h : isBlank c = true) (s : List Char) :
    trimChars (c :: s) = trimChars s := by
  rw [trimChars, List.dropWhile_cons_of_pos h, trimChars]

/-- Blanks in front are trimmed. -/
theorem trimChars_blanks_append (h : ∀ c ∈ blanks, isBlank c = true) (s : List Char) :
    trimChars (blanks ++ s) = trimChars s := by
  rw [trimChars, List.dropWhile_append_of_pos h, trimChars]

/-- Blanks behind are trimmed. -/
theorem trimChars_append_blanks (h : ∀ c ∈ blanks, isBlank c = true) (s : List Char) :
    trimChars (s ++ blanks) = trimChars s := by
  have hend (t : List Char) : dropEndWhile isBlank (t ++ blanks) = dropEndWhile isBlank t := by
    rw [dropEndWhile, List.reverse_append,
      List.dropWhile_append_of_pos fun c there => h c (List.mem_reverse.mp there), dropEndWhile]
  rw [trimChars, trimChars, List.dropWhile_append]
  split
  · rename_i hnil
    rw [List.isEmpty_iff] at hnil
    -- nothing but blanks: what is left in front of the end is nothing
    rw [hnil, List.dropWhile_eq_nil_iff.mpr h]
  · exact hend _

/-- What trimming takes away at the end are blanks. -/
theorem exists_blanks (s : List Char) :
    ∃ blanks, s.dropWhile isBlank = trimChars s ++ blanks ∧ ∀ c ∈ blanks, isBlank c = true :=
  ⟨(s.dropWhile isBlank).rtakeWhile isBlank, (List.rdropWhile_append_rtakeWhile ..).symm,
    fun _ there => List.mem_rtakeWhile_imp there⟩

/-- A text whose ends are no blanks is not trimmed. -/
theorem trimChars_of_ends (front : ∀ c ∈ s.head?, isBlank c = false)
    (back : ∀ c ∈ s.getLast?, isBlank c = false) : trimChars s = s := by
  have hfront : s.dropWhile isBlank = s := by
    rw [List.dropWhile_eq_self_iff]
    intro hpos hblank
    rw [front _ (by rw [List.head?_eq_getElem?]; simp [hpos])] at hblank
    cases hblank
  rw [trimChars, hfront]
  refine List.rdropWhile_eq_self_iff.mpr fun hne hblank => ?_
  rw [back _ (List.getLast?_eq_some_getLast hne)] at hblank
  cases hblank

/-! ### A line in two parts -/

theorem takeWhile_append_blanks (h : ∀ c ∈ blanks, isBlank c = true) (s : List Char) :
    ((s ++ blanks).takeWhile fun c => !isBlank c) = s.takeWhile fun c => !isBlank c := by
  induction s with
  | nil =>
    show (blanks.takeWhile fun c => !isBlank c) = []
    rw [List.takeWhile_eq_nil_iff]
    intro hpos
    simp [h _ (List.getElem_mem hpos)]
  | cons c s ih =>
    rw [List.cons_append, List.takeWhile_cons, List.takeWhile_cons, ih]

/-- The first word ends before the blanks that are trimmed. -/
theorem cutWord_trimChars (s : List Char) : (cutWord (trimChars s)).1 = firstWord s := by
  obtain ⟨blanks, hsplit, hblanks⟩ := exists_blanks s
  rw [cutWord, firstWord, hsplit, takeWhile_append_blanks hblanks]

/-- What is left behind the first word is the same before and after the line is trimmed. -/
theorem trimChars_cutWord (s : List Char) :
    trimChars (cutWord (trimChars s)).2 = trimChars (behindFirstWord s) := by
  obtain ⟨blanks, hsplit, hblanks⟩ := exists_blanks s
  rw [cutWord, behindFirstWord, hsplit]
  generalize trimChars s = line
  induction line with
  | nil =>
    -- nothing but blanks is behind the word
    show [] = trimChars (blanks.dropWhile fun c => !isBlank c)
    refine (trimChars_eq_nil_iff.mpr ?_).symm
    intro c there
    exact hblanks c ((List.dropWhile_sublist _).subset there)
  | cons c line ih =>
    cases hblank : isBlank c with
    | true =>
      rw [List.cons_append, List.dropWhile_cons_of_neg (by simp [hblank]),
        List.dropWhile_cons_of_neg (by simp [hblank]), List.drop_one, List.tail_cons,
        trimChars_cons_of_blank hblank, trimChars_append_blanks hblanks]
    | false =>
      rw [List.cons_append, List.dropWhile_cons_of_pos (by simp [hblank]),
        List.dropWhile_cons_of_pos (by simp [hblank])]
      exact ih

/-- A word with a blank behind it is the first word. -/
theorem firstWord_append (some : s ≠ []) (word : ∀ c ∈ s, isBlank c = false) {c : Char}
    (hblank : isBlank c = true) (t : List Char) :
    firstWord (s ++ c :: t) = s ∧ behindFirstWord (s ++ c :: t) = c :: t := by
  have hfront : (s ++ c :: t).dropWhile isBlank = s ++ c :: t := by
    obtain ⟨d, s, rfl⟩ := List.exists_cons_of_ne_nil some
    have hd : isBlank d = false := word d List.mem_cons_self
    rw [List.cons_append, List.dropWhile_cons_of_neg (by simp [hd])]
  have hword : ∀ d ∈ s, (!isBlank d) = true := fun d there => by simp [word d there]
  rw [firstWord, behindFirstWord, hfront, List.takeWhile_append_of_pos hword,
    List.dropWhile_append_of_pos hword, List.takeWhile_cons_of_neg (by simp [hblank]),
    List.dropWhile_cons_of_neg (by simp [hblank]), List.append_nil]
  exact ⟨rfl, rfl⟩

end EvalConsole.Text
