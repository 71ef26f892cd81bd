/-
Compact text is read again.

What a text denotes has integers of 64 bits and objects with distinct names, and is nested no
deeper than the text. Of such a value the compact text denotes the value with its floats folded,
if each float stands for an integer below `2 ^ 53`: that is how it is written.

Main statements:

* `Json.Value.fits`: what texts denote.
* `Json.Fits.value_compact`: what the compact text of such a value denotes.
* `Json.Value.object_names`: the names of an object stand in the order of the text.
-/
import Mathlib.Data.List.DropRight
import EvalConsole.Proofs.Json.Folding
import EvalConsole.Proofs.Json.Grammar
import EvalConsole.Proofs.Json.Members
import EvalConsole.Proofs.Number.Digits

namespace EvalConsole.Json

variable {s rest : List Char} {depth : ℕ} {v : Json}

/-! ### Values that texts denote -/

/-- Integers of 64 bits, distinct names, and a bound for the depth. -/
inductive Fits : ℕ → Json → Prop where
  | null {depth : ℕ} : Fits depth .null
  | bool {depth : ℕ} (value : Bool) : Fits depth (.bool value)
  | int {depth : ℕ} {n : ℤ} (low : -2 ^ 63 ≤ n) (high : n < 2 ^ 64) : Fits depth (.int n)
  | float {depth : ℕ} (value : Binary64) : Fits depth (.float value)
  | string {depth : ℕ} (value : String) : Fits depth (.string value)
  | array {depth : ℕ} {items : List Json} (h : ∀ item ∈ items, Fits depth item) :
      Fits (depth + 1) (.array items)
  | object {depth : ℕ} {members : List (String × Json)}
      (distinct : (members.map Prod.fst).Nodup) (h : ∀ member ∈ members, Fits depth member.2) :
      Fits (depth + 1) (.object members)

theorem Numeral.collect_le {limit n : ℕ} {ds : List Char} (h : n ≤ limit) :
    (collect limit n ds).1 ≤ limit := by
  induction ds generalizing n with
  | nil => exact h
  | cons d rest ih =>
    rw [collect]
    split
    · exact ih ‹_›
    · exact h

theorem Numeral.fits_integer? {negative : Bool} {significand : ℕ} (bound : significand < 2 ^ 64)
    (h : integer? negative significand = some v) : Fits depth v := by
  unfold integer? at h
  split at h
  · split at h
    · rename_i small
      obtain rfl := Option.some.inj h
      exact .int (by simp at small; omega) (by omega)
    · obtain ⟨x, -, rfl⟩ := Option.map_eq_some_iff.mp h
      exact .float _
  · obtain rfl := Option.some.inj h
    exact .int (by omega) (by omega)

/-- A number that is written is an integer of 64 bits or a float. -/
theorem Numeral.fits_value {n : Numeral} (h : n.value = .ok v) : Fits depth v := by
  have bound : (collect significandLimit 0 n.whole).1 < 2 ^ 64 :=
    Nat.lt_of_le_of_lt (collect_le (Nat.zero_le _)) (by decide)
  have of_finite {found : Option Binary64} (h : finite found = .ok v) : Fits depth v := by
    cases found with
    | none => cases h
    | some x =>
      obtain rfl := Except.ok.inj h
      exact .float x
  unfold value at h
  split at h
  rename_i significand dropped collected
  rw [collected] at bound
  split at h
  · split at h
    · rename_i denoted
      obtain rfl := Except.ok.inj h
      exact fits_integer? bound denoted
    · cases h
  · extract_lets fraction at h
    split at h
    extract_lets shift result at h
    split at h
    · exact of_finite h
    · split at h
      · exact of_finite h
      · split at h
        · cases h
        · obtain rfl := Except.ok.inj h
          exact .float _

section Sequences

variable {α : Type} {member : List Char → α → List Char → Prop} {close : Char} {values : List α}

theorem More.exists_of_mem (h : More member close s values rest) {a : α} (there : a ∈ values) :
    ∃ s rest, member s a rest := by
  induction h with
  | close _ => cases there
  | next _ first _ ih =>
    obtain rfl | there := List.mem_cons.mp there
    · exact ⟨_, _, first⟩
    · exact ih there

/-- What stands in a sequence is a member that is written somewhere. -/
theorem Sequence.exists_of_mem (h : Sequence member close s values rest) {a : α}
    (there : a ∈ values) : ∃ s rest, member s a rest := by
  cases h with
  | empty _ => cases there
  | members first more =>
    obtain rfl | there := List.mem_cons.mp there
    · exact ⟨_, _, first⟩
    · exact more.exists_of_mem there

end Sequences

theorem Scalar.fits (h : Scalar s v rest) : Fits depth v := by
  cases h with
  | null => exact .null
  | yes => exact .bool true
  | no => exact .bool false
  | number _ _ value => exact Numeral.fits_value value
  | negative _ _ value => exact Numeral.fits_value value
  | string _ => exact .string _

/-- What texts denote, by recursion on the depth. -/
theorem Value.fits (h : Value depth s v rest) : Fits depth v := by
  induction depth generalizing s v rest with
  | zero => exact Scalar.fits h
  | succ depth ih =>
    obtain scalar | container := h
    · exact scalar.fits
    generalize skipBlanks s = text at container
    cases container with
    | array items =>
      refine .array fun item there => ?_
      obtain ⟨_, _, value⟩ := items.exists_of_mem there
      exact ih value
    | @object _ _ written sequence =>
      refine .object (Members.nodup_names_ofWritten written) fun member there => ?_
      obtain ⟨_, _, written⟩ := sequence.exists_of_mem (Members.mem_ofWritten there)
      cases written with
      | named _ _ value => exact ih value

/-- The names of an object stand in the order of the text; a name that is written again keeps its
place. -/
theorem Value.object_names {members : List (String × Json)}
    (h : Value depth s (.object members) rest) :
    ∃ below s' written, depth = below + 1 ∧ skipBlanks s = '\x7b' :: s' ∧
      Sequence (Member (Value below)) '\x7d' s' written rest ∧
      members.map Prod.fst = (written.map Prod.fst).eraseDups := by
  obtain scalar | ⟨below, rfl, container⟩ := value_iff.mp h
  · have shallow : Fits 0 (.object members) := scalar.fits
    cases shallow
  · generalize skipBlanks s = text at container
    cases container with
    | object sequence =>
      exact ⟨below, _, _, rfl, rfl, sequence, Members.names_ofWritten _⟩

/-! ### Reading what is written -/

/-- What may stand behind a value in compact text: nothing, a comma, or the bracket that closes
what the value stands in. -/
def IsEnd (rest : List Char) : Prop :=
  ∀ c ∈ rest.head?, c = ',' ∨ c = ']' ∨ c = '\x7d'

namespace Numeral

theorem le_ofDigitChars (n : ℕ) (ds : List Char) : n ≤ Nat.ofDigitChars 10 ds n := by
  induction ds generalizing n with
  | nil => exact Nat.le_refl n
  | cons d rest ih =>
    rw [Nat.ofDigitChars_cons]
    have further := ih (10 * n + (d.toNat - '0'.toNat))
    omega

/-- Digits are collected as far as their number is within the limit. -/
theorem collect_of_le {limit n : ℕ} {ds : List Char} (h : Nat.ofDigitChars 10 ds n ≤ limit) :
    collect limit n ds = (Nat.ofDigitChars 10 ds n, []) := by
  induction ds generalizing n with
  | nil => rfl
  | cons d rest ih =>
    rw [Nat.ofDigitChars_cons] at h
    have next : n * 10 + digitValue d = 10 * n + (d.toNat - '0'.toNat) := by
      rw [digitValue, Nat.mul_comm]
    have fits : n * 10 + digitValue d ≤ limit := by
      rw [next]
      exact Nat.le_trans (le_ofDigitChars _ rest) h
    rw [collect, if_pos fits, next, ih h, Nat.ofDigitChars_cons]

theorem digits_of_isEnd {ds : List Char} (digits : ∀ c ∈ ds, c.isDigit = true) (h : IsEnd rest) :
    Digits (ds ++ rest) ds rest := by
  refine ⟨rfl, digits, fun c first => ?_⟩
  obtain rfl | rfl | rfl := h c first <;> rfl

/-- The digits of a number are read as far as they go. -/
theorem written_toDigits (negative : Bool) (n : ℕ) (h : IsEnd rest) :
    Written (Nat.toDigits 10 n ++ rest) ⟨negative, Nat.toDigits 10 n, none, none⟩ rest := by
  have whole : Whole (Nat.toDigits 10 n ++ rest) (Nat.toDigits 10 n) rest := by
    have digits : ∀ c ∈ Nat.toDigits 10 n, c.isDigit = true := fun c =>
      Nat.isDigit_of_mem_toDigits (by decide) (by decide)
    obtain rfl | positive := Nat.eq_zero_or_pos n
    · exact .zero (digits_of_isEnd (List.forall_mem_nil _) h).ended
    · have nonzero := Digits.head?_toDigits (by decide : 1 < 10) positive
      obtain ⟨c, r, written⟩ : ∃ c r, Nat.toDigits 10 n = c :: r :=
        List.exists_cons_of_ne_nil Nat.toDigits_ne_nil
      rw [written] at digits nonzero ⊢
      obtain ⟨first, others⟩ := List.forall_mem_cons.mp digits
      exact .digits first (fun zero => nonzero (congrArg some zero)) (digits_of_isEnd others h)
  refine ⟨rest, rest, whole, .none fun c first => ?_, .none fun c first => ?_⟩
  · obtain rfl | rfl | rfl := h c first <;> decide
  · obtain rfl | rfl | rfl := h c first <;> decide

/-- A number of digits denotes an integer, if it has 64 bits with its sign. -/
theorem value_toDigits {n : ℤ} (low : -2 ^ 63 ≤ n) (high : n < 2 ^ 64) :
    value ⟨decide (n < 0), Nat.toDigits 10 n.natAbs, none, none⟩ = .ok (.int n) := by
  have number : Nat.ofDigitChars 10 (Nat.toDigits 10 n.natAbs) 0 = n.natAbs :=
    Nat.ofDigitChars_toDigits (by decide) (by decide)
  have limit : significandLimit = 2 ^ 64 - 1 := by decide
  have collected : collect significandLimit 0 (Nat.toDigits 10 n.natAbs) = (n.natAbs, []) := by
    rw [collect_of_le (by omega), number]
  have integer : integer? (decide (n < 0)) n.natAbs = some (.int n) := by
    unfold integer?
    by_cases negative : n < 0
    · have small : 0 < n.natAbs ∧ n.natAbs ≤ Nat.pow 2 63 := by
        simp only [Nat.pow_eq]
        omega
      rw [if_pos (decide_eq_true negative), if_pos small]
      congr
      omega
    · rw [if_neg (by simpa using negative)]
      congr
      omega
  rw [value, collected]
  simp [integer]

end Numeral

/-- The text of an integer denotes it. -/
theorem scalar_intText {n : ℤ} (low : -2 ^ 63 ≤ n) (high : n < 2 ^ 64) (h : IsEnd rest) :
    Scalar (intText n ++ rest) (.int n) rest := by
  have written := Numeral.written_toDigits (decide (n < 0)) n.natAbs h
  have value := Numeral.value_toDigits low high
  by_cases negative : n < 0
  · rw [intText, if_pos negative]
    exact .negative written (decide_eq_true negative) value
  · rw [intText, if_neg negative]
    exact .number written (decide_eq_false negative) value

/-- A value that holds no others starts with no blank. -/
theorem Scalar.skipBlanks_eq (h : Scalar s v rest) : skipBlanks s = s := by
  cases h with
  | number written _ _ =>
    obtain ⟨c, r, rfl, digit⟩ := written.start
    refine List.dropWhile_cons_of_neg fun blank => ?_
    simp only [isBlank, Bool.or_eq_true, beq_iff_eq] at blank
    obtain ((rfl | rfl) | rfl) | rfl := blank <;> cases digit
  | _ => rfl

theorem Scalar.value (h : Scalar s v rest) : Value depth s v rest := by
  rw [value_iff, h.skipBlanks_eq]
  exact .inl h

theorem skipBlanks_skipBlanks (s : List Char) : skipBlanks (skipBlanks s) = skipBlanks s :=
  List.dropWhile_idempotent isBlank s

theorem Value.behind_blanks (h : Value depth s v rest) : Value depth (skipBlanks s) v rest := by
  rwa [value_iff, skipBlanks_skipBlanks, ← value_iff]

section Sequences

variable {α β : Type} {member : List Char → α → List Char → Prop} {close : Char}
  {text : β → List Char} {value : β → α}

/-- Texts with commas between them are a sequence of what the single ones are. -/
theorem sequence_intercalate {written : List β} (closes : close = ']' ∨ close = '\x7d')
    (h : ∀ b ∈ written, ∀ rest, IsEnd rest → member (skipBlanks (text b ++ rest)) (value b) rest)
    (rest : List Char) :
    Sequence member close (List.intercalate [','] (written.map text) ++ close :: rest)
      (written.map value) rest := by
  have ends : IsEnd (close :: rest) := by
    rintro c ⟨⟩
    exact .inr closes
  have closed : skipBlanks (close :: rest) = close :: rest := by
    obtain rfl | rfl := closes <;> rfl
  have more (b : β) (others : List β)
      (h : ∀ a ∈ b :: others, ∀ rest, IsEnd rest →
        member (skipBlanks (text a ++ rest)) (value a) rest) :
      ∃ r, member (skipBlanks (List.intercalate [','] ((b :: others).map text) ++ close :: rest))
        (value b) r ∧ More member close r (others.map value) rest := by
    induction others generalizing b with
    | nil =>
      refine ⟨close :: rest, ?_, .close closed⟩
      rw [List.map_singleton, List.intercalate_singleton]
      exact h b List.mem_cons_self _ ends
    | cons next others ih =>
      obtain ⟨first, others'⟩ := List.forall_mem_cons.mp h
      obtain ⟨r, second, further⟩ := ih next others'
      refine ⟨',' :: (List.intercalate [','] ((next :: others).map text) ++ close :: rest), ?_,
        .next rfl second further⟩
      rw [List.map_cons, List.map_cons, List.intercalate_cons_cons, List.append_assoc,
        List.append_assoc]
      exact first _ (by rintro c ⟨⟩; exact .inl rfl)
  cases written with
  | nil => exact .empty closed
  | cons b others =>
    obtain ⟨r, first, further⟩ := more b others h
    exact .members first further

end Sequences

/-! ### Values whose floats are integers -/

/-- Every float stands for an integer below `2 ^ 53`. -/
inductive Integral : Json → Prop where
  | null : Integral .null
  | bool (value : Bool) : Integral (.bool value)
  | int (n : ℤ) : Integral (.int n)
  | float {x : Binary64} {n : ℤ} (whole : x.toRat = n) (small : n.natAbs < 2 ^ 53) :
      Integral (.float x)
  | string (value : String) : Integral (.string value)
  | array {items : List Json} (h : ∀ item ∈ items, Integral item) : Integral (.array items)
  | object {members : List (String × Json)} (h : ∀ member ∈ members, Integral member.2) :
      Integral (.object members)

/-- The compact text of a value that fits denotes the value with its floats folded. -/
theorem Fits.value_compact (fits : Fits depth v) (integral : v.Integral) (h : IsEnd rest) :
    Value depth (v.compact shownFloat ++ rest) v.foldIntegral rest := by
  induction fits generalizing rest with
  | null => exact Scalar.null.value
  | bool value =>
    cases value with
    | false => exact Scalar.no.value
    | true => exact Scalar.yes.value
  | int low high => exact (scalar_intText low high h).value
  | float x =>
    cases integral with
    | @float _ n whole small =>
      have folded : foldedInt? x = some n := foldedInt?_eq_some_iff.mpr ⟨whole, small⟩
      rw [compact, shownFloat_of_int whole small, foldIntegral, folded]
      exact (scalar_intText (by omega) (by omega) h).value
  | string value =>
    have inside := quoted_flatMap_escaped value.toList rest
    have scalar := Scalar.string inside
    rw [String.ofList_toList] at scalar
    rw [compact, foldIntegral, quoted, List.cons_append, List.append_assoc]
    exact scalar.value
  | @array depth items _ ih =>
    cases integral with
    | array each =>
      have sequence : Sequence (Value depth) ']'
          (List.intercalate [','] (items.map (compact shownFloat)) ++ ']' :: rest)
          (items.map foldIntegral) rest :=
        sequence_intercalate (.inl rfl) (fun item there rest ends =>
          (ih item there (each item there) ends).behind_blanks) rest
      rw [compact, foldIntegral, compactItems_eq_map, foldItems_eq_map, value_iff]
      refine .inr ⟨depth, rfl, ?_⟩
      simpa [skipBlanks, isBlank] using Container.array sequence
  | @object depth members distinct _ ih =>
    cases integral with
    | object each =>
      have sequence : Sequence (Member (Value depth)) '\x7d'
          (List.intercalate [','] (members.map fun member =>
            quoted member.1 ++ ':' :: compact shownFloat member.2) ++ '\x7d' :: rest)
          (members.map fun member => (member.1, member.2.foldIntegral)) rest := by
        refine sequence_intercalate (.inr rfl) (fun member there rest ends => ?_) rest
        have named : Quoted (member.1.toList.flatMap escaped ++
            '"' :: (':' :: (compact shownFloat member.2 ++ rest))) member.1.toList _ :=
          quoted_flatMap_escaped _ _
        have value := ih member there (each member there) ends
        have written := Member.named named rfl value
        rw [String.ofList_toList] at written
        simpa [quoted, skipBlanks, isBlank] using written
      have names : ((members.map fun member => (member.1, member.2.foldIntegral)).map
          Prod.fst).Nodup := by
        rwa [List.map_map]
      have container := Container.object sequence
      rw [Members.ofWritten_of_nodup names] at container
      rw [compact, foldIntegral, compactMembers_eq_map, foldMembers_eq_map, value_iff]
      refine .inr ⟨depth, rfl, ?_⟩
      simpa [skipBlanks, isBlank] using container

theorem Fits.denotes_compact (fits : Fits maxDepth v) (integral : v.Integral) :
    Denotes (v.compact shownFloat) v.foldIntegral := by
  have value := fits.value_compact integral (by simp [IsEnd] : IsEnd [])
  rw [List.append_nil] at value
  exact ⟨[], value, rfl⟩

end EvalConsole.Json
