/-
Floats that are shown as integers.

* `Binary64.toRat` is the number that a double stands for.
* `Json.foldedInt?_eq_some_iff`: a float is folded if it is an integer below `2 ^ 53`, and then
  into this integer.
* `Json.IsFalsy` are the values that count as absent; folding makes none of them present, and
  no other absent (`Json.isTruthy_foldIntegral`).
* `Json.compact` is the compact text of a value, by the texts of its parts;
  `Json.chars_foldIntegral`: after folding, only the texts of floats are others.

Design notes
------------
`Json.compact` joins the texts of the parts with commas, whatever the texts of the floats are,
so one definition describes the text before and after folding.
-/
import Mathlib.Algebra.Order.Field.Rat
import Mathlib.Tactic.FieldSimp
import EvalConsole.Json.Writer

namespace EvalConsole

/-! ### The numbers that doubles stand for -/

namespace Binary64

/-- How many units make one. -/
def unitsOfOne : Nat :=
  Nat.pow 2 1074

theorem unitsOfOne_pos : 0 < unitsOfOne := by
  have hpos (n : Nat) : 0 < Nat.pow 2 n := Nat.two_pow_pos n
  unfold unitsOfOne
  apply hpos

/-- The units of a double with its sign. -/
def signedUnits (x : Binary64) : Int :=
  if x.negative then -x.units else x.units

/-- The number that a double stands for. -/
def toRat (x : Binary64) : ℚ :=
  x.signedUnits / unitsOfOne

theorem toInt?_eq (x : Binary64) : x.toInt? =
    if x.units % unitsOfOne = 0 then
      some (if x.negative then -((x.units / unitsOfOne : Nat) : Int)
        else ((x.units / unitsOfOne : Nat) : Int))
    else none := by
  unfold toInt? unitsOfOne
  with_reducible rfl

theorem toRat_eq_intCast_iff {x : Binary64} {n : Int} :
    x.toRat = n ↔ x.signedUnits = n * unitsOfOne := by
  have hne : (unitsOfOne : ℚ) ≠ 0 := Nat.cast_ne_zero.mpr (Nat.ne_of_gt unitsOfOne_pos)
  rw [toRat, div_eq_iff hne]
  exact_mod_cast Iff.rfl

/-- A double has an integer if it stands for one, and it is this one. -/
theorem toInt?_eq_some_iff {x : Binary64} {n : Int} : x.toInt? = some n ↔ x.toRat = n := by
  have hpos := unitsOfOne_pos
  rw [toRat_eq_intCast_iff, toInt?_eq, signedUnits]
  generalize unitsOfOne = one at hpos
  have hne : (one : Int) ≠ 0 := by omega
  split
  · rename_i hmod
    obtain ⟨q, hq⟩ := Nat.dvd_of_mod_eq_zero hmod
    have hunits : (x.units : Int) = q * one := by
      rw [hq, Nat.cast_mul, Int.mul_comm]
    rw [hunits, hq, Nat.mul_div_cancel_left q hpos, Option.some_inj]
    split
    · rw [← Int.neg_mul, Int.mul_eq_mul_right_iff hne]
    · rw [Int.mul_eq_mul_right_iff hne]
  · rename_i hmod
    simp only [reduceCtorEq, false_iff]
    intro h
    -- otherwise the units would be a multiple
    have hdvd : (one : Int) ∣ x.units := by
      split at h
      · exact Int.dvd_neg.mp ⟨n, by rw [h, Int.mul_comm]⟩
      · exact ⟨n, by rw [h, Int.mul_comm]⟩
    exact hmod (Nat.mod_eq_zero_of_dvd (Int.natCast_dvd_natCast.mp hdvd))

/-- A double is zero if it is the zero of its sign. -/
theorem isZero_iff {x : Binary64} : x.isZero = true ↔ x = .zero x.negative := by
  rw [isZero, beq_iff_eq]
  constructor
  · intro hzero
    obtain ⟨negative, significand, scale, hlt, hle, hnormal⟩ := x
    obtain rfl : significand = 0 := hzero
    -- a positive scale would ask for a large significand
    obtain rfl : scale = 0 := hnormal.resolve_right (by decide)
    rfl
  · intro h
    rw [h]
    rfl

theorem toInt?_zero (negative : Bool) : (zero negative).toInt? = some 0 := by
  have hunits : (zero negative).units = 0 := by
    rw [units, zero, Nat.zero_mul]
  rw [toInt?_eq, hunits, Nat.zero_mod, Nat.zero_div, if_pos rfl]
  split <;> rfl

/-- Zeros stand for zero, and other doubles do not. -/
theorem toInt?_eq_zero_iff {x : Binary64} : x.toInt? = some 0 ↔ x.isZero = true := by
  constructor
  · intro h
    rw [toInt?_eq_some_iff, toRat_eq_intCast_iff, Int.zero_mul, signedUnits] at h
    have hunits : x.units = 0 := by
      split at h <;> omega
    rw [isZero, beq_iff_eq]
    exact (Nat.mul_eq_zero.mp hunits).resolve_right (Nat.ne_of_gt (Nat.two_pow_pos x.scale))
  · intro h
    rw [isZero_iff.mp h]
    exact toInt?_zero _

end Binary64

namespace Json

/-! ### Folding -/

/-- A float is folded if it is an integer below `2 ^ 53`, and then into this integer. -/
theorem foldedInt?_eq_some_iff {x : Binary64} {n : Int} :
    foldedInt? x = some n ↔ x.toRat = n ∧ n.natAbs < exactIntegerLimit := by
  rw [foldedInt?, ← Binary64.toInt?_eq_some_iff]
  cases x.toInt? with
  | none => simp
  | some m =>
    by_cases hlt : m.natAbs < exactIntegerLimit
    · simp only [if_pos hlt, Option.some_inj]
      constructor
      · rintro rfl
        exact ⟨rfl, hlt⟩
      · exact And.left
    · simp only [if_neg hlt, reduceCtorEq, Option.some_inj, false_iff]
      rintro ⟨rfl, hlt'⟩
      exact hlt hlt'

/-- The float that a zero is folded from is a zero, and the other way round. -/
theorem foldedInt?_eq_zero_iff {x : Binary64} : foldedInt? x = some 0 ↔ x.isZero = true := by
  rw [foldedInt?_eq_some_iff, ← Binary64.toInt?_eq_some_iff, Binary64.toInt?_eq_zero_iff]
  exact and_iff_left (by decide)

theorem foldItems_eq_map (items : List Json) : foldItems items = items.map foldIntegral := by
  induction items with
  | nil => rfl
  | cons item rest ih => rw [foldItems, ih, List.map_cons]

theorem foldMembers_eq_map (members : List (String × Json)) :
    foldMembers members = members.map fun member => (member.1, member.2.foldIntegral) := by
  induction members with
  | nil => rfl
  | cons member rest ih => rw [foldMembers, ih, List.map_cons]

mutual

/-- Nothing is left to fold after folding. -/
theorem foldIntegral_foldIntegral (v : Json) : v.foldIntegral.foldIntegral = v.foldIntegral := by
  cases v with
  | float value =>
    cases folded : foldedInt? value with
    | none => simp [foldIntegral, folded]
    | some n => simp [foldIntegral, folded]
  | array items => rw [foldIntegral, foldIntegral, foldItems_foldItems]
  | object members => rw [foldIntegral, foldIntegral, foldMembers_foldMembers]
  | null => rfl
  | bool value => rfl
  | int value => rfl
  | string value => rfl

theorem foldItems_foldItems (items : List Json) : foldItems (foldItems items) = foldItems items := by
  match items with
  | [] => rfl
  | item :: rest =>
    rw [foldItems, foldItems, foldIntegral_foldIntegral item, foldItems_foldItems rest]

theorem foldMembers_foldMembers (members : List (String × Json)) :
    foldMembers (foldMembers members) = foldMembers members := by
  match members with
  | [] => rfl
  | (name, value) :: rest =>
    rw [foldMembers, foldMembers, foldIntegral_foldIntegral value, foldMembers_foldMembers rest]

end

/-! ### What counts as absent -/

/-- The values that count as absent: nothing, no, a zero of either kind and sign, no text. -/
inductive IsFalsy : Json → Prop where
  | null : IsFalsy .null
  | no : IsFalsy (.bool false)
  | zero : IsFalsy (.int 0)
  | floatZero (negative : Bool) : IsFalsy (.float (.zero negative))
  | empty : IsFalsy (.string "")

theorem isTruthy_iff {v : Json} : v.isTruthy = true ↔ ¬ v.IsFalsy := by
  cases v with
  | null => exact iff_of_false (by decide) fun h => h .null
  | bool value =>
    cases value with
    | false => exact iff_of_false (by decide) fun h => h .no
    | true => exact iff_of_true rfl nofun
  | int value =>
    rw [isTruthy, bne_iff_ne]
    refine not_congr ⟨?_, fun h => ?_⟩
    · rintro rfl
      exact .zero
    · cases h
      rfl
  | float value =>
    rw [isTruthy, Bool.not_eq_true', ← Bool.not_eq_true, Binary64.isZero_iff]
    refine not_congr ⟨fun h => ?_, fun h => ?_⟩
    · rw [h]
      exact .floatZero _
    · cases h
      rfl
  | string value =>
    rw [isTruthy, bne_iff_ne]
    refine not_congr ⟨?_, fun h => ?_⟩
    · rintro rfl
      exact .empty
    · cases h
      rfl
  | array items => exact iff_of_true rfl nofun
  | object members => exact iff_of_true rfl nofun

/-- Folding makes nothing present that was absent, and nothing absent that was present. -/
theorem isTruthy_foldIntegral (v : Json) : v.foldIntegral.isTruthy = v.isTruthy := by
  cases v with
  | float value =>
    rw [foldIntegral]
    cases hfolded : foldedInt? value with
    | none => rfl
    | some n =>
      rw [Bool.eq_iff_iff]
      show (n != 0) = true ↔ (!value.isZero) = true
      rw [bne_iff_ne, Bool.not_eq_true', ← Bool.not_eq_true, ← foldedInt?_eq_zero_iff, hfolded,
        Option.some_inj]
  | null => rfl
  | bool value => rfl
  | int value => rfl
  | string value => rfl
  | array items => rfl
  | object members => rfl

/-! ### Members -/

theorem lookup_foldMembers (name : String) (members : List (String × Json)) :
    (foldMembers members).lookup name = (members.lookup name).map foldIntegral := by
  induction members with
  | nil => rfl
  | cons member rest ih =>
    obtain ⟨key, value⟩ := member
    rw [foldMembers, List.lookup_cons, List.lookup_cons, ih]
    split <;> rfl

/-- Folding leaves the members there that an object has, and folds their values. -/
theorem member?_foldIntegral (name : String) (v : Json) :
    v.foldIntegral.member? name = (v.member? name).map foldIntegral := by
  cases v with
  | object members => exact lookup_foldMembers name members
  | float value =>
    rw [foldIntegral]
    split <;> rfl
  | null => rfl
  | bool value => rfl
  | int value => rfl
  | string value => rfl
  | array items => rfl

/-! ### Compact text -/

mutual

/-- The compact text of a value, given the texts of floats. -/
def compact (float : Binary64 → List Char) : Json → List Char
  | null => "null".toList
  | bool value => (toString value).toList
  | int value => intText value
  | .float value => float value
  | string value => quoted value
  | array items => '[' :: List.intercalate [','] (compactItems float items) ++ [']']
  | object members =>
    '\x7b' :: List.intercalate [','] (compactMembers float members) ++ ['\x7d']

/-- The texts of the items of an array. -/
def compactItems (float : Binary64 → List Char) : List Json → List (List Char)
  | [] => []
  | item :: rest => compact float item :: compactItems float rest

/-- The texts of the members of an object: the name in quotes, a colon and the value. -/
def compactMembers (float : Binary64 → List Char) : List (String × Json) → List (List Char)
  | [] => []
  | (name, value) :: rest =>
    (quoted name ++ ':' :: compact float value) :: compactMembers float rest

end

theorem compactItems_eq_map (float : Binary64 → List Char) (items : List Json) :
    compactItems float items = items.map (compact float) := by
  induction items with
  | nil => rfl
  | cons item rest ih => rw [compactItems, ih, List.map_cons]

theorem compactMembers_eq_map (float : Binary64 → List Char) (members : List (String × Json)) :
    compactMembers float members =
      members.map fun member => quoted member.1 ++ ':' :: compact float member.2 := by
  induction members with
  | nil => rfl
  | cons member rest ih => rw [compactMembers, ih, List.map_cons]

/-- How a float is shown: like the integer it stands for if that is below `2 ^ 53`, and
otherwise by its own text. -/
def shownFloat (x : Binary64) : List Char :=
  match foldedInt? x with
  | some n => intText n
  | none => x.text floatLayout

theorem shownFloat_of_int {x : Binary64} {n : Int} (hx : x.toRat = n)
    (hn : n.natAbs < exactIntegerLimit) : shownFloat x = intText n := by
  rw [shownFloat, foldedInt?_eq_some_iff.mpr ⟨hx, hn⟩]

theorem shownFloat_of_not_int {x : Binary64}
    (h : ∀ n : Int, x.toRat = n → exactIntegerLimit ≤ n.natAbs) :
    shownFloat x = x.text floatLayout := by
  rw [shownFloat]
  cases hfolded : foldedInt? x with
  | none => rfl
  | some n =>
    obtain ⟨hx, hn⟩ := foldedInt?_eq_some_iff.mp hfolded
    exact absurd hn (Nat.not_lt.mpr (h n hx))

mutual

/-- What is written after folding is the compact text with its floats shown as integers. -/
theorem chars_foldIntegral (v : Json) : v.foldIntegral.chars = v.compact shownFloat := by
  cases v with
  | null => rfl
  | bool value => cases value <;> rfl
  | int value => rfl
  | float value =>
    rw [foldIntegral, compact, shownFloat]
    cases foldedInt? value <;> rfl
  | string value => rfl
  | array items =>
    rw [foldIntegral, compact, chars, itemsChars_foldItems]
  | object members =>
    rw [foldIntegral, compact, chars, membersChars_foldMembers]

theorem itemsChars_foldItems (items : List Json) :
    itemsChars (foldItems items) = List.intercalate [','] (compactItems shownFloat items) := by
  match items with
  | [] => rfl
  | [item] =>
    rw [foldItems, foldItems, itemsChars, compactItems, compactItems, List.intercalate_singleton,
      chars_foldIntegral item]
  | item :: next :: rest =>
    have hrest := itemsChars_foldItems (next :: rest)
    rw [foldItems, compactItems] at hrest
    rw [foldItems, foldItems, itemsChars, compactItems, compactItems, List.intercalate_cons_cons,
      ← hrest, chars_foldIntegral item, List.append_assoc]
    rfl

theorem membersChars_foldMembers (members : List (String × Json)) :
    membersChars (foldMembers members) =
      List.intercalate [','] (compactMembers shownFloat members) := by
  match members with
  | [] => rfl
  | [(name, value)] =>
    rw [foldMembers, foldMembers, membersChars, compactMembers, compactMembers,
      List.intercalate_singleton, chars_foldIntegral value]
  | (name, value) :: (next, other) :: rest =>
    have hrest := membersChars_foldMembers ((next, other) :: rest)
    rw [foldMembers, compactMembers] at hrest
    rw [foldMembers, foldMembers, membersChars, compactMembers, compactMembers,
      List.intercalate_cons_cons, ← hrest, chars_foldIntegral value]
    simp only [List.append_assoc, List.cons_append, List.nil_append]

end

/-! ### The text is not empty -/

theorem intText_ne_nil (n : Int) : intText n ≠ [] := by
  rw [intText]
  exact List.append_ne_nil_of_right_ne_nil _ Nat.toDigits_ne_nil

theorem shownFloat_ne_nil (x : Binary64) : shownFloat x ≠ [] := by
  rw [shownFloat]
  split
  · exact intText_ne_nil _
  · refine List.append_ne_nil_of_right_ne_nil _ ?_
    -- there is a point or an exponent in any layout
    unfold Decimal.text
    dsimp only
    split
    · split
      · exact List.cons_ne_nil _ _
      · exact List.append_ne_nil_of_right_ne_nil _ (List.cons_ne_nil _ _)
    · exact List.append_ne_nil_of_right_ne_nil _ (List.cons_ne_nil _ _)

theorem compact_ne_nil (v : Json) : v.compact shownFloat ≠ [] := by
  cases v with
  | null => nofun
  | bool value => cases value <;> nofun
  | int value => exact intText_ne_nil value
  | float value => exact shownFloat_ne_nil value
  | string value => exact List.cons_ne_nil _ _
  | array items => exact List.cons_ne_nil _ _
  | object members => exact List.cons_ne_nil _ _

end Json

end EvalConsole
