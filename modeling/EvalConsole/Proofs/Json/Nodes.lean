/-
Folding, node by node.

A path is a sequence of positions, of items in arrays and of members in objects, and leads to a
node of a value. Folding commutes with following a path, so that what it does to a value is what it
does to each node: a float without a fraction below `2 ^ 53` becomes the integer it is cut to, and
everything else that a node says by itself stays.

Main statements:

* `Binary64.toInt64_of_toRat`: what is cut to 64 bits is the integer itself, if it is small.
* `Json.node?_foldIntegral`: the nodes after folding are the folded ones.
* `Json.label_foldIntegral`: folding leaves what a node says, the value of a number included.
* `Json.foldIntegral_node_by_node`: this for all nodes of a value.

Design notes
------------
`Json.Label` leaves out how a number is held, and keeps its value: two values with the same labels
on all paths have the same shape and the same numbers. Members are reached by their positions and
not by their names, so that a member that hides another one of its name is told apart from it.
-/
import Mathlib.Data.Rat.Floor
import EvalConsole.Proofs.Json.Folding
import EvalConsole.Proofs.Json.Members

namespace EvalConsole

/-! ### Small integers among doubles -/

namespace Binary64

variable {x : Binary64} {n : ℤ}

/-- A double without a fraction, below `2 ^ 53` in magnitude. -/
def IsSmallInteger (x : Binary64) : Prop :=
  Int.fract x.toRat = 0 ∧ |x.toRat| < 2 ^ 53

/-- A double cut to an integer of 64 bits: its fraction is cut off, and beyond 64 bits the nearest
of them is taken. -/
def toInt64 (x : Binary64) : Int64 :=
  Int64.ofIntClamp (x.signedUnits.tdiv unitsOfOne)

theorem isSmallInteger_iff : x.IsSmallInteger ↔ ∃ n : ℤ, x.toRat = n ∧ n.natAbs < 2 ^ 53 := by
  rw [IsSmallInteger, Int.fract_eq_zero_iff]
  constructor
  · rintro ⟨⟨n, whole⟩, small⟩
    refine ⟨n, whole.symm, ?_⟩
    rw [← whole, ← Int.cast_abs, Int.abs_eq_natAbs] at small
    exact_mod_cast small
  · rintro ⟨n, whole, small⟩
    refine ⟨⟨n, whole.symm⟩, ?_⟩
    rw [whole, ← Int.cast_abs, Int.abs_eq_natAbs]
    exact_mod_cast small

/-- What a small integer is cut to is the integer itself. -/
theorem toInt64_of_toRat (whole : x.toRat = n) (small : n.natAbs < 2 ^ 53) :
    x.toInt64.toInt = n := by
  have hpos : (unitsOfOne : ℤ) ≠ 0 := by exact_mod_cast Nat.ne_of_gt unitsOfOne_pos
  rw [toInt64, toRat_eq_intCast_iff.mp whole, Int.mul_tdiv_cancel n hpos]
  refine Int64.toInt_ofIntClamp ?_ ?_
  · rw [Int64.toInt_minValue]
    omega
  · rw [Int64.toInt_maxValue]
    omega

end Binary64

namespace Json

variable {x : Binary64} {n : ℤ} {v : Json}

theorem foldedInt?_of_isSmallInteger (small : x.IsSmallInteger) :
    foldedInt? x = some x.toInt64.toInt := by
  obtain ⟨n, whole, bound⟩ := Binary64.isSmallInteger_iff.mp small
  rw [Binary64.toInt64_of_toRat whole bound]
  exact foldedInt?_eq_some_iff.mpr ⟨whole, bound⟩

theorem foldedInt?_eq_none_iff : foldedInt? x = none ↔ ¬ x.IsSmallInteger := by
  constructor
  · intro none small
    rw [foldedInt?_of_isSmallInteger small] at none
    cases none
  · intro large
    rw [Option.eq_none_iff_forall_ne_some]
    intro n folded
    exact large (Binary64.isSmallInteger_iff.mpr ⟨n, foldedInt?_eq_some_iff.mp folded⟩)

/-- Whether a double is a small integer is seen from whether it is folded. -/
instance : DecidablePred Binary64.IsSmallInteger := fun x =>
  decidable_of_iff (¬ foldedInt? x = none) (not_iff_comm.mp foldedInt?_eq_none_iff.symm)

/-- What a float is folded into. -/
theorem foldIntegral_float (x : Binary64) : foldIntegral (.float x) =
    if x.IsSmallInteger then .int x.toInt64.toInt else .float x := by
  rw [foldIntegral]
  split
  · rename_i n folded
    have small : x.IsSmallInteger :=
      Binary64.isSmallInteger_iff.mpr ⟨n, foldedInt?_eq_some_iff.mp folded⟩
    rw [foldedInt?_of_isSmallInteger small, Option.some_inj] at folded
    rw [if_pos small, folded]
  · rename_i folded
    rw [if_neg (foldedInt?_eq_none_iff.mp folded)]

/-! ### Nodes -/

/-- What stands at a position right below a value: an item of an array, or the value of a member of
an object. -/
def child? (position : ℕ) : Json → Option Json
  | array items => items[position]?
  | object members => members[position]?.map Prod.snd
  | _ => none

/-- The node that a path of positions leads to. -/
def node? : List ℕ → Json → Option Json
  | [], v => some v
  | position :: path, v => (v.child? position).bind (node? path)

/-- What a node says by itself: a number its value, whether it is held as an integer or as a float,
an array how many items it has, and an object the names of its members. -/
inductive Label where
  | null
  | bool (value : Bool)
  | number (value : ℚ)
  | string (value : String)
  | array (length : ℕ)
  | object (names : List String)
  deriving DecidableEq

/-- What a value says by itself. -/
def label : Json → Label
  | null => .null
  | bool value => .bool value
  | int value => .number value
  | float value => .number value.toRat
  | string value => .string value
  | array items => .array items.length
  | object members => .object (members.map Prod.fst)

/-! ### Folding at the nodes -/

theorem child?_foldIntegral (position : ℕ) (v : Json) :
    v.foldIntegral.child? position = (v.child? position).map foldIntegral := by
  cases v with
  | array items =>
    rw [foldIntegral, foldItems_eq_map]
    exact List.getElem?_map
  | object members =>
    rw [foldIntegral, foldMembers_eq_map, child?, List.getElem?_map, child?, Option.map_map,
      Option.map_map]
    rfl
  | float value =>
    rw [foldIntegral]
    split <;> rfl
  | null => rfl
  | bool value => rfl
  | int value => rfl
  | string value => rfl

/-- The nodes after folding are the folded ones: by induction on the path, as a child of a folded
value is a folded child. -/
theorem node?_foldIntegral (path : List ℕ) (v : Json) :
    v.foldIntegral.node? path = (v.node? path).map foldIntegral := by
  induction path generalizing v with
  | nil => rfl
  | cons position path ih =>
    rw [node?, node?, child?_foldIntegral]
    cases v.child? position with
    | none => rfl
    | some child => exact ih child

/-- Folding leaves what a value says by itself: a float is folded into the integer that it stands
for, and lengths and names stay. -/
theorem label_foldIntegral (v : Json) : v.foldIntegral.label = v.label := by
  cases v with
  | float value =>
    rw [foldIntegral]
    cases folded : foldedInt? value with
    | none => rfl
    | some n => exact congrArg Label.number (foldedInt?_eq_some_iff.mp folded).1.symm
  | array items => rw [foldIntegral, foldItems_eq_map, label, label, List.length_map]
  | object members =>
    rw [foldIntegral, foldMembers_eq_map, label, label, List.map_map]
    rfl
  | null => rfl
  | bool value => rfl
  | int value => rfl
  | string value => rfl

/-- The integers after folding are those before, and the small integers among the floats. -/
theorem foldIntegral_eq_int_iff : v.foldIntegral = .int n ↔
    v = .int n ∨ ∃ x, v = .float x ∧ x.IsSmallInteger ∧ x.toInt64.toInt = n := by
  cases v with
  | float value =>
    rw [foldIntegral_float]
    by_cases small : value.IsSmallInteger
    · simp [small]
    · simp [small]
  | _ => simp [foldIntegral]

/-- The floats after folding are those before that are no small integers. -/
theorem foldIntegral_eq_float_iff :
    v.foldIntegral = .float x ↔ v = .float x ∧ ¬ x.IsSmallInteger := by
  cases v with
  | float value =>
    rw [foldIntegral_float, float.injEq]
    split
    · rename_i small
      refine iff_of_false nofun ?_
      rintro ⟨rfl, large⟩
      exact large small
    · rename_i large
      rw [float.injEq, iff_self_and]
      rintro rfl
      exact large
  | _ => simp [foldIntegral]

/-- Members of distinct names keep their places when they are folded one after the other and put
into a new object. -/
theorem ofWritten_map_foldIntegral {members : List (String × Json)}
    (distinct : (members.map Prod.fst).Nodup) :
    Members.ofWritten (members.map fun member => (member.1, member.2.foldIntegral)) =
      foldMembers members := by
  rw [foldMembers_eq_map]
  refine Members.ofWritten_of_nodup ?_
  rw [List.map_map]
  exact distinct

/-- Folding, at all nodes of a value. There is a node on a path after folding if there was one
before, and it says the same by itself: it is the same text, truth value or nothing, has the same
number of items, the same names of members in the same order, or the same value as a number. An
integer is one that was there before, or stands for a float without a fraction below `2 ^ 53`, cut
to 64 bits; a float is one that was there before and is no such float. The members of an object
stay where they are also if they are put into a new object one after the other. Each node counts as
present if it did before. Folding again changes nothing. -/
theorem foldIntegral_node_by_node (v : Json) :
    (∀ path, (v.foldIntegral.node? path).map label = (v.node? path).map label) ∧
    (∀ path n, v.foldIntegral.node? path = some (.int n) ↔
      v.node? path = some (.int n) ∨
        ∃ x, v.node? path = some (.float x) ∧ x.IsSmallInteger ∧ x.toInt64.toInt = n) ∧
    (∀ path x, v.foldIntegral.node? path = some (.float x) ↔
      v.node? path = some (.float x) ∧ ¬ x.IsSmallInteger) ∧
    (∀ path members, v.node? path = some (.object members) → (members.map Prod.fst).Nodup →
      v.foldIntegral.node? path = some (.object (Members.ofWritten
        (members.map fun member => (member.1, member.2.foldIntegral))))) ∧
    (∀ path, (v.foldIntegral.node? path).map isTruthy = (v.node? path).map isTruthy) ∧
    v.foldIntegral.foldIntegral = v.foldIntegral := by
  refine ⟨fun path => ?_, fun path n => ?_, fun path x => ?_, fun path members there distinct => ?_,
    fun path => ?_, foldIntegral_foldIntegral v⟩
  · rw [node?_foldIntegral, Option.map_map]
    exact Option.map_congr fun w _ => label_foldIntegral w
  · rw [node?_foldIntegral]
    cases v.node? path with
    | none => simp
    | some w => simp [foldIntegral_eq_int_iff]
  · rw [node?_foldIntegral]
    cases v.node? path with
    | none => simp
    | some w => simp [foldIntegral_eq_float_iff]
  · rw [node?_foldIntegral, there, ofWritten_map_foldIntegral distinct]
    rfl
  · rw [node?_foldIntegral, Option.map_map]
    exact Option.map_congr fun w _ => isTruthy_foldIntegral w

/-! ### A value with several floats -/

theorem significand_fits : Nat.pow 2 52 < Nat.pow 2 53 :=
  Nat.pow_lt_pow_right (by decide) (by decide)

/-- `2 ^ (scale - 1022)` as a double. -/
def powerOfTwo (scale : Fin 2046) : Binary64 :=
  ⟨false, Nat.pow 2 52, scale, significand_fits, Nat.le_of_lt_succ scale.isLt,
    .inr (Nat.le_refl _)⟩

/-- One half as a double. -/
def half : Binary64 :=
  powerOfTwo 1021

/-- The least double that is too large to be folded. -/
def foldLimit : Binary64 :=
  powerOfTwo 1075

theorem mixed_floats :
    (Binary64.zero true).IsSmallInteger ∧ (Binary64.zero true).toInt64.toInt = 0 ∧
      ¬ half.IsSmallInteger ∧ ¬ foldLimit.IsSmallInteger := by
  decide +kernel

/-- Members with a zero that has a sign, and with floats that are not folded. -/
def mixedMembers : List (String × Json) :=
  [("zero", .float (.zero true)), ("list", .array [.float half, .float foldLimit, .int (-7)])]

/-- The zero loses its sign, and the other numbers stay. -/
theorem foldIntegral_node_by_node_mixed :
    (mixedMembers.map Prod.fst).Nodup ∧
      (object mixedMembers).foldIntegral.node? [0] = some (.int 0) ∧
      (object mixedMembers).foldIntegral.node? [1, 0] = some (.float half) ∧
      (object mixedMembers).foldIntegral.node? [1, 1] = some (.float foldLimit) ∧
      (object mixedMembers).foldIntegral.node? [1, 2] = some (.int (-7)) ∧
      (object mixedMembers).foldIntegral.node? [] = some (.object (Members.ofWritten
        (mixedMembers.map fun member => (member.1, member.2.foldIntegral)))) := by
  obtain ⟨small, zero, fraction, large⟩ := mixed_floats
  have distinct : (mixedMembers.map Prod.fst).Nodup := by decide
  obtain ⟨-, ints, floats, members, -, -⟩ := foldIntegral_node_by_node (.object mixedMembers)
  refine ⟨distinct, ?_, ?_, ?_, ?_, members [] mixedMembers rfl distinct⟩
  · exact (ints [0] 0).mpr (.inr ⟨.zero true, rfl, small, zero⟩)
  · exact (floats [1, 0] half).mpr ⟨rfl, fraction⟩
  · exact (floats [1, 1] foldLimit).mpr ⟨rfl, large⟩
  · exact (ints [1, 2] (-7)).mpr (.inl rfl)

end Json

end EvalConsole
