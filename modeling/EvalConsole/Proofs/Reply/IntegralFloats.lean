/-
Floats that stand for integers, as they are shown.

Below `2 ^ 53` such a float is shown by the digits of its integer. From there on it is shown as
floats are: below `10 ^ 16` a point and a zero stand behind the digits, and from `10 ^ 16` on there
is an exponent. This holds of every number of a value that is shown, at any depth.

* `Json.Place` is a value with a place for another one; `Json.Place.compact_fill` is the text of
  the whole, by the text of what stands at the place.
* `Json.shownFloat_of_large` and `Json.shownFloat_of_huge`: the floats from `2 ^ 53` on.
* `Reply.integral_float_shown`: a float that stands for an integer, in any reply.
* `Reply.large_floats_not_plain` are two floats below `10 ^ 21` that are not shown by digits alone.
-/
import EvalConsole.Proofs.Number.Shortest
import EvalConsole.Proofs.Reply.ShownAgain

namespace EvalConsole

namespace Json

/-! ### Places -/

/-- A value with a place for another one: the place itself, or an item of an array or a member of
an object in which the place is. -/
inductive Place where
  | here
  | item (front : List Json) (inner : Place) (back : List Json)
  | member (front : List (String × Json)) (name : String) (inner : Place)
      (back : List (String × Json))

namespace Place

variable {float : Binary64 → List Char}

/-- The whole value, once something stands at the place. -/
def fill (v : Json) : Place → Json
  | here => v
  | item front inner back => .array (front ++ inner.fill v :: back)
  | member front name inner back => .object (front ++ (name, inner.fill v) :: back)

/-- The compact text in front of the place, given the texts of floats. -/
def before (float : Binary64 → List Char) : Place → List Char
  | here => []
  | item front inner _ =>
    '[' :: (compactItems float front).flatMap (· ++ [',']) ++ inner.before float
  | member front name inner _ =>
    '\x7b' :: (compactMembers float front).flatMap (· ++ [','])
      ++ (quoted name ++ ':' :: inner.before float)

/-- The compact text behind the place. -/
def behind (float : Binary64 → List Char) : Place → List Char
  | here => []
  | item _ inner back =>
    inner.behind float ++ (compactItems float back).flatMap (',' :: ·) ++ [']']
  | member _ _ inner back =>
    inner.behind float ++ (compactMembers float back).flatMap (',' :: ·) ++ ['\x7d']

/-- Texts with commas between them, seen from one of them. -/
theorem intercalate_around (front back : List (List Char)) (text : List Char) :
    List.intercalate [','] (front ++ text :: back) =
      front.flatMap (· ++ [',']) ++ text ++ back.flatMap (',' :: ·) := by
  have hback (text : List Char) : List.intercalate [','] (text :: back) =
      text ++ back.flatMap (',' :: ·) := by
    induction back generalizing text with
    | nil => simp
    | cons next back ih => simp [List.intercalate_cons_cons, ih]
  induction front with
  | nil => exact hback text
  | cons first front ih =>
    cases front with
    | nil => simp [List.intercalate_cons_cons, hback]
    | cons next front =>
      rw [List.cons_append, List.cons_append, List.intercalate_cons_cons, ← List.cons_append, ih]
      simp

/-- The text of the whole is that of what stands at the place, between two texts of their own. -/
theorem compact_fill (place : Place) (v : Json) :
    (place.fill v).compact float = place.before float ++ v.compact float ++ place.behind float := by
  induction place with
  | here => simp [fill, before, behind]
  | item front inner back ih =>
    rw [fill, compact, compactItems_eq_map, List.map_append, List.map_cons, intercalate_around, ih,
      before, behind, compactItems_eq_map, compactItems_eq_map]
    simp
  | member front name inner back ih =>
    rw [fill, compact, compactMembers_eq_map, List.map_append, List.map_cons, intercalate_around,
      ih, before, behind, compactMembers_eq_map, compactMembers_eq_map]
    simp

/-- What has a number in it is no text. -/
theorem fill_ne_string (place : Place) (x : Binary64) (s : String) :
    place.fill (.float x) ≠ .string s := by
  cases place <;> nofun

end Place

/-! ### Floats as they are shown -/

/-- Decimal digits alone, perhaps behind a minus. -/
def IsPlain (text : List Char) : Prop :=
  ∃ digits, digits ≠ [] ∧ (∀ c ∈ digits, c.isDigit = true) ∧ (text = digits ∨ text = '-' :: digits)

theorem isPlain_intText (n : ℤ) : IsPlain (intText n) := by
  refine ⟨Nat.toDigits 10 n.natAbs, Nat.toDigits_ne_nil,
    fun c there => Nat.isDigit_of_mem_toDigits (by decide) (by decide) there, ?_⟩
  rw [intText]
  split
  · exact .inr rfl
  · exact .inl rfl

/-- A text with a character that is neither a digit nor a minus is not plain. -/
theorem not_isPlain_of_mem {text : List Char} {c : Char} (there : c ∈ text)
    (digit : c.isDigit = false) (minus : c ≠ '-') : ¬ IsPlain text := by
  rintro ⟨digits, -, hdigits, rfl | rfl⟩
  · rw [hdigits c there] at digit
    cases digit
  · obtain rfl | there := List.mem_cons.mp there
    · exact minus rfl
    · rw [hdigits c there] at digit
      cases digit

variable {x : Binary64} {n : ℤ}

/-- A float that stands for an integer other than zero has its sign. -/
theorem sign_of_toRat (whole : x.toRat = n) (positive : 0 < n.natAbs) :
    (if x.negative then ['-'] else []) = if n < 0 then ['-'] else [] := by
  have hpos := Binary64.unitsOfOne_pos
  have hunits : (0 : ℤ) < x.units := by
    rw [Binary64.units_of_toRat whole]
    exact_mod_cast Nat.mul_pos positive hpos
  rw [Binary64.toRat_eq_intCast_iff, Binary64.signedUnits] at whole
  split at whole
  · rename_i negative
    have hn : n < 0 := by
      by_contra hge
      have := Int.mul_nonneg (Int.not_lt.mp hge) (Int.natCast_nonneg Binary64.unitsOfOne)
      omega
    rw [if_pos negative, if_pos hn]
  · rename_i negative
    have hn : ¬n < 0 := by
      intro hlt
      have := Int.mul_neg_of_neg_of_pos hlt (Int.natCast_pos.mpr hpos)
      omega
    rw [if_neg negative, if_neg hn]

theorem shownFloat_of_ge (whole : x.toRat = n) (h : 2 ^ 53 ≤ n.natAbs) :
    shownFloat x = (if n < 0 then ['-'] else []) ++ x.shortest.text floatLayout := by
  rw [shownFloat_of_not_int, Binary64.text, sign_of_toRat whole (by omega)]
  intro m hm
  obtain rfl : m = n := by exact_mod_cast hm.symm.trans whole
  exact h

/-- From `2 ^ 53` up to `10 ^ 16` a point and a zero stand behind the digits. -/
theorem shownFloat_of_large (whole : x.toRat = n) (h : 2 ^ 53 ≤ n.natAbs)
    (h' : n.natAbs < 10 ^ 16) : shownFloat x = intText n ++ ['.', '0'] := by
  obtain ⟨m, k, hm, hshortest⟩ :=
    Binary64.exists_shortest_eq (Binary64.units_of_toRat whole) h h'
  have hpositive : 0 < m := by
    by_contra hzero
    rw [Nat.eq_zero_of_not_pos hzero, Nat.zero_mul] at hm
    omega
  have hlength := (Nat.length_toDigits_le_iff (b := 10) (by decide) (by decide)).mpr h'
  rw [shownFloat_of_ge whole h, hshortest, Decimal.text_ofNat hpositive (by decide), hm, intText,
    List.append_assoc]
  rw [hm]
  show ((Nat.toDigits 10 n.natAbs).length : ℤ) ≤ 15 + 1
  omega

/-- From `10 ^ 16` on there is an exponent. -/
theorem shownFloat_of_huge (whole : x.toRat = n) (h : 10 ^ 16 ≤ n.natAbs) :
    ∃ mantissa exponent, 16 ≤ exponent ∧
      shownFloat x = mantissa ++ 'e' :: '+' :: Nat.toDigits 10 exponent := by
  have hmany : 16 < (Nat.toDigits 10 n.natAbs).length :=
    Digits.lt_length_of_pow_le (by decide) h
  have hpoint := Binary64.length_le_point (Binary64.units_of_toRat whole) h
  obtain ⟨mantissa, htext⟩ := Decimal.text_of_greatest_lt floatLayout (by omega)
    (show (15 : ℤ) + 1 < x.shortest.point by omega)
  refine ⟨(if n < 0 then ['-'] else []) ++ mantissa, (x.shortest.point - 1).natAbs, by omega, ?_⟩
  rw [shownFloat_of_ge whole (by omega), htext, List.append_assoc]

/-- A float that stands for an integer is shown by digits alone if and only if the integer is
below `2 ^ 53`. -/
theorem isPlain_shownFloat_iff (whole : x.toRat = n) :
    IsPlain (shownFloat x) ↔ n.natAbs < 2 ^ 53 := by
  constructor
  · intro plain
    by_contra hge
    have h : 2 ^ 53 ≤ n.natAbs := Nat.not_lt.mp hge
    obtain h' | h' := Nat.lt_or_ge n.natAbs (10 ^ 16)
    · rw [shownFloat_of_large whole h h'] at plain
      exact not_isPlain_of_mem (c := '.') (by simp) rfl (by decide) plain
    · obtain ⟨mantissa, exponent, -, htext⟩ := shownFloat_of_huge whole h'
      rw [htext] at plain
      exact not_isPlain_of_mem (c := 'e') (by simp) rfl (by decide) plain
  · intro small
    rw [shownFloat_of_int whole small]
    exact isPlain_intText n

end Json

namespace Reply

/-! ### Replies -/

/-- The text of a reply, whichever it is. -/
def text : Reply → String
  | result text => text
  | error text => text
  | unknown json => json

/-- What is shown of a value: a member that counts, or the whole. -/
inductive Shows (v : Json) : Json → Prop where
  | error {member : Json} (h : v.Presents "error" member) : Shows v member
  | result {member : Json} (none : ∀ other, ¬ v.Presents "error" other)
      (h : v.Presents "result" member) : Shows v member
  | whole (none : ∀ other, ¬ v.Presents "error" other)
      (none' : ∀ other, ¬ v.Presents "result" other) : Shows v v

variable {v w : Json}

/-- What is shown of a value is its compact text, or the text that it is. -/
theorem Shows.text_ofJson (h : Shows v w) (noText : ∀ s, w ≠ .string s) :
    (ofJson v).text.toList = w.compact Json.shownFloat := by
  have hcompact : w.shownText.toList = w.compact Json.shownFloat := by
    rw [Json.shownText_of_not_string noText]
    exact String.toList_ofList
  cases h with
  | error h =>
    rw [ofJson_eq_error_iff.mpr ⟨w, h, rfl⟩]
    exact hcompact
  | result none h =>
    rw [ofJson_eq_result_iff.mpr ⟨none, w, h, rfl⟩]
    exact hcompact
  | whole none none' =>
    rw [ofJson_eq_unknown_iff.mpr ⟨none, none', rfl⟩]
    exact String.toList_ofList

/-- How a float that stands for an integer is shown, wherever it is in what is shown of a value.
The text of the reply has a text for it between two others that do not depend on it. This is
decimal digits alone, perhaps behind a minus, if and only if the integer is below `2 ^ 53` in
magnitude, and then these are the digits of the integer. From there on they are followed by a
point and a zero, and from `10 ^ 16` on the text has an exponent. -/
theorem integral_float_shown (shows : Shows v w) {place : Json.Place} {x : Binary64}
    (there : w = place.fill (.float x)) {n : ℤ} (integer : x.toRat = n) :
    ∃ text, (ofJson v).text.toList =
        place.before Json.shownFloat ++ text ++ place.behind Json.shownFloat ∧
      (Json.IsPlain text ↔ n.natAbs < 2 ^ 53) ∧
      (n.natAbs < 2 ^ 53 → text = Json.intText n) ∧
      (2 ^ 53 ≤ n.natAbs → n.natAbs < 10 ^ 16 → text = Json.intText n ++ ['.', '0']) ∧
      (10 ^ 16 ≤ n.natAbs → ∃ mantissa exponent, 16 ≤ exponent ∧
        text = mantissa ++ 'e' :: '+' :: Nat.toDigits 10 exponent) := by
  refine ⟨Json.shownFloat x, ?_, Json.isPlain_shownFloat_iff integer,
    Json.shownFloat_of_int integer, Json.shownFloat_of_large integer,
    Json.shownFloat_of_huge integer⟩
  have noText : ∀ s, w ≠ .string s := by
    intro s
    rw [there]
    exact place.fill_ne_string x s
  rw [shows.text_ofJson noText, there, Json.Place.compact_fill]
  rfl

/-! ### Floats that are not shown by digits alone -/

/-- `2 ^ 53` as a double. -/
def twoTo53 : Binary64 :=
  ⟨false, 4503599627370496, 1075, Nat.le_of_ble_eq_true rfl, Nat.le_of_ble_eq_true rfl,
    .inr (Nat.le_of_ble_eq_true rfl)⟩

/-- `10 ^ 20` as a double. -/
def tenTo20 : Binary64 :=
  ⟨false, 6103515625000000, 1088, Nat.le_of_ble_eq_true rfl, Nat.le_of_ble_eq_true rfl,
    .inr (Nat.le_of_ble_eq_true rfl)⟩

/-- How these two are read, and which integers they are. -/
theorem large_floats_read :
    Json.Numeral.float? false 90071992547409920 (-1) = some twoTo53 ∧
      Json.Numeral.float? false 1 20 = some tenTo20 ∧
      twoTo53.toInt? = some (2 ^ 53) ∧ tenTo20.toInt? = some (10 ^ 20) := by
  decide +kernel

theorem toRat_twoTo53 : twoTo53.toRat = ((2 ^ 53 : ℤ) : ℚ) :=
  Binary64.toInt?_eq_some_iff.mp large_floats_read.2.2.1

theorem toRat_tenTo20 : tenTo20.toRat = ((10 ^ 20 : ℤ) : ℚ) :=
  Binary64.toInt?_eq_some_iff.mp large_floats_read.2.2.2

/-- A result in which both of them are. -/
def largeFloats : Json :=
  .object [("result", .array [.float twoTo53, .float tenTo20])]

theorem shows_largeFloats :
    Shows largeFloats (.array [.float twoTo53, .float tenTo20]) := by
  refine .result ?_ ⟨_, rfl, rfl, nofun⟩
  exact Json.not_presents_single (by decide)

/-- The first one, with the second one behind it. -/
theorem integral_float_shown_large :
    Shows largeFloats (.array [.float twoTo53, .float tenTo20]) ∧
      twoTo53.toRat = ((2 ^ 53 : ℤ) : ℚ) ∧
      ∃ text, (ofJson largeFloats).text.toList = '[' :: text ++ ",1e+20]".toList ∧
        ¬ Json.IsPlain text ∧ text = "9007199254740992.0".toList := by
  let place : Json.Place := .item [] .here [.float tenTo20]
  have behind : place.behind Json.shownFloat = ",1e+20]".toList := by decide +kernel
  have digits : Json.intText (2 ^ 53) ++ ['.', '0'] = "9007199254740992.0".toList := by
    decide +kernel
  have there : Json.array [.float twoTo53, .float tenTo20] = place.fill (.float twoTo53) := rfl
  obtain ⟨text, whole, plain, -, point, -⟩ :=
    integral_float_shown shows_largeFloats there toRat_twoTo53
  rw [behind] at whole
  refine ⟨shows_largeFloats, toRat_twoTo53, text, whole, ?_, ?_⟩
  · exact mt plain.mp (by decide)
  · rw [point (by decide) (by decide), digits]

/-- Two floats that stand for integers below `10 ^ 21`, one of them shown with a point and one with
an exponent. -/
theorem large_floats_not_plain :
    ofJson largeFloats = .result "[9007199254740992.0,1e+20]" ∧
      twoTo53.toRat = ((2 ^ 53 : ℤ) : ℚ) ∧ ¬ Json.IsPlain "9007199254740992.0".toList ∧
      tenTo20.toRat = ((10 ^ 20 : ℤ) : ℚ) ∧ ¬ Json.IsPlain "1e+20".toList := by
  refine ⟨?_, toRat_twoTo53, ?_, toRat_tenTo20, ?_⟩
  · decide +kernel
  · exact Json.not_isPlain_of_mem (c := '.') (by decide) rfl (by decide)
  · exact Json.not_isPlain_of_mem (c := 'e') (by decide) rfl (by decide)

end Reply

end EvalConsole
