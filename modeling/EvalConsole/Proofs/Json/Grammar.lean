/-
What a text denotes.

The grammar of JSON is described by relations of a text, the value that it starts with, and
what is left of it behind that value. Blanks may stand before every token; arrays and
objects are nested to a given depth. A member of an object that is written again keeps its
place and takes the last value.

* `Json.Value` is the relation for values, `Json.Denotes` that for whole texts.
* `Json.finds_readValue_iff` and `Json.parse_eq_ok_iff`: a text is read as the value that it
  denotes, and refused if it denotes none.

Design notes
------------
Brackets are described, like they are read, for any relation of a text and one member. The
depth is an argument of the relation, and a value of one depth holds values of the depth
below: this is the recursion of the reader.
-/
import EvalConsole.Proofs.Json.Numeral

namespace EvalConsole.Json

variable {s rest : List Char}

/-! ### Sequences in brackets -/

section Sequences

variable {α : Type}

/-- What follows a member of a sequence: the closing bracket, or a comma and another
member. -/
inductive More (member : List Char → α → List Char → Prop) (close : Char) :
    List Char → List α → List Char → Prop where
  | close {s rest : List Char} (h : skipBlanks s = close :: rest) : More member close s [] rest
  | next {s r r' rest : List Char} {a : α} {others : List α} (h : skipBlanks s = ',' :: r)
      (ha : member (skipBlanks r) a r') (hmore : More member close r' others rest) :
      More member close s (a :: others) rest

/-- What follows the opening bracket of a sequence. -/
inductive Sequence (member : List Char → α → List Char → Prop) (close : Char) :
    List Char → List α → List Char → Prop where
  | empty {s rest : List Char} (h : skipBlanks s = close :: rest) :
      Sequence member close s [] rest
  | members {s r rest : List Char} {a : α} {others : List α} (ha : member (skipBlanks s) a r)
      (hmore : More member close r others rest) : Sequence member close s (a :: others) rest

variable {brackets : Brackets} {reader : (s : List Char) → Except Fault (Read α s)}
  {member : List Char → α → List Char → Prop}

/-- A reader of members that finds what a relation says. A member is not empty, and does not
start with the closing bracket. -/
structure FindsMembers (brackets : Brackets) (reader : (s : List Char) → Except Fault (Read α s))
    (member : List Char → α → List Char → Prop) : Prop where
  finds_iff : ∀ s a rest, Finds (reader s) a rest ↔ member s a rest
  start : ∀ s a rest, member s a rest → ∃ c r, s = c :: r ∧ c ≠ brackets.close
  comma : brackets.close ≠ ','

theorem finds_readMore_iff (h : FindsMembers brackets reader member) {values : List α} :
    Finds (readMore brackets reader s) values rest ↔ More member brackets.close s values rest := by
  constructor
  · intro hfinds
    fun_induction readMore brackets reader s generalizing values rest with
    | case1 => exact absurd hfinds (not_finds_error _)
    | case2 => exact absurd hfinds (not_finds_error _)
    | case3 => exact absurd hfinds (not_finds_error _)
    | case4 => exact absurd hfinds (not_finds_error _)
    | case5 => exact absurd hfinds (not_finds_error _)
    | case6 s r c' r' hr hclose a left hlt ha others left' hlt' hothers hs _ ih =>
      obtain ⟨rfl, rfl⟩ := finds_ok_iff.mp hfinds
      refine .next hs ?_ (ih ⟨hlt', hothers⟩)
      rw [hr]
      exact (h.finds_iff ..).mp ⟨hlt, ha⟩
    | case7 s r hs =>
      obtain ⟨rfl, rfl⟩ := finds_ok_iff.mp hfinds
      exact .close hs
    | case8 => exact absurd hfinds (not_finds_error _)
  · intro hmore
    induction hmore with
    | close hs =>
      unfold readMore
      split
      · rename_i hnil
        cases hs.symm.trans hnil
      · rename_i c r hcons
        cases hs.symm.trans hcons
        simp [h.comma]
    | @next s r r' rest a others hs ha hmore ih =>
      obtain ⟨c, r'', hr, hclose⟩ := h.start _ _ _ ha
      rw [hr] at ha
      obtain ⟨_, heq⟩ := (h.finds_iff ..).mpr ha
      obtain ⟨_, heq'⟩ := ih
      unfold readMore
      split
      · rename_i hnil
        cases hs.symm.trans hnil
      · rename_i d u hcons
        cases hs.symm.trans hcons
        rw [if_pos rfl]
        split
        · rename_i hnil
          cases hr.symm.trans hnil
        · rename_i d' u' hcons'
          cases hr.symm.trans hcons'
          rw [if_neg hclose]
          simp [heq, heq']

theorem finds_readSequence_iff (h : FindsMembers brackets reader member) {values : List α} :
    Finds (readSequence brackets reader s) values rest ↔
      Sequence member brackets.close s values rest := by
  constructor
  · intro hfinds
    unfold readSequence at hfinds
    split at hfinds
    · exact absurd hfinds (not_finds_error _)
    · rename_i c r hs
      split at hfinds
      · rename_i hclose
        subst hclose
        obtain ⟨rfl, rfl⟩ := finds_ok_iff.mp hfinds
        exact .empty hs
      · split at hfinds
        · exact absurd hfinds (not_finds_error _)
        · rename_i a left hlt ha
          split at hfinds
          · exact absurd hfinds (not_finds_error _)
          · rename_i others left' hlt' hothers
            obtain ⟨rfl, rfl⟩ := finds_ok_iff.mp hfinds
            refine .members ?_ ((finds_readMore_iff h).mp ⟨hlt', hothers⟩)
            rw [hs]
            exact (h.finds_iff ..).mp ⟨hlt, ha⟩
  · intro hsequence
    cases hsequence with
    | empty hs =>
      unfold readSequence
      split
      · rename_i hnil
        cases hs.symm.trans hnil
      · rename_i c r hcons
        cases hs.symm.trans hcons
        simp
    | members ha hmore =>
      obtain ⟨c, r, hr, hclose⟩ := h.start _ _ _ ha
      rw [hr] at ha
      obtain ⟨_, heq⟩ := (h.finds_iff ..).mpr ha
      obtain ⟨_, heq'⟩ := (finds_readMore_iff h).mpr hmore
      unfold readSequence
      split
      · rename_i hnil
        cases hr.symm.trans hnil
      · rename_i d u hcons
        cases hr.symm.trans hcons
        rw [if_neg hclose]
        simp [heq, heq']

end Sequences

/-! ### Members of objects -/

/-- A member of an object: a name in quotes, a colon, a value. -/
inductive Member (value : List Char → Json → List Char → Prop) :
    List Char → String × Json → List Char → Prop where
  | named {s cs r r' rest : List Char} {v : Json} (hname : Quoted s cs r)
      (hcolon : skipBlanks r = ':' :: r') (hvalue : value r' v rest) :
      Member value ('"' :: s) (String.ofList cs, v) rest

theorem finds_readMember_iff {value : List Char → Json → List Char → Prop}
    {reader : (s : List Char) → Except Fault (Read Json s)}
    (h : ∀ s v rest, Finds (reader s) v rest ↔ value s v rest) {member : String × Json} :
    Finds (readMember reader s) member rest ↔ Member value s member rest := by
  constructor
  · intro hfinds
    unfold readMember at hfinds
    split at hfinds
    · exact absurd hfinds (not_finds_error _)
    · rename_i c r
      split at hfinds
      · rename_i hquote
        subst hquote
        split at hfinds
        · exact absurd hfinds (not_finds_error _)
        · rename_i name left hlt hname
          split at hfinds
          · exact absurd hfinds (not_finds_error _)
          · rename_i d r' hcolon
            split at hfinds
            · rename_i hd
              subst hd
              split at hfinds
              · exact absurd hfinds (not_finds_error _)
              · rename_i v left' hlt' hvalue
                obtain ⟨rfl, rfl⟩ := finds_ok_iff.mp hfinds
                exact .named (finds_readQuoted_iff.mp ⟨hlt, hname⟩) hcolon
                  ((h ..).mp ⟨hlt', hvalue⟩)
            · exact absurd hfinds (not_finds_error _)
      · exact absurd hfinds (not_finds_error _)
  · intro hmember
    cases hmember with
    | named hname hcolon hvalue =>
      obtain ⟨_, heq⟩ := finds_readQuoted_iff.mpr hname
      obtain ⟨_, heq'⟩ := (h ..).mpr hvalue
      unfold readMember
      simp only [heq, if_pos]
      split
      · rename_i hnil
        cases hcolon.symm.trans hnil
      · rename_i d u hcons
        cases hcolon.symm.trans hcons
        simp [heq']

/-! ### Values -/

/-- A value that holds no others. -/
inductive Scalar : List Char → Json → List Char → Prop where
  | null {rest : List Char} : Scalar ('n' :: 'u' :: 'l' :: 'l' :: rest) .null rest
  | yes {rest : List Char} : Scalar ('t' :: 'r' :: 'u' :: 'e' :: rest) (.bool true) rest
  | no {rest : List Char} : Scalar ('f' :: 'a' :: 'l' :: 's' :: 'e' :: rest) (.bool false) rest
  | number {s rest : List Char} {n : Numeral} {v : Json} (h : Numeral.Written s n rest)
      (hsign : n.negative = false) (hv : n.value = .ok v) : Scalar s v rest
  | negative {s rest : List Char} {n : Numeral} {v : Json} (h : Numeral.Written s n rest)
      (hsign : n.negative = true) (hv : n.value = .ok v) : Scalar ('-' :: s) v rest
  | string {s cs rest : List Char} (h : Quoted s cs rest) :
      Scalar ('"' :: s) (.string (String.ofList cs)) rest

/-- A value that holds others, each of which is in a relation with its text. -/
inductive Container (value : List Char → Json → List Char → Prop) :
    List Char → Json → List Char → Prop where
  | array {s rest : List Char} {items : List Json} (h : Sequence value ']' s items rest) :
      Container value ('[' :: s) (.array items) rest
  | object {s rest : List Char} {written : List (String × Json)}
      (h : Sequence (Member value) '\x7d' s written rest) :
      Container value ('\x7b' :: s) (.object (Members.ofWritten written)) rest

/-- The first value of a text, with arrays and objects at most `depth` deep. -/
def Value : (depth : Nat) → List Char → Json → List Char → Prop
  | 0, s, v, rest => Scalar (skipBlanks s) v rest
  | depth + 1, s, v, rest =>
    Scalar (skipBlanks s) v rest ∨ Container (Value depth) (skipBlanks s) v rest

/-- The value that a whole text denotes. -/
def Denotes (s : List Char) (v : Json) : Prop :=
  ∃ rest, Value maxDepth s v rest ∧ skipBlanks rest = []

theorem findsWithin_readLiteral_iff {letters : List Char} {v v' : Json} :
    FindsWithin (readLiteral letters v s) v' rest ↔ v = v' ∧ s = letters ++ rest := by
  induction letters generalizing s with
  | nil =>
    unfold readLiteral
    simp
  | cons l letters ih =>
    cases s with
    | nil =>
      unfold readLiteral
      simp
    | cons c r =>
      rw [readLiteral]
      split
      · rename_i hletter
        subst hletter
        constructor
        · intro hfinds
          split at hfinds
          · exact absurd hfinds (not_findsWithin_error _)
          · rename_i w left hle heq
            obtain ⟨rfl, rfl⟩ := findsWithin_ok_iff.mp hfinds
            obtain ⟨rfl, rfl⟩ := ih.mp ⟨hle, heq⟩
            exact ⟨rfl, rfl⟩
        · rintro ⟨rfl, heq⟩
          obtain ⟨_, hread⟩ := ih.mpr ⟨rfl, (List.cons.inj heq).2⟩
          simp [hread]
      · rename_i hletter
        simp only [not_findsWithin_error, false_iff]
        rintro ⟨-, heq⟩
        exact hletter (List.cons.inj heq).1

theorem finds_readNumber_iff {negative : Bool} {v : Json} :
    Finds (readNumber negative s) v rest ↔
      ∃ n, Numeral.Written s n rest ∧ n.negative = negative ∧ n.value = .ok v := by
  unfold readNumber
  constructor
  · intro hfinds
    split at hfinds
    · exact absurd hfinds (not_finds_error _)
    · rename_i n left hlt hread
      obtain ⟨hsign, hwritten⟩ := Numeral.finds_read_iff.mp ⟨hlt, hread⟩
      split at hfinds
      · rename_i w hvalue
        obtain ⟨rfl, rfl⟩ := finds_ok_iff.mp hfinds
        exact ⟨n, hwritten, hsign, hvalue⟩
      · exact absurd hfinds (not_finds_error _)
  · rintro ⟨n, hwritten, hsign, hvalue⟩
    obtain ⟨_, hread⟩ := Numeral.finds_read_iff.mpr ⟨hsign, hwritten⟩
    simp [hread, hvalue]

/-- A number starts with a digit. -/
theorem Numeral.Written.start {n : Numeral} (h : Numeral.Written s n rest) :
    ∃ c r, s = c :: r ∧ c.isDigit = true := by
  obtain ⟨r, r', hwhole, -, -⟩ := h
  generalize n.whole = ds at hwhole
  cases hwhole with
  | zero hended => exact ⟨'0', r, rfl, rfl⟩
  | digits hc hzero h => exact ⟨_, _, rfl, hc⟩

theorem Scalar.start {v : Json} (h : Scalar s v rest) : ∃ c r, s = c :: r ∧ c ≠ ']' := by
  cases h with
  | null => exact ⟨_, _, rfl, by decide⟩
  | yes => exact ⟨_, _, rfl, by decide⟩
  | no => exact ⟨_, _, rfl, by decide⟩
  | number h hsign hv =>
    obtain ⟨c, r, hs, hdigit⟩ := h.start
    refine ⟨c, r, hs, ?_⟩
    rintro rfl
    cases hdigit
  | negative h hsign hv => exact ⟨_, _, rfl, by decide⟩
  | string h => exact ⟨_, _, rfl, by decide⟩

theorem Container.start {value : List Char → Json → List Char → Prop} {v : Json}
    (h : Container value s v rest) : ∃ c r, s = c :: r ∧ c ≠ ']' := by
  cases h with
  | array h => exact ⟨_, _, rfl, by decide⟩
  | object h => exact ⟨_, _, rfl, by decide⟩

/-- A value has an end only behind its first character, which closes no array. -/
theorem Value.start {depth : Nat} {v : Json} (h : Value depth s v rest) :
    ∃ c r, s = c :: r ∧ c ≠ ']' := by
  have hskipped : ∃ c r, skipBlanks s = c :: r ∧ c ≠ ']' := by
    cases depth with
    | zero => exact Scalar.start h
    | succ depth => exact h.elim Scalar.start Container.start
  obtain ⟨c, r, hs, hc⟩ := hskipped
  cases s with
  | nil => cases hs
  | cons d t =>
    refine ⟨d, t, rfl, ?_⟩
    rintro rfl
    -- this bracket is no blank, so nothing is skipped
    cases hs
    exact hc rfl

theorem findsMembers_array {depth : Nat}
    (h : ∀ s v rest, Finds (readValue depth s) v rest ↔ Value depth s v rest) :
    FindsMembers .array (readValue depth) (Value depth) where
  finds_iff := h
  start _ _ _ hvalue := hvalue.start
  comma := by decide

theorem findsMembers_object {depth : Nat}
    (h : ∀ s v rest, Finds (readValue depth s) v rest ↔ Value depth s v rest) :
    FindsMembers .object (readMember (readValue depth)) (Member (Value depth)) where
  finds_iff s member rest := finds_readMember_iff h
  start s member rest hmember := by
    cases hmember with
    | named hname hcolon hvalue => exact ⟨_, _, rfl, by decide⟩
  comma := by decide

/-- The values of a depth in terms of those below. -/
theorem value_iff {depth : Nat} {v : Json} :
    Value depth s v rest ↔ Scalar (skipBlanks s) v rest ∨
      ∃ below, depth = below + 1 ∧ Container (Value below) (skipBlanks s) v rest := by
  cases depth with
  | zero => simp [Value]
  | succ depth => simp [Value]

theorem finds_ofShorter_iff {α : Type} {t : List Char} {a : α} {found : Read α t}
    (h : t.length ≤ s.length) :
    Finds (.ok (found.ofShorter h)) a rest ↔ Finds (.ok found) a rest := by
  obtain ⟨b, r, hlt⟩ := found
  simp [Read.ofShorter]

/-- A value is read if it is there, behind blanks. -/
theorem Value.of_finds {depth : Nat} {v : Json}
    (below : ∀ d, depth = d + 1 →
      ∀ s v rest, Finds (readValue d s) v rest ↔ Value d s v rest)
    (hfinds : Finds (readValue depth s) v rest) : Value depth s v rest := by
  rw [value_iff]
  unfold readValue at hfinds
  split at hfinds
  · exact absurd hfinds (not_finds_error _)
  rename_i c r hs
  extract_lets hlt literal at hfinds
  have hliteral (letters : List Char) (w : Json) (h : Finds (literal letters w) v rest) :
      w = v ∧ r = letters ++ rest := by
    cases hread : readLiteral letters w r with
    | error fault => simp [literal, hread] at h
    | ok found =>
      obtain ⟨w', left, hle⟩ := found
      simp only [literal, hread, finds_ok_iff] at h
      obtain ⟨rfl, rfl⟩ := h
      exact findsWithin_readLiteral_iff.mp ⟨hle, hread⟩
  rw [hs]
  -- the literals
  split at hfinds
  · rename_i hc
    obtain ⟨rfl, rfl⟩ := hliteral _ _ hfinds
    exact .inl (hc ▸ .null)
  split at hfinds
  · rename_i hc
    obtain ⟨rfl, rfl⟩ := hliteral _ _ hfinds
    exact .inl (hc ▸ .yes)
  split at hfinds
  · rename_i hc
    obtain ⟨rfl, rfl⟩ := hliteral _ _ hfinds
    exact .inl (hc ▸ .no)
  -- numbers, with and without a sign
  split at hfinds
  · rename_i hc
    split at hfinds
    · exact absurd hfinds (not_finds_error _)
    rename_i found hread
    rw [finds_ofShorter_iff, ← hread, finds_readNumber_iff] at hfinds
    obtain ⟨n, hwritten, hsign, hvalue⟩ := hfinds
    exact .inl (hc ▸ .negative hwritten hsign hvalue)
  split at hfinds
  · split at hfinds
    · exact absurd hfinds (not_finds_error _)
    rename_i found hread
    rw [finds_ofShorter_iff, ← hread, finds_readNumber_iff] at hfinds
    obtain ⟨n, hwritten, hsign, hvalue⟩ := hfinds
    exact .inl (.number hwritten hsign hvalue)
  -- texts
  split at hfinds
  · rename_i hc
    split at hfinds
    · exact absurd hfinds (not_finds_error _)
    rename_i found hread
    obtain ⟨cs, left, hlt'⟩ := found
    obtain ⟨rfl, rfl⟩ := finds_ok_iff.mp hfinds
    exact .inl (hc ▸ .string (finds_readQuoted_iff.mp ⟨hlt', hread⟩))
  -- arrays and objects, whose values are those of the depth below
  split at hfinds
  · rename_i hc
    split at hfinds
    · exact absurd hfinds (not_finds_error _)
    rename_i depth
    split at hfinds
    · exact absurd hfinds (not_finds_error _)
    rename_i found hread
    obtain ⟨items, left, hlt'⟩ := found
    obtain ⟨rfl, rfl⟩ := finds_ok_iff.mp hfinds
    have hitems := (finds_readSequence_iff (findsMembers_array (below depth rfl))).mp ⟨hlt', hread⟩
    exact .inr ⟨depth, rfl, hc ▸ .array hitems⟩
  split at hfinds
  · rename_i hc
    split at hfinds
    · exact absurd hfinds (not_finds_error _)
    rename_i depth
    split at hfinds
    · exact absurd hfinds (not_finds_error _)
    rename_i found hread
    obtain ⟨written, left, hlt'⟩ := found
    obtain ⟨rfl, rfl⟩ := finds_ok_iff.mp hfinds
    have hwritten :=
      (finds_readSequence_iff (findsMembers_object (below depth rfl))).mp ⟨hlt', hread⟩
    exact .inr ⟨depth, rfl, hc ▸ .object hwritten⟩
  · exact absurd hfinds (not_finds_error _)

/-- A value that is there, behind blanks, is read. -/
theorem Value.finds {depth : Nat} {v : Json}
    (below : ∀ d, depth = d + 1 →
      ∀ s v rest, Finds (readValue d s) v rest ↔ Value d s v rest)
    (h : Value depth s v rest) : Finds (readValue depth s) v rest := by
  rw [value_iff] at h
  unfold readValue
  split
  · rename_i hnil
    rw [hnil] at h
    rcases h with hscalar | ⟨d, -, hcontainer⟩
    · obtain ⟨c, r, hs, -⟩ := hscalar.start
      cases hs
    · obtain ⟨c, r, hs, -⟩ := hcontainer.start
      cases hs
  rename_i c r hs
  rw [hs] at h
  extract_lets hlt literal
  have hliteral (letters : List Char) (w : Json) (hr : r = letters ++ rest) :
      Finds (literal letters w) w rest := by
    have hfinds : FindsWithin (readLiteral letters w r) w rest :=
      findsWithin_readLiteral_iff.mpr ⟨rfl, hr⟩
    obtain ⟨_, hread⟩ := hfinds
    simp [literal, hread]
  rcases h with hscalar | ⟨d, rfl, hcontainer⟩
  · cases hscalar with
    | null => exact hliteral ['u', 'l', 'l'] .null rfl
    | yes => exact hliteral ['r', 'u', 'e'] (.bool true) rfl
    | no => exact hliteral ['a', 'l', 's', 'e'] (.bool false) rfl
    | @number _ _ n _ hwritten hsign hv =>
      obtain ⟨c', r', heq, hdigit⟩ := hwritten.start
      cases heq
      have hne (d : Char) (hd : d.isDigit = false) : c ≠ d := by
        rintro rfl
        cases hdigit.symm.trans hd
      obtain ⟨_, hread⟩ := finds_readNumber_iff.mpr ⟨n, hwritten, hsign, hv⟩
      rw [if_neg (hne 'n' rfl), if_neg (hne 't' rfl), if_neg (hne 'f' rfl), if_neg (hne '-' rfl),
        if_pos hdigit, hread]
      simp [Read.ofShorter]
    | @negative _ _ n _ hwritten hsign hv =>
      obtain ⟨_, hread⟩ := finds_readNumber_iff.mpr ⟨n, hwritten, hsign, hv⟩
      simp [hread, Read.ofShorter]
    | string hquoted =>
      obtain ⟨_, hread⟩ := finds_readQuoted_iff.mpr hquoted
      simp [hread, Read.map, Read.ofShorter]
  · cases hcontainer with
    | array hitems =>
      obtain ⟨_, hread⟩ := (finds_readSequence_iff (findsMembers_array (below d rfl))).mpr hitems
      simp [hread, Read.map, Read.ofShorter]
    | object hwritten =>
      obtain ⟨_, hread⟩ :=
        (finds_readSequence_iff (findsMembers_object (below d rfl))).mpr hwritten
      simp [hread, Read.map, Read.ofShorter]

/-- The reader finds the value that is there, and nothing else. -/
theorem finds_readValue_iff (depth : Nat) :
    ∀ s v rest, Finds (readValue depth s) v rest ↔ Value depth s v rest := by
  induction depth with
  | zero =>
    intro s v rest
    exact ⟨Value.of_finds nofun, Value.finds nofun⟩
  | succ depth ih =>
    intro s v rest
    have below : ∀ d, depth + 1 = d + 1 →
        ∀ s v rest, Finds (readValue d s) v rest ↔ Value d s v rest := by
      rintro d hd
      cases hd
      exact ih
    exact ⟨Value.of_finds below, Value.finds below⟩

/-! ### Whole texts -/

theorem read_eq_ok_iff {v : Json} : read s = .ok v ↔ Denotes s v := by
  constructor
  · intro h
    unfold read at h
    split at h
    · cases h
    · rename_i w left hlt hread
      split at h
      · rename_i hend
        cases h
        exact ⟨left, (finds_readValue_iff ..).mp ⟨hlt, hread⟩, hend⟩
      · cases h
  · rintro ⟨left, hvalue, hend⟩
    obtain ⟨_, hread⟩ := (finds_readValue_iff maxDepth s v left).mpr hvalue
    unfold read
    simp [hread, hend]

/-- A text is read as the value that it denotes. -/
theorem parse_eq_ok_iff {text : String} {v : Json} :
    parse text = .ok v ↔ Denotes text.toList v := by
  rw [← read_eq_ok_iff, parse]
  cases read text.toList with
  | error fault => exact iff_of_false (by rintro ⟨⟩) (by rintro ⟨⟩)
  | ok w => exact ⟨fun h => congrArg _ (Except.ok.inj h), fun h => congrArg _ (Except.ok.inj h)⟩

/-- A text denotes one value at most. -/
theorem Denotes.unique {v w : Json} (h : Denotes s v) (h' : Denotes s w) : v = w := by
  rw [← read_eq_ok_iff] at h h'
  exact Except.ok.inj (h.symm.trans h')

/-- A text is refused if it denotes no value. -/
theorem parse_eq_error_iff {text : String} :
    (∃ message, parse text = .error message) ↔ ∀ v, ¬ Denotes text.toList v := by
  constructor
  · rintro ⟨message, h⟩ v hv
    cases h.symm.trans (parse_eq_ok_iff.mpr hv)
  · intro h
    cases hparse : parse text with
    | error message => exact ⟨message, rfl⟩
    | ok v => exact absurd (parse_eq_ok_iff.mp hparse) (h v)

end EvalConsole.Json
