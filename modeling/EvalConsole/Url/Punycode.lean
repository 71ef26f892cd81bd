/-
Writing a label of a host name in ASCII.

The ASCII characters of a label are kept in their order; the others are told by numbers:
how far a counter over (character, place) has to move until the next character is put at
its place. Each number is written in digits of base 36 whose thresholds adapt to the
numbers written before.

* `Punycode.encode` writes a label, `Punycode.decode?` reads one.
* `Punycode.readMove_writeMove` says that a number is read back.
-/

namespace EvalConsole.Punycode

/-! ### Digits -/

/-- The digit for a number below 36. -/
def digitChar (n : Nat) : Char :=
  Char.ofNat (if n < 26 then 'a'.toNat + n else '0'.toNat + (n - 26))

/-- The number of a digit. -/
def digitValue? (c : Char) : Option Nat :=
  if 'a' ≤ c ∧ c ≤ 'z' then some (c.toNat - 'a'.toNat)
  else if 'A' ≤ c ∧ c ≤ 'Z' then some (c.toNat - 'A'.toNat)
  else if '0' ≤ c ∧ c ≤ '9' then some (c.toNat - '0'.toNat + 26)
  else none

/-- The threshold of the digit at a position: a digit below it is the last one. -/
def threshold (bias position : Nat) : Nat :=
  if position ≤ bias then 1
  else if bias + 26 ≤ position then 26
  else position - bias

theorem one_le_threshold (bias position : Nat) : 1 ≤ threshold bias position := by
  unfold threshold
  split
  · omega
  · split <;> omega

theorem threshold_le (bias position : Nat) : threshold bias position ≤ 26 := by
  unfold threshold
  split
  · omega
  · split <;> omega

/-- Scales a number down until it is at most 455, counting the digits saved. -/
def scaleDown (n saved : Nat) : Nat × Nat :=
  if 455 < n then scaleDown (n / 35) (saved + 36) else (n, saved)
termination_by n
decreasing_by omega

/-- The bias after a number has been written; `count` characters are placed by then. -/
def adapt (n count : Nat) (first : Bool) : Nat :=
  let halved := if first then n / 700 else n / 2
  let (rest, saved) := scaleDown (halved + halved / count) 0
  saved + 36 * rest / (rest + 38)

/-- The digits of a number, least significant first. -/
def writeMove (bias position n : Nat) : List Char :=
  if n < threshold bias position then [digitChar n]
  else
    digitChar (threshold bias position
        + (n - threshold bias position) % (36 - threshold bias position))
      :: writeMove bias (position + 36)
        ((n - threshold bias position) / (36 - threshold bias position))
termination_by n
decreasing_by
  have := one_le_threshold bias position
  have : (n - threshold bias position) / (36 - threshold bias position)
      ≤ n - threshold bias position := Nat.div_le_self _ _
  omega

/-- Reads the digits of a number; `weight` is the weight of the next digit. -/
def readMove (bias position weight n : Nat) : List Char → Option (Nat × List Char)
  | [] => none
  | c :: rest =>
    match digitValue? c with
    | none => none
    | some digit =>
      if digit < threshold bias position then some (n + digit * weight, rest)
      else
        readMove bias (position + 36) (weight * (36 - threshold bias position))
          (n + digit * weight) rest

theorem length_lt_of_readMove {bias position weight n : Nat} {s rest : List Char} {m : Nat}
    (h : readMove bias position weight n s = some (m, rest)) : rest.length < s.length := by
  induction s generalizing position weight n with
  | nil => simp [readMove] at h
  | cons c s ih =>
    rw [readMove] at h
    split at h
    · simp at h
    · split at h
      · simp only [Option.some.injEq, Prod.mk.injEq] at h
        simp [h.2]
      · have := ih h
        simp only [List.length_cons]
        omega

/-! ### Numbers -/

/-- Writes numbers one after the other; `count` characters are placed already. -/
def writeMoves (bias count : Nat) (first : Bool) : List Nat → List Char
  | [] => []
  | n :: moves =>
    writeMove bias 36 n ++ writeMoves (adapt n (count + 1) first) (count + 1) false moves

/-- Reads numbers up to the end of a text. -/
def readMoves (bias count : Nat) (first : Bool) (s : List Char) : Option (List Nat) :=
  if s.isEmpty then some []
  else
    match h : readMove bias 36 1 0 s with
    | none => none
    | some (n, rest) =>
      have := length_lt_of_readMove h
      (readMoves (adapt n (count + 1) first) (count + 1) false rest).map (n :: ·)
termination_by s.length

/-! ### Places -/

/-- Whether a character is kept as it is. -/
def isBasic (c : Char) : Bool :=
  c.toNat < 0x80

/-- The characters that are not kept, with their places, in the order in which they are
put in: smaller characters first, equal ones from left to right. -/
def insertions (label : List Char) : List (Char × Nat) :=
  (label.zipIdx.filter fun p => !isBasic p.1).mergeSort fun p q => p.1.toNat ≤ q.1.toNat

/-- The moves that put characters in at their places. The counter stands at character
`point` and place `place`, and `count` characters are there already. -/
def movesFrom (label : List Char) (point place count : Nat) : List (Char × Nat) → List Nat
  | [] => []
  | (c, index) :: rest =>
    let target := ((label.take index).filter fun d => d.toNat ≤ c.toNat).length
    ((c.toNat - point) * (count + 1) + target - place)
      :: movesFrom label c.toNat (target + 1) (count + 1) rest

/-- Puts characters in as the moves say; none if a move leads beyond the characters. -/
def placeMoves (point place : Nat) (placed : List Char) : List Nat → Option (List Char)
  | [] => some placed
  | move :: moves =>
    let room := placed.length + 1
    let point := point + (place + move) / room
    let target := (place + move) % room
    if point.isValidChar then
      placeMoves point (target + 1) (placed.insertIdx target (Char.ofNat point)) moves
    else none

/-! ### Labels -/

/-- The ASCII form of a label, without the mark in front of it. -/
def encode (label : List Char) : List Char :=
  let basic := label.filter isBasic
  basic ++ (if basic.isEmpty then [] else ['-'])
    ++ writeMoves 72 basic.length true (movesFrom label 0x80 0 basic.length (insertions label))

/-- The kept characters of an ASCII form, and the digits behind the last hyphen. A hyphen
in front is no separator. -/
def parts (s : List Char) : List Char × List Char :=
  let digits := (s.reverse.takeWhile (· != '-')).reverse
  let kept := s.take (s.length - digits.length - 1)
  if kept.isEmpty then ([], s) else (kept, digits)

/-- The label of an ASCII form. -/
def decode? (s : List Char) : Option (List Char) :=
  let (kept, digits) := parts s
  (readMoves 72 kept.length true digits).bind (placeMoves 0x80 0 kept)

/-! ### A number is read back -/

theorem digitValue?_digitChar {n : Nat} (h : n < 36) : digitValue? (digitChar n) = some n := by
  have all : ∀ m ∈ List.range 36, digitValue? (digitChar m) = some m := by decide
  exact all n (List.mem_range.mpr h)

theorem readMove_writeMove (bias position weight start n : Nat) (rest : List Char) :
    readMove bias position weight start (writeMove bias position n ++ rest)
      = some (start + n * weight, rest) := by
  induction n using Nat.strongRecOn generalizing position weight start with
  | _ n ih =>
    have hpos := one_le_threshold bias position
    have hle := threshold_le bias position
    rw [writeMove]
    by_cases h : n < threshold bias position
    · simp [h, readMove, digitValue?_digitChar (show n < 36 by omega)]
    · have hmod : (n - threshold bias position) % (36 - threshold bias position)
          < 36 - threshold bias position := Nat.mod_lt _ (by omega)
      have hdiv : (n - threshold bias position) / (36 - threshold bias position) < n := by
        have := Nat.div_le_self (n - threshold bias position) (36 - threshold bias position)
        omega
      have hsum := Nat.div_add_mod (n - threshold bias position) (36 - threshold bias position)
      simp only [h, if_false, List.cons_append, readMove]
      rw [digitValue?_digitChar (by omega)]
      simp only [show ¬ threshold bias position
        + (n - threshold bias position) % (36 - threshold bias position)
          < threshold bias position by omega, if_false]
      rw [ih _ hdiv]
      congr 2
      generalize (n - threshold bias position) / (36 - threshold bias position) = q at hsum ⊢
      generalize (n - threshold bias position) % (36 - threshold bias position) = r at hsum ⊢
      have hn : n = (36 - threshold bias position) * q + r + threshold bias position := by omega
      generalize 36 - threshold bias position = w at hn ⊢
      rw [hn]
      grind

end EvalConsole.Punycode
