/-
How much alike two words are.

The measure counts the characters that the words have in common, at places not too far from
each other, and how many of them are in another order: with `m` common characters of which
`2 t` are out of order, words of lengths `a` and `b` are alike by
`(m / a + m / b + (m - t) / m) / 3`, every step in double precision.

* `Similarity.likeness` is the measure.
* `Similarity.similar` is the list of the candidates that are alike a word.
-/
import EvalConsole.Number.Binary64

namespace EvalConsole.Similarity

/-- Takes the first character that is equal and free, at places from `low` up to `high`;
the first of the characters is at place `j`. -/
def claim (c : Char) (low high : Nat) : (j : Nat) → List (Char × Bool) →
    Option (List (Char × Bool))
  | _, [] => none
  | j, (d, taken) :: rest =>
    if low ≤ j ∧ j < high ∧ taken = false ∧ d = c then some ((d, true) :: rest)
    else (claim c low high (j + 1) rest).map ((d, taken) :: ·)

/-- The characters of a word that find an equal one of the other word no more than `range`
places away, and the other word with those marked that were found. -/
def pairUp (range : Nat) : (i : Nat) → List Char → List (Char × Bool) →
    List Char × List (Char × Bool)
  | _, [], other => ([], other)
  | i, c :: rest, other =>
    match claim c (i - range) (i + range + 1) 0 other with
    | some other =>
      let (found, other) := pairUp range (i + 1) rest other
      (c :: found, other)
    | none => pairUp range (i + 1) rest other

/-- The double nearest to a fraction; fractions at hand are never too large. -/
def fraction (num den : Nat) : Binary64 :=
  (Binary64.round? false num den).getD (.zero false)

/-- The rounded sum of two doubles that are not negative. -/
def sum (x y : Binary64) : Binary64 :=
  fraction (x.units + y.units) (Nat.pow 2 1074)

/-- How much alike two words are. -/
def likeness (a b : List Char) : Binary64 :=
  if a.isEmpty ∧ b.isEmpty then fraction 1 1
  else
    let range := max a.length b.length / 2 - 1
    let (found, marked) := pairUp range 0 a (b.map (·, false))
    let there := (marked.filter (·.2)).map (·.1)
    let outOfOrder := ((found.zip there).filter fun (c, d) => c != d).length / 2
    let m := found.length
    if m = 0 then .zero false
    else
      let total := sum (sum (fraction m a.length) (fraction m b.length)) (fraction (m - outOfOrder) m)
      fraction total.units (3 * Nat.pow 2 1074)

/-- Whether a likeness makes words similar. -/
def isHigh (x : Binary64) : Bool :=
  (fraction 7 10).units < x.units

/-- Puts a candidate behind those that are no more alike. -/
def insertByLikeness (entry : Binary64 × String) : List (Binary64 × String) →
    List (Binary64 × String)
  | [] => [entry]
  | other :: rest =>
    if entry.1.units < other.1.units then entry :: other :: rest
    else other :: insertByLikeness entry rest

/-- The candidates that are similar to a word, the least similar first. -/
def similar (word : String) (candidates : List String) : List String :=
  let rated := candidates.map fun c => (likeness word.toList c.toList, c)
  ((rated.filter fun entry => isHigh entry.1).foldl (fun sorted entry =>
    insertByLikeness entry sorted) []).map (·.2)

end EvalConsole.Similarity
