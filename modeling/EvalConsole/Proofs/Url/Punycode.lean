/-
Reading a label back from its ASCII form.

The characters that are not kept are put in from the smallest to the largest, equal ones from left
to right. When one is due, those are there that precede it in this order; the number of them to its
left is its place. A move is the distance between two pairs of a character and a place, counted
over all places that there are for each character, so division by their number gives both back.

Main statements:

* `Punycode.placeMoves_movesFrom`: the moves put the characters in at their places.
* `Punycode.decode?_encode`: the ASCII form of a label is read as this label.
-/
import Mathlib.Data.List.TakeWhile
import Mathlib.Tactic.Common
import EvalConsole.Url.Punycode

namespace EvalConsole.Punycode

variable {label : List Char} {p q : Char × ℕ}

/-! ### Numbers -/

theorem exists_of_mem_writeMove {bias position n : ℕ} {c : Char}
    (h : c ∈ writeMove bias position n) : ∃ d < 36, c = digitChar d := by
  have pos := one_le_threshold bias position
  have le := threshold_le bias position
  fun_induction writeMove bias position n with
  | case1 position n small =>
    exact ⟨n, by omega, List.mem_singleton.mp h⟩
  | case2 position n large ih =>
    have digit : (n - threshold bias position) % (36 - threshold bias position) <
        36 - threshold bias position := Nat.mod_lt _ (by omega)
    obtain rfl | later := List.mem_cons.mp h
    · exact ⟨_, by omega, rfl⟩
    · exact ih later (one_le_threshold _ _) (threshold_le _ _)

theorem writeMove_ne_nil (bias position n : ℕ) : writeMove bias position n ≠ [] := by
  rw [writeMove]
  split <;> exact List.cons_ne_nil _ _

theorem exists_of_mem_writeMoves {bias count : ℕ} {first : Bool} {moves : List ℕ} {c : Char}
    (h : c ∈ writeMoves bias count first moves) : ∃ d < 36, c = digitChar d := by
  induction moves generalizing bias count first with
  | nil => cases h
  | cons n moves ih =>
    obtain here | later := List.mem_append.mp h
    · exact exists_of_mem_writeMove here
    · exact ih later

/-- Numbers written one after the other are read back. -/
theorem readMoves_writeMoves (bias count : ℕ) (first : Bool) (moves : List ℕ) :
    readMoves bias count first (writeMoves bias count first moves) = some moves := by
  induction moves generalizing bias count first with
  | nil =>
    rw [writeMoves, readMoves]
    rfl
  | cons n moves ih =>
    have read := readMove_writeMove bias 36 1 0 n
      (writeMoves (adapt n (count + 1) first) (count + 1) false moves)
    rw [Nat.zero_add, Nat.mul_one] at read
    have more : (writeMoves bias count first (n :: moves)).isEmpty = false := by
      simp [writeMoves, writeMove_ne_nil]
    rw [readMoves, more]
    simp only [Bool.false_eq_true, if_false]
    split
    · rename_i none
      cases none.symm.trans read
    · rename_i m rest found
      cases found.symm.trans read
      rw [ih]
      rfl

/-! ### The order in which characters are put in -/

/-- Smaller characters come first, and equal ones from left to right. -/
def Precedes (p q : Char × ℕ) : Prop :=
  p.1.toNat < q.1.toNat ∨ p.1.toNat = q.1.toNat ∧ p.2 < q.2

instance (p q : Char × ℕ) : Decidable (Precedes p q) :=
  inferInstanceAs (Decidable (_ ∨ _))

theorem mem_insertions_iff : p ∈ insertions label ↔ p ∈ label.zipIdx ∧ isBasic p.1 = false := by
  rw [insertions, (List.mergeSort_perm _ _).mem_iff, List.mem_filter, Bool.not_eq_true']

theorem pairwise_zipIdx (label : List Char) : label.zipIdx.Pairwise fun p q => p.2 < q.2 := by
  have indices : (label.zipIdx.map Prod.snd).Pairwise (· < ·) := by
    rw [List.zipIdx_map_snd]
    exact List.pairwise_lt_range'
  exact List.pairwise_map.mp indices

theorem order_trans (p q r : Char × ℕ) (h : decide (p.1.toNat ≤ q.1.toNat) = true)
    (h' : decide (q.1.toNat ≤ r.1.toNat) = true) : decide (p.1.toNat ≤ r.1.toNat) = true :=
  decide_eq_true (Nat.le_trans (of_decide_eq_true h) (of_decide_eq_true h'))

theorem order_total (p q : Char × ℕ) :
    (decide (p.1.toNat ≤ q.1.toNat) || decide (q.1.toNat ≤ p.1.toNat)) = true := by
  rw [Bool.or_eq_true, decide_eq_true_eq, decide_eq_true_eq]
  exact Nat.le_total _ _

/-- Equal characters keep their order, since sorting does not change it. -/
theorem filter_insertions (label : List Char) (n : ℕ) :
    (insertions label).filter (fun p => p.1.toNat == n) =
      (label.zipIdx.filter fun p => !isBasic p.1).filter fun p => p.1.toNat == n := by
  unfold insertions
  generalize label.zipIdx.filter (fun p => !isBasic p.1) = all
  have equal : (all.filter fun p => p.1.toNat == n).Pairwise fun p q =>
      decide (p.1.toNat ≤ q.1.toNat) = true := by
    rw [List.pairwise_iff_forall_sublist]
    intro p q both
    obtain ⟨hp, hq⟩ : p.1.toNat = n ∧ q.1.toNat = n := by
      simpa using List.forall_mem_cons.mp fun r there =>
        (List.mem_filter.mp (both.subset there)).2
    exact decide_eq_true (Nat.le_of_eq (hp.trans hq.symm))
  have kept := (List.sublist_mergeSort order_trans order_total equal List.filter_sublist).filter
    fun p => p.1.toNat == n
  rw [List.filter_filter] at kept
  simp only [Bool.and_self] at kept
  have perm := (List.mergeSort_perm all fun p q => decide (p.1.toNat ≤ q.1.toNat)).filter
    fun p => p.1.toNat == n
  exact (kept.eq_of_length perm.length_eq.symm).symm

theorem pairwise_insertions (label : List Char) : (insertions label).Pairwise Precedes := by
  have sorted : (insertions label).Pairwise fun p q => decide (p.1.toNat ≤ q.1.toNat) = true :=
    List.pairwise_mergeSort order_trans order_total _
  rw [List.pairwise_iff_forall_sublist] at sorted ⊢
  intro p q both
  obtain less | same := Nat.lt_or_eq_of_le (of_decide_eq_true (sorted both))
  · exact .inl less
  · have here := both.filter fun r => r.1.toNat == q.1.toNat
    rw [filter_insertions] at here
    simp only [List.filter_cons, same, beq_self_eq_true, if_true, List.filter_nil] at here
    have there : [p, q].Sublist label.zipIdx :=
      here.trans (List.filter_sublist.trans List.filter_sublist)
    exact .inr ⟨same, List.pairwise_iff_forall_sublist.mp (pairwise_zipIdx label) there⟩

/-! ### What is there when a character is due -/

/-- The characters of a label that are there after some insertions. -/
def placed (label : List Char) (done : List (Char × ℕ)) : List Char :=
  (label.zipIdx.filter fun p => isBasic p.1 || decide (p ∈ done)).map Prod.fst

/-- How many characters to the left of a character are there when it is put in. -/
def target (label : List Char) (p : Char × ℕ) : ℕ :=
  ((label.take p.2).filter fun d => d.toNat ≤ p.1.toNat).length

theorem placed_nil (label : List Char) : placed label [] = label.filter isBasic := by
  have kept : label.filter isBasic =
      (label.zipIdx.filter (isBasic ∘ Prod.fst)).map Prod.fst := by
    rw [← List.filter_map, List.zipIdx_map_fst]
  rw [kept, placed]
  congr 2
  funext p
  simp

theorem placed_insertions (label : List Char) : placed label (insertions label) = label := by
  have all : ∀ p ∈ label.zipIdx, (isBasic p.1 || decide (p ∈ insertions label)) = true := by
    intro p there
    cases basic : isBasic p.1 with
    | true => rfl
    | false => exact decide_eq_true (mem_insertions_iff.mpr ⟨there, basic⟩)
  rw [placed, List.filter_eq_self.mpr all, List.zipIdx_map_fst]

variable {done rest : List (Char × ℕ)}

theorem mem_of_due (split : insertions label = done ++ p :: rest) :
    p ∈ label.zipIdx ∧ isBasic p.1 = false := by
  rw [← mem_insertions_iff, split]
  exact List.mem_append_right _ List.mem_cons_self

/-- When a character is due, those are there that precede it. -/
theorem there_iff_precedes (split : insertions label = done ++ p :: rest)
    (there : q ∈ label.zipIdx) : isBasic q.1 = true ∨ q ∈ done ↔ Precedes q p := by
  have ordered := pairwise_insertions label
  rw [split, List.pairwise_append, List.pairwise_cons] at ordered
  obtain ⟨-, ⟨after, -⟩, before⟩ := ordered
  constructor
  · rintro (basic | placed)
    · have large := (mem_of_due split).2
      simp only [isBasic, decide_eq_true_eq, decide_eq_false_iff_not] at basic large
      exact .inl (by omega)
    · exact before q placed p List.mem_cons_self
  · intro precedes
    cases basic : isBasic q.1 with
    | true => exact .inl rfl
    | false =>
      have inserted : q ∈ insertions label := mem_insertions_iff.mpr ⟨there, basic⟩
      rw [split, List.mem_append, List.mem_cons] at inserted
      obtain placed | rfl | later := inserted
      · exact .inr placed
      · exact absurd precedes (by simp [Precedes])
      · -- what comes later does not precede
        have follows := after q later
        unfold Precedes at precedes follows
        omega

theorem insertIdx_length_append {α : Type} (front back : List α) (a : α) :
    (front ++ back).insertIdx front.length a = front ++ a :: back := by
  induction front with
  | nil => rfl
  | cons b front ih => rw [List.cons_append, List.length_cons, List.insertIdx_succ_cons, ih,
      List.cons_append]

/-- The characters of a label with their places, around one of them. -/
theorem zipIdx_around (there : p ∈ label.zipIdx) :
    label.zipIdx = (label.take p.2).zipIdx ++ p :: (label.drop (p.2 + 1)).zipIdx (p.2 + 1) := by
  obtain ⟨bound, found⟩ := List.getElem?_eq_some_iff.mp (List.mem_zipIdx_iff_getElem?.mp there)
  have length : (label.take p.2).length = p.2 := List.length_take_of_le (Nat.le_of_lt bound)
  conv_lhs => rw [← List.take_append_drop p.2 label, List.drop_eq_getElem_cons bound, found]
  rw [List.zipIdx_append, length, Nat.zero_add, List.zipIdx_cons]

/-- A character that is due is put in behind those to its left that are there. -/
theorem placed_concat (split : insertions label = done ++ p :: rest) :
    target label p ≤ (placed label done).length ∧
      (placed label done).insertIdx (target label p) p.1 = placed label (done ++ [p]) := by
  have due := (mem_of_due split).1
  have around := zipIdx_around due
  -- to the left those are there that are not larger
  have left : ((label.take p.2).zipIdx.filter fun q => isBasic q.1 || decide (q ∈ done)).map
      Prod.fst = (label.take p.2).filter fun d => d.toNat ≤ p.1.toNat := by
    have same : ∀ q ∈ (label.take p.2).zipIdx, (isBasic q.1 || decide (q ∈ done)) =
        ((fun d => decide (d.toNat ≤ p.1.toNat)) ∘ Prod.fst) q := by
      intro q there
      have smaller := (List.mem_zipIdx there).2.1
      rw [List.length_take] at smaller
      have inLabel : q ∈ label.zipIdx := by
        rw [around]
        exact List.mem_append_left _ there
      have precedes := there_iff_precedes split inLabel
      unfold Precedes at precedes
      rw [Bool.eq_iff_iff, Bool.or_eq_true, decide_eq_true_eq, precedes, Function.comp_apply,
        decide_eq_true_eq]
      omega
    rw [List.filter_congr same, ← List.filter_map, List.zipIdx_map_fst]
  have itself : (isBasic p.1 || decide (p ∈ done)) = false := by
    rw [← Bool.not_eq_true, Bool.or_eq_true, decide_eq_true_eq, there_iff_precedes split due]
    simp [Precedes]
  have others (q : Char × ℕ) (ne : q ≠ p) : (isBasic q.1 || decide (q ∈ done ++ [p])) =
      (isBasic q.1 || decide (q ∈ done)) := by
    simp [ne]
  have others_left : ∀ q ∈ (label.take p.2).zipIdx, (isBasic q.1 || decide (q ∈ done ++ [p])) =
      (isBasic q.1 || decide (q ∈ done)) := by
    intro q there
    refine others q ?_
    rintro rfl
    have smaller := (List.mem_zipIdx there).2.1
    rw [List.length_take] at smaller
    omega
  have others_right : ∀ q ∈ (label.drop (p.2 + 1)).zipIdx (p.2 + 1),
      (isBasic q.1 || decide (q ∈ done ++ [p])) = (isBasic q.1 || decide (q ∈ done)) := by
    intro q there
    refine others q ?_
    rintro rfl
    have larger := (List.mem_zipIdx there).1
    omega
  have before : placed label done = ((label.take p.2).filter fun d => d.toNat ≤ p.1.toNat) ++
      (((label.drop (p.2 + 1)).zipIdx (p.2 + 1)).filter fun q =>
        isBasic q.1 || decide (q ∈ done)).map Prod.fst := by
    rw [placed, around, List.filter_append, List.filter_cons, itself, List.map_append, left]
    rfl
  have after : placed label (done ++ [p]) =
      ((label.take p.2).filter fun d => d.toNat ≤ p.1.toNat) ++
        p.1 :: (((label.drop (p.2 + 1)).zipIdx (p.2 + 1)).filter fun q =>
          isBasic q.1 || decide (q ∈ done)).map Prod.fst := by
    rw [placed, around, List.filter_append, List.filter_cons, List.map_append,
      List.filter_congr others_left, left, List.filter_congr others_right]
    simp
  rw [before, after, target]
  exact ⟨by rw [List.length_append]; exact Nat.le_add_right _ _, insertIdx_length_append _ _ _⟩

/-- Of two equal characters the one on the right has the larger place. -/
theorem target_lt (there : p ∈ label.zipIdx) (same : p.1.toNat = q.1.toNat) (less : p.2 < q.2) :
    target label p < target label q := by
  have found := List.mem_zipIdx_iff_getElem?.mp there
  have upTo : ((label.take (p.2 + 1)).filter fun d => d.toNat ≤ q.1.toNat).length =
      target label p + 1 := by
    rw [List.take_add_one, found, List.filter_append, List.length_append, target, same]
    simp [same]
  have sublist : (label.take (p.2 + 1)).Sublist (label.take q.2) :=
    (List.take_prefix_take_left less).sublist
  have le := (sublist.filter fun d => d.toNat ≤ q.1.toNat).length_le
  rw [upTo] at le
  exact le

/-- A counter that moves on to a character and a place is taken apart into both. -/
theorem move_apart {point place room point' place' : ℕ} (least : point ≤ point')
    (ahead : point' = point → place ≤ place') (within : place < room) (inside : place' < room) :
    point + (place + ((point' - point) * room + place' - place)) / room = point' ∧
      (place + ((point' - point) * room + place' - place)) % room = place' := by
  have reached : place ≤ (point' - point) * room + place' := by
    obtain rfl | more := Nat.eq_or_lt_of_le least
    · exact Nat.le_trans (ahead rfl) (Nat.le_add_left _ _)
    · have once : room ≤ (point' - point) * room := Nat.le_mul_of_pos_left room (by omega)
      omega
  have positive : 0 < room := by omega
  rw [Nat.add_sub_cancel' reached, Nat.add_comm, Nat.add_comm _ place',
    Nat.add_mul_div_right _ _ positive, Nat.add_mul_mod_self_right, Nat.div_eq_of_lt inside,
    Nat.mod_eq_of_lt inside]
  omega

/-- The moves put the characters in at their places. -/
theorem placeMoves_movesFrom {point place : ℕ} (split : insertions label = done ++ rest)
    (below : ∀ p ∈ rest, point ≤ p.1.toNat)
    (ahead : ∀ p ∈ rest, p.1.toNat = point → place ≤ target label p)
    (within : place ≤ (placed label done).length) :
    placeMoves point place (placed label done)
      (movesFrom label point place (placed label done).length rest) = some label := by
  induction rest generalizing done point place with
  | nil =>
    rw [List.append_nil] at split
    rw [movesFrom, placeMoves, ← split, placed_insertions]
  | cons p rest ih =>
    obtain ⟨inside, inserted⟩ := placed_concat split
    have following := pairwise_insertions label
    rw [split, List.pairwise_append, List.pairwise_cons] at following
    obtain ⟨-, ⟨following, -⟩, -⟩ := following
    have due := (mem_of_due split).1
    obtain ⟨quotient, remainder⟩ := move_apart (below p List.mem_cons_self)
      (fun same => ahead p List.mem_cons_self same) (Nat.lt_succ_of_le within)
      (Nat.lt_succ_of_le inside)
    have length : (placed label (done ++ [p])).length = (placed label done).length + 1 := by
      rw [← inserted, List.length_insertIdx_of_le_length inside]
    have next : placeMoves p.1.toNat (target label p + 1) (placed label (done ++ [p]))
        (movesFrom label p.1.toNat (target label p + 1) (placed label (done ++ [p])).length rest) =
        some label := by
      refine ih (by rw [split, List.append_assoc]; rfl) (fun q later => ?_) (fun q later same => ?_)
        (by omega)
      · have := following q later
        unfold Precedes at this
        omega
      · have := following q later
        unfold Precedes at this
        exact target_lt due same.symm (by omega)
    have step : movesFrom label point place (placed label done).length (p :: rest) =
        ((p.1.toNat - point) * ((placed label done).length + 1) + target label p - place) ::
          movesFrom label p.1.toNat (target label p + 1) ((placed label done).length + 1) rest :=
      rfl
    have valid : p.1.toNat.isValidChar := p.1.valid
    rw [step, placeMoves]
    simp only [quotient, remainder]
    rw [if_pos valid, Char.ofNat_toNat, inserted, ← length, next]

/-! ### Labels -/

theorem digitChar_ne_hyphen {d : ℕ} (h : d < 36) : digitChar d ≠ '-' := by
  have all : ∀ d < 36, digitChar d ≠ '-' := by decide
  exact all d h

/-- The last hyphen divides the kept characters from the digits. -/
theorem parts_append {kept digits : List Char} (h : ∀ c ∈ digits, c ≠ '-') :
    parts (kept ++ (if kept.isEmpty then [] else ['-']) ++ digits) = (kept, digits) := by
  have plain : ∀ c ∈ digits.reverse, (c != '-') = true := by
    intro c there
    exact bne_iff_ne.mpr (h c (List.mem_reverse.mp there))
  cases kept with
  | nil =>
    have found : digits.reverse.takeWhile (· != '-') = digits.reverse :=
      List.takeWhile_eq_self_iff.mpr plain
    simp [parts, found]
  | cons c kept =>
    have found : (c :: kept ++ ['-'] ++ digits).reverse.takeWhile (· != '-') =
        digits.reverse := by
      simp [List.takeWhile_append_of_pos plain]
    have length : (c :: kept ++ ['-'] ++ digits).length - digits.length - 1 =
        (c :: kept).length := by
      simp
      omega
    have front : (c :: kept ++ ['-'] ++ digits).take (c :: kept).length = c :: kept := by
      rw [List.append_assoc]
      exact List.take_left
    simp only [parts, List.isEmpty_cons, Bool.false_eq_true, if_false, found, List.reverse_reverse,
      length, front]

/-- The ASCII form of a label is read as this label. -/
theorem decode?_encode (label : List Char) : decode? (encode label) = some label := by
  have digits : ∀ c ∈ writeMoves 72 (label.filter isBasic).length true
      (movesFrom label 0x80 0 (label.filter isBasic).length (insertions label)), c ≠ '-' := by
    intro c there
    obtain ⟨d, small, rfl⟩ := exists_of_mem_writeMoves there
    exact digitChar_ne_hyphen small
  have moves : placeMoves 0x80 0 (placed label []) (movesFrom label 0x80 0
      (placed label []).length (insertions label)) = some label := by
    refine placeMoves_movesFrom rfl (fun p there => ?_) (fun p _ _ => Nat.zero_le _)
      (Nat.zero_le _)
    have large := (mem_insertions_iff.mp there).2
    simpa [isBasic] using large
  rw [placed_nil] at moves
  simp only [encode, decode?, parts_append digits, readMoves_writeMoves]
  exact moves

end EvalConsole.Punycode
