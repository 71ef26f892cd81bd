/-
Addresses of eight pieces are read back.

The text of an address leaves out the first longest run of zeros, if it is a run of two or more.
Reading finds the pieces before and behind it, and fills in as many zeros as are missing.

Main statements:

* `Ipv6.zeros_at_runStart`: where the run that is left out stands.
* `Ipv6.parse?_text`: the text of an address is read as this address.
-/
import Mathlib.Data.List.TakeWhile
import EvalConsole.Proofs.Url.Ipv4
import EvalConsole.Url.Ipv6

namespace EvalConsole.Ipv6

variable {pieces front back : List UInt16} {room : ℕ} {gap : Bool}

/-! ### Runs of zeros -/

/-- The first run of the greatest length is a run of this length. -/
theorem zeroRun_runStart {length : ℕ} (positive : 0 < length)
    (h : longestRun pieces = length) : zeroRun (pieces.drop (runStart length pieces)) = length := by
  induction pieces with
  | nil =>
    rw [longestRun] at h
    omega
  | cons piece rest ih =>
    rw [runStart]
    split
    · assumption
    · rename_i other
      rw [longestRun] at h
      rw [List.drop_succ_cons]
      exact ih (by omega)

/-- Where the run that is left out stands, there are as many zeros. -/
theorem zeros_at_runStart {length : ℕ} (positive : 0 < length)
    (h : longestRun pieces = length) :
    pieces = pieces.take (runStart length pieces) ++ List.replicate length 0 ++
      pieces.drop (runStart length pieces + length) := by
  have run := zeroRun_runStart positive h
  generalize runStart length pieces = start at run ⊢
  have zeros : (pieces.drop start).takeWhile (· == 0) = List.replicate length 0 := by
    refine List.eq_replicate_iff.mpr ⟨run, fun piece there => ?_⟩
    simpa using List.mem_takeWhile_imp there
  have others : (pieces.drop start).dropWhile (· == 0) = pieces.drop (start + length) := by
    have both := List.takeWhile_append_dropWhile (p := (· == 0)) (l := pieces.drop start)
    rw [zeros] at both
    calc (pieces.drop start).dropWhile (· == 0)
        = (List.replicate length 0 ++ (pieces.drop start).dropWhile (· == 0)).drop length := by
          simp
      _ = pieces.drop (start + length) := by rw [both, List.drop_drop]
  rw [List.append_assoc, ← zeros, ← others, List.takeWhile_append_dropWhile,
    List.take_append_drop]

/-! ### Pieces -/

theorem isSome_digit?_of_mem {n : ℕ} {c : Char} (h : c ∈ Nat.toDigits 16 n) :
    (Ipv4.digit? 16 c).isSome = true ∧ c ≠ ':' := by
  obtain ⟨d, small, rfl⟩ := Digits.exists_of_mem_toDigits (by decide) h
  have all : ∀ d < 16, (Ipv4.digit? 16 (Nat.digitChar d)).isSome = true ∧
      Nat.digitChar d ≠ ':' := by decide
  exact all d small

theorem length_toDigits_le (piece : UInt16) : (Nat.toDigits 16 piece.toNat).length ≤ 4 := by
  rw [Nat.length_toDigits_le_iff (by decide) (by decide)]
  exact piece.toNat_lt

/-- What stands behind a piece: nothing, or a colon. -/
def EndsPiece (tail : List Char) : Prop :=
  ∀ c ∈ tail.head?, c = ':'

/-- The digits of a piece are found in front of what stands behind it. -/
theorem leadingDigits_append (piece : UInt16) (tail : List Char) (h : EndsPiece tail) :
    leadingDigits (Nat.toDigits 16 piece.toNat ++ tail) = Nat.toDigits 16 piece.toNat := by
  have digits : ∀ c ∈ Nat.toDigits 16 piece.toNat, (Ipv4.digit? 16 c).isSome = true :=
    fun c there => (isSome_digit?_of_mem there).1
  have short := length_toDigits_le piece
  have ended (n : ℕ) : (tail.take n).takeWhile (fun c => (Ipv4.digit? 16 c).isSome) = [] := by
    cases tail with
    | nil => simp
    | cons c tail =>
      obtain rfl := h c rfl
      cases n <;> rfl
  rw [leadingDigits, List.take_append, List.take_of_length_le short,
    List.takeWhile_append_of_pos digits, ended, List.append_nil]

/-- A piece is read, and then what stands behind it. -/
theorem parts?_piece (room : ℕ) (gap : Bool) (piece : UInt16) :
    parts? (room + 1) gap (Nat.toDigits 16 piece.toNat) = some [.piece piece.toNat] ∧
      ∀ rest, rest ≠ [] → parts? (room + 1) gap (Nat.toDigits 16 piece.toNat ++ ':' :: rest) =
        (parts? room gap rest).map (.piece piece.toNat :: ·) := by
  have number := Ipv4.digits?_toDigits (by decide : 1 < 16) (by decide) piece.toNat
  obtain ⟨c, digits, written⟩ : ∃ c digits, Nat.toDigits 16 piece.toNat = c :: digits :=
    List.exists_cons_of_ne_nil Nat.toDigits_ne_nil
  have first : c ≠ ':' := (isSome_digit?_of_mem (written ▸ List.mem_cons_self)).2
  constructor
  · have found := leadingDigits_append piece [] (by simp [EndsPiece])
    rw [List.append_nil, written] at found
    rw [written] at number ⊢
    rw [parts?]
    simp [first, found, number]
  · intro rest nonempty
    have found := leadingDigits_append piece (':' :: rest) (by simp [EndsPiece])
    rw [written, List.cons_append] at found
    rw [written] at number ⊢
    rw [List.cons_append, parts?]
    simp [first, found, number, nonempty]

/-- The parts that pieces are. -/
def partsOf (pieces : List UInt16) : List Part :=
  pieces.map fun piece => .piece piece.toNat

theorem piecesText_ne_nil (nonempty : pieces ≠ []) : piecesText pieces ≠ [] := by
  match pieces with
  | [] => exact absurd rfl nonempty
  | [piece] => exact Nat.toDigits_ne_nil
  | piece :: next :: rest => exact List.append_ne_nil_of_left_ne_nil Nat.toDigits_ne_nil _

theorem piecesText_cons_cons (piece next : UInt16) (rest : List UInt16) :
    piecesText (piece :: next :: rest) =
      Nat.toDigits 16 piece.toNat ++ ':' :: piecesText (next :: rest) :=
  rfl

/-- Pieces between colons are read. -/
theorem parts?_piecesText (few : pieces.length ≤ room) :
    parts? room gap (piecesText pieces) = some (partsOf pieces) := by
  induction pieces generalizing room with
  | nil => rw [piecesText, List.map_nil, Text.join, parts?]; rfl
  | cons piece rest ih =>
    obtain ⟨room, rfl⟩ : ∃ n, room = n + 1 := ⟨room - 1, by rw [List.length_cons] at few; omega⟩
    have few' : rest.length ≤ room := Nat.le_of_succ_le_succ few
    obtain ⟨last, inner⟩ := parts?_piece room gap piece
    cases rest with
    | nil => exact last
    | cons next rest =>
      rw [piecesText_cons_cons, inner _ (piecesText_ne_nil (List.cons_ne_nil _ _)), ih few']
      rfl

/-- Pieces around a gap are read. -/
theorem parts?_gap (nonempty : front ≠ []) (few : front.length + 1 + back.length ≤ room) :
    parts? room true (piecesText front ++ ':' :: ':' :: piecesText back) =
      some (partsOf front ++ .gap :: partsOf back) := by
  induction front generalizing room with
  | nil => exact absurd rfl nonempty
  | cons piece rest ih =>
    rw [List.length_cons] at few
    obtain ⟨room, rfl⟩ : ∃ n, room = n + 1 := ⟨room - 1, by omega⟩
    have inner := (parts?_piece room true piece).2
    cases rest with
    | nil =>
      have behind : parts? room true (':' :: piecesText back) =
          some (.gap :: partsOf back) := by
        obtain ⟨room, rfl⟩ : ∃ n, room = n + 1 := ⟨room - 1, by omega⟩
        rw [parts?, if_pos rfl, if_pos rfl, parts?_piecesText (by omega)]
        rfl
      have single : piecesText [piece] = Nat.toDigits 16 piece.toNat := rfl
      rw [single, inner _ (List.cons_ne_nil _ _), behind]
      rfl
    | cons next rest =>
      rw [piecesText_cons_cons, List.append_assoc, List.cons_append, inner _ (by simp),
        ih (List.cons_ne_nil _ _) (by omega)]
      rfl

/-- A text that starts with a piece is read from its start. -/
theorem allParts?_piecesText (nonempty : pieces ≠ []) (tail : List Char) :
    allParts? (piecesText pieces ++ tail) = parts? 8 true (piecesText pieces ++ tail) := by
  obtain ⟨c, rest, written, first⟩ : ∃ c rest, piecesText pieces = c :: rest ∧ c ≠ ':' := by
    have starts (piece : UInt16) (tail : List Char) :
        ∃ c rest, Nat.toDigits 16 piece.toNat ++ tail = c :: rest ∧ c ≠ ':' := by
      obtain ⟨c, digits, written⟩ : ∃ c digits, Nat.toDigits 16 piece.toNat = c :: digits :=
        List.exists_cons_of_ne_nil Nat.toDigits_ne_nil
      exact ⟨c, digits ++ tail, by rw [written]; rfl,
        (isSome_digit?_of_mem (written ▸ List.mem_cons_self)).2⟩
    match pieces with
    | [] => exact absurd rfl nonempty
    | [piece] =>
      have single := starts piece []
      rwa [List.append_nil] at single
    | piece :: next :: rest => exact starts piece _
  rw [written, List.cons_append]
  unfold allParts?
  split <;> simp_all

/-- The characters of an address are colons and hexadecimal digits. -/
theorem exists_of_mem_text {address : Ipv6} {c : Char} (h : c ∈ address.text) :
    c = ':' ∨ ∃ d < 16, c = Nat.digitChar d := by
  have inPieces {pieces : List UInt16} (h : c ∈ piecesText pieces) :
      c = ':' ∨ ∃ d < 16, c = Nat.digitChar d := by
    refine (Text.mem_join h).imp_right ?_
    rintro ⟨field, found, there⟩
    obtain ⟨piece, -, rfl⟩ := List.mem_map.mp found
    exact Digits.exists_of_mem_toDigits (by decide) there
  unfold text at h
  dsimp only at h
  split at h
  · exact inPieces h
  · obtain there | there := List.mem_append.mp h
    · exact inPieces there
    · obtain rfl | rfl | there := (List.mem_cons.trans (or_congr_right List.mem_cons)).mp there
      · exact .inl rfl
      · exact .inl rfl
      · exact inPieces there

/-! ### Filling -/

theorem flatMap_partsOf (fill : Part → List ℕ) (h : ∀ n, fill (.piece n) = [n])
    (pieces : List UInt16) : (partsOf pieces).flatMap fill = pieces.map UInt16.toNat := by
  rw [partsOf, List.flatMap_map, List.map_eq_flatMap]
  simp only [h]

theorem filter_partsOf (pieces : List UInt16) :
    (partsOf pieces).filter (· != .gap) = partsOf pieces := by
  rw [List.filter_eq_self]
  intro part there
  obtain ⟨piece, -, rfl⟩ := List.mem_map.mp there
  rfl

theorem fill_partsOf (pieces : List UInt16) : fill (partsOf pieces) = pieces.map UInt16.toNat :=
  flatMap_partsOf _ (fun _ => rfl) pieces

/-- As many zeros are filled in as are missing. -/
theorem fill_gap (front back : List UInt16) :
    fill (partsOf front ++ .gap :: partsOf back) = front.map UInt16.toNat ++
      (List.replicate (8 - (front.length + back.length)) 0 ++ back.map UInt16.toNat) := by
  have there : ((partsOf front ++ .gap :: partsOf back).filter (· != .gap)).length =
      front.length + back.length := by
    rw [List.filter_append, List.filter_cons, filter_partsOf, filter_partsOf]
    simp [partsOf]
  rw [fill, List.flatMap_append, List.flatMap_cons, there, flatMap_partsOf _ (fun _ => rfl),
    flatMap_partsOf _ fun _ => rfl]

theorem ofNumbers?_toNat (address : Ipv6) :
    ofNumbers? (address.pieces.map UInt16.toNat) = some address := by
  have same : (address.pieces.map UInt16.toNat).map UInt16.ofNat = address.pieces := by
    simp [List.map_map, Function.comp_def]
  have length := address.length_eq
  rw [ofNumbers?]
  simp [same, length]

/-- The text of an address is read as this address. -/
theorem parse?_text (address : Ipv6) : parse? address.text = some address := by
  have length := address.length_eq
  have read := ofNumbers?_toNat address
  unfold text parse?
  dsimp only
  split
  · have nonempty : address.pieces ≠ [] := by
      rintro none
      rw [none] at length
      cases length
    have all := allParts?_piecesText nonempty []
    rw [List.append_nil, parts?_piecesText (by omega)] at all
    rw [all, Option.bind_some, fill_partsOf, read]
  · rename_i long
    have zeros := zeros_at_runStart (by omega : 0 < longestRun address.pieces) rfl
    generalize longestRun address.pieces = longest at long zeros ⊢
    generalize runStart longest address.pieces = start at zeros ⊢
    generalize address.pieces.take start = front at zeros ⊢
    generalize address.pieces.drop (start + longest) = back at zeros ⊢
    have sum : front.length + longest + back.length = 8 := by
      rw [← length, zeros, List.length_append, List.length_append, List.length_replicate]
    have parts : allParts? (piecesText front ++ ':' :: ':' :: piecesText back) =
        some (partsOf front ++ .gap :: partsOf back) := by
      by_cases none : front = []
      · subst none
        have behind : parts? 7 false (piecesText back) = some (partsOf back) :=
          parts?_piecesText (by rw [List.length_nil] at sum; omega)
        show (parts? 7 false (piecesText back)).map (.gap :: ·) = _
        rw [behind]
        rfl
      · rw [allParts?_piecesText none, parts?_gap none (by omega)]
    have missing : 8 - (front.length + back.length) = longest := by omega
    rw [parts, Option.bind_some, fill_gap, missing]
    rw [zeros, List.append_assoc, List.map_append, List.map_append, List.map_replicate] at read
    exact read

end EvalConsole.Ipv6
