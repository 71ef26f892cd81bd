/-
The ASCII form of a host name is its own ASCII form.

No table is needed for this. The characters of an ASCII form are small letters, digits and signs
that host names may hold, which are mapped to themselves and are in normal form; and each of its
labels is read as the label that it was written for.

Main statements:

* `Domain.Label.of?_ascii`: the ASCII form of a label is read as this label.
* `Domain.toAscii?_toAscii?`: the ASCII form of a name is its own ASCII form.
-/
import EvalConsole.Proofs.Text.Fields
import EvalConsole.Proofs.Url.Punycode
import EvalConsole.Url.Domain

namespace EvalConsole.Domain

open Unicode

variable {c : Char} {s field : List Char} {l : Label}

/-- A character in ASCII that host names may hold. -/
structure IsPlain (c : Char) : Prop where
  ascii : c.toNat < 0x80
  allowed : isForbidden c = false

instance (c : Char) : Decidable (IsPlain c) :=
  decidable_of_iff (c.toNat < 0x80 ∧ isForbidden c = false)
    ⟨fun ⟨ascii, allowed⟩ => ⟨ascii, allowed⟩, fun h => ⟨h.ascii, h.allowed⟩⟩

theorem IsPlain.not_isUpper (h : IsPlain c) : c.isUpper = false := by
  have allowed := h.allowed
  simp only [isForbidden, Bool.or_eq_false_iff] at allowed
  exact allowed.1.2

theorem isAscii_iff : isAscii s = true ↔ ∀ c ∈ s, c.toNat < 0x80 := by
  simp [isAscii]

theorem mapped?_of_plain (h : ∀ c ∈ s, IsPlain c) : mapped? s = some s := by
  induction s with
  | nil => rfl
  | cons c s ih =>
    obtain ⟨first, others⟩ := List.forall_mem_cons.mp h
    have valid : HostMapping.of c = .valid := by
      rw [HostMapping.of, if_pos first.ascii, first.not_isUpper]
      rfl
    rw [mapped?, valid, ih others]
    rfl

theorem nfc_of_plain (h : ∀ c ∈ s, IsPlain c) : nfc s = s := by
  have low : (s.all fun c => c.toNat < 0x300) = true := by
    rw [List.all_eq_true]
    intro c there
    have := (h c there).ascii
    exact decide_eq_true (by omega)
  rw [nfc, if_pos low]

/-! ### Labels -/

theorem plain_digitChar {d : ℕ} (h : d < 36) :
    IsPlain (Punycode.digitChar d) ∧ Punycode.digitChar d ≠ '.' := by
  have all : ∀ d < 36, IsPlain (Punycode.digitChar d) ∧ Punycode.digitChar d ≠ '.' := by
    decide
  exact all d h

/-- The ASCII form of a label holds plain characters and no dot, if the label holds no dot and
nothing that is forbidden. -/
theorem plain_encode (h : ∀ c ∈ field, isForbidden c = false ∧ c ≠ '.') :
    ∀ c ∈ formMark ++ Punycode.encode field, IsPlain c ∧ c ≠ '.' := by
  intro c there
  obtain mark | there := List.mem_append.mp there
  · have plain : IsPlain 'x' ∧ IsPlain 'n' ∧ IsPlain '-' := by decide
    have all : ∀ c ∈ formMark, IsPlain c ∧ c ≠ '.' := by simp [formMark, plain]
    exact all c mark
  · rw [Punycode.encode, List.mem_append, List.mem_append] at there
    obtain (kept | hyphen) | digit := there
    · obtain ⟨there, basic⟩ := List.mem_filter.mp kept
      exact ⟨⟨of_decide_eq_true basic, (h c there).1⟩, (h c there).2⟩
    · have : c = '-' := by
        split at hyphen
        · cases hyphen
        · exact List.mem_singleton.mp hyphen
      rw [this]
      decide
    · obtain ⟨d, small, rfl⟩ := Punycode.exists_of_mem_writeMoves digit
      exact plain_digitChar small

/-- The ASCII form of a label is read as this label. -/
theorem Label.of?_ascii (found : Label.of? field = some l)
    (h : ∀ c ∈ field, isForbidden c = false ∧ c ≠ '.') :
    Label.of? l.ascii = some l ∧ ∀ c ∈ l.ascii, IsPlain c ∧ c ≠ '.' := by
  have plain_of_ascii (ascii : isAscii field = true) : ∀ c ∈ field, IsPlain c ∧ c ≠ '.' :=
    fun c there => ⟨⟨isAscii_iff.mp ascii c there, (h c there).1⟩, (h c there).2⟩
  have read := found
  unfold Label.of? at read
  split at read
  · -- a marked form stays as it is
    split at read
    · rename_i ascii
      split at read
      · split at read
        · obtain rfl := Option.some.inj read
          exact ⟨found, plain_of_ascii ascii⟩
        · cases read
      · cases read
    · cases read
  · split at read
    · rename_i ascii
      obtain rfl := Option.some.inj read
      exact ⟨found, plain_of_ascii ascii⟩
    · rename_i beyond
      split at read
      · rename_i valid
        obtain rfl := Option.some.inj read
        have plain := plain_encode h
        have marked : formMark.isPrefixOf (formMark ++ Punycode.encode field) = true :=
          List.isPrefixOf_iff_prefix.mpr (List.prefix_append _ _)
        have ascii : isAscii (formMark ++ Punycode.encode field) = true :=
          isAscii_iff.mpr fun c there => (plain c there).1.ascii
        refine ⟨?_, plain⟩
        rw [Label.of?, if_pos marked, if_pos ascii, List.drop_left, Punycode.decode?_encode]
        simp [beyond, valid]
      · cases read

theorem mapM_of?_ascii {fields : List (List Char)} {labels : List Label}
    (found : fields.mapM Label.of? = some labels)
    (h : ∀ field ∈ fields, ∀ c ∈ field, isForbidden c = false ∧ c ≠ '.') :
    (labels.map Label.ascii).mapM Label.of? = some labels ∧ labels.length = fields.length ∧
      ∀ l ∈ labels, ∀ c ∈ l.ascii, IsPlain c ∧ c ≠ '.' := by
  induction fields generalizing labels with
  | nil =>
    cases found
    exact ⟨rfl, rfl, List.forall_mem_nil _⟩
  | cons field fields ih =>
    obtain ⟨first, others⟩ := List.forall_mem_cons.mp h
    simp only [List.mapM_cons, Option.bind_eq_bind, Option.bind_eq_some_iff] at found
    obtain ⟨l, label, labels, rest, same⟩ := found
    cases same
    obtain ⟨read, plain⟩ := Label.of?_ascii label first
    obtain ⟨reads, length, plains⟩ := ih rest others
    refine ⟨?_, congrArg Nat.succ length, List.forall_mem_cons.mpr ⟨plain, plains⟩⟩
    simp [List.mapM_cons, read, reads]

/-! ### Names -/

/-- The characters of an ASCII form are plain. -/
theorem plain_join {labels : List Label}
    (plain : ∀ l ∈ labels, ∀ c ∈ l.ascii, IsPlain c ∧ c ≠ '.') :
    ∀ c ∈ Text.join '.' (labels.map Label.ascii), IsPlain c := by
  intro c there
  obtain rfl | ⟨field, found, there⟩ := Text.mem_join there
  · decide
  · obtain ⟨l, member, rfl⟩ := List.mem_map.mp found
    exact (plain l member c there).1

/-- A name of labels that are read from their ASCII forms is its own ASCII form. -/
theorem toAscii?_join {labels : List Label} (nonempty : labels ≠ [])
    (read : (labels.map Label.ascii).mapM Label.of? = some labels)
    (plain : ∀ l ∈ labels, ∀ c ∈ l.ascii, IsPlain c ∧ c ≠ '.') (fit : labelsFit labels = true) :
    toAscii? (Text.join '.' (labels.map Label.ascii)) =
      some (Text.join '.' (labels.map Label.ascii)) := by
  have plains := plain_join plain
  have split : Text.splitOn (· == '.') (Text.join '.' (labels.map Label.ascii)) =
      labels.map Label.ascii := by
    refine Text.splitOn_join (by simpa using nonempty) fun field found c there => ?_
    obtain ⟨l, member, rfl⟩ := List.mem_map.mp found
    exact (plain l member c there).2
  have allowed : (Text.join '.' (labels.map Label.ascii)).any isForbidden = false := by
    rw [List.any_eq_false]
    intro c there
    simp [(plains c there).allowed]
  rw [toAscii?, mapped?_of_plain plains]
  simp [nfc_of_plain plains, allowed, split, read, fit]

/-- What the ASCII form of a name is. -/
theorem exists_of_toAscii? {name ascii : List Char} (h : toAscii? name = some ascii) :
    ∃ labels : List Label, labels ≠ [] ∧ (labels.map Label.ascii).mapM Label.of? = some labels ∧
      (∀ l ∈ labels, ∀ c ∈ l.ascii, IsPlain c ∧ c ≠ '.') ∧ labelsFit labels = true ∧
      ascii = Text.join '.' (labels.map Label.ascii) := by
  unfold toAscii? at h
  split at h
  · cases h
  rename_i mapped _
  dsimp only at h
  split at h
  · cases h
  rename_i allowed
  split at h
  · cases h
  rename_i labels found
  split at h
  · rename_i fit
    have fields : ∀ field ∈ Text.splitOn (· == '.') (nfc mapped), ∀ c ∈ field,
        isForbidden c = false ∧ c ≠ '.' := by
      intro field there c inside
      obtain ⟨inside, noDot⟩ := Text.mem_of_mem_splitOn there inside
      rw [Bool.not_eq_true, List.any_eq_false] at allowed
      exact ⟨Bool.not_eq_true _ ▸ allowed c inside, by simpa using noDot⟩
    obtain ⟨read, length, plain⟩ := mapM_of?_ascii found fields
    refine ⟨labels, ?_, read, plain, fit, (Option.some.inj h).symm⟩
    rintro rfl
    exact Text.splitOn_ne_nil _ _ (List.length_eq_zero_iff.mp length.symm)
  · cases h

theorem plain_of_toAscii? {name ascii : List Char} (h : toAscii? name = some ascii) :
    ∀ c ∈ ascii, IsPlain c := by
  obtain ⟨labels, -, -, plain, -, rfl⟩ := exists_of_toAscii? h
  exact plain_join plain

/-- The ASCII form of a name is its own ASCII form. -/
theorem toAscii?_toAscii? {name ascii : List Char} (h : toAscii? name = some ascii) :
    toAscii? ascii = some ascii := by
  obtain ⟨labels, nonempty, read, plain, fit, rfl⟩ := exists_of_toAscii? h
  exact toAscii?_join nonempty read plain fit

end EvalConsole.Domain
