/-
Databases of settings.

A database holds one table of keys and values. The table made by this program has one row
per key. A database made by something else may hold another table, or a view, under the
same name; some statements then fail.

* `Database.get?`, `Database.set` and `Database.remove` are the three statements; a
  statement that fails changes nothing.
-/

namespace EvalConsole

/-- A stored value. -/
inductive Cell where
  | text (value : String)
  /-- Bytes that are no text. -/
  | blob
  deriving DecidableEq, Repr

/-- What a database holds under the name of the table of settings. -/
inductive Database where
  /-- A table with one row per key. -/
  | table (rows : List (String × Cell))
  /-- A table whose keys need not be unique. -/
  | list (rows : List (String × Cell))
  /-- A table without values. -/
  | withoutValues
  /-- A view of one row that holds a server. A removal is refused, or accepted without
  effect. -/
  | view (server : String) (acceptsRemoval : Bool)
  deriving DecidableEq, Repr

/-- Why a statement fails. -/
inductive StatementError where
  | noUniqueKey
  | noValuesToRead
  | noValuesToWrite
  | isView
  /-- The value is no text. -/
  | notText
  /-- Nothing may be written. -/
  | readOnly
  deriving DecidableEq, Repr

/-- The texts of a failure, from the outermost to its root. -/
def StatementError.chain : StatementError → List String
  | noUniqueKey =>
    ["ON CONFLICT clause does not match any PRIMARY KEY or UNIQUE constraint",
      "Error code 1: SQL logic error"]
  | noValuesToRead =>
    ["no such column: value in SELECT value FROM config WHERE key = ?1 at offset 7",
      "Error code 1: SQL logic error"]
  | noValuesToWrite =>
    ["table config has no column named value", "Error code 1: SQL logic error"]
  | isView => ["cannot modify config because it is a view", "Error code 1: SQL logic error"]
  | notText => ["Invalid column type Blob at index: 0, name: value"]
  | readOnly =>
    ["attempt to write a readonly database", "Error code 8: attempt to write a readonly database"]

/-- The key of the default server. -/
def serverKey : String :=
  "server"

theorem lookup_cons_eq_ite {α β : Type} [DecidableEq α] [BEq α] [LawfulBEq α] (row : α × β)
    (rows : List (α × β)) (key : α) :
    (row :: rows).lookup key = if key = row.1 then some row.2 else rows.lookup key := by
  rw [List.lookup_cons]
  by_cases h : key = row.1
  · rw [if_pos h, beq_iff_eq.mpr h]
  · rw [if_neg h, beq_false_of_ne h]

/-- The rows of the other keys stay when those of a key are left out. -/
theorem lookup_filter_key {α β : Type} [DecidableEq α] [BEq α] [LawfulBEq α]
    (rows : List (α × β)) (key other : α) :
    (rows.filter fun row => row.1 != key).lookup other =
      if other = key then none else rows.lookup other := by
  induction rows with
  | nil => simp
  | cons row rest ih =>
    rw [List.filter_cons, lookup_cons_eq_ite]
    by_cases hrow : row.1 = key
    · rw [if_neg (by simp [hrow]), ih, hrow]
      split <;> rfl
    · rw [if_pos (by simp [hrow]), lookup_cons_eq_ite, ih]
      split
      · rename_i hother
        rw [if_neg (hother ▸ hrow)]
      · rfl

namespace Database

/-- A new database. -/
def empty : Database :=
  table []

/-- An empty table whose keys need not be unique. -/
def withoutUniqueKey : Database :=
  list []

/-- Gives a key a value: its row is changed, or a row is added behind the others. -/
def upsert (key : String) (value : Cell) : List (String × Cell) → List (String × Cell)
  | [] => [(key, value)]
  | row :: rest =>
    if row.1 = key then (key, value) :: rest else row :: upsert key value rest

theorem lookup_upsert (key : String) (value : Cell) (rows : List (String × Cell))
    (other : String) :
    (upsert key value rows).lookup other = if other = key then some value else rows.lookup other := by
  induction rows with
  | nil => exact lookup_cons_eq_ite ..
  | cons row rest ih =>
    rw [upsert, lookup_cons_eq_ite]
    split
    · rename_i hrow
      rw [lookup_cons_eq_ite, hrow]
      split <;> rfl
    · rename_i hrow
      rw [lookup_cons_eq_ite, ih]
      split
      · rename_i hother
        rw [if_neg (hother ▸ hrow)]
      · rfl

/-- The value that a key has in rows: that of the first row of the key. -/
def valueIn (rows : List (String × Cell)) (key : String) : Except StatementError (Option String) :=
  match rows.lookup key with
  | none => .ok none
  | some (.text value) => .ok (some value)
  | some .blob => .error .notText

/-- The value of a key. -/
def get? (db : Database) (key : String) : Except StatementError (Option String) :=
  match db with
  | table rows => valueIn rows key
  | list rows => valueIn rows key
  | withoutValues => .error .noValuesToRead
  | view server _ => .ok (if key = serverKey then some server else none)

/-- The database after a key has been given a value. -/
def set (db : Database) (key value : String) : Except StatementError Database :=
  match db with
  | table rows => .ok (table (upsert key (.text value) rows))
  | list _ => .error .noUniqueKey
  | withoutValues => .error .noValuesToWrite
  | view _ _ => .error .isView

/-- The database after a key has been removed. -/
def remove (db : Database) (key : String) : Except StatementError Database :=
  match db with
  | table rows => .ok (table (rows.filter fun row => row.1 != key))
  | list rows => .ok (list (rows.filter fun row => row.1 != key))
  | withoutValues => .ok db
  | view _ acceptsRemoval => if acceptsRemoval then .ok db else .error .isView

/-- A removal leaves the rows of the other keys in a table, and anything else as it was. -/
theorem remove_cases {db db' : Database} {key : String} (h : db.remove key = .ok db') :
    (∃ kind rows, (kind = table ∨ kind = list) ∧ db = kind rows ∧
      db' = kind (rows.filter fun row => row.1 != key)) ∨ db' = db := by
  cases db with
  | table rows => exact .inl ⟨table, rows, .inl rfl, rfl, (Except.ok.inj h).symm⟩
  | list rows => exact .inl ⟨list, rows, .inr rfl, rfl, (Except.ok.inj h).symm⟩
  | withoutValues => exact .inr (Except.ok.inj h).symm
  | view server acceptsRemoval =>
    cases acceptsRemoval with
    | true => exact .inr (Except.ok.inj h).symm
    | false => cases h

end Database

end EvalConsole
