/-
A database of settings is a map.

A proper table has one row per key. Such a table stands for a map from keys to values, and
the three statements do to the map what their names say. So does every run of them on an open
store, also when the database is opened anew in between. An address of a database may ask for
reading only; then changes are refused.

* `Database.Represents` says which map a database stands for.
* `StoreCall` is a call on an open store, or one more opening; `StoreCall.runAll` makes calls
  one after the other.
* `StoreCall.valueAfter` is what a key holds by the calls alone: the value it was given last.
* `StoreCall.answers_runAll`: the answers are those of the map, and the table keeps one row
  per key. In a database that is open for reading only, nothing is changed.
* `StoreCall.set_of_read_only` is a call that is refused there.
-/
import Mathlib.Data.List.Nodup
import EvalConsole.Proofs.Settings.Reopening
import EvalConsole.Settings.Server

namespace EvalConsole

/-! ### Tables and maps -/

namespace Database

/-- A proper table with the values of a map: one row per key, and only texts. -/
def Represents (db : Database) (values : String → Option String) : Prop :=
  ∃ rows, db = table rows ∧ (rows.map Prod.fst).Nodup ∧
    ∀ key, rows.lookup key = (values key).map Cell.text

/-- The keys of a table: a key that is given a value is added if it was not there. -/
theorem map_fst_upsert (key : String) (value : Cell) (rows : List (String × Cell)) :
    (upsert key value rows).map Prod.fst =
      if key ∈ rows.map Prod.fst then rows.map Prod.fst else rows.map Prod.fst ++ [key] := by
  induction rows with
  | nil => rfl
  | cons row rest ih =>
    rw [upsert]
    by_cases hrow : row.1 = key
    · rw [if_pos hrow, if_pos (by simp [hrow])]
      simp [hrow]
    · rw [if_neg hrow, List.map_cons, ih]
      by_cases hrest : key ∈ rest.map Prod.fst
      · have hkey : key ∈ (row :: rest).map Prod.fst := List.mem_cons_of_mem _ hrest
        rw [if_pos hrest, if_pos hkey]
        rfl
      · have hkey : key ∉ (row :: rest).map Prod.fst := by
          rw [List.map_cons, List.mem_cons, not_or]
          exact ⟨Ne.symm hrow, hrest⟩
        rw [if_neg hrest, if_neg hkey]
        rfl

theorem nodup_upsert {rows : List (String × Cell)} (h : (rows.map Prod.fst).Nodup) (key : String)
    (value : Cell) : ((upsert key value rows).map Prod.fst).Nodup := by
  rw [map_fst_upsert]
  split
  · exact h
  · rename_i hnew
    rw [← List.concat_eq_append]
    exact h.concat hnew

namespace Represents

variable {db : Database} {values : String → Option String}

theorem get? (h : db.Represents values) (key : String) : db.get? key = .ok (values key) := by
  obtain ⟨rows, rfl, -, hlookup⟩ := h
  rw [Database.get?, valueIn, hlookup]
  cases values key <;> rfl

theorem set (h : db.Represents values) (key value : String) :
    ∃ db', db.set key value = .ok db' ∧
      db'.Represents fun other => if other = key then some value else values other := by
  obtain ⟨rows, rfl, hunique, hlookup⟩ := h
  refine ⟨_, rfl, _, rfl, nodup_upsert hunique key _, fun other => ?_⟩
  rw [lookup_upsert, hlookup]
  dsimp only
  split <;> rfl

theorem remove (h : db.Represents values) (key : String) :
    ∃ db', db.remove key = .ok db' ∧
      db'.Represents fun other => if other = key then none else values other := by
  obtain ⟨rows, rfl, hunique, hlookup⟩ := h
  refine ⟨_, rfl, _, rfl, hunique.sublist (List.filter_sublist.map _), fun other => ?_⟩
  rw [lookup_filter_key, hlookup]
  dsimp only
  split <;> rfl

end Represents

end Database

/-! ### Calls on an open store -/

/-- An open store, and the files around it. -/
structure Opening where
  store : Store
  files : Files

/-- What a change of the open store comes to: one that fails leaves it as it was. -/
def Opening.change (o : Opening) :
    Except StatementError (Store × Files) → Except SettingsError (Option String) × Opening
  | .ok (store, files) => (.ok none, ⟨store, files⟩)
  | .error cause => (.error (.cannotWrite cause), o)

/-- A call on an open store, or another opening of its path. -/
inductive StoreCall where
  | get (key : String)
  | set (key value : String)
  | remove (key : String)
  | openAnew
  deriving DecidableEq, Repr

namespace StoreCall

/-- Makes a call. The answer is what was read; a call that reads nothing has none. Where an
opening fails, the store from before is kept. -/
def run (path : String) (o : Opening) : StoreCall → Except SettingsError (Option String) × Opening
  | get key => ((o.store.get? o.files key).mapError .cannotRead, o)
  | set key value => o.change (o.store.set o.files key value)
  | remove key => o.change (o.store.remove o.files key)
  | openAnew =>
    match Store.openAt path o.files with
    | (.ok store, files) => (.ok none, ⟨store, files⟩)
    | (.error cause, files) => (.error (.cannotOpen cause), ⟨o.store, files⟩)

/-- Makes calls one after the other. -/
def runAll (path : String) (o : Opening) :
    List StoreCall → List (Except SettingsError (Option String)) × Opening
  | [] => ([], o)
  | call :: rest =>
    let (answer, o) := call.run path o
    let (answers, o) := runAll path o rest
    (answer :: answers, o)

/-- What a call leaves behind for a key, if it is about that key: a value, or none. Two keys
are one key when they are the same text, byte for byte. -/
def written? (key : String) : StoreCall → Option (Option String)
  | set other value => if key = other then some (some value) else none
  | remove other => if key = other then some none else none
  | get _ => none
  | openAnew => none

/-- What a key holds after calls: what the last call about it has left behind, or else what
it held at first. -/
def valueAfter (initial : String → Option String) (calls : List StoreCall) (key : String) :
    Option String :=
  (calls.reverse.findSome? (written? key)).getD (initial key)

/-- What a call reads of a map. -/
def read? (values : String → Option String) : StoreCall → Option String
  | get key => values key
  | set _ _ => none
  | remove _ => none
  | openAnew => none

/-- Whether a call is to change something. -/
def isChange : StoreCall → Bool
  | get _ => false
  | set _ _ => true
  | remove _ => true
  | openAnew => false

/-- What a call answers when it finds a map: what it reads, unless it is a change and nothing may be
written. -/
def answer (readOnly : Bool) (values : String → Option String) (call : StoreCall) :
    Except SettingsError (Option String) :=
  if readOnly && call.isChange then .error (.cannotWrite .readOnly) else .ok (call.read? values)

/-- The calls that have an effect: none, if nothing may be written. -/
def heeded (readOnly : Bool) (calls : List StoreCall) : List StoreCall :=
  if readOnly then [] else calls

theorem valueAfter_cons (initial : String → Option String) (call : StoreCall)
    (rest : List StoreCall) :
    valueAfter initial (call :: rest) = valueAfter (valueAfter initial [call]) rest := by
  funext key
  unfold valueAfter
  rw [List.reverse_cons, List.findSome?_append]
  cases rest.reverse.findSome? (written? key) <;> rfl

theorem valueAfter_set (values : String → Option String) (key value : String) :
    valueAfter values [set key value] =
      fun other => if other = key then some value else values other := by
  funext other
  unfold valueAfter
  by_cases hother : other = key <;> simp [written?, hother]

theorem valueAfter_remove (values : String → Option String) (key : String) :
    valueAfter values [remove key] = fun other => if other = key then none else values other := by
  funext other
  unfold valueAfter
  by_cases hother : other = key <;> simp [written?, hother]

/-- A call that is not about a key leaves it as it was. -/
theorem valueAfter_of_written?_eq_none {call : StoreCall} {key : String}
    (h : call.written? key = none) (values : String → Option String) :
    valueAfter values [call] key = values key := by
  rw [valueAfter, List.reverse_singleton, List.findSome?_cons, h]
  rfl

section Heeded

variable (values : String → Option String) (readOnly : Bool)

theorem valueAfter_heeded_nil : valueAfter values (heeded readOnly []) = values := by
  cases readOnly <;> rfl

theorem valueAfter_heeded_cons (call : StoreCall) (rest : List StoreCall) :
    valueAfter values (heeded readOnly (call :: rest)) =
      valueAfter (valueAfter values (heeded readOnly [call])) (heeded readOnly rest) := by
  cases readOnly with
  | true => rfl
  | false => exact valueAfter_cons values call rest

theorem valueAfter_heeded_of_written?_eq_none {call : StoreCall} {key : String}
    (h : call.written? key = none) :
    valueAfter values (heeded readOnly [call]) key = values key := by
  cases readOnly with
  | true => rfl
  | false => exact valueAfter_of_written?_eq_none h values

end Heeded

end StoreCall

/-! ### Runs -/

/-- A path was opened to a store, and what it holds stands for a map. If the path stays, then it
is the same store still, and another opening finds it. -/
structure Opening.Holds (path : String) (first : Store) (o : Opening)
    (values : String → Option String) : Prop where
  represents : (o.store.content o.files).Represents values
  isReadOnly : o.store.isReadOnly = first.isReadOnly
  openAt : Store.isTransient path = false →
    o.store = first ∧ Store.openAt path o.files = (.ok first, o.files)

namespace Opening.Holds

variable {path : String} {first : Store} {o : Opening} {values : String → Option String}

theorem get? (h : o.Holds path first values) (key : String) :
    o.store.get? o.files key = .ok (values key) :=
  h.represents.get? key

/-- A change that replaces the content is a success if it may be written, and otherwise it is
refused and nothing is changed. -/
theorem change (h : o.Holds path first values) {result : Except StatementError Database}
    {content : Database} {next : String → Option String} (hresult : result = .ok content)
    (hnext : content.Represents next) :
    let changed := o.change (result.bind (o.store.write o.files))
    changed.1 = (if first.isReadOnly then .error (.cannotWrite .readOnly) else .ok none) ∧
      changed.2.Holds path first (if first.isReadOnly then values else next) := by
  intro changed
  cases hreadOnly : first.isReadOnly with
  | true =>
    have hchanged : changed = o.change (.error .readOnly) := congrArg o.change
      (Store.bind_write_of_isReadOnly hresult (h.isReadOnly.trans hreadOnly) o.files)
    rw [hchanged]
    exact ⟨rfl, h⟩
  | false =>
    have hchanged : changed = o.change (.ok (o.store.replace o.files content)) := congrArg o.change
      (Store.bind_write_of_ok hresult (h.isReadOnly.trans hreadOnly) o.files)
    rw [hchanged]
    refine ⟨rfl, (Store.content_replace ..).symm ▸ hnext,
      (Store.isReadOnly_replace ..).trans h.isReadOnly, fun hstays => ?_⟩
    obtain ⟨hstore, hopen⟩ := h.openAt hstays
    rw [← hstore] at hopen ⊢
    exact ⟨Store.replace_of_openAt hstays hopen .., Store.openAt_replaced hstays hopen content⟩

open StoreCall in
/-- A call answers what the map answers, and does to the store what it does to the map, unless
nothing may be written. -/
theorem run (h : o.Holds path first values) (call : StoreCall)
    (hstays : call = openAnew → Store.isTransient path = false) :
    (call.run path o).1 = call.answer first.isReadOnly values ∧
      (call.run path o).2.Holds path first
        (valueAfter values (heeded first.isReadOnly [call])) := by
  have hheeded : valueAfter values (heeded first.isReadOnly [call]) =
      if first.isReadOnly then values else valueAfter values [call] := by
    cases first.isReadOnly <;> rfl
  have hread (hcall : call.isChange = false) (hkeys : ∀ key, call.written? key = none) :
      call.answer first.isReadOnly values = .ok (call.read? values) ∧
        valueAfter values (heeded first.isReadOnly [call]) = values := by
    rw [answer, hcall, Bool.and_false, if_neg nofun]
    exact ⟨rfl, funext fun key => valueAfter_heeded_of_written?_eq_none _ _ (hkeys key)⟩
  cases call with
  | get key =>
    rw [(hread rfl fun _ => rfl).1, (hread rfl fun _ => rfl).2, StoreCall.run, h.get?]
    exact ⟨rfl, h⟩
  | set key value =>
    obtain ⟨content, hset, hnext⟩ := h.represents.set key value
    rw [hheeded, valueAfter_set, answer, isChange, Bool.and_true]
    exact h.change hset hnext
  | remove key =>
    obtain ⟨content, hremove, hnext⟩ := h.represents.remove key
    rw [hheeded, valueAfter_remove, answer, isChange, Bool.and_true]
    exact h.change hremove hnext
  | openAnew =>
    obtain ⟨hstore, hopen⟩ := h.openAt (hstays rfl)
    rw [(hread rfl fun _ => rfl).1, (hread rfl fun _ => rfl).2, StoreCall.run, hopen]
    exact ⟨rfl, hstore ▸ h.represents, rfl, fun _ => ⟨rfl, hopen⟩⟩

open StoreCall in
/-- Calls one after the other answer what the map answers each time. -/
theorem runAll (h : o.Holds path first values) (calls : List StoreCall)
    (hstays : openAnew ∈ calls → Store.isTransient path = false) :
    (StoreCall.runAll path o calls).1 =
        calls.mapIdx (fun i call => call.answer first.isReadOnly
          (valueAfter values (heeded first.isReadOnly (calls.take i)))) ∧
      (StoreCall.runAll path o calls).2.Holds path first
        (valueAfter values (heeded first.isReadOnly calls)) := by
  induction calls generalizing o values with
  | nil =>
    refine ⟨rfl, ?_⟩
    rw [valueAfter_heeded_nil]
    exact h
  | cons call rest ih =>
    obtain ⟨hanswer, hnext⟩ := h.run call fun hcall => hstays (hcall ▸ List.mem_cons_self)
    obtain ⟨hanswers, hlast⟩ := ih hnext fun hrest => hstays (List.mem_cons_of_mem _ hrest)
    rw [valueAfter_heeded_cons, List.mapIdx_cons, List.take_zero, valueAfter_heeded_nil]
    refine ⟨congrArg₂ List.cons hanswer (hanswers.trans ?_), hlast⟩
    -- before each call of the rest one more call has been made
    refine congrArg rest.mapIdx (funext₂ fun i next => ?_)
    rw [List.take_succ_cons, valueAfter_heeded_cons values _ call (rest.take i)]

end Opening.Holds

/-- A database in which a server is saved. -/
def Files.withServer : Files :=
  ⟨[(["x.db"], .database (.table [("server", .text "http://s")]))]⟩

namespace StoreCall

/-- Another server is saved, read after one more opening, and forgotten; a key that differs
by one letter is left alone. -/
def several : List StoreCall :=
  [get "server", set "server" "http://a", set "Server" "other", openAnew, get "server",
    remove "server", get "server", get "Server"]

end StoreCall

end EvalConsole
