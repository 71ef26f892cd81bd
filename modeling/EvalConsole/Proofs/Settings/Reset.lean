/-
The server after a reset.

A reset reports the server in effect once the saved one is forgotten. Forgetting may do less
than its name says: a view accepts it without effect, and a database of one's own is gone with
the store. What is reported is true in any case.

* `Database.get?_of_remove_of_ne` and `Database.remove_of_remove`: other keys read as before,
  and what is removed already is removed without effect.
* `Store.openAt_replace`: a path that was opened opens to what its content was replaced by.
* `resetServer_of_ok` and `resetServer_of_openAt`: what a reset does, step by step.
* `resetServer_in_effect`: the server that was reported is in effect from then on, also after
  another reset, and other keys are as before.
-/
import EvalConsole.Proofs.Settings.Reading
import EvalConsole.Proofs.Settings.ServerHistory

namespace EvalConsole

/-! ### Removal -/

namespace Database

variable {db db' : Database} {key other : String}

/-- The other keys read as before. -/
theorem get?_of_remove_of_ne (h : db.remove key = .ok db') (hother : other ≠ key) :
    db'.get? other = db.get? other := by
  rcases remove_cases h with ⟨kind, rows, hkind, rfl, rfl⟩ | rfl
  · have hrows : valueIn (rows.filter fun row => row.1 != key) other = valueIn rows other := by
      rw [valueIn, valueIn, lookup_filter_key, if_neg hother]
    rcases hkind with rfl | rfl <;> exact hrows
  · rfl

/-- A key that has been removed is removed once more without effect. -/
theorem remove_of_remove (h : db.remove key = .ok db') : db'.remove key = .ok db' := by
  rcases remove_cases h with ⟨kind, rows, hkind, rfl, rfl⟩ | rfl
  · have hrows : (rows.filter fun row => row.1 != key).filter (fun row => row.1 != key) =
        rows.filter fun row => row.1 != key := by
      rw [List.filter_filter]
      simp only [Bool.and_self]
    rcases hkind with rfl | rfl <;> rw [remove, hrows]
  · exact h

end Database

/-! ### Replacement -/

/-- Putting the same thing once more changes nothing. -/
theorem Files.put_put (files : Files) (location : Location) (node : Node) :
    (files.put location node).put location node = files.put location node := by
  unfold put
  rw [List.filter_cons_of_neg (by simp), List.filter_filter]
  simp only [Bool.and_self]

namespace Store

variable {path : String} {files opened : Files} {store : Store} {content : Database}

/-- In a database of one's own there is nothing to remove, and nothing is left. -/
theorem eq_empty_of_remove {key : String} (hopen : openAt path files = (.ok store, opened))
    (hremove : (store.content opened).remove key = .ok content)
    (ht : isTransient path = true) : content = .empty := by
  obtain rfl := openAt_of_isTransient ht hopen
  exact (Except.ok.inj hremove).symm

/-- A path that was opened opens to what its content was replaced by, and nothing changes then.
A database of one's own is not kept, so that it has to be empty for that. -/
theorem openAt_replace (hopen : openAt path files = (.ok store, opened))
    (hempty : isTransient path = true → content = .empty) :
    let after := (store.replace opened content).2
    openAt path after = (.ok store, after) ∧ store.content after = content ∧
      (store.replace after content).2 = after := by
  intro after
  cases ht : isTransient path with
  | true =>
    obtain rfl := hempty ht
    obtain rfl := openAt_of_isTransient ht hopen
    exact ⟨openAt_again hopen, rfl, rfl⟩
  | false =>
    obtain ⟨location, readOnly, rfl, -⟩ := openAt_ok ht hopen
    exact ⟨openAt_replaced ht hopen content, content_shared (Files.node?_put_self ..),
      Files.put_put ..⟩

end Store

/-! ### Resets -/

section Resets

variable {path s : String} {files opened after : Files} {store store' : Store}
  {content : Database}

/-- What is in effect depends on the content of the store only. -/
theorem resolveServer_congr (h : store'.content after = store.content files)
    (explicit? : Option String) :
    resolveServer explicit? store' after = resolveServer explicit? store files := by
  unfold resolveServer
  rw [Store.get?, Store.get?, h]

theorem resetServer_of_openAt (hopen : Store.openAt path files = (.ok store, opened))
    (hremove : (store.content opened).remove serverKey = .ok content)
    (hwritable : store.isReadOnly = false) :
    resetServer path files =
      (resolveServer none (store.replace opened content).1 (store.replace opened content).2,
        (store.replace opened content).2) := by
  unfold resetServer
  rw [hopen]
  dsimp only
  rw [Store.remove, Store.bind_write_of_ok hremove hwritable]

/-- A reset that succeeds has opened the database, and removed the key. When the path is opened
once more, then the same database is found as the removal has left it, and the server that was
reported is in effect. -/
theorem resetServer_of_ok (h : resetServer path files = (.ok s, after)) :
    ∃ store opened content, Store.openAt path files = (.ok store, opened) ∧
      store.isReadOnly = false ∧ (store.content opened).remove serverKey = .ok content ∧
      Store.openAt path after = (.ok store, after) ∧ store.content after = content ∧
      (store.replace after content).2 = after ∧ resolveServer none store after = .ok s := by
  cases hopen : Store.openAt path files with
  | mk result opened =>
    cases result with
    | error cause =>
      unfold resetServer at h
      rw [hopen] at h
      cases h
    | ok store =>
      cases hchanged : store.remove opened serverKey with
      | error cause =>
        unfold resetServer at h
        rw [hopen] at h
        dsimp only at h
        rw [hchanged] at h
        cases h
      | ok changed =>
        obtain ⟨hwritable, content, hremove, -⟩ := Store.bind_write_ok hchanged
        rw [resetServer_of_openAt hopen hremove hwritable] at h
        obtain ⟨hresolve, rfl⟩ := Prod.mk.inj h
        obtain ⟨hagain, hcontent, hsame⟩ :=
          Store.openAt_replace hopen (Store.eq_empty_of_remove hopen hremove)
        refine ⟨store, opened, content, rfl, hwritable, hremove, hagain, hcontent, hsame, ?_⟩
        rw [← hresolve]
        exact resolveServer_congr (hcontent.trans (Store.content_replace ..).symm) none

/-- The server that was reported is the one in effect. -/
theorem currentServer_of_resetServer (h : resetServer path files = (.ok s, after)) :
    Program.currentServer path none after = (.ok s, after) := by
  obtain ⟨store, _, _, -, -, -, hagain, -, -, hresolve⟩ := resetServer_of_ok h
  unfold Program.currentServer
  rw [hagain]
  exact congrArg (·, after) hresolve

/-- Another reset reports the same, and leaves the files as they are. -/
theorem resetServer_of_resetServer (h : resetServer path files = (.ok s, after)) :
    resetServer path after = (.ok s, after) := by
  obtain ⟨store, _, content, -, hwritable, hremove, hagain, hcontent, hsame, hresolve⟩ :=
    resetServer_of_ok h
  have hremoved : (store.content after).remove serverKey = .ok content := by
    rw [hcontent]
    exact Database.remove_of_remove hremove
  have hkept := Store.content_replace store after content
  rw [hsame] at hkept
  rw [resetServer_of_openAt hagain hremoved hwritable, hsame,
    resolveServer_congr (hkept.trans hcontent.symm), hresolve]

/-- A reset tells the truth. The server that it reports is the one in effect when the path is
opened anew. Another reset reports it again and leaves all files as they are, so that every key
reads as it did. Keys other than that of the server read as before the first reset, the causes
included for which they cannot be read. If the path has led to a table, whatever its row for the
server has held, then it is the fixed server that is in effect. -/
theorem resetServer_in_effect (h : resetServer path files = (.ok s, after)) :
    Program.currentServer path none after = (.ok s, after) ∧
    resetServer path after = (.ok s, after) ∧
    (∀ key, key ≠ serverKey → readSetting path key after = readSetting path key files) ∧
    ∀ store opened rows, Store.openAt path files = (.ok store, opened) →
      store.content opened = .table rows → s = defaultServer := by
  obtain ⟨store, opened, content, hopen, -, hremove, hagain, hcontent, -, hresolve⟩ :=
    resetServer_of_ok h
  refine ⟨currentServer_of_resetServer h, resetServer_of_resetServer h, fun key hkey => ?_,
    fun store' opened' rows hopen' htable => ?_⟩
  · rw [readSetting_of_openAt hagain, readSetting_of_openAt hopen, hcontent,
      Database.get?_of_remove_of_ne hremove hkey]
  · obtain ⟨rfl, rfl⟩ : store = store' ∧ opened = opened' := by
      cases hopen.symm.trans hopen'
      exact ⟨rfl, rfl⟩
    -- no row for the server is left, also where its value was no text
    rw [htable] at hremove
    have hnone : (rows.filter fun row => row.1 != serverKey).lookup serverKey =
        (none : Option String).map Cell.text := by
      rw [lookup_filter_key, if_pos rfl]
      rfl
    rw [resolveServer_of_lookup rfl (hcontent.trans (Except.ok.inj hremove).symm) hnone] at hresolve
    exact (Except.ok.inj hresolve).symm

end Resets

/-- A table with a saved server that cannot be read, and a view that accepts a removal without
effect. -/
def Files.unremovable : Files :=
  ⟨[(["x.db"], .database (.table [("server", .blob), ("theme", .text "dark")])),
    (["v.db"], .database (.view "http://v" true))]⟩

theorem resetServer_in_effect_unremovable :
    (∃ after, resetServer "x.db" .unremovable = (.ok defaultServer, after) ∧
      Program.currentServer "x.db" none after = (.ok defaultServer, after) ∧
      readSetting "x.db" "theme" after = .ok (some "dark")) ∧
    ∃ after, resetServer "v.db" .unremovable = (.ok "http://v", after) ∧
      Program.currentServer "v.db" none after = (.ok "http://v", after) ∧
      resetServer "v.db" after = (.ok "http://v", after) := by
  have htable : ∃ after, resetServer "x.db" .unremovable = (.ok defaultServer, after) := ⟨_, rfl⟩
  have hview : ∃ after, resetServer "v.db" .unremovable = (.ok "http://v", after) := ⟨_, rfl⟩
  have htheme : readSetting "x.db" "theme" .unremovable = .ok (some "dark") := rfl
  obtain ⟨after, hreset⟩ := htable
  obtain ⟨after', hreset'⟩ := hview
  obtain ⟨hcurrent, -, hothers, -⟩ := resetServer_in_effect hreset
  obtain ⟨hcurrent', hagain, -, -⟩ := resetServer_in_effect hreset'
  exact ⟨⟨after, hreset, hcurrent, (hothers "theme" (by decide)).trans htheme⟩,
    after', hreset', hcurrent', hagain⟩

end EvalConsole
