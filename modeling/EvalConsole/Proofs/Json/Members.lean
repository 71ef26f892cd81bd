/-
Members that are written again.

* `Json.Members.lookup_ofWritten`: of the members of one name the last one counts.
* `Json.Members.names_ofWritten`: a name stands where it was written first, and only there.
* `Json.Members.ofWritten_of_nodup`: members of distinct names stay as they are written.
-/
import Mathlib.Data.List.Induction
import EvalConsole.Json.Basic

namespace EvalConsole.Json.Members

variable {name : String} {value : Json} {members : List (String × Json)}

theorem lookup_insert (other : String) :
    (insert name value members).lookup other =
      if other = name then some value else members.lookup other := by
  induction members with
  | nil =>
    rw [insert, List.lookup_cons, List.lookup_nil]
    by_cases h : other = name
    · simp [h]
    · simp [h, beq_false_of_ne h]
  | cons member rest ih =>
    obtain ⟨key, old⟩ := member
    rw [insert]
    split
    · rename_i hkey
      subst hkey
      rw [List.lookup_cons, List.lookup_cons]
      by_cases h : other = key
      · simp [h]
      · simp [h, beq_false_of_ne h]
    · rename_i hkey
      rw [List.lookup_cons, ih, List.lookup_cons]
      -- the first member has another name than the new one
      by_cases h : other = key
      · subst h
        simp [hkey]
      · simp [beq_false_of_ne h]

theorem names_insert :
    (insert name value members).map Prod.fst =
      if name ∈ members.map Prod.fst then members.map Prod.fst
      else members.map Prod.fst ++ [name] := by
  induction members with
  | nil => rfl
  | cons member rest ih =>
    obtain ⟨key, old⟩ := member
    rw [insert]
    by_cases hkey : key = name
    · subst hkey
      simp
    · rw [if_neg hkey, List.map_cons, ih]
      have hmem : name ∈ ((key, old) :: rest).map Prod.fst ↔ name ∈ rest.map Prod.fst := by
        simp [Ne.symm hkey]
      simp only [hmem]
      split <;> rfl

theorem mem_of_lookup (h : members.lookup name = some value) : (name, value) ∈ members := by
  obtain ⟨before, after, rfl, -⟩ := List.lookup_eq_some_iff.mp h
  exact List.mem_append_right before List.mem_cons_self

/-- A new name goes to the end. -/
theorem insert_of_notMem (new : name ∉ members.map Prod.fst) :
    insert name value members = members ++ [(name, value)] := by
  induction members with
  | nil => rfl
  | cons member rest ih =>
    obtain ⟨key, old⟩ := member
    rw [List.map_cons, List.mem_cons, not_or] at new
    rw [insert, if_neg (Ne.symm new.1), ih new.2]
    rfl

/-- What is set is a member, and the others were members before. -/
theorem mem_insert {member : String × Json} (h : member ∈ insert name value members) :
    member = (name, value) ∨ member ∈ members := by
  induction members with
  | nil => exact .inl (List.mem_singleton.mp h)
  | cons first rest ih =>
    obtain ⟨key, old⟩ := first
    rw [insert] at h
    split at h
    · rename_i same
      subst same
      exact (List.mem_cons.mp h).imp_right fun inRest => List.mem_cons_of_mem _ inRest
    · obtain rfl | inRest := List.mem_cons.mp h
      · exact .inr List.mem_cons_self
      · exact (ih inRest).imp_right fun there => List.mem_cons_of_mem _ there

theorem ofWritten_concat (written : List (String × Json)) (member : String × Json) :
    ofWritten (written ++ [member]) = insert member.1 member.2 (ofWritten written) := by
  rw [ofWritten, List.foldl_append]
  rfl

/-- Of the members of one name the last one counts. -/
theorem lookup_ofWritten (written : List (String × Json)) (name : String) :
    (ofWritten written).lookup name = written.reverse.lookup name := by
  induction written using List.reverseRecOn with
  | nil => rfl
  | append_singleton written member ih =>
    obtain ⟨key, value⟩ := member
    rw [ofWritten_concat, lookup_insert, ih, List.reverse_append, List.reverse_singleton,
      List.singleton_append, List.lookup_cons]
    by_cases h : name = key
    · simp [h]
    · simp [h, beq_false_of_ne h]

/-- A name stands where it was written first, and only there. -/
theorem names_ofWritten (written : List (String × Json)) :
    (ofWritten written).map Prod.fst = (written.map Prod.fst).eraseDups := by
  induction written using List.reverseRecOn with
  | nil => rfl
  | append_singleton written member ih =>
    rw [ofWritten_concat, names_insert, ih, List.map_append, List.map_singleton,
      List.eraseDups_append]
    by_cases h : member.1 ∈ written.map Prod.fst
    · rw [if_pos (List.mem_eraseDups.mpr h)]
      simp [List.removeAll, h]
    · rw [if_neg (mt List.mem_eraseDups.mp h)]
      simp [List.removeAll, h, List.eraseDups_cons]

theorem mem_ofWritten {written : List (String × Json)} {member : String × Json}
    (h : member ∈ ofWritten written) : member ∈ written := by
  induction written using List.reverseRecOn with
  | nil => exact h
  | append_singleton written last ih =>
    rw [ofWritten_concat] at h
    rw [List.mem_append, List.mem_singleton]
    exact (mem_insert h).symm.imp_left ih

theorem nodup_names_ofWritten (written : List (String × Json)) :
    ((ofWritten written).map Prod.fst).Nodup := by
  induction written using List.reverseRecOn with
  | nil => exact List.nodup_nil
  | append_singleton written last ih =>
    rw [ofWritten_concat, names_insert]
    split
    · exact ih
    · rename_i new
      rw [List.nodup_append]
      refine ⟨ih, List.nodup_cons.mpr ⟨List.not_mem_nil, List.nodup_nil⟩, ?_⟩
      rintro there old other last rfl
      rw [List.mem_singleton] at last
      exact new (last ▸ old)

/-- Members of distinct names stay as they are written. -/
theorem ofWritten_of_nodup {written : List (String × Json)}
    (distinct : (written.map Prod.fst).Nodup) : ofWritten written = written := by
  induction written using List.reverseRecOn with
  | nil => rfl
  | append_singleton written last ih =>
    rw [List.map_append, List.nodup_append] at distinct
    obtain ⟨front, -, apart⟩ := distinct
    have new : last.1 ∉ written.map Prod.fst := fun there =>
      apart _ there _ (List.mem_singleton_self _) rfl
    rw [ofWritten_concat, ih front, insert_of_notMem new]

end EvalConsole.Json.Members
