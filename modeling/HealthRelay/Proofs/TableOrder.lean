import HealthRelay.Table

/-!
A table does not depend on the order of the entries it is made of, and gives back what was put.
-/
namespace HealthRelay.Table

variable {α : Type} {entries others : List (String × α)} {key : String} {value : α}

theorem perm_put (h : key ∉ entries.map Prod.fst) :
    (put key value entries).Perm ((key, value) :: entries) := by
  induction entries with
  | nil => exact .refl _
  | cons entry rest ih =>
    obtain ⟨hentry, hrest⟩ : key ≠ entry.1 ∧ key ∉ rest.map Prod.fst := by simpa using h
    rw [put]
    split
    · exact .refl _
    · exact ((ih hrest).cons entry).trans (.swap _ _ _)

/-- Entries under different keys all come into the table. -/
theorem perm_foldl_insert (t : Table α)
    (h : ((t.entries ++ entries).map Prod.fst).Nodup) :
    (entries.foldl (fun t e => t.insert e.1 e.2) t).entries.Perm (t.entries ++ entries) := by
  induction entries generalizing t with
  | nil => simp
  | cons e entries ih =>
    have hperm : (t.entries ++ e :: entries).Perm (e :: t.entries ++ entries) :=
      List.perm_middle
    have hnodup : ((e :: t.entries ++ entries).map Prod.fst).Nodup :=
      (hperm.map Prod.fst).nodup_iff.1 h
    have hnew : e.1 ∉ t.entries.map Prod.fst := by
      simp only [List.cons_append, List.map_cons, List.nodup_cons, List.map_append,
        List.mem_append, not_or] at hnodup
      exact hnodup.1.1
    have hinsert : ((t.insert e.1 e.2).entries ++ entries).Perm (e :: t.entries ++ entries) :=
      (perm_put hnew).append_right entries
    have hrest := ih (t.insert e.1 e.2) ((hinsert.map Prod.fst).nodup_iff.2 hnodup)
    exact hrest.trans (hinsert.trans hperm.symm)

theorem Ascending.nodup_keys (h : Ascending entries) : (entries.map Prod.fst).Nodup := by
  rw [List.Nodup, List.pairwise_map]
  refine h.imp ?_
  intro a b hlt heq
  rw [heq] at hlt
  exact String.lt_irrefl _ hlt

theorem Ascending.eq_of_perm (h : Ascending entries) (h' : Ascending others)
    (hperm : entries.Perm others) : entries = others := by
  apply hperm.eq_of_pairwise _ h h'
  intro a b _ _ hab hba
  exact absurd (String.lt_trans hab hba) (String.lt_irrefl _)

/-- A table is made again of its entries in any order. -/
theorem ofList_of_perm {t : Table α} (h : entries.Perm t.entries) : ofList entries = t := by
  have hnodup : (entries.map Prod.fst).Nodup :=
    (h.map Prod.fst).nodup_iff.2 t.ascending.nodup_keys
  have hperm : (ofList entries).entries.Perm t.entries :=
    (perm_foldl_insert empty (by simpa [empty] using hnodup)).trans h
  have heq : (ofList entries).entries = t.entries :=
    (ofList entries).ascending.eq_of_perm t.ascending hperm
  cases t
  cases hof : ofList entries
  simp_all

/-- What has been put under a key is found there. -/
theorem find?_put_self (key : String) (value : α) (entries : List (String × α)) :
    (put key value entries).find? (fun e => e.1 == key) = some (key, value) := by
  induction entries with
  | nil => simp [put]
  | cons entry rest ih =>
    rw [put]
    split
    · simp
    split
    · simp
    case isFalse _ hne =>
      have hother : (entry.1 == key) = false := beq_false_of_ne (Ne.symm hne)
      rw [List.find?_cons, hother]
      exact ih

theorem get?_insert_self (t : Table α) (key : String) (value : α) :
    (t.insert key value).get? key = some value := by
  rw [get?, insert, find?_put_self, Option.map_some]

/-- What is under other keys stays there. -/
theorem find?_put_of_ne {other : String} (h : key ≠ other) :
    (put key value entries).find? (fun e => e.1 == other) =
      entries.find? fun e => e.1 == other := by
  induction entries with
  | nil => simp [put, h]
  | cons entry rest ih =>
    rw [put]
    split
    · simp [h]
    split
    case isTrue _ heq => simp [← heq, h]
    · rw [List.find?_cons, List.find?_cons, ih]

theorem get?_insert_of_ne {other : String} (t : Table α) (h : key ≠ other) :
    (t.insert key value).get? other = t.get? other := by
  rw [get?, insert, find?_put_of_ne h, get?]

theorem mem_keys_iff {t : Table α} : key ∈ t.keys ↔ (t.get? key).isSome = true := by
  simp [keys, get?]

end HealthRelay.Table
