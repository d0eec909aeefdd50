/-!
Tables keyed by text, kept in ascending order of their keys. Two tables with the same entries are
equal, however they were built.
-/

namespace HealthRelay

variable {α β : Type}

namespace Table

/-- Puts a value under a key in an ascending list of entries, replacing the one there. -/
def put (key : String) (value : α) : List (String × α) → List (String × α)
  | [] => [(key, value)]
  | entry :: rest =>
    if key < entry.1 then (key, value) :: entry :: rest
    else if key = entry.1 then (key, value) :: rest
    else entry :: put key value rest

/-- The keys ascend strictly. -/
def Ascending (entries : List (String × α)) : Prop :=
  entries.Pairwise fun a b => a.1 < b.1

theorem mem_put {key : String} {value : α} {entries : List (String × α)} {e : String × α}
    (h : e ∈ put key value entries) : e = (key, value) ∨ e ∈ entries := by
  induction entries with
  | nil => simpa [put] using h
  | cons entry rest ih =>
    simp only [put] at h
    split at h
    · simpa using h
    · split at h
      · rcases List.mem_cons.1 h with h | h
        · exact .inl h
        · exact .inr (List.mem_cons_of_mem _ h)
      · rcases List.mem_cons.1 h with h | h
        · exact .inr (h ▸ List.mem_cons_self)
        · exact (ih h).imp_right (List.mem_cons_of_mem _)

theorem ascending_put {key : String} {value : α} {entries : List (String × α)}
    (h : Ascending entries) : Ascending (put key value entries) := by
  induction entries with
  | nil => simp [put, Ascending]
  | cons entry rest ih =>
    have ⟨hhead, htail⟩ := List.pairwise_cons.1 h
    simp only [put]
    split
    · rename_i hlt
      refine List.pairwise_cons.2 ⟨fun e he => ?_, h⟩
      rcases List.mem_cons.1 he with rfl | he
      · exact hlt
      · exact String.lt_trans hlt (hhead e he)
    · split
      · rename_i _ heq
        exact List.pairwise_cons.2 ⟨fun e he => heq ▸ hhead e he, htail⟩
      · rename_i hlt hne
        refine List.pairwise_cons.2 ⟨fun e he => ?_, ih htail⟩
        rcases mem_put he with rfl | he
        · exact Decidable.byContradiction fun hgt =>
          hne (String.le_antisymm (String.not_lt.1 hgt) (String.not_lt.1 hlt))
        · exact hhead e he

end Table

/-- A table from text to values. -/
structure Table (α : Type) where
  entries : List (String × α)
  ascending : Table.Ascending entries

namespace Table

instance [DecidableEq α] : DecidableEq (Table α) := fun s t =>
  if h : s.entries = t.entries then
    .isTrue (by cases s; cases t; cases h; rfl)
  else .isFalse fun hst => h (hst ▸ rfl)

def empty : Table α := ⟨[], .nil⟩

instance : Inhabited (Table α) := ⟨empty⟩

/-- Puts a value under a key, replacing the one there. -/
def insert (t : Table α) (key : String) (value : α) : Table α :=
  ⟨put key value t.entries, ascending_put t.ascending⟩

/-- The value under a key. -/
def get? (t : Table α) (key : String) : Option α :=
  (t.entries.find? fun e => e.1 == key).map Prod.snd

def contains (t : Table α) (key : String) : Bool := (t.get? key).isSome

/-- The keys, ascending. -/
def keys (t : Table α) : List String := t.entries.map Prod.fst

/-- A table from entries in any order; of two under one key the later counts. -/
def ofList (entries : List (String × α)) : Table α :=
  entries.foldl (fun t e => t.insert e.1 e.2) empty

end Table

end HealthRelay
