import HealthRelay.Proofs.Json.Variants

/-!
Another value in one place of a value that is read as a record: the record has another value in one
field, and is the same in all others.
-/
namespace HealthRelay.Json

variable {α : Type} {fields : List Expected} {f : Expected} {g : RecordField α} {found : Members}
  {o o' new old old' : Outline} {a a' : α} {path : List (String × Nat)} {description : String}
  {index : Nat}

/-- The second value is the first with a new value at the end of a path through records. A step of
the path is a field: its name, for a record that stands as an object, and its index, for one that
stands as an array. -/
inductive Outline.Put (new : Outline) : List (String × Nat) → Outline → Outline → Prop where
  | here (old : Outline) : Put new [] old new
  | member {key : String} {index : Nat} {path : List (String × Nat)} {old old' : Outline}
    (before after : List (Outline × Outline)) (h : Put new path old old') :
    Put new ((key, index) :: path) (.object (before ++ (.string (some key), old) :: after) true)
      (.object (before ++ (.string (some key), old') :: after) true)
  | item {key : String} {path : List (String × Nat)} {old old' : Outline}
    (before after : List Outline) (h : Put new path old old') :
    Put new ((key, before.length) :: path) (.array (before ++ old :: after) true)
      (.array (before ++ old' :: after) true)

/-- The items of another array are those of a record too if one item differs, and the field at its
index can read it. -/
theorem pairItems_put {before after : List Outline} (hnodup : (fields.map Expected.name).Nodup)
    (hf : fields[before.length]? = some f)
    (hread : pairItems description true index fields (before ++ old :: after) = .ok found) :
    ∃ earlier later, f.name ∉ earlier.map Prod.fst ∧ found = earlier ++ (f.name, old) :: later ∧
      (f.check old' = .ok () →
        pairItems description true index fields (before ++ old' :: after) =
          .ok (earlier ++ (f.name, old') :: later)) := by
  induction before generalizing fields index found with
  | nil =>
    cases fields with
    | nil => cases hf
    | cons first fields =>
      obtain rfl : first = f := by simpa using hf
      obtain ⟨u, -, hpair⟩ := bind_eq_ok.1 hread
      obtain ⟨rest, hrest, hfound⟩ := bind_eq_ok.1 hpair
      obtain rfl := Except.ok.inj hfound
      refine ⟨[], rest, List.not_mem_nil, rfl, ?_⟩
      intro hcheck
      exact bind_eq_ok.2 ⟨(), hcheck, bind_eq_ok.2 ⟨rest, hrest, rfl⟩⟩
  | cons item before ih =>
    cases fields with
    | nil => cases hf
    | cons first fields =>
      rw [List.length_cons, List.getElem?_cons_succ] at hf
      rw [List.map_cons, List.nodup_cons] at hnodup
      obtain ⟨u, hfirst, hpair⟩ := bind_eq_ok.1 hread
      obtain ⟨rest, hrest, hfound⟩ := bind_eq_ok.1 hpair
      obtain rfl := Except.ok.inj hfound
      obtain ⟨earlier, later, hnew, rfl, hagain⟩ := ih hnodup.2 hf hrest
      refine ⟨(first.name, item) :: earlier, later, ?_, rfl, ?_⟩
      · have hne : f.name ≠ first.name := by
          intro heq
          exact hnodup.1 (heq ▸ List.mem_map_of_mem (List.mem_of_getElem? hf))
        rw [List.map_cons, List.mem_cons, not_or]
        exact ⟨hne, hnew⟩
      · intro hcheck
        exact bind_eq_ok.2 ⟨u, hfirst, bind_eq_ok.2 ⟨_, hagain hcheck, rfl⟩⟩

/-- With another value in one place, a record is found again: the field at the first step has the
value that is read there now, and the other fields have what they had. -/
theorem readMembers_put (hread : readMembers description fields o = .ok found)
    (hof : g.of found = .ok a) (hput : Outline.Put new ((g.name, index) :: path) o o')
    (hnodup : (fields.map Expected.name).Nodup) (hg : fields[index]? = some g.expected)
    (hvalue : ∀ old old' : Outline, Outline.Put new path old old' → g.read old = .ok a →
      g.read old' = .ok a') :
    ∃ found', readMembers description fields o' = .ok found' ∧ g.of found' = .ok a' ∧
      ∀ (β : Type) (h : RecordField β), h.name ≠ g.name → h.of found' = h.of found := by
  -- In an object and in an array alike, what is found is the same around the member in question.
  obtain ⟨old, old', hinner, earlier, later, hnew, rfl, hagain⟩ :
      ∃ old old', Outline.Put new path old old' ∧ ∃ earlier later,
        g.name ∉ earlier.map Prod.fst ∧ found = earlier ++ (g.name, old) :: later ∧
        (g.expected.check old' = .ok () →
          readMembers description fields o' = .ok (earlier ++ (g.name, old') :: later)) := by
    cases hput with
    | member before after hinner =>
      have hfield : g.expected ∈ fields := List.mem_of_getElem? hg
      exact ⟨_, _, hinner, readMembers_object_put hnodup hfield hread⟩
    | item before after hinner => exact ⟨_, _, hinner, pairItems_put hnodup hg hread⟩
  rw [of_middle hnew] at hof
  have hread' : g.read old' = .ok a' := hvalue old old' hinner hof
  refine ⟨_, hagain (RecordField.check_eq_ok.2 ⟨a', hread'⟩), ?_, ?_⟩
  · rw [of_middle hnew, hread']
  · intro β h hne
    exact (of_middle_of_ne hne).trans (of_middle_of_ne hne).symm

/-- A record with another value in one place is read as one with another value of that field. -/
theorem ReadAs.put (before : List FieldValue) {after : List FieldValue}
    (hread : ReadAs description (before ++ ⟨g, a⟩ :: after) o)
    (hput : Outline.Put new ((g.name, before.length) :: path) o o')
    (hnodup : ((before ++ ⟨g, a⟩ :: after).map FieldValue.name).Nodup)
    (hvalue : ∀ old old' : Outline, Outline.Put new path old old' → g.read old = .ok a →
      g.read old' = .ok a') :
    ReadAs description (before ++ ⟨g, a'⟩ :: after) o' := by
  obtain ⟨found, hmembers, hvalues⟩ := hread
  rw [List.forall_iff_forall_mem] at hvalues
  have hof : g.of found = .ok a := hvalues ⟨g, a⟩ (by simp)
  have hnames :
      (((before ++ ⟨g, a⟩ :: after).map FieldValue.expected).map Expected.name).Nodup := by
    rwa [List.map_map]
  have hg : ((before ++ ⟨g, a⟩ :: after).map FieldValue.expected)[before.length]? =
      some g.expected := by
    simp [FieldValue.expected]
  obtain ⟨found', hmembers', hof', hsame⟩ :=
    readMembers_put hmembers hof hput hnames hg hvalue
  refine ⟨found', by simpa [FieldValue.expected] using hmembers', ?_⟩
  rw [List.forall_iff_forall_mem]
  intro w hw
  rcases List.mem_cons.1 (List.perm_middle.mem_iff.1 hw) with rfl | hother
  · exact hof'
  · have hne : w.name ≠ g.name := by
      intro heq
      rw [List.map_append, List.map_cons, List.nodup_middle, ← List.map_append] at hnodup
      exact (List.nodup_cons.1 hnodup).1 (List.mem_map.2 ⟨w, hother, heq⟩)
    rw [hsame _ w.field hne]
    exact hvalues w (List.perm_middle.mem_iff.2 (List.mem_cons_of_mem _ hother))

end HealthRelay.Json
