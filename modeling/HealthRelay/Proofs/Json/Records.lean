import HealthRelay.Proofs.Json.Readers
import HealthRelay.Proofs.Json.Rendering
import Mathlib.Data.List.Nodup

/-!
Which objects are read as records: those with readable members for all fields that are required and
for some of the others, whatever else is in them. Among them are those that have one member for each
field.
-/
namespace HealthRelay.Json

variable {fields : List Expected} {entries : List (Expected × Outline)} {f : Expected}
  {found found' : Members} {m : Outline × Outline}
  {members before after : List (Outline × Outline)} {o value : Outline} {description key : String}

/-! Looking up. -/

theorem Members.get?_eq_none (h : key ∉ found.map Prod.fst) : found.get? key = none := by
  rw [Members.get?, List.find?_eq_none.2]
  · rfl
  · intro m hm heq
    exact h (beq_iff_eq.1 heq ▸ List.mem_map_of_mem hm)

theorem notMem_of_get?_eq_none (h : found.get? key = none) : key ∉ found.map Prod.fst := by
  intro hmem
  obtain ⟨m, hm, rfl⟩ := List.mem_map.1 hmem
  have hnone := List.find?_eq_none.1 (Option.map_eq_none_iff.1 h) m hm
  exact hnone (beq_self_eq_true m.1)

/-- Of members with different names, the one that is found is the one that is there. -/
theorem Members.get?_eq_some_iff (hnodup : (found.map Prod.fst).Nodup) :
    found.get? key = some o ↔ (key, o) ∈ found := by
  constructor
  · intro h
    obtain ⟨⟨name, o'⟩, hfind, rfl⟩ := Option.map_eq_some_iff.1 h
    have hname := List.find?_some hfind
    obtain rfl := beq_iff_eq.1 hname
    exact List.mem_of_find?_eq_some hfind
  · intro h
    cases hfind : found.find? fun m => m.1 == key with
    | none => exact absurd (beq_self_eq_true key) (List.find?_eq_none.1 hfind _ h)
    | some m =>
      have hname := List.find?_some hfind
      have heq : m = (key, o) :=
        List.inj_on_of_nodup_map hnodup (List.mem_of_find?_eq_some hfind) h (beq_iff_eq.1 hname)
      rw [get?, hfind, heq]
      rfl

theorem nodup_snoc (h : (found.map Prod.fst).Nodup) (hnew : key ∉ found.map Prod.fst) :
    ((found ++ [(key, o)]).map Prod.fst).Nodup := by
  rw [List.map_append, List.map_singleton, ← List.concat_eq_append]
  exact h.concat hnew

theorem eq_of_name_eq (hnodup : (fields.map Expected.name).Nodup) {g : Expected} (hf : f ∈ fields)
    (hg : g ∈ fields) (h : f.name = g.name) : f = g :=
  List.inj_on_of_nodup_map hnodup hf hg h

theorem find?_field (hnodup : (fields.map Expected.name).Nodup) (hf : f ∈ fields) :
    fields.find? (fun g => g.name == f.name) = some f := by
  cases hfind : fields.find? fun g => g.name == f.name with
  | none => exact absurd (beq_self_eq_true f.name) (List.find?_eq_none.1 hfind f hf)
  | some g =>
    have hname := List.find?_some hfind
    rw [eq_of_name_eq hnodup (List.mem_of_find?_eq_some hfind) hf (beq_iff_eq.1 hname)]

theorem find?_eq_none_of_other (h : ∀ f ∈ fields, f.name ≠ key) :
    (fields.find? fun f => f.name == key) = none := by
  rw [List.find?_eq_none]
  intro f hf
  simpa using h f hf

/-! The members for fields. -/

/-- The member as that of a field, if it is one. -/
def knownMember? (fields : List Expected) (m : Outline × Outline) : Option (String × Outline) :=
  match m.1 with
  | .string (some key) => (fields.find? fun f => f.name == key).map fun _ => (key, m.2)
  | _ => none

/-- The members for fields. -/
def known (fields : List Expected) (members : List (Outline × Outline)) : Members :=
  members.filterMap (knownMember? fields)

theorem knownMember?_field (hf : f ∈ fields) :
    knownMember? fields (.string (some f.name), o) = some (f.name, o) := by
  have hfind : (fields.find? fun g => g.name == f.name).isSome = true := by
    rw [List.find?_isSome]
    exact ⟨f, hf, beq_self_eq_true f.name⟩
  obtain ⟨g, hg⟩ := Option.isSome_iff_exists.1 hfind
  simp [knownMember?, hg]

theorem knownMember?_other (h : ∀ f ∈ fields, f.name ≠ key) :
    knownMember? fields (.string (some key), o) = none := by
  simp [knownMember?, find?_eq_none_of_other h]

theorem known_field (hf : f ∈ fields) :
    known fields (before ++ (.string (some f.name), o) :: after) =
      known fields before ++ (f.name, o) :: known fields after := by
  simp [known, knownMember?_field hf]

theorem known_other (h : ∀ f ∈ fields, f.name ≠ key) :
    known fields (before ++ (.string (some key), o) :: after) = known fields (before ++ after) := by
  simp [known, knownMember?_other h]

theorem known_cons_field (hf : f ∈ fields) (hm : m.1 = .string (some f.name)) :
    known fields (m :: members) = (f.name, m.2) :: known fields members := by
  obtain ⟨_, o⟩ := m
  obtain rfl := hm
  exact @known_field _ _ [] members _ hf

theorem known_cons_other (h : ∀ f ∈ fields, f.name ≠ key) (hm : m.1 = .string (some key)) :
    known fields (m :: members) = known fields members := by
  obtain ⟨_, o⟩ := m
  obtain rfl := hm
  exact @known_other _ [] members _ _ h

/-- The members are those of a record, whatever else there is. -/
structure Admits (fields : List Expected) (members : List (Outline × Outline)) : Prop where
  keys : ∀ m ∈ members, ∃ key, m.1 = .string (some key)
  distinct : ((known fields members).map Prod.fst).Nodup
  checked : ∀ f ∈ fields, ∀ o, (f.name, o) ∈ known fields members → f.check o = .ok ()
  present : ∀ f ∈ fields, f.required = true → f.name ∈ (known fields members).map Prod.fst

/-! Going through an object. -/

theorem addMember_other (h : (fields.find? fun f => f.name == key) = none) :
    addMember fields found (.string (some key), o) = .ok found := by
  simp [addMember, readKey, h, bind, Except.bind]

/-- One member for a field that has none yet. -/
theorem addMember_field (hnodup : (fields.map Expected.name).Nodup) (hf : f ∈ fields)
    (hnew : f.name ∉ found.map Prod.fst) (hcheck : f.check o = .ok ()) :
    addMember fields found (.string (some f.name), o) = .ok (found ++ [(f.name, o)]) := by
  have hget : found.get? f.name = none := Members.get?_eq_none hnew
  simp [addMember, readKey, find?_field hnodup hf, hget, hcheck, bind, Except.bind]

/-- One more member is passed over or belongs to a field. -/
theorem addMember_cases (h : addMember fields found m = .ok found') :
    (∃ key, m.1 = .string (some key) ∧ (∀ f ∈ fields, f.name ≠ key) ∧ found' = found) ∨
    (∃ f ∈ fields, m.1 = .string (some f.name) ∧ found.get? f.name = none ∧
      f.check m.2 = .ok () ∧ found' = found ++ [(f.name, m.2)]) := by
  obtain ⟨name, o⟩ := m
  rcases name with _ | _ | _ | _ | ⟨_ | key⟩ | _ | _
  case string.some =>
    cases hfind : fields.find? fun f => f.name == key with
    | none =>
      rw [addMember_other hfind] at h
      cases h
      refine .inl ⟨key, rfl, ?_, rfl⟩
      intro f hf
      simpa using List.find?_eq_none.1 hfind f hf
    | some f =>
      have hname := List.find?_some hfind
      obtain rfl := beq_iff_eq.1 hname
      refine .inr ⟨f, List.mem_of_find?_eq_some hfind, rfl, ?_⟩
      obtain ⟨name, hname, h⟩ := bind_eq_ok.1 h
      cases hname
      simp only [hfind] at h
      split at h
      · cases h
      case isFalse hnone =>
        have hnew : found.get? f.name = none := by simpa using hnone
        obtain ⟨u, hcheck, h⟩ := bind_eq_ok.1 h
        cases h
        exact ⟨hnew, hcheck, rfl⟩
  all_goals cases h

/-- Members that are found are those for fields, and no two of them for one field. -/
theorem admits_of_foldlM (hnodup : (fields.map Expected.name).Nodup)
    (hfound : (found.map Prod.fst).Nodup)
    (h : members.foldlM (addMember fields) found = .ok found') :
    (∀ m ∈ members, ∃ key, m.1 = .string (some key)) ∧ found' = found ++ known fields members ∧
      (found'.map Prod.fst).Nodup ∧
      ∀ f ∈ fields, ∀ o, (f.name, o) ∈ known fields members → f.check o = .ok () := by
  induction members generalizing found with
  | nil =>
    cases h
    exact ⟨nofun, (List.append_nil _).symm, hfound, nofun⟩
  | cons m members ih =>
    rw [List.foldlM_cons] at h
    obtain ⟨more, hadd, hrest⟩ := bind_eq_ok.1 h
    rcases addMember_cases hadd with
      ⟨key, hkey, hother, rfl⟩ | ⟨f, hf, hkey, hnew, hcheck, rfl⟩
    · obtain ⟨hkeys, hknown, hdistinct, hchecked⟩ := ih hfound hrest
      rw [known_cons_other hother hkey]
      exact ⟨List.forall_mem_cons.2 ⟨⟨key, hkey⟩, hkeys⟩, hknown, hdistinct, hchecked⟩
    · obtain ⟨hkeys, hknown, hdistinct, hchecked⟩ :=
        ih (nodup_snoc hfound (notMem_of_get?_eq_none hnew)) hrest
      rw [known_cons_field hf hkey]
      refine ⟨List.forall_mem_cons.2 ⟨⟨f.name, hkey⟩, hkeys⟩, ?_, hdistinct, ?_⟩
      · rw [hknown, List.append_assoc, List.singleton_append]
      · intro g hg o hmem
        rcases List.mem_cons.1 hmem with heq | hmem
        · obtain ⟨hname, rfl⟩ := Prod.mk.inj heq
          rwa [eq_of_name_eq hnodup hg hf hname]
        · exact hchecked g hg o hmem

theorem foldlM_known (hnodup : (fields.map Expected.name).Nodup)
    (hkeys : ∀ m ∈ members, ∃ key, m.1 = .string (some key))
    (hdistinct : ((found ++ known fields members).map Prod.fst).Nodup)
    (hchecked : ∀ f ∈ fields, ∀ o, (f.name, o) ∈ known fields members → f.check o = .ok ()) :
    members.foldlM (addMember fields) found = .ok (found ++ known fields members) := by
  induction members generalizing found with
  | nil => exact congrArg Except.ok (List.append_nil found).symm
  | cons m members ih =>
    obtain ⟨hkey, hkeys⟩ := List.forall_mem_cons.1 hkeys
    obtain ⟨key, hkey⟩ := hkey
    rw [List.foldlM_cons]
    by_cases hfield : ∃ f ∈ fields, f.name = key
    · obtain ⟨f, hf, rfl⟩ := hfield
      rw [known_cons_field hf hkey] at hdistinct hchecked ⊢
      have hnew : f.name ∉ found.map Prod.fst := by
        intro hmem
        rw [List.map_append] at hdistinct
        exact (List.nodup_append.1 hdistinct).2.2 _ hmem _ List.mem_cons_self rfl
      have hadd := addMember_field hnodup hf hnew (hchecked f hf m.2 List.mem_cons_self)
      rw [← hkey] at hadd
      have hrest := @ih (found ++ [(f.name, m.2)]) hkeys (by simpa using hdistinct)
        fun g hg o hmem => hchecked g hg o (List.mem_cons_of_mem _ hmem)
      rw [List.append_assoc, List.singleton_append] at hrest
      exact bind_eq_ok.2 ⟨_, hadd, hrest⟩
    · have hother : ∀ f ∈ fields, f.name ≠ key := fun f hf heq => hfield ⟨f, hf, heq⟩
      rw [known_cons_other hother hkey] at hdistinct hchecked ⊢
      have hadd : addMember fields found m = .ok found := by
        obtain ⟨_, o⟩ := m
        obtain rfl := hkey
        exact addMember_other (find?_eq_none_of_other hother)
      exact bind_eq_ok.2 ⟨found, hadd, ih hkeys hdistinct hchecked⟩

theorem missing_eq_nil_iff :
    missing fields found = [] ↔
      ∀ f ∈ fields, f.required = true → f.name ∈ found.map Prod.fst := by
  rw [missing, List.filter_eq_nil_iff]
  refine forall₂_congr fun f _ => ?_
  rw [Bool.and_eq_true, not_and, Option.isNone_iff_eq_none]
  constructor
  · intro h hrequired
    by_contra hnone
    exact h hrequired (Members.get?_eq_none hnone)
  · intro h hrequired hnone
    exact notMem_of_get?_eq_none hnone (h hrequired)

/-- An object is read as a record if its members are those of one. -/
theorem readMembers_object_iff (hnodup : (fields.map Expected.name).Nodup) :
    readMembers description fields (.object members true) = .ok found ↔
      Admits fields members ∧ found = known fields members := by
  constructor
  · intro h
    obtain ⟨all, hfold, h⟩ := bind_eq_ok.1 h
    obtain ⟨hkeys, hall, hdistinct, hchecked⟩ := admits_of_foldlM hnodup (by simp) hfold
    obtain rfl : all = known fields members := hall
    cases hmissing : missing fields (known fields members) with
    | cons f rest => simp [hmissing] at h
    | nil =>
      have hfound : known fields members = found := by simpa [hmissing] using h
      exact ⟨⟨hkeys, hdistinct, hchecked, missing_eq_nil_iff.1 hmissing⟩, hfound.symm⟩
  · rintro ⟨⟨hkeys, hdistinct, hchecked, hpresent⟩, rfl⟩
    have hfold := @foldlM_known fields [] members hnodup hkeys hdistinct hchecked
    have hmissing := missing_eq_nil_iff.2 hpresent
    exact bind_eq_ok.2 ⟨_, hfold, by simp [hmissing]⟩

/-! Objects with one member for each field. -/

/-- The members of an object with values for fields. -/
def membersOf (entries : List (Expected × Outline)) : List (Outline × Outline) :=
  entries.map fun e => (.string (some e.1.name), e.2)

/-- The same members by name. -/
def foundIn (entries : List (Expected × Outline)) : Members :=
  entries.map fun e => (e.1.name, e.2)

theorem known_membersOf (h : ∀ e ∈ entries, e.1 ∈ fields) :
    known fields (membersOf entries) = foundIn entries := by
  induction entries with
  | nil => rfl
  | cons e entries ih =>
    obtain ⟨hfield, hrest⟩ := List.forall_mem_cons.1 h
    rw [membersOf, List.map_cons, known_cons_field hfield rfl]
    exact congrArg (_ :: ·) (ih hrest)

theorem Members.get?_foundIn_of_mem (hnodup : (entries.map fun e => e.1.name).Nodup)
    {e : Expected × Outline} (he : e ∈ entries) :
    Members.get? (foundIn entries) e.1.name = some e.2 := by
  rw [get?_eq_some_iff]
  · exact List.mem_map.2 ⟨e, he, rfl⟩
  · rwa [foundIn, List.map_map]

/-- An object with one member for each field in order is a record. -/
theorem readMembers_listed (hnodup : (entries.map fun e => e.1.name).Nodup)
    (hcheck : ∀ e ∈ entries, e.1.check e.2 = .ok ()) :
    readMembers description (entries.map Prod.fst) (.object (membersOf entries) true) =
      .ok (foundIn entries) := by
  have hfields : ((entries.map Prod.fst).map Expected.name).Nodup := by rwa [List.map_map]
  have hknown : known (entries.map Prod.fst) (membersOf entries) = foundIn entries :=
    known_membersOf fun e he => List.mem_map_of_mem he
  rw [readMembers_object_iff hfields]
  refine ⟨?_, hknown.symm⟩
  constructor
  · intro m hm
    obtain ⟨e, -, rfl⟩ := List.mem_map.1 hm
    exact ⟨e.1.name, rfl⟩
  · rw [hknown, foundIn, List.map_map]
    exact hnodup
  · intro f hf o ho
    rw [hknown] at ho
    obtain ⟨e, he, heq⟩ := List.mem_map.1 ho
    obtain ⟨hname, rfl⟩ := Prod.mk.inj heq
    rw [eq_of_name_eq hfields hf (List.mem_map_of_mem he) hname.symm]
    exact hcheck e he
  · intro f hf _
    obtain ⟨e, he, rfl⟩ := List.mem_map.1 hf
    rw [hknown, foundIn, List.map_map]
    exact List.mem_map.2 ⟨e, he, rfl⟩

/-- What is read item by item is read back as a whole. -/
theorem mapM_of_read {β γ : Type} {write : γ → β} {read : β → Except Fault γ} {values : List γ}
    (h : ∀ v ∈ values, read (write v) = .ok v) : (values.map write).mapM read = .ok values := by
  induction values with
  | nil => rfl
  | cons v values ih =>
    have hrest := ih fun u hu => h u (List.mem_cons_of_mem _ hu)
    rw [List.map_cons, List.mapM_cons, h v List.mem_cons_self, hrest]
    rfl

/-- A list of records is read back if each of them is. -/
theorem readArray_map {α : Type} {write : α → Json} {read : Reader α} {values : List α}
    (h : ∀ v ∈ values, read (write v).outline = .ok v) :
    readArray read (Json.array (values.map write)).outline = .ok values := by
  have hitems := @mapM_of_read Outline α (fun v => (write v).outline) read values h
  rw [outline, outlineItems_eq, List.map_map]
  simp only [readArray, Function.comp_def, hitems]
  rfl

theorem wellFormed_array_map {α : Type} {write : α → Json} {values : List α}
    (h : ∀ v ∈ values, (write v).WellFormed) : (Json.array (values.map write)).WellFormed := by
  refine .array ?_
  intro j hj
  obtain ⟨v, hv, rfl⟩ := List.mem_map.1 hj
  exact h v hv

/-- A field and a value for it. -/
structure FieldValue where
  {α : Type}
  field : RecordField α
  value : α

namespace FieldValue

def name (w : FieldValue) : String := w.field.name

def expected (w : FieldValue) : Expected := w.field.expected

/-- The field, with the type of its values. -/
def typed (w : FieldValue) : (α : Type) × RecordField α := ⟨w.α, w.field⟩

end FieldValue

/-- What is read as a record whose fields have these values. -/
def ReadAs (description : String) (values : List FieldValue) (o : Outline) : Prop :=
  ∃ found, readMembers description (values.map FieldValue.expected) o = .ok found ∧
    values.Forall fun w => w.field.of found = .ok w.value

/-- A field and what is written for it, which the field reads as the value it is written for. -/
structure Written where
  {α : Type}
  field : RecordField α
  json : Json
  value : α
  wellFormed : json.WellFormed
  reads : field.read json.outline = .ok value

namespace Written

variable {ws : List Written}

def name (w : Written) : String := w.field.name

def entry (w : Written) : Expected × Outline := (w.field.expected, w.json.outline)

def fieldValue (w : Written) : FieldValue := ⟨w.field, w.value⟩

/-- The object with these members. -/
def toJson (ws : List Written) : Json := .object (ws.map fun w => (w.name, w.json))

theorem outline_toJson : (toJson ws).outline = .object (membersOf (ws.map entry)) true := by
  rw [toJson, outline, outlineMembers_eq, membersOf, List.map_map, List.map_map]
  rfl

theorem wellFormed_toJson (ws : List Written) : (toJson ws).WellFormed := by
  refine .object ?_
  intro m hm
  obtain ⟨w, -, rfl⟩ := List.mem_map.1 hm
  exact w.wellFormed

theorem nodup_entries (hnodup : (ws.map Written.name).Nodup) :
    ((ws.map entry).map fun e => e.1.name).Nodup := by
  rwa [List.map_map]

/-- An object with one member for each field in order is read as a record. -/
theorem readMembers_toJson (description : String) (hnodup : (ws.map Written.name).Nodup) :
    readMembers description (ws.map fun w => w.field.expected) (toJson ws).outline =
      .ok (foundIn (ws.map entry)) := by
  have hcheck : ∀ e ∈ ws.map entry, e.1.check e.2 = .ok () := by
    intro e he
    obtain ⟨w, -, rfl⟩ := List.mem_map.1 he
    simp [entry, RecordField.expected, w.reads, Except.map]
  have hlisted := @readMembers_listed (ws.map entry) description (nodup_entries hnodup) hcheck
  rwa [List.map_map, ← outline_toJson] at hlisted

/-- Each field has the value that was written for it. -/
theorem of_toJson (hnodup : (ws.map Written.name).Nodup) :
    ws.Forall fun w => w.field.of (foundIn (ws.map entry)) = .ok w.value := by
  rw [List.forall_iff_forall_mem]
  intro w hw
  have hget : Members.get? (foundIn (ws.map entry)) w.field.name = some w.json.outline :=
    Members.get?_foundIn_of_mem (nodup_entries hnodup) (List.mem_map_of_mem hw)
  rw [RecordField.of, hget]
  exact w.reads

/-- It is read as a record whose fields have the values that were written for them. -/
theorem readAs_toJson (ws : List Written) (description : String)
    (hnodup : (ws.map Written.name).Nodup) :
    ReadAs description (ws.map fieldValue) (toJson ws).outline := by
  have hread := readMembers_toJson description hnodup
  refine ⟨foundIn (ws.map entry), by rwa [List.map_map], ?_⟩
  rw [List.forall_map_iff]
  exact of_toJson hnodup

end Written

end HealthRelay.Json
