import HealthRelay.Proofs.Json.Records

/-!
What may be done to an object without a record being read differently: its members may be put in
another order, members for no field may come in, and a member may go whose value is what an absent
one counts as.
-/
namespace HealthRelay.Json

variable {α : Type} {fields : List Expected} {found found' : Members} {f : Expected}
  {m : Outline × Outline} {members members' before after : List (Outline × Outline)}
  {o o' value value' : Outline} {key description : String}

/-! Changes. -/

/-- A member for the field may go that has this value: an absent one counts as the same. -/
def RecordField.IsVacant (f : RecordField α) (o : Outline) : Prop :=
  ∃ a, f.absent = some a ∧ f.read o = .ok a

/-- A field of a record, and what may be done to values of it without their being read
differently. -/
structure Slot where
  {α : Type}
  field : RecordField α
  change : Outline → Outline → Prop
  kept : ∀ {o o' : Outline} {a : α}, change o o' → field.read o = .ok a → field.read o' = .ok a

/-- A field whose values stay as they are. -/
def RecordField.slot (f : RecordField α) : Slot where
  field := f
  change _ _ := False
  kept := nofun

namespace Slot

def name (w : Slot) : String := w.field.name

def expected (w : Slot) : Expected := w.field.expected

/-- The field, with the type of its values. -/
def typed (w : Slot) : (α : Type) × RecordField α := ⟨w.α, w.field⟩

end Slot

/-- One change of an object that is to be read as a record with the given fields. -/
inductive RecordChange (slots : List Slot) : Outline → Outline → Prop where
  /-- The members come in another order. -/
  | permute {members members' : List (Outline × Outline)} (h : members.Perm members') :
    RecordChange slots (.object members true) (.object members' true)
  /-- A member comes in that no field is named after. -/
  | insert {before after : List (Outline × Outline)} {key : String} {value : Outline}
    (h : ∀ w ∈ slots, w.name ≠ key) :
    RecordChange slots (.object (before ++ after) true)
      (.object (before ++ (.string (some key), value) :: after) true)
  /-- A member goes that has the value an absent one counts as. -/
  | remove {before after : List (Outline × Outline)} {value : Outline} {w : Slot} (hw : w ∈ slots)
    (h : w.field.IsVacant value) :
    RecordChange slots (.object (before ++ (.string (some w.name), value) :: after) true)
      (.object (before ++ after) true)
  /-- The value of a field changes. -/
  | within {before after : List (Outline × Outline)} {value value' : Outline} {w : Slot}
    (hw : w ∈ slots) (h : w.change value value') :
    RecordChange slots (.object (before ++ (.string (some w.name), value) :: after) true)
      (.object (before ++ (.string (some w.name), value') :: after) true)

section

variable {slots : List Slot} {w : Slot}

theorem Admits.of_permute (h : Admits fields members) (hperm : members.Perm members') :
    Admits fields members' := by
  have hknown : (known fields members).Perm (known fields members') := hperm.filterMap _
  have hnames := hknown.map Prod.fst
  constructor
  · intro m hm
    exact h.keys m (hperm.mem_iff.2 hm)
  · exact hnames.nodup_iff.1 h.distinct
  · intro f hf o ho
    exact h.checked f hf o (hknown.mem_iff.2 ho)
  · intro f hf hrequired
    exact hnames.mem_iff.1 (h.present f hf hrequired)

theorem keys_middle :
    (∀ m ∈ before ++ (.string (some key), value) :: after, ∃ k, m.1 = .string (some k)) ↔
      ∀ m ∈ before ++ after, ∃ k, m.1 = .string (some k) := by
  rw [List.forall_mem_append, List.forall_mem_cons, List.forall_mem_append]
  exact and_congr_right fun _ => and_iff_right ⟨key, rfl⟩

theorem get?_congr (hfound : (found.map Prod.fst).Nodup) (hfound' : (found'.map Prod.fst).Nodup)
    (h : ∀ o, (key, o) ∈ found ↔ (key, o) ∈ found') : found.get? key = found'.get? key := by
  ext o
  rw [Members.get?_eq_some_iff hfound, Members.get?_eq_some_iff hfound']
  exact h o

theorem Admits.of_insert (h : Admits fields (before ++ after)) (hkey : ∀ f ∈ fields, f.name ≠ key) :
    Admits fields (before ++ (.string (some key), value) :: after) := by
  have hknown := @known_other fields before after value key hkey
  constructor
  · exact keys_middle.2 h.keys
  · rw [hknown]
    exact h.distinct
  · rw [hknown]
    exact h.checked
  · rw [hknown]
    exact h.present

theorem known_append (before after : List (Outline × Outline)) :
    known fields (before ++ after) = known fields before ++ known fields after :=
  List.filterMap_append

theorem Admits.of_remove (hnodup : (fields.map Expected.name).Nodup) (hf : f ∈ fields)
    (h : Admits fields (before ++ (.string (some f.name), value) :: after))
    (hoptional : f.required = false) : Admits fields (before ++ after) := by
  have hknown := @known_field fields f before after value hf
  have hfewer : (known fields (before ++ after)).Sublist
      (known fields (before ++ (.string (some f.name), value) :: after)) := by
    rw [hknown, known_append]
    exact (List.sublist_cons_self _ _).append_left _
  constructor
  · exact keys_middle.1 h.keys
  · exact (hfewer.map Prod.fst).nodup h.distinct
  · intro g hg o ho
    exact h.checked g hg o (hfewer.subset ho)
  · intro g hg hrequired
    have hpresent := h.present g hg hrequired
    have hne : g.name ≠ f.name := by
      intro heq
      rw [eq_of_name_eq hnodup hg hf heq, hoptional] at hrequired
      cases hrequired
    rw [hknown] at hpresent
    rw [known_append]
    simpa [hne] using hpresent

theorem Admits.of_within (hnodup : (fields.map Expected.name).Nodup) (hf : f ∈ fields)
    (h : Admits fields (before ++ (.string (some f.name), value) :: after))
    (hcheck : f.check value' = .ok ()) :
    Admits fields (before ++ (.string (some f.name), value') :: after) := by
  have hknown := @known_field fields f before after value hf
  have hknown' := @known_field fields f before after value' hf
  have hnames : (known fields (before ++ (.string (some f.name), value') :: after)).map Prod.fst =
      (known fields (before ++ (.string (some f.name), value) :: after)).map Prod.fst := by
    simp [hknown, hknown']
  constructor
  · exact keys_middle.2 (keys_middle.1 h.keys)
  · rw [hnames]
    exact h.distinct
  · intro g hg o ho
    rw [hknown'] at ho
    rcases List.mem_append.1 ho with ho | ho
    · exact h.checked g hg o (hknown ▸ List.mem_append_left _ ho)
    rcases List.mem_cons.1 ho with heq | ho
    · obtain ⟨hname, rfl⟩ := Prod.mk.inj heq
      rwa [eq_of_name_eq hnodup hg hf hname]
    · exact h.checked g hg o (hknown ▸ List.mem_append_right _ (List.mem_cons_of_mem _ ho))
  · intro g hg hrequired
    rw [hnames]
    exact h.present g hg hrequired

theorem RecordField.of_congr {g : RecordField α} (h : found.get? g.name = found'.get? g.name) :
    g.of found = g.of found' := by
  rw [of, of, h]

theorem RecordField.check_eq_ok {g : RecordField α} :
    g.expected.check o = .ok () ↔ ∃ a, g.read o = .ok a := by
  simp only [expected]
  cases hread : g.read o <;> simp [Except.map]

theorem mem_known_field (hf : f ∈ fields) :
    (f.name, o) ∈ known fields (before ++ (.string (some f.name), o) :: after) := by
  rw [known_field hf]
  exact List.mem_append_right _ List.mem_cons_self

theorem notMem_known_of_distinct (hf : f ∈ fields)
    (h : ((known fields (before ++ (.string (some f.name), value) :: after)).map Prod.fst).Nodup) :
    f.name ∉ (known fields (before ++ after)).map Prod.fst := by
  rw [known_field hf, List.map_append, List.map_cons] at h
  rw [known_append, List.map_append]
  exact (List.nodup_cons.1 (List.nodup_middle.1 h)).1

theorem of_absent {g : RecordField α} (h : g.name ∉ found.map Prod.fst) :
    g.of found =
      g.absent.elim (.error (.content ("missing field `" ++ g.name ++ "`"))) .ok := by
  rw [RecordField.of, Members.get?_eq_none h]

theorem notMem_before_of_distinct (hf : f ∈ fields)
    (h : ((known fields (before ++ (.string (some f.name), value) :: after)).map Prod.fst).Nodup) :
    f.name ∉ (known fields before).map Prod.fst := by
  have hnew := notMem_known_of_distinct hf h
  rw [known_append, List.map_append, List.mem_append, not_or] at hnew
  exact hnew.1

theorem get?_middle (hnew : key ∉ found.map Prod.fst) :
    Members.get? (found ++ (key, o) :: found') key = some o := by
  have hnone := Members.get?_eq_none hnew
  rw [Members.get?, Option.map_eq_none_iff] at hnone
  simp [Members.get?, List.find?_append, hnone]

/-- Other fields do not see one member. -/
theorem get?_middle_of_ne {other : String} (hne : other ≠ key) :
    Members.get? (found ++ (key, o) :: found') other = Members.get? (found ++ found') other := by
  simp [Members.get?, List.find?_append, hne.symm]

theorem of_middle {g : RecordField α} (hnew : g.name ∉ found.map Prod.fst) :
    g.of (found ++ (g.name, o) :: found') = g.read o := by
  rw [RecordField.of, get?_middle hnew]

theorem of_middle_of_ne {g : RecordField α} (hne : g.name ≠ key) :
    g.of (found ++ (key, o) :: found') = g.of (found ++ found') :=
  RecordField.of_congr (get?_middle_of_ne hne)

/-- A record is found in another object too that has another value for one field. -/
theorem readMembers_object_put (hnodup : (fields.map Expected.name).Nodup) (hf : f ∈ fields)
    (hread : readMembers description fields
      (.object (before ++ (.string (some f.name), value) :: after) true) = .ok found) :
    ∃ earlier later, f.name ∉ earlier.map Prod.fst ∧ found = earlier ++ (f.name, value) :: later ∧
      (f.check value' = .ok () → readMembers description fields
        (.object (before ++ (.string (some f.name), value') :: after) true) =
          .ok (earlier ++ (f.name, value') :: later)) := by
  obtain ⟨hadmits, rfl⟩ := (readMembers_object_iff hnodup).1 hread
  refine ⟨known fields before, known fields after, notMem_before_of_distinct hf hadmits.distinct,
    known_field hf, ?_⟩
  intro hcheck
  rw [readMembers_object_iff hnodup, ← known_field hf]
  exact ⟨hadmits.of_within hnodup hf hcheck, rfl⟩

/-- A record is found in a changed object too, and each of its fields has the value it had. -/
theorem readMembers_change (hnodup : (slots.map Slot.name).Nodup) (h : RecordChange slots o o')
    (hread : readMembers description (slots.map Slot.expected) o = .ok found) :
    ∃ found', readMembers description (slots.map Slot.expected) o' = .ok found' ∧
      ∀ w ∈ slots, w.field.of found' = w.field.of found := by
  have hfields : ((slots.map Slot.expected).map Expected.name).Nodup := by
    rwa [List.map_map]
  have hslot {u w : Slot} (hu : u ∈ slots) (hw : w ∈ slots) (heq : u.name = w.name) : u = w :=
    List.inj_on_of_nodup_map hnodup hu hw heq
  cases h with
  | permute hperm =>
    obtain ⟨hadmits, rfl⟩ := (readMembers_object_iff hfields).1 hread
    have hadmits' := hadmits.of_permute hperm
    refine ⟨_, (readMembers_object_iff hfields).2 ⟨hadmits', rfl⟩, ?_⟩
    intro w hw
    apply RecordField.of_congr
    apply get?_congr hadmits'.distinct hadmits.distinct
    intro o
    exact ((hperm.filterMap (knownMember? _)).mem_iff).symm
  | @insert before after key value hkey =>
    have hother : ∀ f ∈ slots.map Slot.expected, f.name ≠ key := by
      intro f hf
      obtain ⟨w, hw, rfl⟩ := List.mem_map.1 hf
      exact hkey w hw
    obtain ⟨hadmits, rfl⟩ := (readMembers_object_iff hfields).1 hread
    refine ⟨_, (readMembers_object_iff hfields).2 ⟨hadmits.of_insert hother, rfl⟩, ?_⟩
    intro w hw
    rw [known_other hother]
  | @remove before after value w hw hvacant =>
    have hfield : w.expected ∈ slots.map Slot.expected := List.mem_map_of_mem hw
    obtain ⟨a, habsent, hvalue⟩ := hvacant
    have hoptional : w.expected.required = false := by
      simp [Slot.expected, RecordField.expected, habsent]
    obtain ⟨hadmits, rfl⟩ := (readMembers_object_iff hfields).1 hread
    refine ⟨_, (readMembers_object_iff hfields).2
      ⟨hadmits.of_remove hfields hfield hoptional, rfl⟩, ?_⟩
    intro u hu
    have hnew : w.name ∉ (known (slots.map Slot.expected) before).map Prod.fst :=
      notMem_before_of_distinct hfield hadmits.distinct
    have hknown : known (slots.map Slot.expected)
        (before ++ (.string (some w.name), value) :: after) =
        known (slots.map Slot.expected) before ++
          (w.name, value) :: known (slots.map Slot.expected) after :=
      known_field hfield
    rw [hknown]
    by_cases heq : u.name = w.name
    · obtain rfl := hslot hu hw heq
      rw [of_absent (notMem_known_of_distinct hfield hadmits.distinct), habsent]
      exact ((of_middle hnew).trans hvalue).symm
    · rw [known_append]
      exact (of_middle_of_ne heq).symm
  | @within before after value value' w hw hchange =>
    have hfield : w.expected ∈ slots.map Slot.expected := List.mem_map_of_mem hw
    have hadmits := ((readMembers_object_iff hfields).1 hread).1
    obtain ⟨a, hvalue⟩ := RecordField.check_eq_ok.1
      (hadmits.checked w.expected hfield value (mem_known_field hfield))
    have hvalue' := w.kept hchange hvalue
    obtain ⟨earlier, later, hnew, rfl, hagain⟩ := readMembers_object_put hfields hfield hread
    refine ⟨_, hagain (RecordField.check_eq_ok.2 ⟨a, hvalue'⟩), ?_⟩
    intro u hu
    by_cases heq : u.name = w.name
    · obtain rfl := hslot hu hw heq
      have hold : u.field.of (earlier ++ (u.name, value) :: later) = .ok a :=
        (of_middle hnew).trans hvalue
      exact ((of_middle hnew).trans hvalue').trans hold.symm
    · exact (of_middle_of_ne heq).trans (of_middle_of_ne heq).symm

/-- A changed object is read as a record whose fields have the same values. -/
theorem ReadAs.change {values : List FieldValue} (hread : ReadAs description values o)
    (hslots : values.map FieldValue.typed = slots.map Slot.typed)
    (hnodup : (values.map FieldValue.name).Nodup) (h : RecordChange slots o o') :
    ReadAs description values o' := by
  have hnames := congrArg (List.map fun f => f.2.name) hslots
  have hexpected := congrArg (List.map fun f => f.2.expected) hslots
  rw [List.map_map, List.map_map] at hnames hexpected
  change values.map FieldValue.name = slots.map Slot.name at hnames
  change values.map FieldValue.expected = slots.map Slot.expected at hexpected
  obtain ⟨found, hmembers, hvalues⟩ := hread
  rw [hexpected] at hmembers
  obtain ⟨found', hmembers', hof⟩ := readMembers_change (hnames ▸ hnodup) h hmembers
  refine ⟨found', hexpected ▸ hmembers', ?_⟩
  rw [List.forall_iff_forall_mem] at hvalues ⊢
  intro v hv
  have hfield : v.typed ∈ slots.map Slot.typed := hslots ▸ List.mem_map_of_mem hv
  -- The two fields can be taken for one only when their types are.
  obtain ⟨⟨field, change, kept⟩, hw, heq⟩ := List.mem_map.1 hfield
  obtain ⟨field', value⟩ := v
  cases heq
  exact (hof _ hw).trans (hvalues _ hv)

end

end HealthRelay.Json
