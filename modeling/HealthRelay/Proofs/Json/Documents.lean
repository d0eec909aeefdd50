import HealthRelay.Proofs.Json.Readers
import HealthRelay.Proofs.Json.Recognition
import HealthRelay.Proofs.Json.Spelling

/-!
Which texts are documents of which values: a text is read as a value exactly if it is made of the
tokens that spell the value, with any white space between them.
-/
namespace HealthRelay.Json

variable {o v : Outline} {t : Token} {ts us rest : List Token} {frames : List Frame}
  {seen items : List Outline} {members : List (Outline × Outline)} {n : Nat} {text : String}

/-! The tokens that spell a value. -/

theorem separated_append (hts : Separated ts) (ht : ¬ t.IsNumber) (hus : Separated us) :
    Separated (ts ++ t :: us) := by
  refine List.isChain_append.2 ⟨hts, List.isChain_cons.2 ⟨?_, hus⟩, ?_⟩
  · intro u hu hnumbers
    exact ht hnumbers.1
  · intro u hu t' ht' hnumbers
    cases ht'
    exact ht hnumbers.2

theorem separated_itemTokens (h : ∀ item ∈ items, Separated item.tokens) :
    Separated (itemTokens items) := by
  induction items with
  | nil => exact .nil
  | cons item items ih =>
    have hitem := h item List.mem_cons_self
    cases items with
    | nil => exact hitem
    | cons next items =>
      rw [itemTokens_cons_cons]
      exact separated_append hitem id (ih fun i hi => h i (List.mem_cons_of_mem _ hi))

theorem separated_memberTokens (hkeys : ∀ m ∈ members, ∃ s, m.1 = .string s)
    (hvalues : ∀ m ∈ members, Separated m.2.tokens) : Separated (memberTokens members) := by
  induction members with
  | nil => exact .nil
  | cons m members ih =>
    obtain ⟨key, hkey⟩ := hkeys m List.mem_cons_self
    obtain ⟨_, value⟩ := m
    obtain rfl := hkey
    have hvalue := hvalues _ List.mem_cons_self
    have hmember : Separated ((Outline.string key).tokens ++ .colon :: value.tokens) :=
      separated_append (.singleton _) id hvalue
    cases members with
    | nil => exact hmember
    | cons next members =>
      rw [memberTokens_cons_cons]
      exact separated_append hmember id
        (ih (fun m hm => hkeys m (List.mem_cons_of_mem _ hm))
          (fun m hm => hvalues m (List.mem_cons_of_mem _ hm)))

/-- No two numerals come together where a value is spelled. -/
theorem Outline.Complete.separated (h : o.Complete) : Separated o.tokens := by
  induction h with
  | array hitems ih =>
    rw [Outline.tokens, ← List.nil_append (_ :: _ ++ _), List.cons_append]
    exact separated_append .nil id (separated_append (separated_itemTokens ih) id .nil)
  | object hkeys hvalues ih =>
    rw [Outline.tokens, ← List.nil_append (_ :: _ ++ _), List.cons_append]
    exact separated_append .nil id (separated_append (separated_memberTokens hkeys ih) id .nil)
  | _ => exact .singleton _

theorem itemTokens_cons (item : Outline) (items : List Outline) :
    itemTokens (item :: items) = item.tokens ++ items.flatMap fun i => .comma :: i.tokens := by
  induction items generalizing item with
  | nil => simp [itemTokens]
  | cons next items ih => rw [itemTokens_cons_cons, ih, List.flatMap_cons, List.cons_append]

/-- The tokens of one member. -/
def memberToken (m : Outline × Outline) : List Token := m.1.tokens ++ .colon :: m.2.tokens

theorem memberTokens_cons (m : Outline × Outline) (members : List (Outline × Outline)) :
    memberTokens (m :: members) =
      memberToken m ++ members.flatMap fun m => .comma :: memberToken m := by
  obtain ⟨key, value⟩ := m
  induction members generalizing key value with
  | nil => simp [memberTokens, memberToken]
  | cons next members ih =>
    rw [memberTokens_cons_cons, ih, List.flatMap_cons]
    simp [memberToken]

theorem mem_itemTokens (h : t ∈ itemTokens items) :
    t = .comma ∨ ∃ item ∈ items, t ∈ item.tokens := by
  cases items with
  | nil => cases h
  | cons item items =>
    rw [itemTokens_cons, List.mem_append, List.mem_flatMap] at h
    rcases h with h | ⟨i, hi, h⟩
    · exact .inr ⟨item, List.mem_cons_self, h⟩
    · rcases List.mem_cons.1 h with rfl | h
      · exact .inl rfl
      · exact .inr ⟨i, List.mem_cons_of_mem _ hi, h⟩

theorem mem_memberTokens (h : t ∈ memberTokens members) :
    t = .comma ∨ t = .colon ∨ ∃ m ∈ members, t ∈ m.1.tokens ∨ t ∈ m.2.tokens := by
  have hmember {m : Outline × Outline} (hm : m ∈ members) (h : t ∈ memberToken m) :
      t = .comma ∨ t = .colon ∨ ∃ m ∈ members, t ∈ m.1.tokens ∨ t ∈ m.2.tokens := by
    rcases List.mem_append.1 h with h | h
    · exact .inr (.inr ⟨m, hm, .inl h⟩)
    · rcases List.mem_cons.1 h with rfl | h
      · exact .inr (.inl rfl)
      · exact .inr (.inr ⟨m, hm, .inr h⟩)
  cases members with
  | nil => cases h
  | cons m members =>
    rw [memberTokens_cons, List.mem_append, List.mem_flatMap] at h
    rcases h with h | ⟨m', hm', h⟩
    · exact hmember List.mem_cons_self h
    · rcases List.mem_cons.1 h with rfl | h
      · exact .inl rfl
      · exact hmember (List.mem_cons_of_mem _ hm') h

/-- Nothing malformed spells a value. -/
theorem Outline.Complete.malformed_notMem (h : o.Complete) : .malformed ∉ o.tokens := by
  induction h with
  | array hitems ih =>
    intro hmem
    rw [Outline.tokens, List.cons_append] at hmem
    rcases List.mem_append.1 (List.mem_of_ne_of_mem Token.noConfusion hmem) with hmem | hmem
    · rcases mem_itemTokens hmem with hcomma | ⟨item, hitem, hmem⟩
      · cases hcomma
      · exact ih item hitem hmem
    · simp at hmem
  | object hkeys hvalues ih =>
    intro hmem
    rw [Outline.tokens, List.cons_append] at hmem
    rcases List.mem_append.1 (List.mem_of_ne_of_mem Token.noConfusion hmem) with hmem | hmem
    · rcases mem_memberTokens hmem with hcomma | hcolon | ⟨m, hm, hmem | hmem⟩
      · cases hcomma
      · cases hcolon
      · obtain ⟨s, hs⟩ := hkeys m hm
        rw [hs] at hmem
        simp [Outline.tokens] at hmem
      · exact ih m hm hmem
    · simp at hmem
  | _ => simp [Outline.tokens]

/-! Reading off. -/

theorem isOpen_frame (frame : Frame) : (frame.outline false).IsOpen := by
  rcases frame with items | ⟨members, _ | key⟩ <;> trivial

theorem isOpen_abandon (h : v.IsOpen) : (abandon v frames).IsOpen := by
  induction frames generalizing v with
  | nil => exact h
  | cons frame frames ih => exact ih (isOpen_frame _)

theorem isOpen_breakOff (frames : List Frame) : (breakOff frames).IsOpen := by
  cases frames with
  | nil => trivial
  | cons frame frames => exact isOpen_abandon (isOpen_frame frame)

theorem isOpen_nil (want : Want) (frames : List Frame) :
    (outlineFrom want frames []).value.IsOpen := by
  rw [outlineFrom]
  exact isOpen_breakOff frames

theorem isOpen_of_failed {want : Want} (open' : List Frame)
    (h : advance want frames t = .failed (breakOff open')) (ts : List Token) :
    (outlineFrom want frames (t :: ts)).value.IsOpen := by
  rw [outlineFrom, h]
  exact isOpen_breakOff open'

/-- A value is spelled at the front, or what is read is open. -/
def ValueOrOpen (ts : List Token) : Prop :=
  ∀ frames, (∃ v : Outline, ∃ rest, v.Complete ∧ ts = v.tokens ++ rest) ∨
    (outlineFrom .value frames ts).value.IsOpen

theorem valueOrOpen_scalar (hv : v.Complete) (htokens : v.tokens = [t]) :
    ValueOrOpen (t :: ts) := by
  intro frames
  exact .inl ⟨v, ts, hv, by rw [htokens, List.singleton_append]⟩

/-- The rest of an array after an item. -/
theorem items_or_open (h : ∀ us : List Token, us.length < n → ValueOrOpen us)
    (hlength : ts.length ≤ n) (seen : List Outline) (frames : List Frame) :
    (∃ items : List Outline, ∃ rest, (∀ item ∈ items, item.Complete) ∧
      ts = (items.flatMap fun i => .comma :: i.tokens) ++ .endArray :: rest) ∨
    (outlineFrom .next (.array seen :: frames) ts).value.IsOpen := by
  induction hn : ts.length using Nat.strongRecOn generalizing ts seen with
  | ind k ih =>
    cases ts with
    | nil => exact .inr (isOpen_nil _ _)
    | cons t ts =>
      rw [List.length_cons] at hlength hn
      cases t with
      | endArray => exact .inl ⟨[], ts, nofun, rfl⟩
      | comma =>
        rcases h ts (by omega) (.array seen :: frames) with ⟨v, rest, hv, rfl⟩ | hopen
        · have hnext : outlineFrom .next (.array seen :: frames) (.comma :: (v.tokens ++ rest)) =
              outlineFrom .next (.array (v :: seen) :: frames) rest := hv.spelled _ _
          rw [List.length_append] at hlength hn
          rw [hnext]
          rcases @ih rest.length (by omega) rest (by omega) (v :: seen) rfl with
            ⟨items, rest', hitems, rfl⟩ | hopen
          · refine .inl ⟨v :: items, rest', ?_, ?_⟩
            · exact List.forall_mem_cons.2 ⟨hv, hitems⟩
            · rw [List.flatMap_cons, List.cons_append, List.cons_append, List.append_assoc]
          · exact .inr hopen
        · exact .inr hopen
      | _ => exact .inr (isOpen_of_failed _ rfl ts)

/-- A member where a key may stand. -/
theorem member_or_open (h : ∀ us : List Token, us.length < n → ValueOrOpen us)
    (hlength : ts.length ≤ n) (seen : List (Outline × Outline)) (frames : List Frame) :
    (∃ key, ∃ value : Outline, ∃ rest, value.Complete ∧
      ts = memberToken (.string key, value) ++ rest) ∨
    (outlineFrom .key (.object seen none :: frames) ts).value.IsOpen := by
  cases ts with
  | nil => exact .inr (isOpen_nil _ _)
  | cons t ts =>
    cases t with
    | string key =>
      cases ts with
      | nil => exact .inr (isOpen_breakOff (.object seen (some (.string key)) :: frames))
      | cons t ts =>
        rw [List.length_cons, List.length_cons] at hlength
        cases t with
        | colon =>
          rcases h ts (by omega) (.object seen (some (.string key)) :: frames) with
            ⟨v, rest, hv, rfl⟩ | hopen
          · exact .inl ⟨key, v, rest, hv, rfl⟩
          · exact .inr hopen
        | _ => exact .inr (isOpen_breakOff (.object seen (some (.string key)) :: frames))
    | _ => exact .inr (isOpen_of_failed _ rfl ts)

/-- The next of an object after a member. -/
theorem outlineFrom_member {key : Option String} (hv : v.Complete)
    (seen : List (Outline × Outline)) :
    outlineFrom .key (.object seen none :: frames) (memberToken (.string key, v) ++ rest) =
      outlineFrom .next (.object ((.string key, v) :: seen) none :: frames) rest :=
  hv.spelled (.object seen (some (.string key)) :: frames) rest

/-- The rest of an object after a member. -/
theorem members_or_open (h : ∀ us : List Token, us.length < n → ValueOrOpen us)
    (hlength : ts.length ≤ n) (seen : List (Outline × Outline)) (frames : List Frame) :
    (∃ members : List (Outline × Outline), ∃ rest,
      (∀ m ∈ members, (∃ key, m.1 = .string key) ∧ m.2.Complete) ∧
      ts = (members.flatMap fun m => .comma :: memberToken m) ++ .endObject :: rest) ∨
    (outlineFrom .next (.object seen none :: frames) ts).value.IsOpen := by
  induction hn : ts.length using Nat.strongRecOn generalizing ts seen with
  | ind k ih =>
    cases ts with
    | nil => exact .inr (isOpen_nil _ _)
    | cons t ts =>
      rw [List.length_cons] at hlength hn
      cases t with
      | endObject => exact .inl ⟨[], ts, nofun, rfl⟩
      | comma =>
        rcases member_or_open h (by omega : ts.length ≤ n) seen frames with
          ⟨key, v, rest, hv, rfl⟩ | hopen
        · have hnext : outlineFrom .next (.object seen none :: frames)
              (.comma :: (memberToken (.string key, v) ++ rest)) =
              outlineFrom .next (.object ((.string key, v) :: seen) none :: frames) rest :=
            outlineFrom_member hv seen
          rw [List.length_append] at hlength hn
          rw [hnext]
          rcases @ih rest.length (by omega) rest (by omega) ((.string key, v) :: seen) rfl with
            ⟨members, rest', hmembers, rfl⟩ | hopen
          · refine .inl ⟨(.string key, v) :: members, rest', ?_, ?_⟩
            · exact List.forall_mem_cons.2 ⟨⟨⟨key, rfl⟩, hv⟩, hmembers⟩
            · rw [List.flatMap_cons, List.cons_append, List.cons_append, List.append_assoc]
          · exact .inr hopen
        · exact .inr hopen
      | _ => exact .inr (isOpen_of_failed _ rfl ts)

/-- Where items may begin, a value begins unless the array ends. -/
theorem outlineFrom_firstItem_of_ne (ht : t ≠ .endArray) :
    outlineFrom .firstItem (.array seen :: frames) (t :: ts) =
      outlineFrom .value (.array seen :: frames) (t :: ts) := by
  cases t <;> first | rfl | exact absurd rfl ht

theorem valueOrOpen_beginArray (h : ∀ us : List Token, us.length < n → ValueOrOpen us)
    (hlength : ts.length < n) : ValueOrOpen (.beginArray :: ts) := by
  intro frames
  have hopen : outlineFrom .value frames (.beginArray :: ts) =
      outlineFrom .firstItem (.array [] :: frames) ts := by
    cases frames <;> rfl
  rw [hopen]
  cases ts with
  | nil => exact .inr (isOpen_nil _ _)
  | cons t ts =>
    by_cases ht : t = .endArray
    · subst ht
      exact .inl ⟨.array [] true, ts, .array nofun, rfl⟩
    rw [outlineFrom_firstItem_of_ne ht]
    rcases h (t :: ts) hlength (.array [] :: frames) with ⟨v, rest, hv, htokens⟩ | hopen
    · have hnext : outlineFrom .value (.array [] :: frames) (v.tokens ++ rest) =
          outlineFrom .next (.array [v] :: frames) rest := hv.spelled _ _
      rw [htokens, List.length_append] at hlength
      rw [htokens, hnext]
      rcases items_or_open h (by omega : rest.length ≤ n) [v] frames with
        ⟨items, rest', hitems, rfl⟩ | hopen
      · refine .inl ⟨.array (v :: items) true, rest', ?_, ?_⟩
        · exact .array (List.forall_mem_cons.2 ⟨hv, hitems⟩)
        · rw [Outline.tokens, itemTokens_cons]
          simp
      · exact .inr hopen
    · exact .inr hopen

/-- Where members may begin, a key begins unless the object ends. -/
theorem outlineFrom_firstKey_of_ne {seen : List (Outline × Outline)} (ht : t ≠ .endObject) :
    outlineFrom .firstKey (.object seen none :: frames) (t :: ts) =
      outlineFrom .key (.object seen none :: frames) (t :: ts) := by
  cases t <;> first | rfl | exact absurd rfl ht

theorem valueOrOpen_beginObject (h : ∀ us : List Token, us.length < n → ValueOrOpen us)
    (hlength : ts.length < n) : ValueOrOpen (.beginObject :: ts) := by
  intro frames
  have hopen : outlineFrom .value frames (.beginObject :: ts) =
      outlineFrom .firstKey (.object [] none :: frames) ts := by
    cases frames <;> rfl
  rw [hopen]
  cases ts with
  | nil => exact .inr (isOpen_nil _ _)
  | cons t ts =>
    by_cases ht : t = .endObject
    · subst ht
      exact .inl ⟨.object [] true, ts, .object nofun nofun, rfl⟩
    rw [outlineFrom_firstKey_of_ne ht]
    rcases member_or_open h (Nat.le_of_lt hlength) [] frames with
      ⟨key, v, rest, hv, htokens⟩ | hopen
    · rw [htokens, List.length_append] at hlength
      rw [htokens, outlineFrom_member hv]
      rcases members_or_open h (by omega : rest.length ≤ n) [(.string key, v)] frames with
        ⟨members, rest', hmembers, rfl⟩ | hopen
      · refine .inl ⟨.object ((.string key, v) :: members) true, rest', ?_, ?_⟩
        · have hall : ∀ m ∈ (.string key, v) :: members, (∃ k, m.1 = .string k) ∧ m.2.Complete :=
            List.forall_mem_cons.2 ⟨⟨⟨key, rfl⟩, hv⟩, hmembers⟩
          exact .object (fun m hm => (hall m hm).1) fun m hm => (hall m hm).2
        · rw [Outline.tokens, memberTokens_cons]
          simp
      · exact .inr hopen
    · exact .inr hopen

/-- Whatever does not spell a value at the front is read as something open. -/
theorem valueOrOpen (ts : List Token) : ValueOrOpen ts := by
  induction hn : ts.length using Nat.strongRecOn generalizing ts with
  | ind n ih =>
    have hshorter : ∀ us : List Token, us.length < n → ValueOrOpen us :=
      fun us hus => ih us.length hus us rfl
    cases ts with
    | nil => exact fun frames => .inr (isOpen_nil _ _)
    | cons t ts =>
      rw [List.length_cons] at hn
      cases t with
      | null => exact valueOrOpen_scalar .null rfl
      | bool b => exact valueOrOpen_scalar (.bool b) rfl
      | number m => exact valueOrOpen_scalar (.number m) rfl
      | string s => exact valueOrOpen_scalar (.string s) rfl
      | beginArray => exact valueOrOpen_beginArray hshorter (by omega)
      | beginObject => exact valueOrOpen_beginObject hshorter (by omega)
      | _ =>
        intro frames
        exact .inr (isOpen_of_failed frames (by cases frames <;> rfl) ts)

/-! Documents. -/

/-- The text spells the value: it is made of the tokens of the value and of white space. -/
def Outline.SpelledBy (v : Outline) (text : String) : Prop :=
  v.Complete ∧ Laid v.tokens text.toList

theorem Outline.SpelledBy.document_eq (h : v.SpelledBy text) :
    document text.toList = ⟨v, false⟩ := by
  obtain ⟨hv, hlaid⟩ := h
  have hspelled := hv.spelled [] []
  rw [List.append_nil] at hspelled
  rw [document, hlaid.tokens_eq hv.separated, hspelled]
  rfl

theorem spelledBy_of_document (h : document text.toList = ⟨v, false⟩) (hv : ¬ v.IsOpen) :
    v.SpelledBy text := by
  unfold document at h
  rcases valueOrOpen (tokens text.toList) [] with ⟨u, rest, hu, htokens⟩ | hopen
  · have hdeliver : outlineFrom .value [] (u.tokens ++ rest) = ⟨u, !rest.isEmpty⟩ :=
      hu.spelled [] rest
    rw [htokens, hdeliver] at h
    obtain ⟨rfl, hrest⟩ := Document.mk.inj h
    obtain rfl : rest = [] := by simpa using hrest
    rw [List.append_nil] at htokens
    have hlaid := laid_tokens (htokens ▸ hu.malformed_notMem)
    rw [htokens] at hlaid
    exact ⟨hu, hlaid⟩
  · rw [h] at hopen
    exact absurd hopen hv

/-- Reading a text is reading the value that it spells. -/
theorem Outline.SpelledBy.readText_eq {α : Type} (h : v.SpelledBy text) (read : Reader α) :
    readText read text = read v := by
  rw [readText, h.document_eq]
  rcases read v with fault | a <;> rfl

/-- A text that is read spells a value, if nothing open can be read. -/
theorem spelledBy_of_readText {α : Type} {read : Reader α} {a : α}
    (hread : ∀ v : Outline, v.IsOpen → read v ≠ .ok a) (h : readText read text = .ok a) :
    ∃ v : Outline, v.SpelledBy text := by
  rcases hdocument : document text.toList with ⟨v, trailing⟩
  have hclosed : trailing = false ∧ read v = .ok a := by
    rw [readText, hdocument] at h
    cases hv : read v with
    | error fault =>
      rw [hv] at h
      cases h
    | ok b =>
      rw [hv] at h
      cases trailing <;> cases h
      exact ⟨rfl, rfl⟩
  obtain ⟨rfl, hv⟩ := hclosed
  exact ⟨v, spelledBy_of_document hdocument fun hopen => hread v hopen hv⟩

end HealthRelay.Json
