import HealthRelay.Json.Reader
import HealthRelay.Proofs.Json.Numerals
import HealthRelay.Proofs.Json.Spelling

/-!
The text of a value spells its outline, so a reader of the text reads the outline.
-/
namespace HealthRelay.Json

mutual

/-- The outline of the text of a value. -/
def outline : Json → Outline
  | .null => .null
  | .bool b => .bool b
  | .number n => .number n
  | .string s => .string (some s)
  | .array items => .array (outlineItems items) true
  | .object members => .object (outlineMembers members) true

def outlineItems : List Json → List Outline
  | [] => []
  | item :: rest => outline item :: outlineItems rest

def outlineMembers : List (String × Json) → List (Outline × Outline)
  | [] => []
  | (key, value) :: rest => (.string (some key), outline value) :: outlineMembers rest

end

theorem outlineItems_eq (items : List Json) : outlineItems items = items.map outline := by
  induction items with
  | nil => rfl
  | cons item items ih => rw [outlineItems, ih, List.map_cons]

theorem outlineMembers_eq (members : List (String × Json)) :
    outlineMembers members = members.map fun m => (.string (some m.1), outline m.2) := by
  induction members with
  | nil => rfl
  | cons m members ih => rw [outlineMembers, ih, List.map_cons]

/-- All numerals in a value are JSON. -/
inductive WellFormed : Json → Prop where
  | null : WellFormed .null
  | bool (b : Bool) : WellFormed (.bool b)
  | number {n : Numeral} (numeral : n.WellFormed) : WellFormed (.number n)
  | string (s : String) : WellFormed (.string s)
  | array {items : List Json} (items_wellFormed : ∀ item ∈ items, WellFormed item) :
    WellFormed (.array items)
  | object {members : List (String × Json)} (values_wellFormed : ∀ m ∈ members, WellFormed m.2) :
    WellFormed (.object members)

variable {j : Json} {rest : List Char} {done : List Token}

theorem WellFormed.complete (h : WellFormed j) : j.outline.Complete := by
  induction h with
  | null => exact .null
  | bool b => exact .bool b
  | number hn => exact .number _
  | string s => exact .string _
  | array hitems ih =>
    rw [outline, outlineItems_eq]
    refine .array ?_
    simpa using ih
  | object hvalues ih =>
    rw [outline, outlineMembers_eq]
    refine .object ?_ ?_
    · intro m hm
      obtain ⟨m', -, rfl⟩ := List.mem_map.1 hm
      exact ⟨_, rfl⟩
    · intro m hm
      obtain ⟨m', hm', rfl⟩ := List.mem_map.1 hm
      exact ih m' hm'

/-- What follows a value in a text does not go on with a numeral. -/
theorem endsNumeral_of_mem {c : Char} (h : c ∈ [',', ']', '\x7d']) : EndsNumeral (c :: rest) := by
  intro d hd
  obtain rfl := Option.some.inj hd
  have hall : ∀ c ∈ [',', ']', '\x7d'], c.isDigit = false ∧ c ≠ '.' ∧ c ≠ 'e' ∧ c ≠ 'E' := by
    simp
  exact hall c h

/-- The text of the value is taken for its tokens, whatever follows. -/
def Scanned (j : Json) : Prop :=
  ∀ done rest, EndsNumeral rest →
    scan .start done (render j ++ rest) = scan .start (j.outline.tokens.reverse ++ done) rest

theorem scan_comma : scan .start done (',' :: rest) = scan .start (.comma :: done) rest := rfl

theorem scan_items {items : List Json} (h : ∀ item ∈ items, Scanned item) :
    scan .start done (renderItems items ++ ']' :: rest) =
      scan .start ((itemTokens (outlineItems items)).reverse ++ done) (']' :: rest) := by
  induction items generalizing done with
  | nil => rfl
  | cons item items ih =>
    have hitem := h item List.mem_cons_self
    cases items with
    | nil => exact hitem _ _ (endsNumeral_of_mem (by simp))
    | cons next items =>
      have hrest := @ih (.comma :: (item.outline.tokens.reverse ++ done))
        fun i hi => h i (List.mem_cons_of_mem _ hi)
      have hrender : renderItems (item :: next :: items) ++ ']' :: rest =
          render item ++ ',' :: (renderItems (next :: items) ++ ']' :: rest) := by
        rw [renderItems]
        · simp
        · simp
      rw [hrender, hitem _ _ (endsNumeral_of_mem (by simp)), scan_comma, hrest]
      simp [outlineItems, itemTokens_cons_cons]

theorem scan_members {members : List (String × Json)} (h : ∀ m ∈ members, Scanned m.2) :
    scan .start done (renderMembers members ++ '\x7d' :: rest) =
      scan .start ((memberTokens (outlineMembers members)).reverse ++ done) ('\x7d' :: rest) := by
  induction members generalizing done with
  | nil => rfl
  | cons m members ih =>
    obtain ⟨key, value⟩ := m
    have hvalue : Scanned value := h (key, value) List.mem_cons_self
    have hkey (tail : List Char) :
        scan .start done (renderString key ++ ':' :: (render value ++ tail)) =
          scan .start (.colon :: .string (some key) :: done) (render value ++ tail) := by
      rw [scan_renderString]
      rfl
    cases members with
    | nil =>
      have hrender : renderMembers [(key, value)] ++ '\x7d' :: rest =
          renderString key ++ ':' :: (render value ++ '\x7d' :: rest) := by
        simp [renderMembers]
      rw [hrender, hkey, hvalue _ _ (endsNumeral_of_mem (by simp)), outlineMembers, outlineMembers,
        memberTokens]
      simp [Outline.tokens]
    | cons next members =>
      have hrest := @ih (.comma :: (value.outline.tokens.reverse ++
        .colon :: .string (some key) :: done)) fun m hm => h m (List.mem_cons_of_mem _ hm)
      have hrender : renderMembers ((key, value) :: next :: members) ++ '\x7d' :: rest =
          renderString key ++ ':' ::
            (render value ++ ',' :: (renderMembers (next :: members) ++ '\x7d' :: rest)) := by
        rw [renderMembers]
        · simp
        · simp
      rw [hrender, hkey, hvalue _ _ (endsNumeral_of_mem (by simp)), scan_comma, hrest]
      simp [outlineMembers, memberTokens_cons_cons, Outline.tokens]

/-- The text of every value is taken for its tokens. -/
theorem WellFormed.scanned (h : WellFormed j) : Scanned j := by
  induction h with
  | null =>
    intro done rest hrest
    rfl
  | bool b =>
    intro done rest hrest
    cases b <;> rfl
  | number hn =>
    intro done rest hrest
    exact scan_numeral hn hrest
  | string s =>
    intro done rest hrest
    exact scan_renderString s
  | @array items hitems ih =>
    intro done rest hrest
    have hopen : scan .start done (render (.array items) ++ rest) =
        scan .start (.beginArray :: done) (renderItems items ++ ']' :: rest) := by
      rw [render, List.cons_append, List.cons_append, List.append_assoc]
      rfl
    have hclose (done : List Token) : scan .start done (']' :: rest) =
        scan .start (.endArray :: done) rest := rfl
    rw [hopen, scan_items ih, hclose, outline, Outline.tokens]
    simp
  | @object members hvalues ih =>
    intro done rest hrest
    have hopen : scan .start done (render (.object members) ++ rest) =
        scan .start (.beginObject :: done) (renderMembers members ++ '\x7d' :: rest) := by
      rw [render, List.cons_append, List.cons_append, List.append_assoc]
      rfl
    have hclose (done : List Token) : scan .start done ('\x7d' :: rest) =
        scan .start (.endObject :: done) rest := rfl
    rw [hopen, scan_members ih, hclose, outline, Outline.tokens]
    simp

/-- The text of a value is a document of that value and nothing else. -/
theorem WellFormed.document_text (h : WellFormed j) :
    document j.text.toList = ⟨j.outline, false⟩ := by
  have hscan := h.scanned [] [] (by simp [EndsNumeral])
  have htokens : tokens j.text.toList = j.outline.tokens := by
    rw [tokens, text, String.toList_ofList, ← List.append_nil (render j), hscan]
    simp [scan, Mode.finish]
  have hspelled := h.complete.spelled [] []
  rw [List.append_nil] at hspelled
  rw [document, htokens, hspelled]
  rfl

/-- Reading the text of a value is reading its outline. -/
theorem WellFormed.readText_text {α : Type} (h : WellFormed j) (read : Reader α) :
    readText read j.text = read j.outline := by
  rw [readText, h.document_text]
  rcases read j.outline with fault | v <;> rfl

end HealthRelay.Json
