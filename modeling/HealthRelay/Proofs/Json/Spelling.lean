import HealthRelay.Json.Outline

/-!
The tokens that spell a value, and that the value is read off them.
-/
namespace HealthRelay.Json

mutual

/-- The tokens that spell a value. -/
def Outline.tokens : Outline → List Token
  | .broken => [.malformed]
  | .null => [.null]
  | .bool b => [.bool b]
  | .number n => [.number n]
  | .string s => [.string s]
  | .array items _ => .beginArray :: itemTokens items ++ [.endArray]
  | .object members _ => .beginObject :: memberTokens members ++ [.endObject]

def itemTokens : List Outline → List Token
  | [] => []
  | [item] => item.tokens
  | item :: rest => item.tokens ++ .comma :: itemTokens rest

def memberTokens : List (Outline × Outline) → List Token
  | [] => []
  | [(key, value)] => key.tokens ++ .colon :: value.tokens
  | (key, value) :: rest => key.tokens ++ .colon :: value.tokens ++ .comma :: memberTokens rest

end

theorem itemTokens_cons_cons (item next : Outline) (rest : List Outline) :
    itemTokens (item :: next :: rest) = item.tokens ++ .comma :: itemTokens (next :: rest) := by
  rw [itemTokens]
  simp

theorem memberTokens_cons_cons (key value : Outline) (next : Outline × Outline)
    (rest : List (Outline × Outline)) :
    memberTokens ((key, value) :: next :: rest) =
      key.tokens ++ .colon :: value.tokens ++ .comma :: memberTokens (next :: rest) := by
  rw [memberTokens]
  simp

/-- The text has spelled all of the value. -/
inductive Outline.Complete : Outline → Prop where
  | null : Complete .null
  | bool (b : Bool) : Complete (.bool b)
  | number (n : Numeral) : Complete (.number n)
  | string (s : Option String) : Complete (.string s)
  | array {items : List Outline} (items_complete : ∀ item ∈ items, Complete item) :
    Complete (.array items true)
  | object {members : List (Outline × Outline)} (keys : ∀ m ∈ members, ∃ s, m.1 = .string s)
    (values_complete : ∀ m ∈ members, Complete m.2) : Complete (.object members true)

/-- How a document goes on when a value has been completed inside open containers. -/
def deliver (v : Outline) (frames : List Frame) (ts : List Token) : Document :=
  match complete v frames with
  | (_, some v) => ⟨v, !ts.isEmpty⟩
  | (frames, none) => outlineFrom .next frames ts

variable {o : Outline} {frames : List Frame} {ts : List Token}

/-- The tokens of the value are taken for it, whatever containers are open and whatever follows. -/
def Spelled (o : Outline) : Prop :=
  ∀ frames ts, outlineFrom .value frames (o.tokens ++ ts) = deliver o frames ts

theorem spelled_of_scalar {t : Token} (ht : scalar? t = some o) (htokens : o.tokens = [t]) :
    Spelled o := by
  intro frames ts
  have hstep : advance .value frames t = beginValue frames t := by
    cases frames <;> rfl
  rw [htokens, List.singleton_append, outlineFrom, hstep]
  simp only [beginValue, ht, deliver]
  rcases complete o frames with ⟨frames', _ | v⟩ <;> rfl

/-- A container closes when its last value has been completed. -/
theorem deliver_close {frame : Frame} :
    (match closeFrame frame frames with
      | .reading want frames => outlineFrom want frames ts
      | .read v => ⟨v, !ts.isEmpty⟩
      | .failed v => ⟨v, false⟩) = deliver (frame.outline true) frames ts := by
  unfold closeFrame deliver
  rcases complete (frame.outline true) frames with ⟨frames', _ | v⟩ <;> rfl

theorem outlineFrom_firstItem (h : o.Complete) {seen : List Outline} :
    outlineFrom .firstItem (.array seen :: frames) (o.tokens ++ ts) =
      outlineFrom .value (.array seen :: frames) (o.tokens ++ ts) := by
  cases h <;> rfl

theorem outlineFrom_items {item : Outline} {items : List Outline}
    (h : ∀ i ∈ item :: items, Spelled i) (seen : List Outline) :
    outlineFrom .value (.array seen :: frames) (itemTokens (item :: items) ++ .endArray :: ts) =
      deliver (.array (seen.reverse ++ item :: items) true) frames ts := by
  induction items generalizing item seen with
  | nil =>
    rw [itemTokens, h item List.mem_cons_self]
    have hclose : outlineFrom .next (.array (item :: seen) :: frames) (.endArray :: ts) =
        deliver (.array (item :: seen).reverse true) frames ts := deliver_close
    rw [List.reverse_cons] at hclose
    exact hclose
  | cons next items ih =>
    have hnext := ih (fun i hi => h i (List.mem_cons_of_mem _ hi)) (item :: seen)
    rw [List.reverse_cons, List.append_assoc] at hnext
    rw [itemTokens_cons_cons, List.append_assoc, h item List.mem_cons_self]
    exact hnext

theorem outlineFrom_members {key : Option String} {value : Outline}
    {members : List (Outline × Outline)} (hvalue : Spelled value)
    (hkeys : ∀ m ∈ members, ∃ s, m.1 = .string s) (hvalues : ∀ m ∈ members, Spelled m.2)
    (seen : List (Outline × Outline)) :
    outlineFrom .key (.object seen none :: frames)
        (memberTokens ((.string key, value) :: members) ++ .endObject :: ts) =
      deliver (.object (seen.reverse ++ (.string key, value) :: members) true) frames ts := by
  induction members generalizing key value seen with
  | nil =>
    have hkey : outlineFrom .key (.object seen none :: frames)
        (memberTokens [(.string key, value)] ++ .endObject :: ts) =
        outlineFrom .value (.object seen (some (.string key)) :: frames)
          (value.tokens ++ .endObject :: ts) := rfl
    have hclose : outlineFrom .next (.object ((.string key, value) :: seen) none :: frames)
        (.endObject :: ts) =
        deliver (.object ((.string key, value) :: seen).reverse true) frames ts := deliver_close
    rw [List.reverse_cons] at hclose
    rw [hkey, hvalue]
    exact hclose
  | cons m members ih =>
    obtain ⟨key', hkey'⟩ := hkeys m List.mem_cons_self
    obtain ⟨_, value'⟩ := m
    obtain rfl := hkey'
    have hnext := @ih key' value' (hvalues _ List.mem_cons_self)
      (fun m hm => hkeys m (List.mem_cons_of_mem _ hm))
      (fun m hm => hvalues m (List.mem_cons_of_mem _ hm)) ((.string key, value) :: seen)
    rw [List.reverse_cons, List.append_assoc] at hnext
    have hkey : outlineFrom .key (.object seen none :: frames)
        (memberTokens ((.string key, value) :: (.string key', value') :: members) ++
          .endObject :: ts) =
        outlineFrom .value (.object seen (some (.string key)) :: frames)
          (value.tokens ++ .comma ::
            (memberTokens ((.string key', value') :: members) ++ .endObject :: ts)) := by
      rw [memberTokens_cons_cons]
      simp [Outline.tokens, outlineFrom, advance, beginKey]
    rw [hkey, hvalue]
    exact hnext

/-- Every complete value is read off its tokens. -/
theorem Outline.Complete.spelled (h : o.Complete) : Spelled o := by
  induction h with
  | null => exact spelled_of_scalar rfl rfl
  | bool b => exact spelled_of_scalar rfl rfl
  | number n => exact spelled_of_scalar rfl rfl
  | string s => exact spelled_of_scalar rfl rfl
  | @array items hitems ih =>
    intro frames ts
    have hopen : outlineFrom .value frames ((Outline.array items true).tokens ++ ts) =
        outlineFrom .firstItem (.array [] :: frames) (itemTokens items ++ .endArray :: ts) := by
      rw [Outline.tokens, List.cons_append, List.cons_append, List.append_assoc]
      cases frames <;> rfl
    rw [hopen]
    cases items with
    | nil => exact deliver_close
    | cons item items =>
      have hfirst : outlineFrom .firstItem (.array [] :: frames)
          (itemTokens (item :: items) ++ .endArray :: ts) =
          outlineFrom .value (.array [] :: frames)
            (itemTokens (item :: items) ++ .endArray :: ts) := by
        cases items with
        | nil => exact outlineFrom_firstItem (hitems item List.mem_cons_self)
        | cons next items =>
          rw [itemTokens_cons_cons, List.append_assoc]
          exact outlineFrom_firstItem (hitems item List.mem_cons_self)
      rw [hfirst]
      exact outlineFrom_items ih []
  | @object members hkeys hvalues ih =>
    intro frames ts
    have hopen : outlineFrom .value frames ((Outline.object members true).tokens ++ ts) =
        outlineFrom .firstKey (.object [] none :: frames)
          (memberTokens members ++ .endObject :: ts) := by
      rw [Outline.tokens, List.cons_append, List.cons_append, List.append_assoc]
      cases frames <;> rfl
    rw [hopen]
    cases members with
    | nil => exact deliver_close
    | cons m members =>
      obtain ⟨key, hkey⟩ := hkeys m List.mem_cons_self
      obtain ⟨_, value⟩ := m
      obtain rfl := hkey
      have hfirst : outlineFrom .firstKey (.object [] none :: frames)
          (memberTokens ((.string key, value) :: members) ++ .endObject :: ts) =
          outlineFrom .key (.object [] none :: frames)
            (memberTokens ((.string key, value) :: members) ++ .endObject :: ts) := by
        cases members with
        | nil => rfl
        | cons next members =>
          rw [memberTokens_cons_cons]
          rfl
      rw [hfirst]
      exact outlineFrom_members (ih _ List.mem_cons_self)
        (fun m hm => hkeys m (List.mem_cons_of_mem _ hm))
        (fun m hm => ih m (List.mem_cons_of_mem _ hm)) []

end HealthRelay.Json
