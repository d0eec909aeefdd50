import HealthRelay.Json.Reader

/-!
When readers succeed: all their parts do, and what they read is closed.
-/
namespace HealthRelay.Json

variable {α β ε : Type} {o o' v : Outline} {items : List Outline} {closed : Bool}
  {fields : List Expected} {found : Members} {description : String}

theorem bind_eq_ok {x : Except ε α} {f : α → Except ε β} {b : β} :
    (x >>= f) = .ok b ↔ ∃ a, x = .ok a ∧ f a = .ok b := by
  cases x <;> simp [bind, Except.bind]

/-! Lists. -/

theorem readArray_eq_ok {read : Reader α} {values : List α} :
    readArray read (.array items closed) = .ok values ↔
      items.mapM read = .ok values ∧ closed = true := by
  rw [readArray, bind_eq_ok]
  cases closed <;> simp

/-- One change of an array: one item changes. -/
inductive ItemChange (change : Outline → Outline → Prop) : Outline → Outline → Prop where
  | within {before after : List Outline} {item item' : Outline} (h : change item item') :
    ItemChange change (.array (before ++ item :: after) true)
      (.array (before ++ item' :: after) true)

theorem mapM_change {read : Reader α} {item item' : Outline} {before after : List Outline}
    {values : List α} (hkept : ∀ a, read item = .ok a → read item' = .ok a)
    (h : (before ++ item :: after).mapM read = .ok values) :
    (before ++ item' :: after).mapM read = .ok values := by
  simp only [List.mapM_append, List.mapM_cons, bind_eq_ok] at h ⊢
  obtain ⟨earlier, hbefore, later, ⟨a, hitem, hafter⟩, hvalues⟩ := h
  exact ⟨earlier, hbefore, later, ⟨a, hkept a hitem, hafter⟩, hvalues⟩

theorem readArray_change {read : Reader α} {change : Outline → Outline → Prop} {values : List α}
    (hkept : ∀ {item item' : Outline} {a : α}, change item item' → read item = .ok a →
      read item' = .ok a)
    (h : ItemChange change o o') (hread : readArray read o = .ok values) :
    readArray read o' = .ok values := by
  cases h with
  | within h =>
    obtain ⟨hitems, hclosed⟩ := readArray_eq_ok.1 hread
    exact readArray_eq_ok.2 ⟨mapM_change (fun a => hkept h) hitems, hclosed⟩

/-! Values that are not closed. -/

/-- The value is none, or a container that is not closed. -/
def Outline.IsOpen : Outline → Prop
  | .broken | .array _ false | .object _ false => True
  | _ => False

theorem mismatch_ne_ok {wanted : String} {a : α} : mismatch wanted v ≠ .ok a := by
  intro h
  obtain ⟨wording, -, h⟩ := bind_eq_ok.1 h
  cases h

theorem pairItems_ne_ok {index : Nat} :
    pairItems description false index fields items ≠ .ok found := by
  induction fields generalizing index items found with
  | nil => cases items <;> nofun
  | cons f fields ih =>
    cases items with
    | nil => nofun
    | cons item items =>
      intro h
      obtain ⟨u, -, h⟩ := bind_eq_ok.1 h
      obtain ⟨rest, hrest, -⟩ := bind_eq_ok.1 h
      exact ih hrest

/-- Records are not read from values that are not closed. -/
theorem readMembers_ne_ok_of_isOpen (h : v.IsOpen) :
    readMembers description fields v ≠ .ok found := by
  match v, h with
  | .broken, _ => exact mismatch_ne_ok
  | .array items false, _ => exact pairItems_ne_ok
  | .object members false, _ =>
    intro hread
    obtain ⟨all, -, hclosed⟩ := bind_eq_ok.1 hread
    cases hclosed

end HealthRelay.Json
