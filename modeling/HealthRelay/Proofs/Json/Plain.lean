import HealthRelay.Proofs.Json.Rendering

/-!
The text of a value has no control characters, so that it stands on one line.
-/
namespace HealthRelay.Json

variable {c : Char} {s t : List Char} {j : Json} {n : Numeral}

/-- A text without control characters in the sense of JSON, which may not stand in its strings as
they are: the line break is one of them. -/
def Plain (s : List Char) : Prop := ∀ c ∈ s, 0x20 ≤ c.toNat

@[simp] theorem plain_nil : Plain [] := by simp [Plain]

@[simp] theorem plain_cons : Plain (c :: s) ↔ 0x20 ≤ c.toNat ∧ Plain s := by simp [Plain]

@[simp] theorem plain_append : Plain (s ++ t) ↔ Plain s ∧ Plain t := by
  simp [Plain, or_imp, forall_and]

theorem plain_of_digits (h : ∀ c ∈ s, c.isDigit = true) : Plain s := by
  intro c hc
  have hrange := Text.toNat_of_isDigit (h c hc)
  omega

theorem plain_escape (c : Char) : Plain (escape c) := by
  have hhex : ∀ n < 16, 0x20 ≤ (Nat.digitChar n).toNat := by decide
  have hdigit (n : Nat) : 0x20 ≤ (Nat.digitChar (n % 16)).toNat :=
    hhex _ (Nat.mod_lt n (by decide))
  unfold escape
  -- the characters with an escape of their own
  iterate 7
    split
    · simp
  split
  · simp [twoHexDigits, hdigit]
  · rename_i hge
    simpa using hge

theorem plain_renderString (s : String) : Plain (renderString s) := by
  have hescapes : Plain (s.toList.flatMap escape) := by
    intro c hc
    obtain ⟨d, -, hd⟩ := List.mem_flatMap.1 hc
    exact plain_escape d c hd
  simp [renderString, hescapes]

theorem plain_numeral (h : n.WellFormed) : Plain n.text := by
  have hwhole : Plain n.whole := by
    rcases h.whole with hzero | ⟨c, ds, heq, hc, -, hds⟩
    · simp [hzero]
    · rw [heq]
      exact plain_of_digits (List.forall_mem_cons.2 ⟨hc, hds⟩)
  have hfraction : Plain (Numeral.fractionText n.fraction) := by
    have := plain_of_digits h.fraction
    unfold Numeral.fractionText
    split
    · simp
    · simp_all
  have hexponent : Plain (Numeral.exponentText n.exponent) := by
    rcases he : n.exponent with _ | ⟨sign, ds⟩
    · simp [Numeral.exponentText]
    · have hds := plain_of_digits (h.exponent sign ds he).2
      cases sign <;> simp [Numeral.exponentText, hds]
  simp only [Numeral.text, plain_append]
  refine ⟨⟨⟨?_, hwhole⟩, hfraction⟩, hexponent⟩
  split <;> simp

theorem plain_renderItems {items : List Json} (h : ∀ item ∈ items, Plain (render item)) :
    Plain (renderItems items) := by
  induction items with
  | nil => simp [renderItems]
  | cons item items ih =>
    have hitem := h item List.mem_cons_self
    have hrest := ih fun i hi => h i (List.mem_cons_of_mem _ hi)
    cases items with
    | nil => exact hitem
    | cons next items =>
      rw [renderItems]
      · simp [hitem, hrest]
      · simp

theorem plain_renderMembers {members : List (String × Json)}
    (h : ∀ m ∈ members, Plain (render m.2)) : Plain (renderMembers members) := by
  induction members with
  | nil => simp [renderMembers]
  | cons m members ih =>
    obtain ⟨key, value⟩ := m
    have hvalue : Plain (render value) := h _ List.mem_cons_self
    have hrest := ih fun m hm => h m (List.mem_cons_of_mem _ hm)
    cases members with
    | nil => simp [renderMembers, plain_renderString, hvalue]
    | cons next members =>
      rw [renderMembers]
      · simp [plain_renderString, hvalue, hrest]
      · simp

/-- The text of a value has no control characters. -/
theorem WellFormed.plain_render (h : WellFormed j) : Plain j.render := by
  induction h with
  | null => simp [render]
  | bool b => cases b <;> simp [render]
  | number hn => exact plain_numeral hn
  | string s => exact plain_renderString s
  | array hitems ih => simp [render, plain_renderItems ih]
  | object hvalues ih => simp [render, plain_renderMembers ih]

end HealthRelay.Json
