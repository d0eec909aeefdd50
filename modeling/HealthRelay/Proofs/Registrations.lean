import HealthRelay.Proofs.TableOrder
import HealthRelay.Proofs.Text.ByteOrder
import HealthRelay.Registry

/-!
What a registry holds after calls that register kinds of monitors: under each name the kind of the
first call with that name.
-/
namespace HealthRelay

/-- Monitors that a registry builds of what it has under a name. -/
def MonitorKind.delegated (r : Registry) (name : String) : MonitorKind where
  description := "Monitors of another registry."
  create := r.create name

namespace Registry

variable {r : Registry} {name other path : String} {kind : MonitorKind} {files : FileTree}
  {calls : List (String × MonitorKind)}

/-- The registry after a call. A call that is refused leaves it as it was. -/
def after (r : Registry) (call : String × MonitorKind) : Registry :=
  match r.register call.1 call.2 with
  | .ok r' => r'
  | .error _ => r

/-- The registry after calls on an empty one, one after another. -/
def ofCalls (calls : List (String × MonitorKind)) : Registry := calls.foldl after empty

/-- The kind of the first call with a name. -/
def firstKind? (calls : List (String × MonitorKind)) (name : String) : Option MonitorKind :=
  (calls.find? fun call => call.1 == name).map Prod.snd

theorem mem_names_iff : name ∈ r.names ↔ (r.kind? name).isSome = true := Table.mem_keys_iff

/-- A name that is there is refused. -/
theorem register_of_mem (h : name ∈ r.names) (kind : MonitorKind) :
    r.register name kind = .error (.duplicateMonitor name) := by
  have htaken : r.kinds.contains name = true := mem_names_iff.1 h
  rw [register, if_pos htaken]

theorem register_of_notMem (h : name ∉ r.names) (kind : MonitorKind) :
    r.register name kind = .ok ⟨r.kinds.insert name kind⟩ := by
  have hfree : ¬ r.kinds.contains name = true := mt mem_names_iff.2 h
  rw [register, if_neg hfree]

theorem after_of_mem (h : name ∈ r.names) (kind : MonitorKind) : r.after (name, kind) = r := by
  simp only [after, register_of_mem h]

theorem after_of_notMem (h : name ∉ r.names) (kind : MonitorKind) :
    r.after (name, kind) = ⟨r.kinds.insert name kind⟩ := by
  simp only [after, register_of_notMem h]

/-- A call counts only for its own name, and only if the name was not there. -/
theorem kind?_after (r : Registry) (call : String × MonitorKind) (name : String) :
    (r.after call).kind? name =
      (r.kind? name).or (if call.1 = name then some call.2 else none) := by
  obtain ⟨called, kind⟩ := call
  by_cases hmem : called ∈ r.names
  · rw [after_of_mem hmem]
    split
    case isTrue heq =>
      obtain ⟨held, hheld⟩ := Option.isSome_iff_exists.1 (mem_names_iff.1 hmem)
      obtain rfl : called = name := heq
      rw [hheld, Option.some_or]
    case isFalse => rw [Option.or_none]
  · rw [after_of_notMem hmem]
    split
    case isTrue heq =>
      obtain rfl : called = name := heq
      have hnone : r.kind? called = none := by simpa [mem_names_iff] using hmem
      rw [hnone, Option.none_or]
      exact Table.get?_insert_self ..
    case isFalse hne =>
      rw [Option.or_none]
      exact Table.get?_insert_of_ne r.kinds hne

theorem firstKind?_cons (call : String × MonitorKind) :
    firstKind? (call :: calls) name =
      (if call.1 = name then some call.2 else none).or (firstKind? calls name) := by
  by_cases h : call.1 = name <;> simp [firstKind?, h]

/-- What a registry holds is kept, and calls fill in what is missing. -/
theorem kind?_foldl (r : Registry) (calls : List (String × MonitorKind)) (name : String) :
    (calls.foldl after r).kind? name = (r.kind? name).or (firstKind? calls name) := by
  induction calls generalizing r with
  | nil => exact (Option.or_none).symm
  | cons call calls ih =>
    rw [List.foldl_cons, ih, kind?_after, Option.or_assoc, firstKind?_cons]

theorem kind?_ofCalls (calls : List (String × MonitorKind)) (name : String) :
    (ofCalls calls).kind? name = firstKind? calls name := by
  rw [ofCalls, kind?_foldl]
  rfl

theorem mem_names_ofCalls : name ∈ (ofCalls calls).names ↔ ∃ kind, (name, kind) ∈ calls := by
  rw [mem_names_iff, kind?_ofCalls]
  simp [firstKind?]

/-- A registry fails for want of a kind just if the name is not there, or the kind that is there
fails so. -/
theorem create_eq_unknown_iff :
    r.create name files path = .error (.registry (.unknownMonitor other)) ↔
      name ∉ r.names ∧ other = name ∨ ∃ kind, r.kind? name = some kind ∧
        kind.create files path = .error (.registry (.unknownMonitor other)) := by
  rw [create, mem_names_iff]
  cases r.kind? name with
  | none => simp [eq_comm]
  | some kind => simp

theorem pairwise_utf8_names (r : Registry) :
    r.names.Pairwise fun a b => Text.utf8 a < Text.utf8 b := by
  rw [names, Table.keys, List.pairwise_map]
  exact r.kinds.ascending.imp Text.utf8_lt_utf8

/-- After any calls on an empty registry, what is under a name, and what builds monitors of that
name, is the kind of the first call with it. A name that is there is refused, and the registry stays
as it was. The names are those of the calls, ascending by their bytes. To build a monitor under any
other name fails for want of a kind; under a name that is there it fails so just if its kind
does. -/
theorem first_registration_counts (calls : List (String × MonitorKind)) :
    let r := ofCalls calls
    (∀ name, r.kind? name = firstKind? calls name) ∧
    (∀ name files path, r.create name files path =
      (firstKind? calls name).elim (.error (.registry (.unknownMonitor name)))
        fun kind => kind.create files path) ∧
    (∀ name kind, name ∈ r.names →
      r.register name kind = .error (.duplicateMonitor name) ∧
      ofCalls (calls ++ [(name, kind)]) = r) ∧
    r.names.Pairwise (fun a b => Text.utf8 a < Text.utf8 b) ∧
    (∀ name, name ∈ r.names ↔ ∃ kind, (name, kind) ∈ calls) ∧
    (∀ name other files path,
      r.create name files path = .error (.registry (.unknownMonitor other)) ↔
        name ∉ r.names ∧ other = name ∨ ∃ kind, firstKind? calls name = some kind ∧
          kind.create files path = .error (.registry (.unknownMonitor other))) := by
  intro r
  have hkind : ∀ name, r.kind? name = firstKind? calls name := kind?_ofCalls calls
  refine ⟨hkind, ?_, ?_, pairwise_utf8_names r, fun name => mem_names_ofCalls, ?_⟩
  · intro name files path
    rw [create, hkind]
    cases firstKind? calls name <;> rfl
  · intro name kind hmem
    refine ⟨register_of_mem hmem kind, ?_⟩
    rw [ofCalls, List.foldl_append]
    exact after_of_mem hmem kind
  · intro name other files path
    rw [create_eq_unknown_iff, hkind]

/-- The kind under a name may be one that asks a registry of its own, and that one has no kind. -/
theorem unknown_under_registered_name :
    let r := ofCalls [("delegated", .delegated .empty "delegated")]
    r.names = ["delegated"] ∧
      r.create "delegated" .empty "monitor.json" =
        .error (.registry (.unknownMonitor "delegated")) :=
  ⟨rfl, rfl⟩

end Registry

end HealthRelay
