import HealthRelay.CommandLine
import Mathlib.Data.List.Basic

/-!
What arguments ask for, by their form: options that name a file, each with its value, and after them
perhaps something else where an option could stand.
-/
namespace HealthRelay.CommandLine

variable {arguments : List String} {word : String} {path : Option String}
  {outcome : Except ArgumentError Command} {files : FileTree} {stamp : Timestamp}

/-- An option that names a file, and its value, whatever that looks like. -/
structure PathOption where
  word : String
  value : String
  isOption : word = "--config" ∨ word = "-c"

/-- The arguments that spell an option and its value. -/
def PathOption.words (o : PathOption) : List String := [o.word, o.value]

/-- Arguments have the form that asks for this outcome. -/
def Asks (arguments : List String) : Except ArgumentError Command → Prop
  | .ok (.run path) => ∃ (options : List PathOption) (last : PathOption),
      options.getLast? = some last ∧ last.value = path ∧
        arguments = options.flatMap PathOption.words
  | .ok .help => ∃ (options : List PathOption) (word : String) (rest : List String),
      (word = "--help" ∨ word = "-h") ∧
        arguments = options.flatMap PathOption.words ++ word :: rest
  | .error .missingValue => ∃ (options : List PathOption) (word : String),
      (word = "--config" ∨ word = "-c") ∧
        arguments = options.flatMap PathOption.words ++ [word]
  | .error .missingPath => arguments = []
  | .error (.unknown argument) => ∃ (options : List PathOption) (rest : List String),
      argument ∉ ["--config", "-c", "--help", "-h"] ∧
        arguments = options.flatMap PathOption.words ++ argument :: rest

theorem isPathOption_iff : isPathOption word = true ↔ word = "--config" ∨ word = "-c" := by
  simp [isPathOption]

theorem isHelpOption_iff : isHelpOption word = true ↔ word = "--help" ∨ word = "-h" := by
  simp [isHelpOption]

theorem parseFrom_option (h : word = "--config" ∨ word = "-c") (value : String)
    (rest : List String) :
    parseFrom path (word :: value :: rest) = parseFrom (some value) rest := by
  rw [parseFrom, if_pos (isPathOption_iff.2 h)]

theorem parseFrom_lone (h : word = "--config" ∨ word = "-c") :
    parseFrom path [word] = .error .missingValue := by
  rw [parseFrom, if_pos (isPathOption_iff.2 h)]

theorem parseFrom_help (h : word = "--help" ∨ word = "-h") (rest : List String) :
    parseFrom path (word :: rest) = .ok .help := by
  have hpath : isPathOption word = false := by rcases h with rfl | rfl <;> decide
  have hhelp : isHelpOption word = true := isHelpOption_iff.2 h
  cases rest <;> simp [parseFrom, hpath, hhelp]

theorem parseFrom_unknown (h : word ∉ ["--config", "-c", "--help", "-h"]) (rest : List String) :
    parseFrom path (word :: rest) = .error (.unknown word) := by
  simp only [List.mem_cons, List.not_mem_nil, or_false, not_or] at h
  obtain ⟨hconfig, hc, hhelp, hh⟩ := h
  cases rest <;> simp [parseFrom, isPathOption, isHelpOption, *]

/-- Of options one after another the last counts. -/
theorem parseFrom_options (path : Option String) (options : List PathOption)
    (rest : List String) :
    parseFrom path (options.flatMap PathOption.words ++ rest) =
      parseFrom ((options.getLast?.map PathOption.value).or path) rest := by
  induction options generalizing path with
  | nil => rfl
  | cons o options ih =>
    rw [List.flatMap_cons, List.append_assoc, PathOption.words, List.cons_append, List.cons_append,
      List.nil_append, parseFrom_option o.isOption, ih, List.getLast?_cons]
    cases options.getLast? <;> rfl

/-- Arguments are options with their values as far as they go. -/
theorem exists_options : ∀ arguments : List String, ∃ (options : List PathOption)
    (rest : List String), arguments = options.flatMap PathOption.words ++ rest ∧
      ∀ word value more, rest = word :: value :: more → ¬ (word = "--config" ∨ word = "-c")
  | [] => ⟨[], [], rfl, nofun⟩
  | [word] => ⟨[], [word], rfl, nofun⟩
  | word :: value :: more => by
    by_cases hword : word = "--config" ∨ word = "-c"
    · obtain ⟨options, rest, rfl, hrest⟩ := exists_options more
      exact ⟨⟨word, value, hword⟩ :: options, rest, rfl, hrest⟩
    · refine ⟨[], word :: value :: more, rfl, ?_⟩
      rintro _ _ _ ⟨⟩
      exact hword

/-- Arguments have a form that asks for something. -/
theorem exists_asks (arguments : List String) : ∃ outcome, Asks arguments outcome := by
  obtain ⟨options, rest, rfl, hrest⟩ := exists_options arguments
  rcases rest with _ | ⟨word, more⟩
  · rw [List.append_nil]
    cases hlast : options.getLast? with
    | none =>
      obtain rfl := List.getLast?_eq_none_iff.1 hlast
      exact ⟨.error .missingPath, rfl⟩
    | some last => exact ⟨.ok (.run last.value), options, last, hlast, rfl, rfl⟩
  by_cases hpath : word = "--config" ∨ word = "-c"
  · cases more with
    | nil => exact ⟨.error .missingValue, options, word, hpath, rfl⟩
    | cons value more => exact absurd hpath (hrest word value more rfl)
  by_cases hhelp : word = "--help" ∨ word = "-h"
  · exact ⟨.ok .help, options, word, more, hhelp, rfl⟩
  · refine ⟨.error (.unknown word), options, more, ?_, rfl⟩
    simp only [List.mem_cons, List.not_mem_nil]
    tauto

/-- Arguments are read as what their form asks for. -/
theorem parse_of_asks (h : Asks arguments outcome) : parse arguments = outcome := by
  rcases outcome with (- | argument | -) | (path | -)
  case error.missingValue =>
    obtain ⟨options, word, hword, rfl⟩ := h
    rw [parse, parseFrom_options, parseFrom_lone hword]
  case error.unknown =>
    obtain ⟨options, rest, hnot, rfl⟩ := h
    rw [parse, parseFrom_options, parseFrom_unknown hnot]
  case error.missingPath =>
    obtain rfl : arguments = [] := h
    rfl
  case ok.run =>
    obtain ⟨options, last, hlast, rfl, rfl⟩ := h
    have hparse := parseFrom_options none options []
    rw [List.append_nil, hlast] at hparse
    exact hparse
  case ok.help =>
    obtain ⟨options, word, rest, hword, rfl⟩ := h
    rw [parse, parseFrom_options, parseFrom_help hword]

theorem parse_eq_iff : parse arguments = outcome ↔ Asks arguments outcome := by
  constructor
  · rintro rfl
    obtain ⟨outcome, houtcome⟩ := exists_asks arguments
    rwa [parse_of_asks houtcome]
  · exact parse_of_asks

/-! How the command ends. -/

theorem toList_message_unknown (argument : String) :
    (ArgumentError.unknown argument).message.toList =
      "error: unknown argument: ".toList ++ argument.toList :=
  String.toList_append

theorem head?_message (e : ArgumentError) : e.message.toList.head? = some 'e' := by
  cases e with
  | unknown argument =>
    rw [toList_message_unknown, List.head?_append_of_ne_nil _ (by decide)]
    decide
  | missingValue => decide
  | missingPath => decide

/-- What is said of an unknown argument begins like nothing else that is said. -/
theorem message_unknown_ne {argument : String} {e : ArgumentError}
    (h : e.message.toList[7]? = some '-') : (ArgumentError.unknown argument).message ≠ e.message := by
  intro heq
  rw [← heq, toList_message_unknown, List.getElem?_append_left (by decide)] at h
  revert h
  decide

/-- Each complaint is about one thing. -/
theorem message_injective : Function.Injective ArgumentError.message := by
  have hvalue : ArgumentError.missingValue.message.toList[7]? = some '-' := by decide
  have hpath : ArgumentError.missingPath.message.toList[7]? = some '-' := by decide
  have hne : ArgumentError.missingValue.message ≠ ArgumentError.missingPath.message := by decide
  intro e e' h
  cases e <;> cases e'
  case unknown.unknown argument argument' =>
    rw [← String.toList_inj, toList_message_unknown, toList_message_unknown,
      List.append_cancel_left_eq, String.toList_inj] at h
    rw [h]
  case unknown.missingValue => exact absurd h (message_unknown_ne hvalue)
  case unknown.missingPath => exact absurd h (message_unknown_ne hpath)
  case missingValue.unknown => exact absurd h.symm (message_unknown_ne hvalue)
  case missingPath.unknown => exact absurd h.symm (message_unknown_ne hpath)
  case missingValue.missingPath => exact absurd h hne
  case missingPath.missingValue => exact absurd h.symm hne
  all_goals rfl

/-- What is said of a monitor that could not be started is no complaint about arguments. -/
theorem failure_ne_message (failure : String) (e : ArgumentError) :
    "Error: " ++ failure ≠ e.message := by
  intro h
  have hhead := head?_message e
  rw [← h, String.toList_append, List.head?_append_of_ne_nil _ (by decide)] at hhead
  revert hhead
  decide

/-- The command complains about arguments just if they cannot be read. -/
theorem launch_eq_complaint_iff {e : ArgumentError} :
    launch files stamp arguments = .error ⟨1, [], some e.message⟩ ↔
      parse arguments = .error e := by
  rw [launch]
  cases hparse : parse arguments with
  | error e' => simp [message_injective.eq_iff]
  | ok command =>
    cases command with
    | help => simp
    | run path =>
      dsimp only
      split
      · simp [failure_ne_message]
      · simp

/-- The command ends without fault just if it is asked for help, which it prints. -/
theorem launch_eq_help_iff :
    launch files stamp arguments = .error ⟨0, helpLines, none⟩ ↔ parse arguments = .ok .help := by
  rw [launch]
  cases hparse : parse arguments with
  | error e => simp
  | ok command =>
    cases command with
    | help => simp
    | run path =>
      dsimp only
      split <;> simp

/-- Arguments ask for a monitor to run if they are options with their values and nothing else, and
the last value is the path; for help if a word for help follows such options; and else they are at
fault in one way, which the command names. It ends with help and without fault just in the second
case, and with that complaint just in the third. -/
theorem arguments_settle_ending (files : FileTree) (stamp : Timestamp) (arguments : List String) :
    (∀ outcome, parse arguments = outcome ↔ Asks arguments outcome) ∧
    (launch files stamp arguments = .error ⟨0, helpLines, none⟩ ↔ Asks arguments (.ok .help)) ∧
    (∀ e : ArgumentError, launch files stamp arguments = .error ⟨1, [], some e.message⟩ ↔
      Asks arguments (.error e)) := by
  refine ⟨fun outcome => parse_eq_iff, ?_, fun e => ?_⟩
  · rw [launch_eq_help_iff, parse_eq_iff]
  · rw [launch_eq_complaint_iff, parse_eq_iff]

/-- What stands where a value does is one, even if it looks like an option. -/
example : parse ["-c", "--help", "--config", "-c"] = .ok (.run "-c") := by decide

end HealthRelay.CommandLine
