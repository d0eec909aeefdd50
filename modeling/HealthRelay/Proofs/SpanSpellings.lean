import HealthRelay.Proofs.Json.Replacement
import HealthRelay.Proofs.SettingsVariants

/-!
Every way to write a span of time stands for the same span, wherever it is in settings, and changes
nothing else there.
-/
namespace HealthRelay

open Json

variable {d : Duration} {o o' new : Outline} {rest : List (String × Nat)}

namespace Duration

/-- The ways to write a span of time: whole nanoseconds, as a number, as its digits, and with the
unit, and the text that settings are written with. -/
def spellings (d : Duration) : List Json :=
  [.ofNat d.nanos, .string (toString d.nanos), .string (toString d.nanos ++ "ns"), .string d.text]

/-- Digits alone are read as nanoseconds. -/
theorem parse_digits (h : d.FitsWord) : parse (toString d.nanos) = .ok d := by
  have htrim : Text.trim (Nat.toDigits 10 d.nanos) = Nat.toDigits 10 d.nanos :=
    Text.trim_eq_self fun c hc => Text.isBlank_of_isDigit (Text.isDigit_of_mem_toDigits hc)
  have hbare : bare? (Nat.toDigits 10 d.nanos) = some d := by
    unfold bare?
    split
    case h_1 rest hplus =>
      have hmem : '+' ∈ Nat.toDigits 10 d.nanos := hplus ▸ List.mem_cons_self
      cases Text.isDigit_of_mem_toDigits hmem
    case h_2 => simp [word?_toDigits h, ofNanos?_nanos]
  simp [parse, htrim, hbare]

/-- With the unit they are read as the same. -/
theorem parse_nanoseconds (h : d.FitsWord) : parse (toString d.nanos ++ "ns") = .ok d :=
  @parse_of_toList ['n', 's'] _ d.nanos 1 d (by simp) rfl (Nat.mul_one _).symm h

theorem read_string {s : String} (h : parse s = .ok d) : read (Json.string s).outline = .ok d := by
  simp [read, outline, h]

theorem read_spelling (h : d.FitsWord) {j : Json} (hj : j ∈ d.spellings) :
    read j.outline = .ok d := by
  simp only [spellings, List.mem_cons, List.not_mem_nil, or_false] at hj
  rcases hj with rfl | rfl | rfl | rfl
  · simp [read, ofNat, outline, number?_ofNat h, ofNanos?_nanos]
  · exact read_string (parse_digits h)
  · exact read_string (parse_nanoseconds h)
  · exact read_string (parse_of_text h)

end Duration

/-! One span in another's place. -/

/-- What is put at the end of a path is what is read there. -/
theorem read_here (hnew : Duration.read new = .ok d) {was : Duration} (old old' : Outline)
    (h : Outline.Put new [] old old') (_ : Duration.read old = .ok was) :
    Duration.read old' = .ok d := by
  cases h
  exact hnew

namespace RetryPolicy

variable {p : RetryPolicy}

theorem read_put_maxBackoff (hnew : Duration.read new = .ok d)
    (hput : Outline.Put new [("maxBackoff", 2)] o o') (hread : read o = .ok p) :
    read o' = .ok { p with maxBackoff := d } :=
  read_eq_ok_iff.2 ((read_eq_ok_iff.1 hread).put [_, _] hput p.nodup_names (read_here hnew))

theorem read_put_initialBackoff (hnew : Duration.read new = .ok d)
    (hput : Outline.Put new [("initialBackoff", 3)] o o') (hread : read o = .ok p) :
    read o' = .ok { p with initialBackoff := d } :=
  read_eq_ok_iff.2 ((read_eq_ok_iff.1 hread).put [_, _, _] hput p.nodup_names (read_here hnew))

end RetryPolicy

namespace ProbePolicy

variable {p : ProbePolicy}

theorem read_put_interval (hnew : Duration.read new = .ok d)
    (hput : Outline.Put new [("interval", 0)] o o') (hread : read o = .ok p) :
    read o' = .ok { p with interval := d } :=
  read_eq_ok_iff.2 ((read_eq_ok_iff.1 hread).put [] hput p.nodup_names (read_here hnew))

theorem read_put_timeout (hnew : Duration.read new = .ok d)
    (hput : Outline.Put new [("timeout", 1)] o o') (hread : read o = .ok p) :
    read o' = .ok { p with timeout := d } :=
  read_eq_ok_iff.2 ((read_eq_ok_iff.1 hread).put [_] hput p.nodup_names (read_here hnew))

end ProbePolicy

namespace PluginSettings

variable {p : PluginSettings}

theorem read_put_invokeInterval (hnew : Duration.read new = .ok d)
    (hput : Outline.Put new [("invoke_interval", 1)] o o') (hread : read o = .ok p) :
    read o' = .ok { p with invokeInterval := d } :=
  read_eq_ok_iff.2 ((read_eq_ok_iff.1 hread).put [_] hput p.nodup_names (read_here hnew))

theorem read_put_timeout (hnew : Duration.read new = .ok d)
    (hput : Outline.Put new [("timeout", 2)] o o') (hread : read o = .ok p) :
    read o' = .ok { p with timeout := d } :=
  read_eq_ok_iff.2 ((read_eq_ok_iff.1 hread).put [_, _] hput p.nodup_names (read_here hnew))

theorem read_put_retry {q : RetryPolicy}
    (hretry : ∀ old old' : Outline, Outline.Put new rest old old' →
      RetryPolicy.read old = .ok p.retry → RetryPolicy.read old' = .ok q)
    (hput : Outline.Put new (("retryPolicy", 4) :: rest) o o') (hread : read o = .ok p) :
    read o' = .ok { p with retry := q } :=
  read_eq_ok_iff.2 ((read_eq_ok_iff.1 hread).put [_, _, _, _] hput p.nodup_names hretry)

theorem read_put_probe {q : ProbePolicy}
    (hprobe : ∀ old old' : Outline, Outline.Put new rest old old' →
      ProbePolicy.read old = .ok p.probe → ProbePolicy.read old' = .ok q)
    (hput : Outline.Put new (("healthCheck", 5) :: rest) o o') (hread : read o = .ok p) :
    read o' = .ok { p with probe := q } :=
  read_eq_ok_iff.2 ((read_eq_ok_iff.1 hread).put [_, _, _, _, _] hput p.nodup_names hprobe)

end PluginSettings

theorem Settings.read_put_pluginSettings {s : Settings} {q : PluginSettings}
    (hsettings : ∀ old old' : Outline, Outline.Put new rest old old' →
      PluginSettings.read old = .ok s.pluginSettings → PluginSettings.read old' = .ok q)
    (hput : Outline.Put new (("pluginConfig", 1) :: rest) o o') (hread : read o = .ok s) :
    read o' = .ok { s with pluginSettings := q } :=
  read_eq_ok_iff.2 ((read_eq_ok_iff.1 hread).put [_] hput s.nodup_names hsettings)

/-- The places of settings where there is a span of time. -/
inductive SpanPlace where
  | invokeInterval
  | timeout
  | maxBackoff
  | initialBackoff
  | probeInterval
  | probeTimeout

namespace SpanPlace

/-- The way there through the records of a text. -/
def path : SpanPlace → List (String × Nat)
  | invokeInterval => [("pluginConfig", 1), ("invoke_interval", 1)]
  | timeout => [("pluginConfig", 1), ("timeout", 2)]
  | maxBackoff => [("pluginConfig", 1), ("retryPolicy", 4), ("maxBackoff", 2)]
  | initialBackoff => [("pluginConfig", 1), ("retryPolicy", 4), ("initialBackoff", 3)]
  | probeInterval => [("pluginConfig", 1), ("healthCheck", 5), ("interval", 0)]
  | probeTimeout => [("pluginConfig", 1), ("healthCheck", 5), ("timeout", 1)]

/-- The settings with this span there. -/
def set (s : Settings) (d : Duration) : SpanPlace → Settings
  | invokeInterval => { s with pluginSettings.invokeInterval := d }
  | timeout => { s with pluginSettings.timeout := d }
  | maxBackoff => { s with pluginSettings.retry.maxBackoff := d }
  | initialBackoff => { s with pluginSettings.retry.initialBackoff := d }
  | probeInterval => { s with pluginSettings.probe.interval := d }
  | probeTimeout => { s with pluginSettings.probe.timeout := d }

end SpanPlace

/-- Settings with a span put in place of another are read as the same settings with that span. -/
theorem Settings.read_put {s : Settings} {place : SpanPlace} (hnew : Duration.read new = .ok d)
    (hput : Outline.Put new place.path o o') (hread : read o = .ok s) :
    read o' = .ok (place.set s d) := by
  cases place with
  | invokeInterval =>
    exact read_put_pluginSettings (fun _ _ =>
      PluginSettings.read_put_invokeInterval hnew) hput hread
  | timeout =>
    exact read_put_pluginSettings (fun _ _ =>
      PluginSettings.read_put_timeout hnew) hput hread
  | maxBackoff =>
    exact read_put_pluginSettings (fun _ _ => PluginSettings.read_put_retry fun _ _ =>
      RetryPolicy.read_put_maxBackoff hnew) hput hread
  | initialBackoff =>
    exact read_put_pluginSettings (fun _ _ => PluginSettings.read_put_retry fun _ _ =>
      RetryPolicy.read_put_initialBackoff hnew) hput hread
  | probeInterval =>
    exact read_put_pluginSettings (fun _ _ => PluginSettings.read_put_probe fun _ _ =>
      ProbePolicy.read_put_interval hnew) hput hread
  | probeTimeout =>
    exact read_put_pluginSettings (fun _ _ => PluginSettings.read_put_probe fun _ _ =>
      ProbePolicy.read_put_timeout hnew) hput hread

/-- A span that fits a 64-bit word of nanoseconds is read back as it is written, and it is read from
every one of its spellings. Whichever of them stands for a span in settings, in a text that is
otherwise one that settings are read from, the settings have this very span there, and are the same
everywhere else. -/
theorem Duration.read_spellings (d : Duration) (h : d.FitsWord) :
    parse d.text = .ok d ∧
    ∀ j ∈ d.spellings,
      read j.outline = .ok d ∧
      ∀ (place : SpanPlace) (s : Settings) (v v' : Outline) (text text' : String),
        Settings.parse text = .ok s → v.SpelledBy text →
        Outline.Put j.outline place.path v v' → v'.SpelledBy text' →
        Settings.parse text' = .ok (place.set s d) := by
  refine ⟨parse_of_text h, ?_⟩
  intro j hj
  refine ⟨read_spelling h hj, ?_⟩
  intro place s v v' text text' hparse hv hput hv'
  have hread : Settings.read v = .ok s := by
    rw [← hv.readText_eq Settings.read]
    exact Settings.parse_eq_ok_iff.1 hparse
  rw [Settings.parse_eq_ok_iff, hv'.readText_eq Settings.read]
  exact Settings.read_put (read_spelling h hj) hput hread

/-- A second and a half, in a number of nanoseconds, as the longest wait. -/
theorem Duration.read_spellings_maxBackoff :
    let d : Duration := ⟨1500000000, by decide⟩
    let head := "\x7b\"plugin\":\"external\",\"pluginConfig\":\x7b\"socketAddress\":" ++
      "\"/run/gpu.sock\",\"retryPolicy\":\x7b\"maxBackoff\":"
    let text := head ++ "\"0s\"\x7d\x7d,\"source\":\"gpu\"\x7d"
    let text' := head ++ " 1500000000\x7d\x7d,\"source\":\"gpu\"\x7d"
    d.FitsWord ∧ parse d.text = .ok d ∧
      Settings.parse text = .ok (.new "gpu" "/run/gpu.sock") ∧
      Settings.parse text' = .ok (SpanPlace.maxBackoff.set (.new "gpu" "/run/gpu.sock") d) := by
  intro d head text text'
  let plugin : Outline × Outline := (.string (some "plugin"), .string (some "external"))
  let source : Outline × Outline := (.string (some "source"), .string (some "gpu"))
  let socket : Outline × Outline :=
    (.string (some "socketAddress"), .string (some "/run/gpu.sock"))
  let retry (span : Outline) : Outline × Outline :=
    (.string (some "retryPolicy"), .object [(.string (some "maxBackoff"), span)] true)
  let config (span : Outline) : Outline :=
    .object [plugin, (.string (some "pluginConfig"), .object [socket, retry span] true), source]
      true
  let zero := config (.string (some "0s"))
  let number := config (Json.ofNat d.nanos).outline
  have hfits : d.FitsWord := by
    unfold FitsWord
    decide
  have hspelled : zero.SpelledBy text := by
    have htokens : tokens text.toList = zero.tokens := by decide +kernel
    apply spelledBy_of_document _ id
    rw [document, htokens]
    rfl
  have hspelled' : number.SpelledBy text' := by
    have htokens : tokens text'.toList = number.tokens := by decide +kernel
    apply spelledBy_of_document _ id
    rw [document, htokens]
    rfl
  have hput : Outline.Put (Json.ofNat d.nanos).outline SpanPlace.maxBackoff.path zero number :=
    .member [plugin] [source] (.member [socket] [] (.member [] [] (.here _)))
  have hread : Settings.read zero = .ok (.new "gpu" "/run/gpu.sock") := by rfl
  have hparse : Settings.parse text = .ok (.new "gpu" "/run/gpu.sock") := by
    rw [Settings.parse_eq_ok_iff, hspelled.readText_eq, hread]
  obtain ⟨htext, hspellings⟩ := read_spellings d hfits
  refine ⟨hfits, htext, hparse, ?_⟩
  exact (hspellings (.ofNat d.nanos) List.mem_cons_self).2 .maxBackoff _ zero number text text'
    hparse hspelled hput hspelled'

end HealthRelay
