import HealthRelay.Main
import HealthRelay.Proofs.Frame
import HealthRelay.Proofs.Ownership
import HealthRelay.Proofs.Budget
import HealthRelay.Proofs.LastSent
import HealthRelay.Proofs.Json.Scanning
import HealthRelay.Proofs.Json.Numerals
import HealthRelay.Proofs.Json.Spelling
import HealthRelay.Proofs.DurationText
import HealthRelay.Proofs.Json.Rendering
import HealthRelay.Proofs.Json.Records
import HealthRelay.Proofs.TableOrder
import HealthRelay.Proofs.SettingsText
import HealthRelay.Proofs.Calendar
import HealthRelay.Proofs.TimestampText
import HealthRelay.Proofs.Json.Plain
import HealthRelay.Proofs.StatusText
import HealthRelay.Proofs.Effect
import HealthRelay.Proofs.ErrorStreak
import HealthRelay.Proofs.Numbering
import HealthRelay.Proofs.Delivery
import HealthRelay.Proofs.News
import HealthRelay.Proofs.Exclusion
import HealthRelay.Proofs.Lifecycle
import HealthRelay.Proofs.Timeless
import HealthRelay.Proofs.Clocks
import HealthRelay.Proofs.Closing
import HealthRelay.Proofs.Transports
import HealthRelay.Proofs.NumberOrder
import HealthRelay.Proofs.Acceptance
import HealthRelay.Proofs.Json.Lexing
import HealthRelay.Proofs.Json.Recognition
import HealthRelay.Proofs.Json.Documents
import HealthRelay.Proofs.Json.Variants
import HealthRelay.Proofs.SettingsVariants
import HealthRelay.Proofs.Rounding
import HealthRelay.Proofs.Delays
import HealthRelay.Proofs.Onsets
import HealthRelay.Proofs.Opening
import HealthRelay.Proofs.Outcomes
import HealthRelay.Proofs.Overlap
import HealthRelay.Proofs.Debounce
import HealthRelay.Proofs.Identity
import HealthRelay.Proofs.DurationGrammar
import HealthRelay.Proofs.Json.Replacement
import HealthRelay.Proofs.SpanSpellings
import HealthRelay.Proofs.ExactValues
import HealthRelay.Proofs.RoundingError
import HealthRelay.Proofs.Seconds
import HealthRelay.Proofs.PowerDelays
import HealthRelay.Proofs.RoundedSpans
import HealthRelay.Proofs.FirstViolation
import HealthRelay.Proofs.Repeats
import HealthRelay.Proofs.SpanSums
import HealthRelay.Proofs.Text.ByteOrder
import HealthRelay.Proofs.Registrations
import HealthRelay.Proofs.Arguments
