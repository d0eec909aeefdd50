import HealthRelay.Failure
import HealthRelay.Queue
import HealthRelay.Status

/-!
The host's end of the queue of reports.
-/

namespace HealthRelay

abbrev Stream := Queue Status

namespace Stream

/-- Takes a report if there is one. -/
def tryRecv (s : Stream) : Except RelayError (Option Status) × Stream :=
  match s.take with
  | (.item status, s) => (.ok (some status), s)
  | (.empty, s) => (.ok none, s)
  | (.closed, s) => (.error .streamClosed, s)

/-- Takes a report after having waited in vain for up to a time limit. -/
def recvTimeout (limit : Duration) (s : Stream) : Except RelayError Status × Stream :=
  match s.take with
  | (.item status, s) => (.ok status, s)
  | (.empty, s) => (.error (.streamTimeout (min limit.millis (UInt64.size - 1))), s)
  | (.closed, s) => (.error .streamClosed, s)

/-- Takes a report however long it takes to come; nothing if it never comes. -/
def recv? (s : Stream) : Option (Except RelayError Status × Stream) :=
  match s.take with
  | (.item status, s) => some (.ok status, s)
  | (.empty, _) => none
  | (.closed, s) => some (.error .streamClosed, s)

/-- Takes all reports there are. -/
def drain (s : Stream) : List Status × Stream := (s.items, { s with items := [] })

end Stream

end HealthRelay
