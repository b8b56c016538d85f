import VersionedStore.Instant.Rfc3339

/-!
# Instants by seconds

The instant that follows the start of 1970 by a number of seconds, as clocks count them.
-/

namespace VersionedStore

/-- The day that follows another by a number of days. -/
def Date.after? : Nat → Date → Option Date
  | 0, d => some d
  | n + 1, d => d.next?.bind (after? n)

namespace Instant

/-- The instant at a number of seconds and nanoseconds behind the epoch. -/
def ofUnix? (seconds nanosecond : Nat) : Option Instant := do
  let day ← epoch.toDate.after? (seconds / 86400)
  let rest := seconds % 86400
  (ofLocal day (rest / 3600) (rest / 60 % 60) (rest % 60) nanosecond 0).toOption

end Instant

end VersionedStore
