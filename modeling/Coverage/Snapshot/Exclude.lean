import Coverage.Pattern.Size
import Coverage.Snapshot.Basic

/-!
# Leaving files out

The files whose paths match one of several patterns are left out of a snapshot.
-/

namespace Coverage.Snapshot

/-- The snapshot without the files whose path matches one of the patterns. -/
def exclude (s : Snapshot) (patterns : List Pattern) : Snapshot :=
  s.filter fun path => !patterns.any fun p => p.matchesText path

end Coverage.Snapshot
