import Gazetteer.Duration

/-!
# Settings

How addresses are looked up: where the index lies, how long results are, how far sorting reaches,
and how patient the service is with its backend. Every setting has a value of its own, so that a
settings file names only those that differ.
-/

namespace Gazetteer

/-- The settings of a lookup service and of its index. -/
structure Settings where
  indexFolder : String := ""
  writerMemory : UInt64 := 67108864
  defaultSize : UInt64 := 20
  defaultSuggestSize : UInt64 := 15
  sortWindow : UInt64 := 1000
  timeoutMillis : UInt64 := 2000
  maxRetries : UInt32 := 2
  retryBaseMillis : UInt64 := 100
  extraStreetTypes : List String := []

/-- The settings where nobody says otherwise. -/
def Settings.standard : Settings := {}

/-- What the building of an index has done. -/
structure BuildReport where
  documents : UInt64
  skippedRows : UInt64
  bytes : UInt64
  seconds : Float

end Gazetteer
