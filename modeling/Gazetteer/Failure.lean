/-!
# Failures

What can go wrong below a search, from files up to the backend that answers it, and the sentence
that says so. Only two kinds of backend failure may be over when the same call is made again: a
backend that is not there, and a file that could not be read. Asking for an index that does not
exist is a failure of the first kind, because an index can still be built; everything that is wrong
with a query or an extract is permanent.
-/

namespace Gazetteer

/-- Why a file could not be read or written. -/
inductive FileFailure where
  | notFound
  | notFolder
  | isFolder
  | invalidPath
  | notText
  | other (reason : String)
deriving DecidableEq

/-- The sentence for a failure of a file. -/
def FileFailure.message : FileFailure → String
  | .notFound => "No such file or directory (os error 2)"
  | .notFolder => "Not a directory (os error 20)"
  | .isFolder => "Is a directory (os error 21)"
  | .invalidPath => "Invalid argument (os error 22)"
  | .notText => "stream did not contain valid UTF-8"
  | .other reason => reason

/-- Why an index refuses what it is asked. -/
inductive EngineFailure where
  | completionTooLong
  | unreadablePattern
  | noRoom
  | noCatalogue (path : String)
  | catalogueExists (path : String)
  | memoryBudget
deriving DecidableEq

/-- The sentence for a refusal of an index. -/
def EngineFailure.message : EngineFailure → String
  | .completionTooLong => "The text to be completed is too long"
  | .unreadablePattern => "The pattern of the text to be completed cannot be read"
  | .noRoom => "Candidates can only be collected where there is room for one"
  | .noCatalogue path => "There is no index in " ++ path
  | .catalogueExists path => "There is already an index in " ++ path
  | .memoryBudget => "The memory budget of the writer is out of range"

/-- Why an extract could not be read. -/
inductive ExtractFailure where
  | notFound (path : String)
  | file (path : String) (cause : FileFailure)
deriving DecidableEq

/-- The sentence for a failure of an extract. -/
def ExtractFailure.message : ExtractFailure → String
  | .notFound path => "File not found: " ++ path
  | .file path cause => "I/O error at " ++ path ++ ": " ++ cause.message

/-- Why a backend did not answer. -/
inductive BackendFailure where
  | unavailable (reason : String)
  | query (reason : String)
  | file (cause : FileFailure)
  | other (reason : String)
deriving DecidableEq

namespace BackendFailure

/-- The sentence for a failure of a backend. -/
def message : BackendFailure → String
  | .unavailable reason => "Backend unavailable: " ++ reason
  | .query reason => "Query failed: " ++ reason
  | .file cause => "I/O error: " ++ cause.message
  | .other reason => reason

/-- **Whether the same call may succeed later.** -/
def isTransient : BackendFailure → Bool
  | .unavailable _ => true
  | .file _ => true
  | .query _ => false
  | .other _ => false

end BackendFailure

/-- Why an index could not be built, opened or searched. -/
inductive IndexFailure where
  | engine (cause : EngineFailure)
  | extract (cause : ExtractFailure)
  | file (cause : FileFailure)
  | notFound (path : String)
deriving DecidableEq

namespace IndexFailure

/-- The sentence for a failure of an index. -/
def message : IndexFailure → String
  | .engine cause => "Index error: " ++ cause.message
  | .extract cause => "Records error: " ++ cause.message
  | .file cause => "I/O error: " ++ cause.message
  | .notFound path => "Index directory not found: " ++ path

/-- **The failure of an index as that of a backend.** What an index refuses is a matter of the
query, but for a collector without room: that is a mistake in the asking, and ends the task. -/
def toBackend : IndexFailure → BackendFailure
  | .engine .noRoom => .other (EngineFailure.message .noRoom)
  | .engine cause => .query cause.message
  | .file cause => .file cause
  | .notFound path => .unavailable (message (.notFound path))
  | .extract cause => .other (message (.extract cause))

end IndexFailure

end Gazetteer
