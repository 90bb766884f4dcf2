import Gazetteer.Index.Search
import Gazetteer.Lookup

/-!
# The index as a backend

An index answers every attempt at once and always in the same way. Both calls may be refused as far
as a backend can tell, and what an index refuses is reported as its failure, which is there to stay.
That a search is in fact never refused is a property of the index and not of how it is called.
-/

namespace Gazetteer.AddressIndex

/-- What an index says to a call, as the answer of a backend. -/
def answerOf (outcome : Except EngineFailure (List Hit)) : Except BackendFailure (List Hit) :=
  outcome.mapError fun cause => (IndexFailure.engine cause).toBackend

/-- **The backend of an index.** -/
def backend (index : AddressIndex) : Backend where
  search call _ := .immediate (answerOf (index.trySearch call.plan call.sort call.limit))
  suggest call _ := .immediate (answerOf (index.suggest call.text call.limit))

end Gazetteer.AddressIndex
