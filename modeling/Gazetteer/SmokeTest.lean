import Gazetteer.Index.Search
import Gazetteer.Query.Strategy

/-!
# Smoke tests

Queries with the id of an address that each has to find among its first hits. They tell whether an
index holds what it should and is searched as it should be.
-/

namespace Gazetteer

/-- A query and the id that it has to find among so many hits. -/
structure SmokeTest where
  query : String
  expectedId : String
  topCount : Nat := 1

/-- What a smoke test has found. -/
structure SmokeTest.Result where
  test : SmokeTest
  strategy : Strategy
  matchedIds : List String

namespace SmokeTest

/-- The tests for the sample extract. -/
def sampleTests : List SmokeTest :=
  [⟨"45/15 breaker street main beach", "GAQLD155116960", 1⟩,
   ⟨"11 oyster cove promenade helensvale", "GAQLD160000011", 1⟩,
   ⟨"42 andrew campbell drive north lakes", "GAQLD170000042", 1⟩,
   ⟨"7 smith street", "GAQLD190000007", 1⟩,
   ⟨"2/21 smith", "GAQLD190000021", 1⟩,
   ⟨"lower red", "GAQLD180000100", 1⟩,
   ⟨"15 breaker street", "GAQLD155116961", 2⟩]

/-- Running one test. -/
def run (lexicon : Lexicon) (index : AddressIndex) (test : SmokeTest) : Result :=
  let planned := (interpret lexicon test.query).planned
  ⟨test, planned.strategy,
    (index.search planned.plan planned.sort test.topCount).filterMap (·.id)⟩

/-- Running all tests. -/
def runAll (lexicon : Lexicon) (index : AddressIndex) : List Result :=
  sampleTests.map (run lexicon index)

/-- Ids with commas between them. -/
def listed : List String → String
  | [] => ""
  | [id] => id
  | id :: rest => id ++ ", " ++ listed rest

namespace Result

/-- Whether the expected address was found. -/
def passed (r : Result) : Bool :=
  r.matchedIds.contains r.test.expectedId

/-- What a failed test says. -/
def failureReason? (r : Result) : Option String :=
  if r.passed then none
  else if r.matchedIds = [] then some "no match found"
  else some
    ("expected " ++ r.test.expectedId ++ " in top " ++ toString r.test.topCount ++ ", got " ++
    listed r.matchedIds)

end Result

/-- The number of tests that passed. -/
def passedCount (results : List Result) : Nat :=
  results.countP Result.passed

/-- Whether every test passed. -/
def allPassed (results : List Result) : Bool :=
  passedCount results == results.length

/-- The line that sums the tests up. -/
def summary (results : List Result) : String :=
  toString (passedCount results) ++ "/" ++ toString results.length ++ " smoke tests passed"

end SmokeTest

end Gazetteer
