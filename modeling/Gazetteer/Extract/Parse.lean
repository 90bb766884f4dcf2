import Gazetteer.Extract.Reader

/-!
# Row by row

An extract as it is worked through: each address goes, as its row is read, to whoever takes it, who
has a state of his own, and the rows are counted on the way. Collecting the addresses is one way to
take them.
-/

namespace Gazetteer.Extract

/-- The rows that gave an address, and the others. -/
structure ParseCounts where
  records : Nat := 0
  skipped : Nat := 0

/-- **One row**: its address is taken and counted, or the row is. -/
def parseRow {σ : Type} (take : σ → Address → σ) : ParseCounts × σ → Option Row → ParseCounts × σ
  | (counts, state), row =>
    match addressOf? row with
    | some address => ({ counts with records := counts.records + 1 }, take state address)
    | none => ({ counts with skipped := counts.skipped + 1 }, state)

/-- **Working through an extract.** -/
def parse {σ : Type} (take : σ → Address → σ) (start : σ) (bytes : List UInt8) : ParseCounts × σ :=
  (rows bytes).foldl (parseRow take) ({}, start)

/-- **The addresses of an extract that is given as text**, collected one after the other. -/
def collect (csv : String) : List Address :=
  (parse (fun found address => found ++ [address]) [] (bytesOf csv)).2

end Gazetteer.Extract
