import Gazetteer.Text.Alphanumeric
import Gazetteer.Text.Lowercase
import Gazetteer.Text.PlainForm
import Gazetteer.Text.Runs

/-!
# Index terms

The terms of a text are its runs of letters and numbers, each character in lowercase and in its
plain form. Values are cut into terms when an address is indexed and again when a clause is matched.
-/

namespace Gazetteer.Index

/-- What a character contributes to its term. -/
def termChar (c : Char) : List Char :=
  (Text.lowerChar c).flatMap Text.plainForm

/-- **The terms of a text**, in order, as often as they occur. -/
def terms (s : String) : List String :=
  (Text.runs Text.isAlphanumeric s.toList).map fun run => String.ofList (run.flatMap termChar)

end Gazetteer.Index
