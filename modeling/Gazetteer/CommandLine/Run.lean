import Gazetteer.CommandLine.Arguments
import Gazetteer.Form.Hit
import Gazetteer.Form.Query
import Gazetteer.Index.Backend
import Gazetteer.Json.Printer
import Gazetteer.Settings.File
import Gazetteer.SmokeTest
import Gazetteer.Storage.Build

/-!
# Commands

What each command does on a disk. Results are printed as spread JSON, the smoke tests as one line.
The exit code is 2 for arguments that make no sense and 1 for everything that goes wrong after them.
-/

namespace Gazetteer.CommandLine

open Storage (Disk ExtractSource)

variable {m : Type → Type} [Monad m]

/-- What a command leaves: its exit code, what it prints, and what it complains of, both in whole
lines. -/
structure Outcome where
  code : UInt32
  output : String
  complaint : String := ""

namespace Outcome

/-- A success that prints JSON. -/
def printed (j : Json) : Outcome :=
  ⟨0, j.spread ++ "\n", ""⟩

/-- A failure that prints nothing. -/
def failed (complaint : String) : Outcome :=
  ⟨1, "", complaint ++ "\n"⟩

end Outcome

/-- How the commands are called. -/
def usage : String :=
  String.join <|
    ["Usage: address_lookup [--config PATH] [--index-dir PATH] COMMAND\n",
     "  index [--csv PATH]         build the index from an extract\n",
     "  parse QUERY                show how a query is read\n",
     "  addresses QUERY [--size N] structured search\n",
     "  suggest QUERY [--size N]   completion of a line\n",
     "  search QUERY [--size N]    both, merged\n",
     "  verify                     run the smoke tests\n"]

/-- The folder of the index where nobody says otherwise. -/
def standardFolder : String := "data/address_index"

/-- **The folder of the index**: from the command line, from the settings, or the standard one. -/
def indexFolder (invocation : Invocation) (settings : Settings) : String :=
  match invocation.indexFolder with
  | some folder => folder
  | none => if Text.isBlankText settings.indexFolder then standardFolder else settings.indexFolder

/-- The lexicon of some settings. -/
def lexiconOf (settings : Settings) : Lexicon :=
  .withExtra settings.extraStreetTypes

/-- Building the index. -/
def runIndex (disk : Disk m) (settings : Settings) (folder : String) (csv : Option String) :
    m Outcome := do
  let source := match csv with
    | some path => ExtractSource.file path
    | none => .sample
  match (← Storage.buildIndex disk folder source settings.writerMemory.toNat).result with
  | .ok report => return .printed (toJson report)
  | .error failure => return .failed failure.message

/-- Looking something up in the index of a folder. -/
def runLookup (disk : Disk m) (settings : Settings) (folder : String)
    (lookup : LookupService → Answer) : m Outcome := do
  if ← Storage.isAvailable disk folder then
    match ← Storage.openIndex disk folder with
    | .error failure => return .failed failure.message
    | .ok index =>
      let backend := (index.withSortWindow settings.sortWindow.toNat).backend
      match (lookup ⟨backend, lexiconOf settings, settings⟩).result with
      | .ok hits => return .printed (toJson hits)
      | .error failure => return .failed failure.message
  else
    return .failed ("No address index at " ++ folder ++ ". Run `address_lookup index` first.")

/-- Running the smoke tests. -/
def runVerify (disk : Disk m) (settings : Settings) (folder : String) : m Outcome := do
  match ← Storage.openIndex disk folder with
  | .error failure => return .failed failure.message
  | .ok index =>
    let results := SmokeTest.runAll (lexiconOf settings) index
    let line := SmokeTest.summary results ++ "\n"
    if SmokeTest.allPassed results then return ⟨0, line, ""⟩
    else return { Outcome.failed "smoke tests failed" with output := line }

/-- Running a command with its settings. -/
def runCommand (disk : Disk m) (settings : Settings) (folder : String) : Command → m Outcome
  | .index csv => runIndex disk settings folder csv
  | .parse query => return .printed (interpret (lexiconOf settings) query).toJson
  | .addresses query size => runLookup disk settings folder (·.addresses query size)
  | .suggest query size => runLookup disk settings folder (·.suggest query size)
  | .search query size => runLookup disk settings folder (·.search query size)
  | .verify => runVerify disk settings folder

/-- **Running the program** with its arguments, and with the folder of the index as the environment
has it. -/
def run (disk : Disk m) (args : List String) (folderVariable : Option String) : m Outcome := do
  match request? args with
  | none => return ⟨2, "", usage⟩
  | some .help => return ⟨0, usage, ""⟩
  | some (.work invocation) =>
    match ← Settings.load disk invocation.config folderVariable with
    | .error failure => return .failed failure.message
    | .ok settings => runCommand disk settings (indexFolder invocation settings) invocation.command

end Gazetteer.CommandLine
