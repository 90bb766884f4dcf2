import Gazetteer.Text.Digit

/-!
# Arguments

What the command line asks for. The first argument that is no option names the command; the options
for settings and index folder may stand before it or after it, and those after it count more. An
option takes its value from the next argument or after an equals sign, stands at most once on its
side of the command, and has no value that begins with a hyphen, unless after an equals sign. Two
hyphens end the options.
-/

namespace Gazetteer.CommandLine

/-- What to do. -/
inductive Command where
  | index (csv : Option String)
  | parse (query : String)
  | addresses (query : String) (size : Option Nat)
  | suggest (query : String) (size : Option Nat)
  | search (query : String) (size : Option Nat)
  | verify
deriving DecidableEq

/-- What to do, and where settings and index lie. -/
structure Invocation where
  config : Option String
  indexFolder : Option String
  command : Command
deriving DecidableEq

/-- What arguments ask for: work, or help. -/
inductive Request where
  | work (invocation : Invocation)
  | help
deriving DecidableEq

/-- An option that takes a value. -/
inductive Flag where
  | config
  | indexFolder
  | csv
  | size
deriving DecidableEq

/-- The name of an option. -/
def Flag.name : Flag → String
  | .config => "--config"
  | .indexFolder => "--index-dir"
  | .csv => "--csv"
  | .size => "--size"

/-- The options that stand on either side of the command. -/
def sharedFlags : List Flag :=
  [.config, .indexFolder]

/-- The names of the commands, each with its own options and whether it takes a query. -/
def commands : List (String × List Flag × Bool) :=
  [("index", [.csv], false), ("parse", [], true), ("addresses", [.size], true),
   ("suggest", [.size], true), ("search", [.size], true), ("verify", [], false)]

/-- The greatest size that can be asked for. -/
def greatestSize : Nat := 18446744073709551615

/-- The size that a text writes. -/
def size? (text : String) : Option Nat :=
  let digits := match text.toList with
    | '+' :: rest => rest
    | cs => cs
  if digits ≠ [] ∧ digits.all Text.isAsciiDigit then
    let n := Text.digitsValue digits
    if n ≤ greatestSize then some n else none
  else none

/-- Whether a text is a value of an option. -/
def Flag.accepts (flag : Flag) (value : String) : Bool :=
  match flag with
  | .size => (size? value).isSome
  | _ => value != ""

/-- An argument that is read as an option: a hyphen and something after it. -/
def isOption (arg : String) : Bool :=
  match arg.toList with
  | '-' :: _ :: _ => true
  | _ => false

/-- An argument that asks for help. -/
def asksHelp (arg : String) : Bool :=
  arg == "--help" || arg == "-h"

/-- The option that an argument names, and the value after its equals sign. -/
def optionOf? (flags : List Flag) (arg : String) : Option (Flag × Option String) :=
  flags.findSome? fun flag =>
    let name := flag.name.toList
    if arg.toList = name then some (flag, none)
    else if (name ++ ['=']).isPrefixOf arg.toList then
      some (flag, some (String.ofList (arg.toList.drop (name.length + 1))))
    else none

/-- The values of options. -/
abbrev Values := List (Flag × String)

/-- The value of an option. -/
def value? (values : Values) (flag : Flag) : Option String :=
  (values.find? (·.1 == flag)).map (·.2)

/-- One value more, if the option has none yet and accepts it. -/
def addValue? (values : Values) (flag : Flag) (value : String) : Option Values :=
  if (value? values flag).isSome ∨ !flag.accepts value then none else some ((flag, value) :: values)

/-- One value more that is an argument of its own. -/
def addArgument? (values : Values) (flag : Flag) (value : String) : Option Values :=
  if isOption value then none else addValue? values flag value

/-- What stands on one side of the command: the values of its options, then the other arguments. -/
inductive Reading where
  | read (values : Values) (others : List String)
  | help
  | wrong

/-- Reads options up to the first other argument. -/
def readLeading (flags : List Flag) : Values → List String → Reading
  | values, [] => .read values []
  | values, arg :: rest =>
    if asksHelp arg then .help
    else
      match optionOf? flags arg, rest with
      | some (flag, some value), rest =>
        match addValue? values flag value with
        | some values => readLeading flags values rest
        | none => .wrong
      | some (flag, none), value :: rest =>
        match addArgument? values flag value with
        | some values => readLeading flags values rest
        | none => .wrong
      | some (_, none), [] => .wrong
      | none, rest => if isOption arg then .wrong else .read values (arg :: rest)

/-- Reads options and other arguments, of which there may be at most so many. -/
def readMixed (flags : List Flag) : Nat → Values → List String → List String → Reading
  | _, values, others, [] => .read values others.reverse
  | places, values, others, arg :: rest =>
    if asksHelp arg then .help
    else if arg = "--" then
      if rest.length ≤ places then .read values (others.reverse ++ rest) else .wrong
    else
      match optionOf? flags arg, rest, places with
      | some (flag, some value), rest, _ =>
        match addValue? values flag value with
        | some values => readMixed flags places values others rest
        | none => .wrong
      | some (flag, none), value :: rest, _ =>
        match addArgument? values flag value with
        | some values => readMixed flags places values others rest
        | none => .wrong
      | some (_, none), [], _ => .wrong
      | none, _, 0 => .wrong
      | none, rest, places + 1 =>
        if isOption arg then .wrong else readMixed flags places values (arg :: others) rest

/-- The command of a name with the values of its options and its query. -/
def command? (name : String) (values : Values) (others : List String) : Option Command :=
  let size := (value? values .size).bind size?
  match name, others with
  | "index", [] => some (.index (value? values .csv))
  | "parse", [query] => some (.parse query)
  | "addresses", [query] => some (.addresses query size)
  | "suggest", [query] => some (.suggest query size)
  | "search", [query] => some (.search query size)
  | "verify", [] => some .verify
  | _, _ => none

/-- What follows a request for help: at most the name of a command. -/
def helpOn? : List String → Option Request
  | [] => some .help
  | [name] => if name = "help" ∨ commands.any (·.1 == name) then some .help else none
  | _ => none

/-- The request of a command's name and what follows it. -/
def afterName? (before : Values) (name : String) (rest : List String) : Option Request :=
  if name = "help" then helpOn? rest
  else
    match commands.find? (·.1 == name) with
    | none => none
    | some (_, flags, takesQuery) =>
      match readMixed (sharedFlags ++ flags) (if takesQuery then 1 else 0) [] [] rest with
      | .wrong => none
      | .help => some .help
      | .read values others =>
        (command? name values others).map fun command => .work
          { config := (value? values .config).or (value? before .config)
            indexFolder := (value? values .indexFolder).or (value? before .indexFolder)
            command }

/-- **What arguments ask for**, if they make sense. -/
def request? (args : List String) : Option Request :=
  match readLeading sharedFlags [] args with
  | .wrong => none
  | .help => some .help
  | .read _ [] => none
  | .read values (name :: rest) => afterName? values name rest

end Gazetteer.CommandLine
