import ItemQuery.Command.Arguments
import ItemQuery.Command.Script
import ItemQuery.Command.Setup
import ItemQuery.Command.Style
import ItemQuery.WebForm.Json

/-!
# `Command.Run` — running a command line

A run is a function from all that it can see to all that it does: the texts it writes, its exit code and the
requests it sends. Each task is a script, of which the outcome is what it did before it ended.

## Contents
- `Surroundings`, `Outcome`: what a run sees and what it does.
- `Invocation.sources`: the part of its surroundings that a run reads.
- `Surroundings.setup`: the configuration of a run.
- `readCriteria`: the criteria of a run.
- `compileTask`, `currenciesTask`, `searchTask`, `versionText`: the tasks.
- `finished`, `stopped`: what comes of a script, and of a command line that is no task.
- `run`: a whole command line.
-/

namespace ItemQuery.Command

open Store (Client Driver Request Search Server StoreFault)

/-! ## Runs -/

/-- All that a run can see. -/
structure Surroundings where
  /-- The variables that are set. -/
  environment : List (String × String)
  /-- Standard input, or why it cannot be read. -/
  input : Except FileFault String
  /-- Whether a look at a name finds anything. -/
  isThere : String → Bool
  /-- The text of the file with a name. -/
  file : String → Except FileFault String
  /-- The driver that makes connections. -/
  driver : Driver
  /-- The store at an address. -/
  server : String → Server

/-- All that a run does. -/
structure Outcome where
  exit : Nat
  /-- The text on standard output. -/
  output : String
  /-- The text on standard error. -/
  errors : String
  /-- What is sent to the store, in order. -/
  sent : List Request

/-- What has to be read for a run. -/
structure Sources where
  files : List String
  /-- Whether standard input is read. -/
  input : Bool
  deriving DecidableEq, Repr

/-- The file of a source, or standard input. -/
def Source.sources (s : Source) : Sources := ⟨s.file.toList, s.file.isNone⟩

/-- What a task reads beside the configuration. -/
def Task.sources : Task → Sources
  | .compile source _ => source.sources
  | .search t => if t.latest then ⟨[], false⟩ else t.source.sources
  | _ => ⟨[], false⟩

/-- What an invocation may read; the configuration file is always among it. -/
def Invocation.sources (i : Invocation) : Sources :=
  { i.task.sources with files := i.config.getD Setup.defaultFile :: i.task.sources.files }

/-- The setup of a run. -/
def Surroundings.setup (w : Surroundings) (named : Option String) : Except CommandFault Setup :=
  Setup.find w.isThere w.file named

/-! ## Criteria -/

/-- Read criteria of either shape. -/
def criteriaOfText (form : Bool) (text : String) : Except CommandFault Criteria :=
  let parsed := if form then (WebForm.ofText text).map WebForm.criteria else Criteria.ofText text
  parsed.mapError fun e => .input e.message

/-- The criteria that a source names. -/
def readCriteria (w : Surroundings) (s : Source) : Except CommandFault Criteria :=
  match s.file with
  | some file =>
    match w.file file with
    | .ok text => criteriaOfText s.form text
    | .error fault => .error (.input ("failed to read " ++ file ++ ": " ++ fault.message))
  | none =>
    match w.input with
    | .ok text => criteriaOfText s.form text
    | .error fault => .error (.io fault.message)

/-! ## Tasks -/

/-- Compile criteria and write the result. -/
def compileTask (w : Surroundings) (setup : Setup) (source : Source) (format : Format) : Script Unit := do
  let x ← .ofExcept (readCriteria w source)
  let text ← .ofExcept (render setup.configuration.compiler x format)
  .print (Style.line text)

/-- List the currencies. -/
def currenciesTask (setup : Setup) (json : Bool) : Script Unit :=
  let table := setup.configuration.currencyTable
  if json then .print (Style.line table.toJson.pretty)
  else do
    .print (Style.header "Currencies")
    let width := table.entries.foldl (fun w (name, _) => max w name.length) 0
    table.entries.forM fun (name, code) => .print (Style.alignedPair width name code)
    .print (Style.line "")
    .print (Style.footnote
      (table.size.repr ++ " entries, table version " ++ Currency.builtinVersion.repr))

/-- The fault of a store that does not answer. -/
def unreachable (client : Client) : StoreFault :=
  .connection ("no MongoDB server answered at " ++ client.settings.uri ++ " within " ++
    (client.settings.selectionTimeoutSecs.getD 0).repr ++ "s")

/-- The criteria of a search that compile, or none if the latest records are asked for. -/
def searchCriteria (w : Surroundings) (compiler : Compiler) (t : SearchTask) :
    Except CommandFault (Option Criteria) :=
  if t.latest then .ok none
  else do
    let x ← readCriteria w t.source
    let _ ← (compiler.compile x).mapError .ofFault
    return some x

/-- Go on only if the store answers a ping. -/
def ensureReachable (client : Client) (server : Server) : Script Unit := do
  let answers ← .ping server
  if answers then pure () else .ofExcept (.error (.ofStoreFault (unreachable client)))

/-- The records of a search, for its criteria or the latest. -/
def askFor (search : Search) (server : Server) (criteria : Option Criteria) (limit : Option Int64) :
    Store.Answer (List Document) :=
  match criteria with
  | some x => search.search server x limit
  | none => search.latest server limit

/-- Write what a search found, a line for each record, and how many there are. -/
def showRecords (docs : List Document) : Script Unit := do
  docs.forM fun d => .print (Style.line (documentJson d).compact)
  .note (Style.note (docs.length.repr ++ " item(s)"))

/-- Ask the store of a client, once it has answered, and write what it finds. -/
def askStore (client : Client) (server : Server) (compiler : Compiler) (criteria : Option Criteria)
    (limit : Option Int64) : Script Unit := do
  ensureReachable client server
  let docs ← .ask (askFor (Search.ofClient client compiler) server criteria limit)
  showRecords docs

/-- The connection settings of a search: those of the setup, with the address that is given for it. -/
def SearchTask.settings (t : SearchTask) (setup : Setup) : Store.Settings :=
  { setup.settings with uri := t.uri.getD setup.settings.uri }

/-- Search. Criteria are compiled before a connection is made, so that those which are refused fail at
    once, and records are asked for only after the store has answered a ping. -/
def searchTask (w : Surroundings) (setup : Setup) (t : SearchTask) : Script Unit := do
  let compiler := setup.configuration.compiler
  let criteria ← .ofExcept (searchCriteria w compiler t)
  let client ← .ofExcept ((Client.connect w.driver (t.settings setup)).mapError .ofStoreFault)
  askStore client (w.server client.settings.uri) compiler criteria t.limit

/-! ## The program -/

/-- The name of the program. -/
def programName : String := "stash"

/-- The version of the program and of all its parts. -/
def programVersion : String := "0.2.0"

/-- The versions of the program and its parts. -/
def versionText : String :=
  Style.header programName ++ Style.pair "Version" programVersion ++ Style.pair "Binary" "stash-cli" ++
    Style.pair "Build" "debug" ++ Style.line "" ++ Style.sectionTitle "Components" ++
    Style.pair "stash-filter" programVersion ++ Style.pair "stash-mongodb" programVersion ++
    Style.pair "currency table" Currency.builtinVersion.repr

/-- How the program is used. -/
def usageText : String :=
  String.join <| List.map Style.line
    ["Stash CLI - compile item-search filters into MongoDB queries",
     "",
     "Usage: stash [OPTIONS] <COMMAND>",
     "",
     "Commands:",
     "  compile     Compile a filter and print the predicates or the MongoDB query",
     "              [-i|--input <FILE>] [--form] [-f|--format <json|mongo|text>]",
     "  currencies  List the currency names the compiler accepts [--json]",
     "  search      Run a filter against the item collection",
     "              [-i|--input <FILE>] [--form] [-l|--limit <N>] [--latest] [--uri <URI>]",
     "  version     Display version information",
     "  help        Print this message",
     "",
     "Options:",
     "  -c, --config <FILE>  Path to the configuration file (default: ./stash.toml)",
     "  -h, --help           Print help",
     "  -V, --version        Print version"]

/-- The outcome where there is nothing to run. -/
def stopped : Stop → Outcome
  | .help => ⟨0, usageText, "", []⟩
  | .version task =>
    let name := programName ++ (task.map ("-" ++ ·)).getD ""
    ⟨0, Style.line (name ++ " " ++ programVersion), "", []⟩
  | .usage reason => ⟨2, "", Style.line ("error: " ++ reason) ++ Style.line "" ++ usageText, []⟩

/-- The outcome of a script. A fault is told behind all that was written before it. -/
def finished (s : Script Unit) : Outcome :=
  match s.result with
  | .ok _ => ⟨0, s.output, s.notes, s.sent⟩
  | .error fault => ⟨1, s.output, s.notes ++ Style.failure fault.message fault.help, s.sent⟩

/-- Do what a command line asks for. The version needs no configuration. -/
def perform (w : Surroundings) (i : Invocation) : Script Unit :=
  match i.task with
  | .version => .print versionText
  | .compile source format => do compileTask w (← .ofExcept (w.setup i.config)) source format
  | .currencies json => do currenciesTask (← .ofExcept (w.setup i.config)) json
  | .search t => do searchTask w (← .ofExcept (w.setup i.config)) t

/-- Run a command line. -/
def run (w : Surroundings) (words : List String) : Outcome :=
  match Invocation.ofWords w.environment words with
  | .ok i => finished (perform w i)
  | .error stop => stopped stop

end ItemQuery.Command
