import ItemQuery.Command.Render
import ItemQuery.Text.Digits
import ItemQuery.Text.Split

/-!
# `Command.Arguments` — the words of a command line

A command line names a task after options that hold for all tasks, and then the options of the task. An option
is written `--name value`, `--name=value`, `-n value`, `-nvalue` or `-n=value`; letters of options without a
value may stand together. No option may be given twice, and a value in a word of its own does not begin with a
dash, unless it is nothing else.

Words are read from left to right, and the first that asks for help, asks for the version or is wrong decides.
A value that stands directly before the name of a task is checked after the task's own words.

## Contents
- `OptionSpec`, `Given`, `Pending`: options, those given so far, and the one that waits.
- `readWords`: the options up to the name of a task.
- `Task`, `Invocation`, `Invocation.ofWords`: what a command line asks for.
-/

namespace ItemQuery.Command

/-! ## Options -/

/-- Why there is nothing to run. -/
inductive Stop where
  | help
  /-- The version is asked for, of a task or of the whole program. -/
  | version (task : Option String)
  /-- The words cannot be understood. -/
  | usage (reason : String)
  deriving DecidableEq, Repr

/-- An option: its name, its letter if it has one, and the values that it admits if it takes one. -/
structure OptionSpec where
  name : String
  letter : Option Char
  admits : Option (String → Bool)

/-- The options given so far with their values; one without value has an empty one. -/
abbrev Given := List (String × String)

/-- Give an option a value. -/
def Given.set (given : Given) (o : OptionSpec) (value : String) : Except Stop Given :=
  if (given.lookup o.name).isSome then .error (.usage ("--" ++ o.name ++ " is given twice"))
  else if o.admits.all (· value) then .ok (given ++ [(o.name, value)])
  else .error (.usage ("--" ++ o.name ++ " has an invalid value"))

/-- What waits for the next word. -/
inductive Pending where
  | none
  /-- An option without its value. -/
  | needsValue (o : OptionSpec)
  /-- An option whose value is still to be checked. -/
  | unchecked (o : OptionSpec) (value : String)

/-- Do what waits. -/
def Given.settle (given : Given) : Pending → Except Stop Given
  | .none => .ok given
  | .needsValue o => .error (.usage ("--" ++ o.name ++ " needs a value"))
  | .unchecked o value => given.set o value

/-- Read a word that begins with two dashes, which are left out here. -/
def readLong (options : List OptionSpec) (task : Option String) (given : Given) (w : List Char) :
    Except Stop (Given × Pending) :=
  let (name, value) := Text.splitAtFirst '=' w
  let name := String.ofList name
  match options.find? (·.name == name), value with
  | some o, some value =>
    if o.admits.isSome then do return (← given.set o (String.ofList value), .none)
    else .error (.usage ("--" ++ name ++ " takes no value"))
  | some o, none =>
    if o.admits.isSome then .ok (given, .needsValue o) else do return (← given.set o "", .none)
  | none, none =>
    if name = "help" then .error .help
    else if name = "version" then .error (.version task)
    else .error (.usage ("there is no option --" ++ name))
  | none, some _ => .error (.usage ("there is no such option --" ++ name))

/-- Read a word that begins with one dash, which is left out here. -/
def readShort (options : List OptionSpec) (task : Option String) (given : Given) :
    List Char → Except Stop (Given × Pending)
  | [] => .ok (given, .none)
  | c :: cs =>
    match options.find? (·.letter == some c) with
    | some o =>
      if o.admits.isNone then do readShort options task (← given.set o "") cs
      else match cs with
        | [] => .ok (given, .needsValue o)
        | '=' :: value => do return (← given.set o (String.ofList value), .none)
        | value => do return (← given.set o (String.ofList value), .none)
    | none =>
      if c = 'h' then .error .help
      else if c = 'V' then .error (.version task)
      else .error (.usage ("there is no option -" ++ String.singleton c))

/-- Whether a word can be the value of the option before it. -/
def isValueWord (w : String) : Bool := w == "-" || !w.startsWith "-"

/-- The options that words give, up to the name of a task; that name and the words after it are left. -/
def readWords (options : List OptionSpec) (task : Option String) (tasks : List String) :
    Given → Pending → List String → Except Stop (Given × Pending × List String)
  | given, pending, [] => do return (← given.settle pending, .none, [])
  | given, .needsValue o, w :: ws =>
    if isValueWord w then readWords options task tasks given (.unchecked o w) ws
    else .error (.usage ("--" ++ o.name ++ " needs a value"))
  | given, pending, w :: ws =>
    if tasks.contains w then .ok (given, pending, w :: ws)
    else do
      let given ← given.settle pending
      match w.toList with
      | ['-', '-'] =>
        if ws.isEmpty then return (given, .none, []) else throw (.usage ("unexpected words after --"))
      | '-' :: '-' :: name =>
        let (given, pending) ← readLong options task given name
        readWords options task tasks given pending ws
      | '-' :: c :: cs =>
        let (given, pending) ← readShort options task given (c :: cs)
        readWords options task tasks given pending ws
      | _ => throw (.usage ("unexpected word " ++ w))

/-! ## Tasks -/

/-- Where criteria come from, standard input if no file is named, and which shape they have. -/
structure Source where
  file : Option String
  form : Bool
  deriving DecidableEq, Repr

/-- What a search is asked. -/
structure SearchTask where
  source : Source
  limit : Option Int64
  /-- Ask for the latest records instead of those that match. -/
  latest : Bool
  /-- The store's address, before that of the configuration. -/
  uri : Option String
  deriving DecidableEq, Repr

/-- What a command line asks for. -/
inductive Task where
  | compile (source : Source) (format : Format)
  | currencies (json : Bool)
  | search (s : SearchTask)
  | version
  deriving DecidableEq, Repr

/-- A task and the configuration file that is named for it. -/
structure Invocation where
  config : Option String
  task : Task
  deriving DecidableEq, Repr

/-- The names of the tasks. -/
def taskNames : List String := ["compile", "currencies", "search", "version"]

/-- The name that asks for help. -/
def helpName : String := "help"

namespace OptionSpec

/-- A path is not empty. -/
def isPath (value : String) : Bool := value != ""

/-- A limit from a word. -/
def limitOf? (value : String) : Option Int64 :=
  (Text.integerOfText? (-Int.pow 2 63) (Int.pow 2 63 - 1) value).map Int64.ofInt

def config : OptionSpec := ⟨"config", some 'c', some isPath⟩
def input : OptionSpec := ⟨"input", some 'i', some isPath⟩
def form : OptionSpec := ⟨"form", none, none⟩
def format : OptionSpec := ⟨"format", some 'f', some fun value => (Format.ofName? value).isSome⟩
def json : OptionSpec := ⟨"json", none, none⟩
def limit : OptionSpec := ⟨"limit", some 'l', some fun value => (limitOf? value).isSome⟩
def latest : OptionSpec := ⟨"latest", none, none⟩
def uri : OptionSpec := ⟨"uri", none, some fun _ => true⟩

end OptionSpec

/-- The value of an option. -/
def Given.value? (given : Given) (o : OptionSpec) : Option String := given.lookup o.name

/-- Whether an option is given. -/
def Given.has (given : Given) (o : OptionSpec) : Bool := (given.value? o).isSome

/-- The options of a task. -/
def taskOptions (name : String) : List OptionSpec :=
  if name = "compile" then [OptionSpec.input, OptionSpec.form, OptionSpec.format]
  else if name = "currencies" then [OptionSpec.json]
  else if name = "search" then
    [OptionSpec.input, OptionSpec.form, OptionSpec.limit, OptionSpec.latest, OptionSpec.uri]
  else []

/-- The source that options name. -/
def Given.source (given : Given) : Source := ⟨given.value? OptionSpec.input, given.has OptionSpec.form⟩

/-- The task of a name with its options; `uri` is the store's address where no option names it. -/
def taskOf (name : String) (given : Given) (uri : Option String) : Except Stop Task :=
  if name = "compile" then
    .ok (.compile given.source (((given.value? OptionSpec.format).bind Format.ofName?).getD .json))
  else if name = "currencies" then .ok (.currencies (given.has OptionSpec.json))
  else if name = "search" then
    if given.has OptionSpec.latest && (given.has OptionSpec.input || given.has OptionSpec.form) then
      .error (.usage "--latest cannot be used with --input or --form")
    else .ok (.search {
      source := given.source
      limit := (given.value? OptionSpec.limit).bind OptionSpec.limitOf?
      latest := given.has OptionSpec.latest
      uri := given.value? OptionSpec.uri <|> uri })
  else .ok .version

/-! ## Command lines -/

/-- The variable that names a configuration file. -/
def configVariable : String := "STASH_CONFIG"

/-- The variable that names the store's address. -/
def uriVariable : String := "STASH_MONGODB_URI"

/-- Help is asked for by name, alone or with the name of a task. -/
def readHelp : List String → Stop
  | [] => .help
  | [w] =>
    if (helpName :: taskNames).contains w then .help else .usage ("there is no command " ++ w)
  | _ => .usage "help takes one command"

/-- A file that a variable names stands in for the option where that is not given, and is checked there. -/
def checkVariable (file : Option String) (given : Given) : Except Stop Unit :=
  if given.has OptionSpec.config || file.all OptionSpec.isPath then .ok ()
  else .error (.usage (configVariable ++ " is empty"))

/-- What the words of a command line ask for in an environment. The configuration file is the one named after
    the task, else the one before it, else the one of the environment. -/
def Invocation.ofWords (environment : List (String × String)) (words : List String) :
    Except Stop Invocation := do
  let named := environment.lookup configVariable
  let (before, pending, rest) ←
    readWords [OptionSpec.config] none (helpName :: taskNames) [] .none words
  match rest with
  | [] => throw (.usage "no command is given")
  | name :: words =>
    if name = helpName then throw (readHelp words)
    let (given, _, _) ←
      readWords (OptionSpec.config :: taskOptions name) (some name) [] [] .none words
    checkVariable named given
    let task ← taskOf name given (environment.lookup uriVariable)
    let before ← before.settle pending
    checkVariable named before
    return ⟨given.value? OptionSpec.config <|> before.value? OptionSpec.config <|> named, task⟩

end ItemQuery.Command
