import ItemQuery.Command.Run

/-!
# `Main` — the program

Reads what the command line needs, runs it, and does what the run says. There is no connection to a store
here, so that none answers.
-/

namespace ItemQuery.Main

open Command

/-- The text of bytes. -/
def textOfBytes (bytes : ByteArray) : Except FileFault String :=
  match String.fromUTF8? bytes with
  | some text => .ok text
  | none => .error (.unreadable "stream did not contain valid UTF-8")

/-- Why a file cannot be read, with the number that the system has for it. -/
def faultOfError : IO.Error → FileFault
  | .noFileOrDirectory .. => .missing
  | .inappropriateType _ code details | .invalidArgument _ code details
  | .permissionDenied _ code details | .resourceExhausted _ code details =>
    .unreadable (details ++ " (os error " ++ code.toNat.repr ++ ")")
  | e => .unreadable (toString e)

/-- The text of a file. -/
def readFileText (path : String) : IO (Except FileFault String) := do
  try
    return textOfBytes (← IO.FS.readBinFile path)
  catch e => return .error (faultOfError e)

/-- Whether a look at a path finds anything. -/
def isThere (path : String) : IO Bool := do
  try
    let _ ← IO.FS.realPath path
    return true
  catch _ => return false

/-- The bytes of a stream after those that were read before. -/
partial def readBytes (stream : IO.FS.Stream) (before : ByteArray) : IO ByteArray := do
  let bytes ← stream.read 65536
  if bytes.isEmpty then return before else readBytes stream (before ++ bytes)

/-- The variables of the environment that count. -/
def readEnvironment : IO (List (String × String)) := do
  let values ← [configVariable, uriVariable].mapM fun name => do
    return (← IO.getEnv name).map fun value => (name, value)
  return values.filterMap id

end ItemQuery.Main

open ItemQuery ItemQuery.Command ItemQuery.Main

/-- The program. -/
def main (words : List String) : IO UInt32 := do
  let environment ← readEnvironment
  let sources := match Invocation.ofWords environment words with
    | .ok i => i.sources
    | .error _ => ⟨[], false⟩
  let there ← sources.files.filterM isThere
  let texts ← sources.files.mapM fun file => do return (file, ← readFileText file)
  let input ←
    if sources.input then textOfBytes <$> readBytes (← IO.getStdin) .empty else pure (.ok "")
  let outcome := run {
    environment
    input
    isThere := there.contains
    file := fun name => (texts.lookup name).getD (.error .missing)
    driver := .plain
    server := fun _ => .unreachable } words
  IO.print outcome.output
  IO.eprint outcome.errors
  return outcome.exit.toUInt32
