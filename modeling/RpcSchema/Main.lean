import RpcSchema.CommandRun

/-! The command as a program: it reads the files that its arguments name, lets
`Choices.prepare` decide, and writes what comes of it. -/
namespace RpcSchema.Program

/-- The codes of the system are reported with either sign. -/
def accessError (e : IO.Error) : AccessError :=
  match e with
  | .noFileOrDirectory _ _ _ => .notFound
  | .inappropriateType _ code _ =>
    if code = 20 ∨ code = 0 - 20 then .notDirectory
    else if code = 21 ∨ code = 0 - 21 then .isDirectory
    else .refused e.toString.toList
  | e => .refused e.toString.toList

def readSource (path : Text) : IO (Except AccessError Text) := do
  try
    let bytes ← IO.FS.readBinFile (String.ofList path)
    match Text.ofBytes? bytes with
    | none => return .error .notText
    | some t => return .ok t
  catch e => return .error (accessError e)

/-- What the given paths read as. -/
def readSources (paths : List Text) : IO Sources := do
  let found ← paths.mapM fun path => return (path, ← readSource path)
  return fun path => (found.lookup path).getD (.error .notFound)

def writeDocument (path document : Text) : IO (Option AccessError) := do
  try
    IO.FS.writeBinFile (String.ofList path) document.bytes
    return none
  catch e => return some (accessError e)

def emit (o : Outcome) : IO UInt32 := do
  let stderr ← IO.getStderr
  for line in o.log do
    stderr.putStrLn (String.ofList line)
  stderr.putStr (String.ofList o.stderr)
  (← IO.getStdout).putStr (String.ofList o.stdout)
  return o.code.toUInt32

def run (c : Choices) (environment : Option Text) : IO Outcome := do
  let (events, result) := c.prepare .whole (← readSources c.inputs)
  match result with
  | .error f => return .ofResult .whole (c.logLines environment events) (.error f)
  | .ok (.printed t) => return .ofResult .whole (c.logLines environment events) (.ok t)
  | .ok (.saved path document) =>
    return c.afterWriting .whole environment events path (← writeDocument path document)

end RpcSchema.Program

open RpcSchema Program in
/-- The command line. -/
def main (arguments : List String) : IO UInt32 := do
  let environment := (← IO.getEnv "RUST_LOG").map String.toList
  match Request.ofArguments (arguments.map String.toList) with
  | .error e => emit (.misuse e)
  | .ok .help => emit (.information Outcome.helpText)
  | .ok .version => emit (.information Outcome.versionText)
  | .ok (.run c) => emit (← run c environment)
