import RpcSchema.CommandArguments
import RpcSchema.Configuration
import RpcSchema.Generation
import RpcSchema.LogFilter

/-! A run of the command: what it makes of its arguments and of the files, and what it
leaves behind. Nothing is written before everything else has succeeded. -/
namespace RpcSchema

/-- What is said of texts that do not follow their grammar. -/
structure Diagnosis where
  recovery : Recovery
  toml : Text → TomlFault

/-- Texts that are blamed as a whole. -/
def Diagnosis.whole : Diagnosis := ⟨.whole, .whole⟩

inductive MissingArgument where
  | service
  | files
deriving DecidableEq, Repr

/-- Why a run fails, from the first to the last thing that can go wrong. -/
inductive Failure where
  | configuration (e : ConfigurationError)
  | missing (argument : MissingArgument)
  | generation (service : Text) (e : UnsupportedType)
  | writing (path : Text) (e : AccessError)
deriving DecidableEq, Repr

namespace Failure

/-- The failure, and then what each of these comes from. -/
def chain (diagnosis : Diagnosis) : Failure → Text × List Text
  | configuration e => (e.message diagnosis.toml, [])
  | missing .service => ("Usage error: missing service name".toList, [])
  | missing .files => ("Usage error: missing source files".toList, [])
  | generation service e => ("Failed to generate service ".toList ++ service, [e.message])
  | writing path e =>
    ("Failed to write ".toList ++ path, ["I/O error: ".toList ++ e.message, e.message])

def indented (width : Nat) (t : Text) : Text :=
  t.flatMap fun c => if c = '\n' then '\n' :: List.replicate width ' ' else [c]

def numbered : Nat → List Text → Text
  | _, [] => []
  | n, cause :: causes =>
    let number := Text.ofNat n
    '\n' :: List.replicate (5 - number.length) ' ' ++ number ++ ": ".toList ++
      indented 7 cause ++ numbered (n + 1) causes

/-- A single cause has no number. -/
def causesText : List Text → Text
  | [] => []
  | [cause] => "\n\nCaused by:\n    ".toList ++ indented 4 cause
  | causes => "\n\nCaused by:".toList ++ numbered 0 causes

def report (diagnosis : Diagnosis) (f : Failure) : Text :=
  "Error: ".toList ++ (f.chain diagnosis).1 ++ causesText (f.chain diagnosis).2 ++ ['\n']

end Failure

/-- What a run brings forth: a text to print, or one to be written to a file. -/
inductive Product where
  | printed (text : Text)
  | saved (path text : Text)
deriving DecidableEq, Repr

namespace Choices

def configuration (c : Choices) (sources : Sources) :
    Except ConfigurationError Configuration :=
  match c.config with
  | none => .ok .standard
  | some path => Configuration.load sources path

def inputs (c : Choices) : List Text := c.config.toList ++ c.files

def deliver (c : Choices) (document : Text) : Product :=
  match c.output with
  | none => .printed (document ++ ['\n'])
  | some path => .saved path (document ++ ['\n'])

def document (c : Choices) (diagnosis : Diagnosis) (sources : Sources)
    (configuration : Configuration) (service : Text) :
    List LogEvent × Except Failure Product :=
  let g := generate sources service c.files configuration.naming diagnosis.recovery
  (g.events,
    match g.document with
    | .error e => .error (.generation service e)
    | .ok document => .ok (c.deliver document))

/-- All of a run but the writing. -/
def prepare (c : Choices) (diagnosis : Diagnosis) (sources : Sources) :
    List LogEvent × Except Failure Product :=
  match c.configuration sources with
  | .error e => ([], .error (.configuration e))
  | .ok configuration =>
    if c.printConfig then ([], .ok (.printed (configuration.text ++ ['\n'])))
    else
      match c.service with
      | none => ([], .error (.missing .service))
      | some service =>
        if c.files = [] then ([], .error (.missing .files))
        else c.document diagnosis sources configuration service

def filter (c : Choices) (environment : Option Text) : LogFilter :=
  LogFilter.choose environment (c.logLevel.getD "warn".toList)

def logLines (c : Choices) (environment : Option Text) (events : List LogEvent) : List Text :=
  (events.filter (c.filter environment).admits).map (LogEvent.line (c.logFormat.getD .text))

end Choices

/-- What can be seen of a run, files apart. -/
structure Outcome where
  code : Nat
  stdout : Text
  log : List Text
  stderr : Text
deriving DecidableEq, Repr

namespace Outcome

def helpText : Text :=
  "Generate a proto3 service from the top-level functions of Go source files

Usage: protogen [OPTIONS] [SERVICE] [FILES]...

Arguments:
  [SERVICE]   Name of the generated service
  [FILES]...  Go source files to scan, in order

Options:
      --config <CONFIG>          TOML configuration file
  -o, --output <OUTPUT>          Write the document here instead of stdout
      --print-config             Print the effective configuration and exit
      --log-level <LOG_LEVEL>    Log level filter (e.g. debug, info, warn, error) [default: warn]
      --log-format <LOG_FORMAT>  Log output format [default: text] [possible values: text, json]
  -h, --help                     Print help
  -V, --version                  Print version
".toList

def versionText : Text := "protogen 0.1.0\n".toList

def information (text : Text) : Outcome := ⟨0, text, [], []⟩

def misuse (e : UsageError) : Outcome := ⟨2, [], [], e.message ++ ['\n']⟩

/-- The end of a run that prints a text or fails. -/
def ofResult (diagnosis : Diagnosis) (log : List Text) : Except Failure Text → Outcome
  | .ok stdout => ⟨0, stdout, log, []⟩
  | .error f => ⟨1, [], log, f.report diagnosis⟩

end Outcome

def writtenEvent (path : Text) : LogEvent where
  level := .info
  target := "protogen".toList
  message := "Wrote ".toList ++ path

/-- The end of a run whose product was to be written to a file. -/
def Choices.afterWriting (c : Choices) (diagnosis : Diagnosis) (environment : Option Text)
    (events : List LogEvent) (path : Text) : Option AccessError → Outcome
  | none =>
    .ofResult diagnosis (c.logLines environment (events ++ [writtenEvent path])) (.ok [])
  | some e => .ofResult diagnosis (c.logLines environment events) (.error (.writing path e))

/-- A run on the files of a tree, and the tree that it leaves. -/
def Choices.run (c : Choices) (diagnosis : Diagnosis) (environment : Option Text)
    (files : FileTree) : Outcome × FileTree :=
  match c.prepare diagnosis files.sources with
  | (events, .error f) => (.ofResult diagnosis (c.logLines environment events) (.error f), files)
  | (events, .ok (.printed text)) =>
    (.ofResult diagnosis (c.logLines environment events) (.ok text), files)
  | (events, .ok (.saved path text)) =>
    match files.write path text.bytes with
    | .error e => (c.afterWriting diagnosis environment events path (some e), files)
    | .ok files => (c.afterWriting diagnosis environment events path none, files)

/-- The command with its arguments and the log filter that the environment sets, if any. -/
def runCommand (arguments : List Text) (environment : Option Text) (files : FileTree)
    (diagnosis : Diagnosis := .whole) : Outcome × FileTree :=
  match Request.ofArguments arguments with
  | .error e => (.misuse e, files)
  | .ok .help => (.information Outcome.helpText, files)
  | .ok .version => (.information Outcome.versionText, files)
  | .ok (.run c) => c.run diagnosis environment files

end RpcSchema
