import RpcSchema.LogEvent

/-! The arguments of the command line: first what each of them says, then what they
choose together. A value that stands in an argument of its own is judged only once the
next argument has been understood. -/
namespace RpcSchema

inductive ValueOption where
  | config
  | output
  | logLevel
  | logFormat
deriving DecidableEq, Repr

inductive Flag where
  | printConfig
  | help
  | version
deriving DecidableEq, Repr

namespace ValueOption

def all : List ValueOption := [config, output, logLevel, logFormat]

def name : ValueOption → Text
  | config => "config".toList
  | output => "output".toList
  | logLevel => "log-level".toList
  | logFormat => "log-format".toList

/-- The option as errors call it. -/
def label : ValueOption → Text
  | config => "--config <CONFIG>".toList
  | output => "--output <OUTPUT>".toList
  | logLevel => "--log-level <LOG_LEVEL>".toList
  | logFormat => "--log-format <LOG_FORMAT>".toList

end ValueOption

namespace Flag

def all : List Flag := [printConfig, help, version]

def name : Flag → Text
  | printConfig => "print-config".toList
  | help => "help".toList
  | version => "version".toList

def label (f : Flag) : Text := "--".toList ++ f.name

end Flag

inductive Occurrence where
  /-- An option. Its value is attached to it, or stands in the next argument, if any. -/
  | option (o : ValueOption) (value : Option Text) (attached : Bool)
  | flag (f : Flag)
  | positional (values : List Text)
  | unknown (argument : Text)
  /-- A value attached to a flag. -/
  | unwanted (f : Flag) (value : Text)
deriving DecidableEq, Repr

namespace Occurrence

/-- Arguments in a row that belong to no option are taken together. -/
def prependPositional (value : Text) : List Occurrence → List Occurrence
  | .positional values :: rest => .positional (value :: values) :: rest
  | rest => .positional [value] :: rest

/-- Whether an argument can be the value of the option before it. -/
def isValue (argument : Text) : Bool := argument == ['-'] || argument.head? != some '-'

def attachedValue (body : Text) : Option Text :=
  match body.dropWhile (· != '=') with
  | [] => none
  | _ :: value => some value

inductive Reading where
  | separator
  | value
  | complete (o : Occurrence)
  /-- An option that takes its value from the next argument. -/
  | awaiting (o : ValueOption)

/-- An argument that begins with two hyphens; `body` follows them. -/
def readLong (body : Text) : Reading :=
  let name := body.takeWhile (· != '=')
  match ValueOption.all.find? (·.name == name), Flag.all.find? (·.name == name) with
  | some o, _ =>
    match attachedValue body with
    | some value => .complete (.option o (some value) true)
    | none => .awaiting o
  | none, some f =>
    match attachedValue body with
    | some value => .complete (.unwanted f value)
    | none => .complete (.flag f)
  | none, none => .complete (.unknown ("--".toList ++ name))

/-- An argument that begins with one hyphen and a letter; `rest` follows them. -/
def readShort (letter : Char) (rest : Text) : Reading :=
  if letter = 'o' then
    match rest with
    | [] => .awaiting .output
    | '=' :: value => .complete (.option .output (some value) true)
    | value => .complete (.option .output (some value) true)
  else if letter = 'h' then .complete (.flag .help)
  else if letter = 'V' then .complete (.flag .version)
  else .complete (.unknown ['-', letter])

def readArgument : Text → Reading
  | ['-', '-'] => .separator
  | '-' :: '-' :: body => readLong body
  | '-' :: letter :: rest => readShort letter rest
  | _ => .value

/-- What the arguments say, in order. After two hyphens alone there are no options. -/
def ofArguments : List Text → List Occurrence
  | [] => []
  | argument :: rest =>
    match readArgument argument with
    | .separator => rest.foldr prependPositional []
    | .value => prependPositional argument (ofArguments rest)
    | .complete o => o :: ofArguments rest
    | .awaiting o =>
      match rest with
      | [] => [.option o none false]
      | next :: others =>
        if isValue next then .option o (some next) false :: ofArguments others
        else .option o none false :: ofArguments (next :: others)

/-- Whether the judgement of an occurrence waits for the next one. -/
def waits : Occurrence → Bool
  | option _ _ attached => !attached
  | positional _ => true
  | _ => false

end Occurrence

inductive UsageError where
  | unexpectedArgument (argument : Text)
  | unexpectedValue (f : Flag) (value : Text)
  | missingValue (label : Text)
  | invalidValue (o : ValueOption) (value : Text)
  | repeated (label : Text)
deriving DecidableEq, Repr

def UsageError.message : UsageError → Text
  | unexpectedArgument argument =>
    "error: unexpected argument '".toList ++ argument ++ "' found".toList
  | unexpectedValue f value =>
    "error: unexpected value '".toList ++ value ++ "' for '".toList ++ f.label ++
      "' found; no more were expected".toList
  | missingValue label =>
    "error: a value is required for '".toList ++ label ++ "' but none was supplied".toList
  | invalidValue o value =>
    "error: invalid value '".toList ++ value ++ "' for '".toList ++ o.label ++ ['\'']
  | repeated label =>
    "error: the argument '".toList ++ label ++ "' cannot be used multiple times".toList

/-- What has been chosen so far. The first of the positionals is the service. -/
structure Choices where
  config : Option Text
  output : Option Text
  logLevel : Option Text
  logFormat : Option LogFormat
  printConfig : Bool
  positionals : List Text
deriving DecidableEq, Repr

/-- What the arguments ask for. -/
inductive Request where
  | help
  | version
  | run (choices : Choices)
deriving DecidableEq, Repr

namespace Choices

def initial : Choices := ⟨none, none, none, none, false, []⟩

def service (c : Choices) : Option Text := c.positionals.head?

def files (c : Choices) : List Text := c.positionals.tail

def once {α : Type} (o : ValueOption) (present : Option α) (value : Except UsageError α) :
    Except UsageError (Option α) :=
  match present with
  | some _ => .error (.repeated o.label)
  | none => value.map some

def path (o : ValueOption) (value : Text) : Except UsageError Text :=
  if value = [] then .error (.missingValue o.label) else .ok value

def format (value : Text) : Except UsageError LogFormat :=
  if value = [] then .error (.missingValue ValueOption.logFormat.label)
  else if value = "text".toList then .ok .text
  else if value = "json".toList then .ok .json
  else .error (.invalidValue .logFormat value)

def setOption (c : Choices) (o : ValueOption) (value : Text) : Except UsageError Choices :=
  match o with
  | .config => (once o c.config (path o value)).map fun v => { c with config := v }
  | .output => (once o c.output (path o value)).map fun v => { c with output := v }
  | .logLevel => (once o c.logLevel (.ok value)).map fun v => { c with logLevel := v }
  | .logFormat => (once o c.logFormat (format value)).map fun v => { c with logFormat := v }

/-- The files are not empty; the service may be. -/
def addPositionals (c : Choices) (values : List Text) : Except UsageError Choices :=
  let all := c.positionals ++ values
  if [] ∈ all.tail then .error (.missingValue "[FILES]...".toList)
  else .ok { c with positionals := all }

/-- The choices with what one more occurrence says; help and version ask for no choice. -/
def add (c : Choices) : Occurrence → Except UsageError Choices
  | .option o none _ => .error (.missingValue o.label)
  | .option o (some value) _ => c.setOption o value
  | .flag .printConfig =>
    if c.printConfig then .error (.repeated Flag.printConfig.label)
    else .ok { c with printConfig := true }
  | .flag _ => .ok c
  | .positional values => c.addPositionals values
  | .unknown argument => .error (.unexpectedArgument argument)
  | .unwanted f value => .error (.unexpectedValue f value)

def notUnderstood : Occurrence → Option UsageError
  | .unknown argument => some (.unexpectedArgument argument)
  | .unwanted f value => some (.unexpectedValue f value)
  | _ => none

/-- What is not understood in the next occurrence goes before what is wrong in one
that has waited for it. -/
def next (c : Choices) (o : Occurrence) (rest : List Occurrence) : Except UsageError Choices :=
  match o.waits, rest.head?.bind notUnderstood with
  | true, some e => .error e
  | _, _ => c.add o

/-- What the occurrences ask for, in order. Help and version go before all that follows. -/
def settle (c : Choices) : List Occurrence → Except UsageError Request
  | [] => .ok (.run c)
  | .flag .help :: _ => .ok .help
  | .flag .version :: _ => .ok .version
  | o :: rest =>
    match c.next o rest with
    | .error e => .error e
    | .ok c => c.settle rest

end Choices

/-- What the arguments ask for. -/
def Request.ofArguments (arguments : List Text) : Except UsageError Request :=
  Choices.initial.settle (Occurrence.ofArguments arguments)

end RpcSchema
