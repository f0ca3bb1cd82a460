import RpcSchema.Text

/-! Log events and the two forms of a log line. -/
namespace RpcSchema

/-- From the gravest to the most detailed. -/
inductive LogLevel where
  | error
  | warn
  | info
  | debug
  | trace
deriving DecidableEq, Repr

namespace LogLevel

def all : List LogLevel := [error, warn, info, debug, trace]

/-- How much detail a level asks for. -/
def detail : LogLevel → Nat
  | error => 1
  | warn => 2
  | info => 3
  | debug => 4
  | trace => 5

def name : LogLevel → Text
  | error => "ERROR".toList
  | warn => "WARN".toList
  | info => "INFO".toList
  | debug => "DEBUG".toList
  | trace => "TRACE".toList

end LogLevel

/-- Something that happened in the part of the program that the target names. -/
structure LogEvent where
  level : LogLevel
  target : Text
  message : Text
deriving DecidableEq, Repr

inductive LogFormat where
  | text
  | json
deriving DecidableEq, Repr

namespace LogEvent

/-- Characters that a terminal acts on are written as escapes. -/
def harmless (c : Char) : Text :=
  if c.toNat ∈ [0x07, 0x08, 0x0c, 0x1b, 0x7f] then
    "\\x".toList ++ Text.hexadecimal 2 c.toNat
  else if 0x80 ≤ c.toNat ∧ c.toNat ≤ 0x9f then
    "\\u\x7b".toList ++ Text.hexadecimal 2 c.toNat ++ ['}']
  else [c]

/-- The level stands at the right of five columns. -/
def textLine (e : LogEvent) : Text :=
  List.replicate (5 - e.level.name.length) ' ' ++ e.level.name ++ ' ' :: e.target ++
    ": ".toList ++ e.message.flatMap harmless

/-- A character within a JSON string. -/
def jsonCharacter (c : Char) : Text :=
  if c = '"' ∨ c = '\\' then ['\\', c]
  else if c = '\n' then "\\n".toList
  else if c = '\r' then "\\r".toList
  else if c = '\t' then "\\t".toList
  else if c.toNat = 8 then "\\b".toList
  else if c.toNat = 12 then "\\f".toList
  else if c.toNat < 32 then "\\u".toList ++ Text.hexadecimal 4 c.toNat
  else [c]

def jsonString (t : Text) : Text := '"' :: t.flatMap jsonCharacter ++ ['"']

def jsonLine (e : LogEvent) : Text :=
  "\x7b\"level\":".toList ++ jsonString e.level.name ++ ",\"fields\":\x7b\"message\":".toList ++
    jsonString e.message ++ "\x7d,\"target\":".toList ++ jsonString e.target ++ ['}']

def line (format : LogFormat) (e : LogEvent) : Text :=
  match format with
  | .text => e.textLine
  | .json => e.jsonLine

end LogEvent

end RpcSchema
