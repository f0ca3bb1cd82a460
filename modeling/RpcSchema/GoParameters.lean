import RpcSchema.GoTypes

/-! Parameter lists. In `a, b int` the names `a` and `b` share one type, and in
`a, b` they are types themselves; which of the two holds is known only when a type
arrives or the run of names breaks off. At most nine names share a type; the earlier
names of a longer run are types. A reserved word in a run is a name, so the names behind
it do not count. -/
namespace RpcSchema.GoParameters
open GoLexeme Reader

/-- An entry of a parameter list as it stands, before names are grouped. -/
inductive Entry where
  | comment (source : Text)
  /-- A word alone. A reserved word alone can only be a name. -/
  | bare (word : Text)
  /-- A word with a type behind it. -/
  | named (word : Text) (type : TypeNode)
  | typed (type : TypeNode)
  | variadic (name : Option Text) (source : Text)
deriving Repr, DecidableEq

def Entry.isBare : Entry → Bool
  | bare _ => true
  | _ => false

/-- The largest number of names that share a type, up to the first reserved word. -/
def groupLimit : Nat := 9

def bareWords (entries : List Entry) : List Text :=
  entries.filterMap fun
    | .bare w => some w
    | _ => none

/-- The first `n` bare entries, and what follows the last of them. -/
def splitBare : Nat → List Entry → List Entry × List Entry
  | 0, entries => ([], entries)
  | _ + 1, [] => ([], [])
  | n + 1, .bare w :: entries =>
    let (before, after) := splitBare n entries
    (.bare w :: before, after)
  | n + 1, e :: entries =>
    let (before, after) := splitBare (n + 1) entries
    (e :: before, after)

def ungrouped (entries : List Entry) : List ParameterNode :=
  entries.map fun
    | .comment source => .comment source
    | .bare w => .declaration [] (.name w)
    | .named w type => .declaration [w] type
    | .typed type => .declaration [] type
    | .variadic name source => .variadic name source

/-- Groups names with the type behind them. `waiting` holds the bare entries read
last, and the comments since the first of them. -/
def group (waiting : List Entry) : List Entry → List ParameterNode
  | [] => ungrouped waiting
  | .bare w :: entries => group (waiting ++ [.bare w]) entries
  | .comment source :: entries =>
    if waiting.isEmpty then .comment source :: group [] entries
    else group (waiting ++ [.comment source]) entries
  | .named w type :: entries =>
    let words := bareWords waiting ++ [w]
    let settled := words.takeWhile (!typeWords.contains ·)
    let (types, names) := splitBare (min (settled.length + 1) words.length - groupLimit) waiting
    ungrouped types ++ .declaration (bareWords names ++ [w]) type :: group [] entries
  | e :: entries => ungrouped (waiting ++ [e]) ++ group [] entries

/-- Reserved words that stand alone have to be names. -/
def wellFormed (nodes : List ParameterNode) : Bool :=
  nodes.all fun
    | .declaration [] (.name w) => !typeWords.contains w
    | _ => true

variable (g : Nested)

def atEnd : Reader Bool := sees (symbol false [','] <|> symbol false [')'])

def variadic : Reader Entry := do
  let (source, n) ← captured do
    let n ← optional (name false typeWords)
    symbol false ['.', '.', '.']
    let _ ← g.type false
    return n
  return .variadic n source

def argumentsInBrackets : Reader Bool := sees do
  symbol false ['[']
  require (← g.type false).unwrapped.endsInArguments
  symbol false [']']

/-- A word that names a parameter: its type follows here or further on. No parameter is
called `map` where the brackets behind it hold a type with type arguments. -/
def nameEntry (reserved : List Text) : Reader Entry := do
  let w ← name false reserved
  require (w != "map".toList || !(← argumentsInBrackets g))
  if ← atEnd then return .bare w
  let type ← g.type false
  require (← atEnd)
  return .named w type

/-- A type alone. Brackets behind a name might hold the length of an array, so a word
in them that is an expression is no type. -/
def typeEntry : Reader Entry := do
  require (!(← sees do
    let _ ← name false typeWords
    require (← GoTypes.valueInBrackets)))
  return .typed (← g.type false)

/-- An entry. After a bare word the next word may be a name even if it is reserved. -/
def entry (afterBare : Bool) : Reader Entry :=
  variadic g <|> nameEntry g (if afterBare then [] else typeWords)
    <|> typeEntry g

def commented (afterBare : Bool) : Reader (List Entry × Bool) := do
  let before ← comments false
  let e ← entry g afterBare
  let after ← comments false
  return (before.map .comment ++ e :: after.map .comment, e.isBare)

def entries : Reader (List Entry) := do
  let (first, bare) ← commented g false
  let others ← manyFrom (fun afterBare => do
    symbol false [',']
    commented g afterBare) bare
  return first ++ others.flatten

def parameters : Reader (List ParameterNode) := do
  symbol false ['(']
  let read ← optional (entries g)
  let before ← comments false
  let _ ← optional (symbol false [','])
  let after ← comments false
  symbol false [')']
  let nodes := group [] (read.getD [] ++ (before ++ after).map .comment)
  require (wellFormed nodes)
  return nodes

end RpcSchema.GoParameters
