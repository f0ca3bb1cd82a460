import RpcSchema.GoGrammar

/-! Types. A type is read as far as it goes: `a.b[c]` is one type, and a function type
takes the result that stands behind its parameters. -/
namespace RpcSchema.GoTypes
open GoLexeme Reader

variable (g : Nested)

/-- Types with `|` between them; the answer tells whether there is only one. -/
def union (lineEnds : Bool) : Reader Bool := do
  let types ← separated (symbol lineEnds ['|']) (g.type lineEnds)
  return types.length == 1

/-- Type arguments in brackets; the answer tells whether none of them is a union. -/
def typeArguments (lineEnds : Bool) : Reader Bool := do
  symbol lineEnds ['[']
  let plain ← separated (symbol false [',']) (union g false)
  let _ ← optional (symbol false [','])
  symbol false [']']
  return plain.all id

/-- A name, a qualified name, or one of these with type arguments. -/
def namedType (lineEnds : Bool) : Reader (Text → TypeNode) := do
  let n ← name false typeWords
  let member ← optional do
    symbol lineEnds ['.']
    word false
  let arguments ← optional (typeArguments g lineEnds)
  return match arguments, member with
    | some plain, _ => .generic plain
    | none, some _ => .other
    | none, none => fun _ => .name n

/-- The results of a function: a parameter list, a type, or nothing. What may begin a
type does begin one. -/
def results (lineEnds : Bool) : Reader ResultNode := do
  match ← nextChar lineEnds with
  | some '(' => return .list (← g.parameters)
  | some c =>
    if ['*', '[', '~', '<'].contains c || IdentifierCharacter.isStart c then
      return .single (← g.type lineEnds)
    else return .none
  | none => return .none

def functionType (lineEnds : Bool) : Reader (Text → TypeNode) := do
  let _ ← g.parameters
  match ← results g lineEnds with
  | .single type => return .prefixed type
  | _ => return .other

def mapType (lineEnds : Bool) : Reader (Text → TypeNode) := do
  symbol false ['[']
  let _ ← g.type false
  symbol false [']']
  return .prefixed (← g.type lineEnds)

def channelType (lineEnds : Bool) : Reader (Text → TypeNode) := do
  let _ ← optional (symbol false ['<', '-'])
  return .prefixed (← g.type lineEnds)

/-- Elements of a body in braces. Statement ends separate them. -/
def members (element : Reader Unit) : Reader Unit := do
  symbol false ['\x7b']
  let _ ← optional do
    let _ ← separated terminator element
    optional terminator
  symbol false ['\x7d']

/-- What follows an element of a struct: its tag, and then an end. -/
def fieldEnd : Reader Unit := do
  let _ ← optional (lexeme true GoLiteral.string)
  require (← sees (terminator <|> symbol true ['\x7d']))

def namedField : Reader Unit := do
  let _ ← word false
  match ← optional (symbol true [',']) with
  | some _ =>
    let _ ← separated (symbol false [',']) (word false)
  | none => require ((← nextChar true) != some '\n')
  let _ ← g.type true
  fieldEnd

/-- A bracket with a word that is an expression, as the length of an array would be. -/
def valueInBrackets : Reader Bool := sees do
  symbol false ['[']
  require (valueWords.contains (← word false))

/-- The name of an embedded type. -/
def embeddedField : Reader Unit := do
  let _ ← optional (symbol false ['*'])
  let _ ← word false
  require (!(← valueInBrackets))
  let _ ← optional do
    symbol true ['.']
    word false
  let _ ← optional (typeArguments g true)
  fieldEnd

def structBody : Reader Unit := members (namedField g <|> embeddedField g)

def interfaceMethod : Reader Unit := do
  let _ ← name false typeWords
  require ((← nextChar true) == some '(')
  let _ ← g.parameters
  let _ ← results g true

def interfaceBody : Reader Unit :=
  members (interfaceMethod g <|> do let _ ← union g true)

def wordType (lineEnds : Bool) : Reader (Text → TypeNode) := do
  (do keyword false "func".toList; functionType g lineEnds)
    <|> (do keyword false "map".toList; mapType g lineEnds)
    <|> (do keyword false "chan".toList; channelType g lineEnds)
    <|> (do keyword false "struct".toList; structBody g; return .other)
    <|> (do keyword false "interface".toList; interfaceBody g; return .other)
    <|> namedType g lineEnds

/-- The length of an array, or nothing for a slice, up to the closing bracket. -/
def arrayLength : Reader Unit :=
  symbol false [']'] <|> do
    require (← g.expression .inner).value
    symbol false [']']

def typeBody (lineEnds : Bool) : Reader (Text → TypeNode) := do
  match ← front with
  | some '*' =>
    exactly ['*']
    return .prefixed (← g.type lineEnds)
  | some '~' =>
    exactly ['~']
    let last ← g.type lineEnds
    match ← optional (typeArguments g lineEnds) with
    | some plain => return .generic plain
    | none => return .prefixed last
  | some '<' =>
    exactly ['<', '-']
    keyword false "chan".toList
    return .prefixed (← g.type lineEnds)
  | some '(' =>
    exactly ['(']
    let before ← comments false
    let inner ← g.type false
    symbol false [')']
    return .parenthesized before.head? inner
  | some '[' =>
    exactly ['[']
    arrayLength g
    return .list (← g.type lineEnds)
  | _ => wordType g lineEnds

def type (lineEnds : Bool) : Reader TypeNode := do
  let (source, node) ← lexeme false (captured (typeBody g lineEnds))
  return node source

end RpcSchema.GoTypes
