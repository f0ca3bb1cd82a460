import RpcSchema.GoTypes

/-! Expressions. They are read for their extent only. An operand may turn out to be an
expression, a type or both, which is settled by what follows; `Operand` keeps track of
what is still possible. -/
namespace RpcSchema.GoExpressions
open GoLexeme Reader

variable (g : Nested)

def value (e : Edge) : Reader Unit := do
  require (← g.expression e).value

def values (e : Edge) : Reader Unit := do
  let _ ← separated (symbol e.lineEnds [',']) (value g e)

def element : Reader Unit := do
  match ← nextChar false with
  | some '{' => g.literalBody
  | _ => value g .inner

def literalBody : Reader Unit := do
  symbol false ['\x7b']
  let _ ← optional <| separated (symbol false [',']) do
    element g
    optional do
      symbol false [':']
      element g
  let _ ← optional (symbol false [','])
  symbol false ['\x7d']

def arguments (e : Edge) : Reader Unit := do
  symbol e.lineEnds ['(']
  let _ ← optional do
    let _ ← separated (symbol false [',']) do
      value g .inner
      optional (symbol false ['.', '.', '.'])
    optional (symbol false [','])
  symbol false [')']

/-- Arguments of which the first is a type. -/
def typeFirst (e : Edge) : Reader Unit := do
  symbol e.lineEnds ['(']
  let _ ← optional do
    let _ ← g.type false
    let _ ← many do
      symbol false [',']
      value g .inner
    optional (symbol false [','])
  symbol false [')']

def conversion : Reader Unit := do
  symbol false ['(']
  value g .inner
  let _ ← optional (symbol false [','])
  symbol false [')']

/-- What follows the first colon of a slice expression. -/
def sliceEnds : Reader Unit := do
  symbol false [':']
  let _ ← optional do
    value g .inner
    optional do
      symbol false [':']
      value g .inner
  symbol false [']']

def subscript : Reader Unit := do
  symbol false ['[']
  sliceEnds g <|> do
    value g .inner
    symbol false [']'] <|> sliceEnds g

/-- Type arguments behind an operand. Behind an expression, a word that is an expression
is no type. -/
def typeArgumentsAfter (o : Operand) : Reader Bool := do
  require (o.type || !(← GoTypes.valueInBrackets))
  GoTypes.typeArguments g false

def brackets (o : Operand) : Reader Operand := do
  let (index, types) ← both (do require o.value; subscript g) (typeArgumentsAfter g o)
  let isType := types.isSome && o.generic
  let result : Operand :=
    { value := index.isSome || (o.type && types == some true)
      type := isType
      bare := false
      generic := false
      callee := o.value && types.isSome
      allocator := false
      braces := if isType then .contested else .never }
  require (result.value || result.type || result.callee)
  return result

def selector (e : Edge) (o : Operand) : Reader Operand := do
  symbol e.lineEnds ['.']
  match ← nextChar false with
  | some '(' =>
    if e.typeSwitch then
      require (!(← sees do
        symbol false ['(']
        keyword false "type".toList))
    symbol false ['(']
    let _ ← g.type false
    symbol false [')']
    return .expression
  | _ =>
    let _ ← word false
    return if o.bare then .qualified else .expression

/-- Whether the braces here are the body of a literal behind which a header goes on, on
the same line. What a semicolon follows is a block if it can be one. -/
def headerLiteral : Reader Bool := do
  match ← peek (do g.literalBody; nextChar true) with
  | some (some ';') => return !(← sees g.block)
  | some (some c) =>
    return ['{', '.', '(', '[', ',', ':', '=', '!', '<', '>', '+', '-', '*', '/', '%', '&', '|',
      '^'].contains c
  | _ => return false

/-- One more piece of an operand. A line break does not keep a qualified or generic name
from the body of its literal. -/
def suffix (e : Edge) (o : Operand) : Reader Operand := do
  let e := { e with lineEnds := e.lineEnds && o.value }
  match ← nextChar e.lineEnds with
  | some '.' =>
    require o.value
    selector g e o
  | some '[' => brackets g o
  | some '(' =>
    if o.allocator then
      typeFirst g e
      return .expression
    else if o.value || o.callee then
      arguments g e
      return .expression
    else
      require o.type
      conversion g
      return .expression
  | some '{' =>
    match o.braces with
    | .never => fail
    | .outsideHeader => require !e.block
    | .contested => if e.block then require (← headerLiteral g)
    | .always => pure ()
    g.literalBody
    return .expression
  | some '\n' =>
    require (o.braces == .contested)
    g.literalBody
    return .expression
  | _ => fail

def suffixes (e : Edge) (o : Operand) : Reader Operand :=
  (do g.suffixes e (← suffix g e o)) <|> do
    require (o.value || o.type)
    return o

def wordOperand : Reader Operand := do
  let w ← word false
  if w == "func".toList then
    let _ ← g.parameters
    let results ← GoTypes.results g false
    match ← nextChar false with
    | some '{' =>
      g.block
      return .expression
    | _ =>
      return match results with
        | .single type => .ofType (.prefixed type []) .never
        | _ => .ofType (.other []) .never
  else if w == "map".toList then
    return .ofType ((← GoTypes.mapType g false) []) .always
  else if w == "chan".toList then
    return .ofType ((← GoTypes.channelType g false) []) .never
  else if w == "struct".toList then
    GoTypes.structBody g
    return .ofType (.other []) .always
  else if w == "interface".toList then
    GoTypes.interfaceBody g
    return .ofType (.other []) .never
  else if w == "new".toList || w == "make".toList then
    return .allocation
  else if operandWords.contains w then
    return .expression
  else return .identifier

/-- An array or slice type. With dots for its length it has to begin a literal. -/
def listOperand : Reader Operand := do
  symbol false ['[']
  (do
    symbol false ['.', '.', '.']
    symbol false [']']
    let _ ← g.type false
    return ⟨false, false, false, false, false, false, .always⟩)
  <|> do
    GoTypes.arrayLength g
    return .ofType (.list (← g.type false) []) .always

def grouped : Reader Operand := do
  symbol false ['(']
  let o ← g.expression .inner
  symbol false [')']
  return o.enclosed

/-- A sign in front of an operand that has to be an expression. -/
def signed (e : Edge) (sign : Text) : Reader Operand := do
  symbol false sign
  require (← g.operand e).value
  return .expression

/-- `<-` in front of an operand; in front of a channel type it makes another one. -/
def received (e : Edge) : Reader Operand := do
  symbol false ['<', '-']
  let channel ← sees (keyword false "chan".toList)
  let o ← g.operand e
  let o := { o.enclosed with type := o.type && channel }
  require (o.value || o.type)
  return o

def operand (e : Edge) : Reader Operand := do
  let below := { e with typeSwitch := false }
  match ← nextChar false with
  | some '*' =>
    symbol false ['*']
    return (← g.operand below).enclosed
  | some '<' => received g below
  | some '+' => signed g below ['+']
  | some '-' => signed g below ['-']
  | some '!' => signed g below ['!']
  | some '^' => signed g below ['^']
  | some '&' => signed g below ['&']
  | some '~' =>
    symbol false ['~']
    let type ← g.type false
    let braces := if type.endsInArguments then .contested else .never
    suffixes g e { Operand.ofType type braces with generic := true }
  | some '(' => suffixes g e (← grouped g)
  | some '[' => suffixes g e (← listOperand g)
  | _ =>
    (do
      lexeme false GoLiteral.literal
      suffixes g e .expression)
    <|> do suffixes g e (← wordOperand g)

/-- An operator of one or two characters that a following `=` turns into an assignment. -/
def arithmetic (e : Edge) : Reader Unit := do
  require (!(e.sends && (← sees (exactly ['<', '-']))))
  require (!(e.steps && (← sees (exactly ['+', '+'] <|> exactly ['-', '-']))))
  exactly ['<', '<'] <|> exactly ['>', '>'] <|> exactly ['&', '^']
    <|> Reader.anyOf ['+', '-', '|', '^', '*', '/', '%', '&', '<', '>']
  require (!(← sees (exactly ['='])))

def operator (e : Edge) : Reader Unit := lexeme e.lineEnds <|
  exactly ['|', '|'] <|> exactly ['&', '&'] <|> exactly ['=', '='] <|> exactly ['!', '=']
    <|> exactly ['<', '='] <|> exactly ['>', '='] <|> arithmetic e

def expression (e : Edge) : Reader Operand := do
  let first ← operand g e
  if !first.value then return first
  let others ← many do
    operator e
    require (← operand g { e with typeSwitch := false }).value
  return if others.isEmpty then first else .expression

end RpcSchema.GoExpressions
