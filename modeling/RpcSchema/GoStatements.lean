import RpcSchema.GoExpressions

/-! Declarations of constants, types and variables, and statements. -/
namespace RpcSchema.GoStatements
open GoLexeme Reader GoExpressions

variable (g : Nested)

/-- Specifications of a declaration: one, or several in parentheses, each of them ended. -/
def specifications (spec : Reader Ending) : Reader Ending :=
  (do
    symbol false ['(']
    let _ ← many do
      let _ ← spec
      terminator
    symbol false [')']
    return .other)
  <|> spec

def names : Reader Unit := do
  let _ ← separated (symbol true [',']) (word false)

def seesClause : Reader Bool := sees do
  require (clauseWords.contains (← word false))

def constantSpec : Reader Ending := do
  names
  let values ← optional do
    if (← nextChar true) != some '=' then
      require ((← nextChar true) != some '\n')
      require (!(← seesClause))
      let _ ← g.type false
    symbol false ['=']
    values g .statement
  return if values.isSome then .value else .other

def variableSpec : Reader Ending := do
  let _ ← separated (symbol false [',']) (word false)
  if (← nextChar false) == some '=' then
    symbol false ['=']
    values g .statement
    return .value
  let _ ← g.type true
  let values ← optional do
    symbol true ['=']
    values g .statement
  return if values.isSome then .value else .other

def typeParameter (reserved : List Text) : Reader Unit := do
  let _ ← name false reserved
  let _ ← many do
    symbol false [',']
    word false
  let _ ← GoTypes.union g false

def typeParameters (reserved : List Text) : Reader Unit := do
  symbol false ['[']
  typeParameter g reserved
  let _ ← many do
    symbol false [',']
    typeParameter g []
  let _ ← optional (symbol false [','])
  symbol false [']']

/-- A type name and its type. Where brackets follow the name, they may hold the
length of an array or type parameters. -/
def typeSpec : Reader Ending := do
  let _ ← word false
  (do
    symbol false ['=']
    let _ ← g.type true)
  <|> (do
    typeParameters g operandWords
    let _ ← g.type true)
  <|> (do let _ ← g.type true)
  return .other

/-- How a simple statement reads, which decides what may follow it in a header. -/
inductive Simple where
  | expression
  | complete (ending : Ending)
  | range
deriving Repr, DecidableEq

/-- An operator that assigns, other than `=` and `:=`. -/
def compoundAssignment (e : Edge) : Reader Unit := lexeme e.lineEnds do
  exactly ['<', '<'] <|> exactly ['>', '>'] <|> exactly ['&', '^']
    <|> Reader.anyOf ['+', '-', '|', '^', '*', '/', '%', '&']
  exactly ['=']

def plainAssignment (e : Edge) : Reader Unit :=
  symbol e.lineEnds ['='] <|> symbol e.lineEnds [':', '=']

def furtherTargets (lineEnds : Bool) : Reader Unit := do
  symbol lineEnds [',']
  let _ ← separated (symbol false [',']) (value g .inner)

def seesWord (w : Text) : Reader Bool := sees (keyword false w)

/-- An assignment from the operator on. With `ranges`, `range` is reserved there. -/
def assigned (e last : Edge) (ranges : Bool) : Reader Simple :=
  (do
    plainAssignment e
    if ranges && (← seesWord "range".toList) then
      keyword false "range".toList
      value g .header
      return .range
    values g last
    return .complete .value)
  <|> do
    compoundAssignment e
    values g last
    return .complete .value

/-- A simple statement. `first` is the edge of its first expression, `last` that of the
expressions at its end; with `ranges` it may be the clause of a loop over a range. -/
def simple (first last : Edge) (ranges : Bool) : Reader Simple := do
  value g first.leading
  let several ← optional (furtherTargets g first.lineEnds)
  if several.isSome then
    assigned g .inner last ranges
  else
    (do
      symbol first.lineEnds ['+', '+'] <|> symbol first.lineEnds ['-', '-']
      return .complete .other)
    <|> (do
      symbol first.lineEnds ['<', '-']
      value g last
      return .complete .value)
    <|> assigned g first last ranges
    <|> return .expression

def statements (clauses : Bool) : Reader Unit := do
  match ← optional (g.statement ⟨clauses, true⟩) with
  | none => return
  | some (_, .label) => return
  | some _ =>
    let _ ← many do
      terminator
      let (_, ending) ← g.statement ⟨true, true⟩
      require (ending != .label || (← nextChar false) == some '}' || (← seesClause))
    let _ ← optional terminator

def block : Reader Unit := do
  symbol false ['\x7b']
  statements g false
  symbol false ['\x7d']

def clauses (head : Reader Unit) : Reader Unit := do
  symbol false ['\x7b']
  let _ ← many do
    (do keyword false "case".toList; head) <|> keyword false "default".toList
    symbol false [':']
    statements g true
  symbol false ['\x7d']

def ifStatement : Reader Unit := do
  let first ← simple g .header .inner false
  if first != .expression || (← nextChar false) == some ';' then
    symbol false [';']
    value g .header
  g.block
  let _ ← optional do
    keyword true "else".toList
    if ← seesWord "if".toList then
      let _ ← g.statement ⟨false, false⟩
    else g.block

/-- The part of a loop header behind its first semicolon. -/
def loopRest : Reader Unit := do
  symbol false [';']
  if (← nextChar false) != some ';' then value g .inner
  symbol false [';']
  if (← nextChar false) != some '{' then
    let _ ← simple g .header .header false

def forStatement : Reader Unit := do
  match ← nextChar false with
  | some '{' => pure ()
  | some ';' => loopRest g
  | _ =>
    if ← seesWord "range".toList then
      keyword false "range".toList
      value g .header
    else
      match ← simple g .header .inner true with
      | .range => pure ()
      | .expression => if (← nextChar false) == some ';' then loopRest g
      | .complete _ => loopRest g
  g.block

/-- The end of the header of a type switch. -/
def typeGuard : Reader Unit := do
  symbol false ['.']
  symbol false ['(']
  keyword false "type".toList
  symbol false [')']

/-- The subject of a switch; the answer tells whether its type is meant. -/
def subject (first : Edge) : Reader Bool :=
  (do
    value g first
    let _ ← optional (furtherTargets g false)
    symbol false [':', '=']
    value g { Edge.inner with typeSwitch := true }
    typeGuard
    return true)
  <|> do
    value g { first with typeSwitch := true }
    return (← optional typeGuard).isSome

/-- The header of a switch; the answer tells whether it is a type switch. -/
def switchHeader : Reader Bool :=
  (do
    if (← nextChar false) == some '{' then return false
    let types ← subject g Edge.header.leading
    require ((← nextChar false) == some '{')
    return types)
  <|> do
    let _ ← simple g { Edge.header with typeSwitch := true }
      { Edge.inner with typeSwitch := true } false
    symbol false [';']
    if (← nextChar false) == some '{' then return false
    subject g .header

def switchStatement : Reader Unit := do
  if ← switchHeader g then
    clauses g do
      let _ ← separated (symbol false [',']) (g.type false)
  else clauses g (values g .inner)

def communication : Reader Unit := do
  let e := { Edge.inner with sends := true }
  value g e
  (do
    symbol false ['<', '-']
    value g .inner)
  <|> (do
    let _ ← many do
      symbol false [',']
      value g .inner
    plainAssignment .inner
    value g .inner)
  <|> return

/-- A word behind `break` or `continue`, on the same line. -/
def target : Reader Unit := do
  let _ ← optional do
    require ((← nextChar true) != some '\n')
    name false clauseWords

/-- Values behind `return`, on the same line. -/
def returned : Reader Ending := do
  let found ← optional do
    require ((← nextChar true) != some '\n')
    require (!(← seesClause))
    values g .statement
  return if found.isSome then .value else .other

def label : Reader Unit := do
  let _ ← name false (operandWords ++ statementWords)
  symbol true [':']
  require (!(← sees (exactly ['='])))

def simpleStatement : Reader Ending := do
  match ← simple g .statement .statement false with
  | .complete ending => return ending
  | _ => return .other

def labeled (place : StatementPlace) : Reader Ending := do
  label
  match ← optional (g.statement ⟨place.clauses || place.bareLabels, false⟩) with
  | some (_, ending) => return ending
  | none =>
    require place.bareLabels
    return .label

def wordStatement (w : Text) : Reader (ItemKind × Ending) := do
  keyword false w
  if w == "const".toList then return (.constant, ← specifications (constantSpec g))
  else if w == "var".toList then return (.variable, ← specifications (variableSpec g))
  else if w == "type".toList then return (.typing, ← specifications (typeSpec g))
  else if w == "return".toList then return (.statement, ← returned g)
  else if w == "go".toList || w == "defer".toList then
    value g .statement
    return (.statement, .value)
  else if w == "if".toList then ifStatement g
  else if w == "for".toList then forStatement g
  else if w == "switch".toList then switchStatement g
  else if w == "select".toList then clauses g (communication g)
  else if w == "break".toList || w == "continue".toList then target
  else if w == "goto".toList then
    let _ ← word false
  return (.statement, .other)

/-- A statement. A word that begins statements has no other use at their start. -/
def statement (place : StatementPlace) : Reader (ItemKind × Ending) := do
  match ← nextChar false with
  | some ';' =>
    symbol false [';']
    return (.statement, .other)
  | some '{' =>
    g.block
    return (.statement, .other)
  | _ =>
    let w := (← peek (word false)).getD []
    if place.clauses && clauseWords.contains w then fail
    else if statementWords.contains w then wordStatement g w
    else if ← sees label then return (.statement, ← labeled g place)
    else return (.statement, ← simpleStatement g)

end RpcSchema.GoStatements
