import RpcSchema.GoParameters
import RpcSchema.GoStatements

/-! Whole source files: a sequence of top-level items, each of them ended. The readers
of nested constructs are closed here: a text is read with constructs nested no deeper
than it has room for. -/
namespace RpcSchema

def Nested.deeper (g : Nested) : Nested where
  type := GoTypes.type g
  parameters := GoParameters.parameters g
  expression := GoExpressions.expression g
  operand := GoExpressions.operand g
  suffixes := GoExpressions.suffixes g
  literalBody := GoExpressions.literalBody g
  block := GoStatements.block g
  statement := GoStatements.statement g

/-- Constructs nested at most `n` deep. -/
def Nested.upTo : Nat → Nested
  | 0 => Nested.nothing
  | n + 1 => (Nested.upTo n).deeper

namespace GoSourceFile
open GoLexeme Reader

variable (g : Nested)

def packageClause : Reader ItemKind := do
  keyword false "package".toList
  let _ ← word false
  return .package

/-- A path, with a name, a dot or a low line before it. -/
def importSpec : Reader Unit := do
  let _ ← optional (symbol false ['.'] <|> do let _ ← word false)
  lexeme false GoLiteral.string

def importDeclaration : Reader ItemKind := do
  keyword false "import".toList
  (do
    symbol false ['(']
    let _ ← optional do
      let _ ← separated terminator importSpec
      optional terminator
    symbol false [')'])
  <|> importSpec
  return .importing

/-- The body of a function may be missing. -/
def body : Reader Unit := do
  if (← nextChar true) == some '{' then g.block

def functionDeclaration : Reader ItemKind := do
  keyword false "func".toList
  let name ← word false
  let _ ← optional (GoStatements.typeParameters g [])
  let parameters ← g.parameters
  let results ← GoTypes.results g true
  body g
  return .function ⟨name, parameters, results⟩

def methodDeclaration : Reader ItemKind := do
  keyword false "func".toList
  let _ ← g.parameters
  let _ ← name false typeWords
  let _ ← g.parameters
  let _ ← GoTypes.results g true
  body g
  return .method

def declaration : Reader ItemKind :=
  packageClause <|> importDeclaration <|> functionDeclaration g <|> methodDeclaration g

/-- A declaration ends with a terminator or with the text. -/
def endedDeclaration : Reader (ItemKind × List Text) := do
  let kind ← declaration g
  let after ← comments true
  terminator <|> endOfText
  return (kind, after)

/-- A statement ends with a terminator, or with the text behind a value. -/
def endedStatement : Reader (ItemKind × List Text) := do
  let first := (← peek (word false)).getD []
  require (first != "package".toList && first != "import".toList)
  let (kind, ending) ← g.statement ⟨false, false⟩
  let after ← comments true
  terminator <|> do
    require (ending == .value)
    endOfText
  return (kind, after)

def item : Reader (List Item) := do
  let before ← comments false
  let rest ← remaining
  let (kind, after) ← endedDeclaration g <|> endedStatement g
  return before.map .comment ++ .code kind rest :: after.map .comment

def items : Reader (List Item) := do
  let read ← many (item g)
  let last ← comments false
  return read.flatten ++ last.map .comment

/-- The text without a byte order mark at its start. -/
def withoutMark : Text → Text
  | '\ufeff' :: s => s
  | s => s

/-- The items of a text, or nothing if the text is not Go. -/
def read (source : Text) : Option (List Item) :=
  match (items (Nested.upTo (4 * (source.length + 1)))).run (withoutMark source) with
  | some (found, []) => some found
  | _ => none

end GoSourceFile

end RpcSchema
