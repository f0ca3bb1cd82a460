import RpcSchema.GoLiteral
import RpcSchema.GoSyntax

/-! Constructs of Go contain one another. A `Nested` gives a reader for each construct
that may occur within another one; the readers of the following modules are functions
of it and always read something before they use it. `GoSourceFile` closes the circle. -/
namespace RpcSchema

/-- What may follow an expression, as far as reading the expression depends on it. -/
structure Edge where
  /-- A line break ends the statement. -/
  lineEnds : Bool
  /-- `<-` sends the expression's value instead of comparing and negating. -/
  sends : Bool
  /-- `++` and `--` end the expression instead of being two signs. -/
  steps : Bool
  /-- A brace after a name opens the block that follows. -/
  block : Bool
  /-- `.(type)` belongs to the type switch. -/
  typeSwitch : Bool
deriving Repr, DecidableEq

namespace Edge

def inner : Edge := ⟨false, false, false, false, false⟩

def statement : Edge := ⟨true, false, false, false, false⟩

/-- A header, up to the brace that opens its block. -/
def header : Edge := ⟨false, false, false, true, false⟩

/-- The first expression of a simple statement. -/
def leading (e : Edge) : Edge := { e with sends := true, steps := true }

end Edge

/-- When a brace after an operand opens the body of a composite literal. -/
inductive Braces where
  | never
  /-- A single name: not in a header, where the brace opens the block. -/
  | outsideHeader
  /-- A qualified or generic name: in a header only if the header goes on behind the body. -/
  | contested
  | always
deriving Repr, DecidableEq

/-- What a piece of text that has been read so far may be. -/
structure Operand where
  /-- An expression. -/
  value : Bool
  /-- A type. -/
  type : Bool
  /-- A single identifier, which may qualify a name. -/
  bare : Bool
  /-- The name of a generic type. -/
  generic : Bool
  /-- A function with type arguments, if a call follows. -/
  callee : Bool
  /-- `new` or `make`, whose first argument may be a type. -/
  allocator : Bool
  braces : Braces
deriving Repr, DecidableEq

namespace Operand

def expression : Operand := ⟨true, false, false, false, false, false, .never⟩

def identifier : Operand := ⟨true, true, true, true, false, false, .outsideHeader⟩

def qualified : Operand := ⟨true, true, false, true, false, false, .contested⟩

def allocation : Operand := ⟨true, false, false, false, false, true, .never⟩

/-- A type that is no name. An instance is an expression, too. -/
def ofType (node : TypeNode) (braces : Braces) : Operand :=
  ⟨node.isInstance, true, false, false, false, false, braces⟩

/-- The operand with something in front of it or around it. -/
def enclosed (o : Operand) : Operand :=
  ⟨o.value, o.type, false, false, false, false, .never⟩

end Operand

inductive Ending where
  /-- With an expression that is a value; the end of the text then ends the statement. -/
  | value
  /-- With the colon of a label that has no statement. -/
  | label
  | other
deriving Repr, DecidableEq

structure StatementPlace where
  /-- `case` and `default` are reserved here. -/
  clauses : Bool
  /-- A label may stand without a statement. -/
  bareLabels : Bool
deriving Repr, DecidableEq

structure Nested where
  type : Bool → Reader TypeNode
  parameters : Reader (List ParameterNode)
  expression : Edge → Reader Operand
  operand : Edge → Reader Operand
  suffixes : Edge → Operand → Reader Operand
  literalBody : Reader Unit
  block : Reader Unit
  statement : StatementPlace → Reader (ItemKind × Ending)

def Nested.nothing : Nested where
  type _ := Reader.fail
  parameters := Reader.fail
  expression _ := Reader.fail
  operand _ := Reader.fail
  suffixes _ _ := Reader.fail
  literalBody := Reader.fail
  block := Reader.fail
  statement _ := Reader.fail

namespace GoLexeme

def typeWords : List Text :=
  ["func".toList, "map".toList, "chan".toList, "struct".toList, "interface".toList]

/-- Words that are expressions of their own. -/
def valueWords : List Text :=
  ["nil".toList, "true".toList, "false".toList, "iota".toList, "new".toList, "make".toList]

def operandWords : List Text := typeWords ++ valueWords

def statementWords : List Text :=
  ["const".toList, "type".toList, "var".toList, "return".toList, "go".toList, "defer".toList,
    "if".toList, "for".toList, "switch".toList, "select".toList, "fallthrough".toList,
    "break".toList, "continue".toList, "goto".toList]

/-- Words that begin a clause of a switch. -/
def clauseWords : List Text := ["case".toList, "default".toList]

end GoLexeme

end RpcSchema
