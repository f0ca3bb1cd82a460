import RpcSchema.Text

/-! What is kept of a Go source file: the kinds and places of its top-level items, and
the signature of each top-level function. Types that are not looked into are kept as
the piece of source they were read from. -/
namespace RpcSchema

/-- A type. The `source` of a compound type is its piece of the text. -/
inductive TypeNode where
  | name (name : Text)
  /-- A type with type arguments; `plain` when no argument is a union. -/
  | generic (plain : Bool) (source : Text)
  /-- A slice or an array. -/
  | list (element : TypeNode) (source : Text)
  /-- A type that ends in another type: pointer, map, channel, function result. -/
  | prefixed (last : TypeNode) (source : Text)
  /-- A type in parentheses, with the comment that stands before it, if any. -/
  | parenthesized (comment : Option Text) (inner : TypeNode) (source : Text)
  | other (source : Text)
deriving Repr, DecidableEq

/-- An element of a parameter list. Commas are not kept. -/
inductive ParameterNode where
  | comment (source : Text)
  | declaration (names : List Text) (type : TypeNode)
  | variadic (name : Option Text) (source : Text)
deriving Repr, DecidableEq

inductive ResultNode where
  | none
  | list (elements : List ParameterNode)
  | single (type : TypeNode)
deriving Repr, DecidableEq

structure FunctionNode where
  name : Text
  parameters : List ParameterNode
  results : ResultNode
deriving Repr, DecidableEq

inductive ItemKind where
  | package
  | importing
  | function (node : FunctionNode)
  | method
  | typing
  | constant
  | variable
  | statement
deriving Repr, DecidableEq

/-- A top-level item. `rest` is the text from its first character on. -/
inductive Item where
  | comment (source : Text)
  | code (kind : ItemKind) (rest : Text)
deriving Repr, DecidableEq

/-- Whether the type, read without its last brackets, is a type as well and the
brackets hold plain types, so that the whole is an instance and an expression. -/
def TypeNode.isInstance : TypeNode → Bool
  | generic plain _ => plain
  | list element _ => element.isInstance
  | prefixed last _ => last.isInstance
  | _ => false

def TypeNode.unwrapped : TypeNode → TypeNode
  | parenthesized _ inner _ => inner.unwrapped
  | t => t

def TypeNode.endsInArguments : TypeNode → Bool
  | generic _ _ => true
  | list element _ => element.endsInArguments
  | prefixed last _ => last.endsInArguments
  | _ => false

end RpcSchema
