import RpcSchema.Signature

/-! Names in the generated schema: the wire type of a Go type name, and the field
name that a function lends to its results. -/
namespace RpcSchema

/-- How the result fields of one reply are told apart: not at all, or by the
position of the result. -/
inductive ReplyNaming where
  | shared
  | positional
deriving DecidableEq, Repr

/-- The wire type of a Go type name; names without a counterpart stay as they are. -/
def protoType (name : Text) : Text :=
  if name = "float64".toList then "double".toList
  else if name = "float32".toList then "float".toList
  else if name = "int".toList ∨ name = "int8".toList ∨ name = "int16".toList then "int32".toList
  else if name = "uint".toList ∨ name = "uint8".toList ∨ name = "uint16".toList then "uint32".toList
  else name

def lowerFirst : Text → Text
  | [] => []
  | c :: cs => LetterCase.lowercase c ++ cs

/-- A function name without its accessor prefix `get` or `Get`; a bare prefix is kept. -/
def withoutAccessorPrefix : Text → Text
  | 'g' :: 'e' :: 't' :: c :: cs => c :: cs
  | 'G' :: 'e' :: 't' :: c :: cs => c :: cs
  | name => name

def resultFieldName (name : Text) : Text :=
  lowerFirst (withoutAccessorPrefix name)

end RpcSchema
