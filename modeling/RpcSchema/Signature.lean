import RpcSchema.LetterCase

/-! Function signatures: what is kept of a Go function declaration. -/
namespace RpcSchema

/-- A Go type as far as it can be sent over the wire. -/
inductive ValueType where
  | scalar (name : Text)
  | arrayOf (element : Text)
  | unsupported (source : Text)
deriving DecidableEq, Repr

namespace ValueType

/-- The type as it is quoted in reports. -/
def sourceText : ValueType → Text
  | scalar name => name
  | arrayOf element => "[]".toList ++ element
  | unsupported source => source

def isScalar : ValueType → Bool
  | scalar _ => true
  | _ => false

def isUnsupported : ValueType → Bool
  | unsupported _ => true
  | _ => false

end ValueType

structure Parameter where
  name : Text
  type : ValueType
deriving DecidableEq, Repr

structure Signature where
  name : Text
  parameters : List Parameter
  results : List ValueType
deriving DecidableEq, Repr

/-- A name is exported when its first character is an upper-case letter. -/
def isExportedName : Text → Bool
  | [] => false
  | c :: _ => LetterCase.isUppercase c

def Signature.isExported (s : Signature) : Bool := isExportedName s.name

end RpcSchema
