import RpcSchema.ProtoNaming

/-! The method line and the two messages that one signature contributes. Messages
are kept as lists of fields; `Message.text` writes them. -/
namespace RpcSchema

structure Field where
  repeated : Bool
  type : Text
  name : Text
  number : Nat
deriving DecidableEq, Repr

structure Message where
  name : Text
  fields : List Field
deriving DecidableEq, Repr

/-- The refusal of a type that has no counterpart on the wire. -/
structure UnsupportedType where
  function : Text
  type : Text
deriving DecidableEq, Repr

def Field.text (f : Field) : Text :=
  '\t' :: (if f.repeated then "repeated ".toList else []) ++ f.type ++ ' ' :: f.name ++
    " = ".toList ++ Text.ofNat f.number ++ ";\n".toList

def Message.text (m : Message) : Text :=
  "\n\nmessage ".toList ++ m.name ++ " \x7b\n".toList ++ m.fields.flatMap Field.text ++ ['}']

def UnsupportedType.message (e : UnsupportedType) : Text :=
  "Unsupported type `".toList ++ e.type ++ "` in function ".toList ++ e.function

namespace Signature

def emptyMessage : Text := "google.protobuf.Empty".toList

def requestName (s : Signature) : Text := s.name ++ "Request".toList

def replyName (s : Signature) : Text := s.name ++ "Reply".toList

/-- The type that the method receives. -/
def requestType (s : Signature) : Text :=
  if s.parameters.isEmpty then emptyMessage else s.requestName

/-- The type that the method returns. -/
def replyType (s : Signature) : Text :=
  if s.results.isEmpty then emptyMessage else s.replyName

def method (s : Signature) : Text :=
  "\t rpc ".toList ++ s.name ++ '(' :: s.requestType ++ ") returns (".toList ++ s.replyType ++
    ") \x7b\x7d\n".toList

/-- Fields numbered from `number` on; the first item without a field is refused. -/
def numbered {α : Type} (field : Nat → α → Except UnsupportedType Field) :
    Nat → List α → Except UnsupportedType (List Field)
  | _, [] => .ok []
  | number, a :: as =>
    match field number a with
    | .error e => .error e
    | .ok f => (numbered field (number + 1) as).map (f :: ·)

/-- Only scalars can be received. -/
def requestField (s : Signature) (number : Nat) (p : Parameter) : Except UnsupportedType Field :=
  match p.type with
  | .scalar name => .ok ⟨false, protoType name, p.name, number⟩
  | type => .error ⟨s.name, type.sourceText⟩

/-- The name of the result at a position. Only several results of one reply are
told apart, and only when positions are asked for. -/
def replyFieldName (s : Signature) (naming : ReplyNaming) (number : Nat) : Text :=
  if naming = .positional ∧ 1 < s.results.length then
    resultFieldName s.name ++ Text.ofNat number
  else resultFieldName s.name

def replyField (s : Signature) (naming : ReplyNaming) (number : Nat) (r : ValueType) :
    Except UnsupportedType Field :=
  match r with
  | .scalar name => .ok ⟨false, protoType name, s.replyFieldName naming number, number⟩
  | .arrayOf element => .ok ⟨true, protoType element, s.replyFieldName naming number, number⟩
  | .unsupported source => .error ⟨s.name, source⟩

/-- A function that is not exported, or has no parameters, has no request message. -/
def requestMessage (s : Signature) : Except UnsupportedType (Option Message) :=
  if s.isExported && !s.parameters.isEmpty then
    (numbered s.requestField 1 s.parameters).map fun fields => some ⟨s.requestName, fields⟩
  else .ok none

/-- A function that is not exported, or has no results, has no reply message. -/
def replyMessage (s : Signature) (naming : ReplyNaming) :
    Except UnsupportedType (Option Message) :=
  if s.isExported && !s.results.isEmpty then
    (numbered (s.replyField naming) 1 s.results).map fun fields => some ⟨s.replyName, fields⟩
  else .ok none

end Signature

end RpcSchema
