import RpcSchema.GoLayout
import RpcSchema.GoSourceFile
import RpcSchema.Signature
import RpcSchema.SourcePosition

/-! The signatures of the top-level functions of a source file, in order. -/
namespace RpcSchema

namespace TypeNode

/-- The type as far as it can be sent: names, lists of names, and these in parentheses. -/
def valueType : TypeNode → ValueType
  | name n => .scalar n
  | list (name n) _ => .arrayOf n
  | parenthesized (some comment) _ _ => .unsupported comment
  | parenthesized none inner _ => inner.valueType
  | generic _ source => .unsupported source
  | list _ source => .unsupported source
  | prefixed _ source => .unsupported source
  | other source => .unsupported source

end TypeNode

def inventedName (position : Nat) : Text := "arg".toList ++ Text.ofNat position

namespace ParameterNode

/-- The parameters of one element of a list, `before` parameters standing before it. -/
def parameters (before : Nat) : ParameterNode → List Parameter
  | comment _ => []
  | declaration [] type => [⟨inventedName (before + 1), type.valueType⟩]
  | declaration names type => names.map fun n => ⟨n, type.valueType⟩
  | variadic (some n) source => [⟨n, .unsupported source⟩]
  | variadic none source => [⟨inventedName (before + 1), .unsupported source⟩]

def results : ParameterNode → List ValueType
  | comment _ => []
  | declaration names type => List.replicate (max names.length 1) type.valueType
  | variadic _ _ => []

/-- The parameters of a list, `before` parameters standing before it. -/
def parametersOf (before : Nat) : List ParameterNode → List Parameter
  | [] => []
  | node :: nodes =>
    let own := node.parameters before
    own ++ parametersOf (before + own.length) nodes

end ParameterNode

def ResultNode.results : ResultNode → List ValueType
  | none => []
  | list elements => elements.flatMap ParameterNode.results
  | single type => [type.valueType]

def FunctionNode.signature (f : FunctionNode) : Signature :=
  ⟨f.name, ParameterNode.parametersOf 0 f.parameters, f.results.results⟩

def Item.signature? : Item → Option Signature
  | code (.function node) _ => some node.signature
  | _ => none

/-- Why a text has no signatures. -/
inductive SyntaxFault where
  /-- The text does not follow the grammar. -/
  | ungrammatical
  /-- The file is laid out wrongly at a place. -/
  | layout (position : SourcePosition)
deriving Repr, DecidableEq

def SyntaxFault.ofLayout (source : Text) : GoLayout.Fault → SyntaxFault
  | .misplaced rest => .layout (.ofRest source rest)
  | .noPackage => .layout .first

/-- The signatures of the top-level functions of a text. -/
def signaturesOf (source : Text) : Except SyntaxFault (List Signature) :=
  match GoSourceFile.read source with
  | none => .error .ungrammatical
  | some items =>
    match GoLayout.fault? .start items with
    | some fault => .error (.ofLayout source fault)
    | none => .ok (items.filterMap Item.signature?)

/-- The functions at the top level of a text. -/
def functionsOf (source : Text) : List FunctionNode :=
  ((GoSourceFile.read source).getD []).filterMap fun
    | .code (.function f) _ => some f
    | _ => none

theorem signatures_eq_map {source : Text} {signatures : List Signature}
    (h : signaturesOf source = .ok signatures) :
    signatures = (functionsOf source).map FunctionNode.signature := by
  unfold signaturesOf at h
  split at h
  · cases h
  · next items hitems =>
    split at h
    · cases h
    · cases h
      rw [functionsOf, hitems, Option.getD_some, List.map_filterMap]
      refine congrArg (items.filterMap ·) (funext fun item => ?_)
      cases item with
      | comment s => rfl
      | code kind rest => cases kind <;> rfl

end RpcSchema
