import RpcSchema.Proofs.MessageFields
import RpcSchema.Proofs.Numerals
import RpcSchema.GoSignatures
import Mathlib.Data.List.Nodup

/-! # The names of parameters

The parameters of a function have the names that are written in its list, and for the
parameters without one the names invented for their positions. A request has a field of each
name, so its fields are told apart just where these names are. -/
namespace RpcSchema.ParameterNames
open Signature

section Lists

variable {nodes : List ParameterNode}

/-- The names that are written in an element of a list. The blank is a name, too. -/
def written : ParameterNode → List Text
  | .comment _ => []
  | .declaration names _ => names
  | .variadic name _ => name.toList

/-- Whether the element is a parameter without a name. -/
def isNameless : ParameterNode → Bool
  | .declaration [] _ => true
  | .variadic none _ => true
  | _ => false

/-- The positions of the parameters without a name, `before` parameters standing before the
list. -/
def nameless (before : Nat) : List ParameterNode → List Nat
  | [] => []
  | node :: nodes =>
    (if isNameless node then [before + 1] else []) ++
      nameless (before + (node.parameters before).length) nodes

theorem names_parameters (node : ParameterNode) (before : Nat) :
    (node.parameters before).map Parameter.name =
      written node ++ (if isNameless node then [before + 1] else []).map inventedName := by
  cases node with
  | comment s => rfl
  | declaration names type =>
    cases names with
    | nil => rfl
    | cons n names =>
      rw [ParameterNode.parameters, List.map_map]
      · exact (List.map_id _).trans (List.append_nil _).symm
      · exact List.cons_ne_nil _ _
  | variadic name s => cases name <;> rfl

/-- Names that are written and names that are invented, in some order. -/
theorem names_parametersOf (before : Nat) (nodes : List ParameterNode) :
    ((ParameterNode.parametersOf before nodes).map Parameter.name).Perm
      (nodes.flatMap written ++ (nameless before nodes).map inventedName) := by
  induction nodes generalizing before with
  | nil => exact .nil
  | cons node nodes ih =>
    have hrest := ih (before + (node.parameters before).length)
    rw [ParameterNode.parametersOf, List.map_append, names_parameters, nameless, List.map_append,
      List.flatMap_cons, List.append_assoc, List.append_assoc]
    refine List.Perm.append_left _ ((List.Perm.append_left _ hrest).trans ?_)
    exact List.perm_append_comm_assoc _ _ _

theorem lt_of_mem_nameless {before i : Nat} (h : i ∈ nameless before nodes) : before < i := by
  induction nodes generalizing before with
  | nil => cases h
  | cons node nodes ih =>
    rcases List.mem_append.1 h with h | h
    · split at h
      · exact List.mem_singleton.1 h ▸ Nat.lt_succ_self before
      · cases h
    · exact Nat.lt_of_le_of_lt (Nat.le_add_right _ _) (ih h)

theorem length_of_isNameless {node : ParameterNode} (h : isNameless node = true) (before : Nat) :
    (node.parameters before).length = 1 := by
  unfold isNameless at h
  split at h
  · rfl
  · rfl
  · cases h

theorem nodup_nameless (before : Nat) (nodes : List ParameterNode) :
    (nameless before nodes).Nodup := by
  induction nodes generalizing before with
  | nil => exact List.nodup_nil
  | cons node nodes ih =>
    rw [nameless]
    cases hnode : isNameless node with
    | false => exact ih _
    | true =>
      refine List.nodup_cons.2 ⟨fun h => ?_, ih _⟩
      have hlt := lt_of_mem_nameless h
      rw [length_of_isNameless hnode] at hlt
      exact Nat.lt_irrefl _ hlt

theorem inventedName_injective : Function.Injective inventedName :=
  fun _ _ h => Numerals.ofNat_inj ((List.append_right_inj _).1 h)

end Lists

section Functions

def writtenNames (f : FunctionNode) : List Text := f.parameters.flatMap written

def inventedNames (f : FunctionNode) : List Text := (nameless 0 f.parameters).map inventedName

/-- Two parameters of one name: the name is written twice, or written for one of them and
invented for the other. -/
def NamesClash (f : FunctionNode) : Prop :=
  ¬(writtenNames f).Nodup ∨ ∃ n ∈ writtenNames f, n ∈ inventedNames f

/-- Invented names never clash among themselves. -/
theorem nodup_names (f : FunctionNode) :
    (f.signature.parameters.map Parameter.name).Nodup ↔ ¬NamesClash f := by
  have hinvented : (inventedNames f).Nodup := (nodup_nameless 0 _).map inventedName_injective
  have hperm := (names_parametersOf 0 f.parameters).nodup_iff
  change (f.signature.parameters.map _).Nodup ↔ (writtenNames f ++ inventedNames f).Nodup at hperm
  rw [hperm, List.nodup_append']
  simp [NamesClash, hinvented, List.disjoint_left]

theorem names_requestMessage {s : Signature} {m : Message}
    (h : s.requestMessage = .ok (some m)) :
    m.fields.map Field.name = s.parameters.map Parameter.name := by
  rcases MessageFields.requestMessage_ok h with ⟨-, hnone⟩ | ⟨-, fields, hfields, hm⟩
  · cases hnone
  · cases hm
    refine MessageFields.numbered_map (fun n p f hf => ?_) hfields
    rw [(MessageFields.requestField_ok hf).1]

/-- The parameters of a function are told apart by their names just if no two names clash, and
so are the fields of its request, which have the same names. -/
theorem request_fields_distinct {source : Text} {signatures : List Signature}
    (h : signaturesOf source = .ok signatures) :
    signatures = (functionsOf source).map FunctionNode.signature ∧
      ∀ f ∈ functionsOf source,
        ((f.signature.parameters.map Parameter.name).Nodup ↔ ¬NamesClash f) ∧
        ∀ m, f.signature.requestMessage = .ok (some m) →
          m.fields.map Field.name = f.signature.parameters.map Parameter.name ∧
          ((m.fields.map Field.name).Nodup ↔ ¬NamesClash f) := by
  refine ⟨signatures_eq_map h, fun f _ => ⟨nodup_names f, fun m hm => ?_⟩⟩
  have hnames := names_requestMessage hm
  refine ⟨hnames, ?_⟩
  rw [hnames, nodup_names]

instance (f : FunctionNode) : Decidable (NamesClash f) := inferInstanceAs (Decidable (_ ∨ _))

/-- A group of names with their type, and a type alone. -/
def groupedSource : Text := "package p\nfunc F(a, b int, string) \x7b\x7d\n".toList

def groupedFunction : FunctionNode :=
  ⟨"F".toList, [.declaration ["a".toList, "b".toList] (.name "int".toList),
    .declaration [] (.name "string".toList)], .none⟩

theorem request_fields_distinct_grouped :
    signaturesOf groupedSource = .ok [groupedFunction.signature] ∧
      functionsOf groupedSource = [groupedFunction] ∧ ¬NamesClash groupedFunction ∧
      (groupedFunction.signature.parameters.map Parameter.name).Nodup := by
  have hsignatures : signaturesOf groupedSource = .ok [groupedFunction.signature] := by
    decide +kernel
  have hfunctions : functionsOf groupedSource = [groupedFunction] := by decide +kernel
  have hclash : ¬NamesClash groupedFunction := by decide +kernel
  have hdistinct := (request_fields_distinct hsignatures).2 groupedFunction (by simp [hfunctions])
  exact ⟨hsignatures, hfunctions, hclash, hdistinct.1.2 hclash⟩

/-- Two blank names, and in another function a name that is invented as well. -/
def clashingSource : Text :=
  "package p\nfunc F(_ int, _ string) \x7b\x7d\nfunc G(arg2 int, string) \x7b\x7d\n".toList

def clashingFunctions : List FunctionNode :=
  [⟨"F".toList, [.declaration ["_".toList] (.name "int".toList),
      .declaration ["_".toList] (.name "string".toList)], .none⟩,
    ⟨"G".toList, [.declaration ["arg2".toList] (.name "int".toList),
      .declaration [] (.name "string".toList)], .none⟩]

/-- All names but the blank are written once in each of the functions, and yet both have a
request with one name for two fields. -/
theorem clashing_fields_repeated :
    signaturesOf clashingSource = .ok (clashingFunctions.map FunctionNode.signature) ∧
      functionsOf clashingSource = clashingFunctions ∧
      ∀ f ∈ clashingFunctions, ((writtenNames f).filter (· != "_".toList)).Nodup ∧
        ∃ m, f.signature.requestMessage = .ok (some m) ∧ ¬(m.fields.map Field.name).Nodup := by
  have hfields (n : Text) : ¬([⟨false, "int32".toList, n, 1⟩,
      ⟨false, "string".toList, n, 2⟩].map Field.name).Nodup := by simp
  refine ⟨by decide +kernel, by decide +kernel, fun f hf => ?_⟩
  rcases List.mem_cons.1 hf with rfl | hf
  · exact ⟨by decide, ⟨"FRequest".toList, _⟩, by decide +kernel, hfields "_".toList⟩
  · obtain rfl := List.mem_singleton.1 hf
    exact ⟨by decide, ⟨"GRequest".toList, _⟩, by decide +kernel, hfields "arg2".toList⟩

end Functions

end RpcSchema.ParameterNames
