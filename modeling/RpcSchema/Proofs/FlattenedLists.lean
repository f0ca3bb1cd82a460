import RpcSchema.Proofs.MessageFields
import RpcSchema.GoSignatures

/-! # Flattened lists

A list of declarations stands for its members: one for each declared name, or a single one
without a name. As parameters the members are numbered through, and those without a name are
named after their number. As results only their types are kept, and variadic ones are left
out. -/
namespace RpcSchema.FlattenedLists
open Signature MessageFields

/-- One parameter or result of a list. -/
structure Member where
  name : Option Text
  type : ValueType
  variadic : Bool
deriving DecidableEq, Repr

/-- The member as the parameter at a position. -/
def Member.parameter (position : Nat) (m : Member) : Parameter :=
  ⟨m.name.getD (inventedName position), m.type⟩

def members : ParameterNode → List Member
  | .comment _ => []
  | .declaration [] type => [⟨none, type.valueType, false⟩]
  | .declaration (n :: names) type => (n :: names).map fun x => ⟨some x, type.valueType, false⟩
  | .variadic name source => [⟨name, .unsupported source, true⟩]

/-- The members of a list, in order. -/
def flatten (nodes : List ParameterNode) : List Member := nodes.flatMap members

def isVariadic : ParameterNode → Bool
  | .variadic _ _ => true
  | _ => false

variable {nodes : List ParameterNode} {node : ParameterNode}

theorem flatten_cons (node : ParameterNode) (nodes : List ParameterNode) :
    flatten (node :: nodes) = members node ++ flatten nodes :=
  List.flatMap_cons

section Parameters

/-- The parameters of an element are its members, numbered from where it stands. -/
theorem parameters_eq (node : ParameterNode) (before : Nat) :
    node.parameters before = (members node).mapIdx fun i m => m.parameter (before + i + 1) := by
  cases node with
  | comment source => rfl
  | declaration names type =>
    cases names with
    | nil => rfl
    | cons n names =>
      apply List.ext_getElem?
      intro i
      have hparameters : (ParameterNode.declaration (n :: names) type).parameters before =
          (n :: names).map fun x => ⟨x, type.valueType⟩ := rfl
      rw [hparameters, members, List.getElem?_mapIdx, List.getElem?_map, List.getElem?_map,
        Option.map_map]
      rfl
  | variadic name source => cases name <;> rfl

/-- A list goes on numbering where its first element has ended. -/
theorem parametersOf_eq (before : Nat) (nodes : List ParameterNode) :
    ParameterNode.parametersOf before nodes =
      (flatten nodes).mapIdx fun i m => m.parameter (before + i + 1) := by
  induction nodes generalizing before with
  | nil => rfl
  | cons node nodes ih =>
    have hlength : (node.parameters before).length = (members node).length := by
      rw [parameters_eq, List.length_mapIdx]
    have hnumber (i : Nat) : before + (members node).length + i + 1 =
        before + (i + (members node).length) + 1 := by omega
    rw [ParameterNode.parametersOf, ih, hlength, parameters_eq, flatten_cons, List.mapIdx_append]
    simp only [hnumber]

theorem parameters_signature (f : FunctionNode) :
    f.signature.parameters = (flatten f.parameters).mapIdx fun i m => m.parameter (i + 1) := by
  have h := parametersOf_eq 0 f.parameters
  simp only [Nat.zero_add] at h
  exact h

/-- The field of a member in a request has the number of the member. -/
theorem getElem?_fields {s : Signature} {m : Message} {list : List Member}
    (hs : s.parameters = list.mapIdx fun i member => member.parameter (i + 1))
    (h : s.requestMessage = .ok (some m)) {i : Nat} {member : Member}
    (hi : list[i]? = some member) :
    m.fields[i]? = some ⟨false, wireType member.type,
      member.name.getD (inventedName (i + 1)), i + 1⟩ := by
  rw [fields_requestMessage h, hs, List.getElem?_mapIdx, List.getElem?_mapIdx, hi]
  rfl

end Parameters

section Results

theorem results_eq (node : ParameterNode) :
    node.results = ((members node).filter (!·.variadic)).map Member.type := by
  cases node with
  | comment source => rfl
  | declaration names type =>
    cases names with
    | nil => rfl
    | cons n names =>
      have hcount : max (n :: names).length 1 = (n :: names).length :=
        Nat.max_eq_left (Nat.le_add_left 1 _)
      have hall : (members (.declaration (n :: names) type)).filter (!·.variadic) =
          members (.declaration (n :: names) type) := List.filter_eq_self.2 (by simp [members])
      rw [ParameterNode.results, hcount, hall, members, List.map_map]
      exact List.map_const'.symm
  | variadic name source => rfl

theorem flatMap_results_eq (nodes : List ParameterNode) :
    nodes.flatMap ParameterNode.results =
      ((flatten nodes).filter (!·.variadic)).map Member.type := by
  induction nodes with
  | nil => rfl
  | cons node nodes ih =>
    rw [List.flatMap_cons, ih, results_eq, flatten_cons, List.filter_append, List.map_append]

theorem not_variadic_of_mem_members {m : Member} (h : isVariadic node = false)
    (hm : m ∈ members node) : m.variadic = false := by
  cases node with
  | comment source => cases hm
  | declaration names type =>
    cases names with
    | nil => exact List.mem_singleton.1 hm ▸ rfl
    | cons n names =>
      obtain ⟨x, -, rfl⟩ := List.mem_map.1 hm
      rfl
  | variadic name source => cases h

theorem filter_flatten (h : ∀ node ∈ nodes, isVariadic node = false) :
    (flatten nodes).filter (!·.variadic) = flatten nodes := by
  refine List.filter_eq_self.2 fun m hm => ?_
  obtain ⟨node, hnode, hm⟩ := List.mem_flatMap.1 hm
  rw [not_variadic_of_mem_members (h node hnode) hm]
  rfl

/-- Without variadic ones, a list gives the same types as parameters and as results. -/
theorem types_eq_results (h : ∀ node ∈ nodes, isVariadic node = false) (before : Nat) :
    (ParameterNode.parametersOf before nodes).map Parameter.type =
      nodes.flatMap ParameterNode.results := by
  have htypes : (ParameterNode.parametersOf before nodes).map Parameter.type =
      (flatten nodes).map Member.type := by
    rw [parametersOf_eq]
    exact map_mapIdx (by intros; rfl) (flatten nodes)
  rw [htypes, flatMap_results_eq, filter_flatten h]

end Results

section Functions

/-- A list gives the parameters and the results of a function through its members, and without
variadic ones it gives the same types either way. A parameter without a name is named after the
number of its field. -/
theorem members_extracted (nodes : List ParameterNode) (f g : FunctionNode) :
    { f with parameters := nodes }.signature.parameters =
        (flatten nodes).mapIdx (fun i m => m.parameter (i + 1)) ∧
      { g with results := .list nodes }.signature.results =
        ((flatten nodes).filter (!·.variadic)).map Member.type ∧
      ((∀ node ∈ nodes, isVariadic node = false) →
        { f with parameters := nodes }.signature.parameters.map Parameter.type =
          { g with results := .list nodes }.signature.results) ∧
      ∀ m, { f with parameters := nodes }.signature.requestMessage = .ok (some m) →
        ∀ i member, (flatten nodes)[i]? = some member → member.name = none →
          ∃ field, m.fields[i]? = some field ∧ field.number = i + 1 ∧
            field.name = inventedName field.number := by
  have hparameters := parameters_signature { f with parameters := nodes }
  refine ⟨hparameters, flatMap_results_eq nodes, fun hnodes => types_eq_results hnodes 0,
    fun m hm i member hi hname => ⟨_, getElem?_fields hparameters hm hi, rfl, ?_⟩⟩
  rw [hname, Option.getD_none]

/-- A group of names, a comment and a type alone. -/
def mixedList : List ParameterNode :=
  [.declaration ["a".toList, "b".toList] (.name "int".toList), .comment "/* c */".toList,
    .declaration [] (.name "string".toList)]

theorem members_extracted_mixed :
    (∀ node ∈ mixedList, isVariadic node = false) ∧
      (FunctionNode.mk "F".toList mixedList .none).signature.parameters.map Parameter.type =
        (FunctionNode.mk "F".toList [] (.list mixedList)).signature.results ∧
      ∃ m, (FunctionNode.mk "F".toList mixedList .none).signature.requestMessage = .ok (some m) ∧
        (flatten mixedList)[2]? = some ⟨none, .scalar "string".toList, false⟩ ∧
        ∃ field, m.fields[2]? = some field ∧ field.number = 3 ∧
          field.name = inventedName field.number := by
  obtain ⟨-, -, htypes, hnames⟩ := members_extracted mixedList ⟨"F".toList, [], .none⟩
    ⟨"F".toList, [], .none⟩
  have hnodes : ∀ node ∈ mixedList, isVariadic node = false := by simp [mixedList, isVariadic]
  exact ⟨hnodes, htypes hnodes, _, rfl, rfl, hnames _ rfl 2 _ rfl rfl⟩

end Functions

end RpcSchema.FlattenedLists
