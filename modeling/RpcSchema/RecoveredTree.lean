import RpcSchema.SourcePosition

/-! Trees of texts that do not follow a grammar. A tolerant reader makes a tree of every text
and marks the nodes that do not fit. How it goes on behind such a node is left open; what is
told of the text is the place of the first mark. -/
namespace RpcSchema

/-- `suspect` tells that the node is marked or holds a node that is. -/
inductive RecoveredTree where
  | node (position : SourcePosition) (marked suspect : Bool) (children : List RecoveredTree)

namespace RecoveredTree

mutual

/-- The place of the first mark. Only suspect nodes are looked into. -/
def firstMark : RecoveredTree → Option SourcePosition
  | node position marked suspect children =>
    if marked then some position
    else if suspect then firstMarkIn children
    else none

def firstMarkIn : List RecoveredTree → Option SourcePosition
  | [] => none
  | tree :: trees =>
    match firstMark tree with
    | some position => some position
    | none => firstMarkIn trees

end

mutual

/-- The places of all marks, in order. -/
def marks : RecoveredTree → List SourcePosition
  | node position marked _ children => (if marked then [position] else []) ++ marksIn children

def marksIn : List RecoveredTree → List SourcePosition
  | [] => []
  | tree :: trees => marks tree ++ marksIn trees

end

mutual

/-- Every node with a mark on it or in it is suspect. -/
def IsHonest : RecoveredTree → Prop
  | node _ marked suspect children =>
    (suspect = false → marked = false ∧ marksIn children = []) ∧ AreHonest children

def AreHonest : List RecoveredTree → Prop
  | [] => True
  | tree :: trees => IsHonest tree ∧ AreHonest trees

end

mutual

theorem firstMark_eq : ∀ {tree : RecoveredTree}, tree.IsHonest →
    tree.firstMark = tree.marks.head?
  | node position marked suspect children, h => by
    have hchildren := firstMarkIn_eq h.2
    unfold firstMark marks
    cases marked with
    | true => rfl
    | false =>
      cases suspect with
      | true => exact hchildren
      | false =>
        rw [(h.1 rfl).2]
        rfl

theorem firstMarkIn_eq : ∀ {trees : List RecoveredTree}, AreHonest trees →
    firstMarkIn trees = (marksIn trees).head?
  | [], _ => rfl
  | tree :: trees, h => by
    have htree := firstMark_eq h.1
    have htrees := firstMarkIn_eq h.2
    unfold firstMarkIn marksIn
    rw [htree, htrees, List.head?_append]
    cases tree.marks <;> rfl

end

end RecoveredTree

structure Recovery where
  tree : Text → RecoveredTree
  honest : ∀ source, (tree source).IsHonest

namespace Recovery

/-- A reader that marks a text as a whole. -/
def whole : Recovery where
  tree _ := .node .first true true []
  honest _ := ⟨nofun, trivial⟩

/-- The place to blame; without a mark there is none. -/
def blame (r : Recovery) (source : Text) : SourcePosition :=
  (r.tree source).firstMark.getD ⟨0, 0⟩

theorem blame_eq (r : Recovery) (source : Text) :
    r.blame source = (r.tree source).marks.head?.getD ⟨0, 0⟩ := by
  rw [blame, RecoveredTree.firstMark_eq (r.honest source)]

end Recovery

end RpcSchema
