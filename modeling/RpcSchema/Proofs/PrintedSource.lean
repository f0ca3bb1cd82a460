import RpcSchema.GoSignatures
import RpcSchema.Proofs.PlainNames
import Mathlib.Data.List.Chain

/-! # Printed source files

Function declarations as trees, how they are printed, and the signatures they declare. -/
namespace RpcSchema.PrintedSource
open PlainNames

/-- The keywords of Go, and the words that are expressions of their own. -/
def reservedWords : List Text :=
  ["break".toList, "case".toList, "chan".toList, "const".toList, "continue".toList,
    "default".toList, "defer".toList, "else".toList, "fallthrough".toList, "for".toList,
    "func".toList, "go".toList, "goto".toList, "if".toList, "import".toList, "interface".toList,
    "map".toList, "package".toList, "range".toList, "return".toList, "select".toList,
    "struct".toList, "switch".toList, "type".toList, "var".toList, "nil".toList, "true".toList,
    "false".toList, "iota".toList, "new".toList, "make".toList]

structure Name where
  text : Text
  isIdentifier : IsIdentifier text
  notReserved : text ∉ reservedWords

/-- A decimal literal: a zero alone, or digits behind one that is no zero. The flags tell
before which of them a low line stands. -/
inductive DecimalLiteral where
  | zero
  | positive (first : Fin 9) (others : List (Bool × Fin 10))

namespace DecimalLiteral

def digitText : Bool × Fin 10 → Text
  | (true, d) => ['_', Text.digit d]
  | (false, d) => [Text.digit d]

def text : DecimalLiteral → Text
  | zero => ['0']
  | positive first others => Text.digit (first + 1) :: others.flatMap digitText

end DecimalLiteral

inductive TypeExpr where
  | name (n : Name)
  | qualified (package member : Name)
  | pointer (target : TypeExpr)
  | slice (element : TypeExpr)
  | array (length : DecimalLiteral) (element : TypeExpr)
  | map (key value : TypeExpr)
  | parens (inner : TypeExpr)

namespace TypeExpr

def text : TypeExpr → Text
  | name n => n.text
  | qualified package member => package.text ++ '.' :: member.text
  | pointer target => '*' :: target.text
  | slice element => '[' :: ']' :: element.text
  | array length element => '[' :: (length.text ++ ']' :: element.text)
  | map key value => "map".toList ++ '[' :: (key.text ++ ']' :: value.text)
  | parens inner => '(' :: (inner.text ++ [')'])

/-- Names and lists of names can be sent, within any parentheses. -/
def valueType : TypeExpr → ValueType
  | name n => .scalar n.text
  | slice (name n) => .arrayOf n.text
  | array _ (name n) => .arrayOf n.text
  | parens inner => inner.valueType
  | t => .unsupported t.text

def isParenthesized : TypeExpr → Bool
  | parens _ => true
  | _ => false

/-- Whether the type could be an expression. -/
def isValue : TypeExpr → Bool
  | name _ => true
  | qualified _ _ => true
  | pointer target => target.isValue
  | parens inner => inner.isValue
  | _ => false

def isName : TypeExpr → Bool
  | name _ => true
  | _ => false

/-- Whether the key of a map type could be the length of an array. -/
def looksLikeArray : TypeExpr → Bool
  | map key _ => key.isValue
  | _ => false

/-- Whether the second type could be an array type behind a name `map` that shares the
type with the name before it. -/
def misleads (t u : TypeExpr) : Bool := t.isName && u.looksLikeArray

end TypeExpr

/-- Names that share a type. -/
structure NameGroup where
  names : List Name
  notEmpty : names ≠ []
  atMostNine : names.length ≤ 9
  type : TypeExpr

inductive ParameterList where
  | unnamed (types : List TypeExpr)
  | named (groups : List NameGroup)

/-- The result part: a list, or a type alone. -/
inductive ResultPart where
  | listed (list : ParameterList)
  | bare (type : TypeExpr) (unparenthesized : type.isParenthesized = false)

structure FunctionDeclaration where
  name : Name
  parameters : ParameterList
  results : ResultPart

section Printing

/-- Texts with commas between them. -/
def commaSeparated (texts : List Text) : Text := Text.join [',', ' '] texts

def NameGroup.text (g : NameGroup) : Text :=
  commaSeparated (g.names.map Name.text) ++ ' ' :: g.type.text

def ParameterList.groupTexts : ParameterList → List Text
  | unnamed types => types.map TypeExpr.text
  | named groups => groups.map NameGroup.text

def ParameterList.text (list : ParameterList) : Text :=
  '(' :: (commaSeparated list.groupTexts ++ [')'])

/-- The result part with the blank behind it. An empty list is left out. -/
def ResultPart.text : ResultPart → Text
  | listed list => if list.groupTexts.isEmpty then [] else list.text ++ [' ']
  | bare type _ => type.text ++ [' ']

def FunctionDeclaration.text (f : FunctionDeclaration) : Text :=
  "func".toList ++ ' ' :: (f.name.text ++ (f.parameters.text ++
    ' ' :: (f.results.text ++ ['\x7b', '\x7d', '\n'])))

def packageClause : Text := "package".toList ++ [' ', 'p', '\n']

/-- The source file that declares the functions. -/
def fileText (fs : List FunctionDeclaration) : Text :=
  packageClause ++ fs.flatMap FunctionDeclaration.text

end Printing

section Pieces

/-- What stands between two commas of a list. -/
inductive Piece where
  | alone (type : TypeExpr)
  | named (name : Name) (type : TypeExpr)

def Piece.text : Piece → Text
  | alone type => type.text
  | named name type => name.text ++ ' ' :: type.text

/-- The last of the names stands before the type. -/
def piecesOf (type : TypeExpr) : List Name → List Piece
  | [] => []
  | [x] => [.named x type]
  | x :: y :: names => .alone (.name x) :: piecesOf type (y :: names)

def pieces : ParameterList → List Piece
  | .unnamed types => types.map .alone
  | .named groups => groups.flatMap fun g => piecesOf g.type g.names

theorem commaSeparated_cons (t : Text) (ts : List Text) :
    commaSeparated (t :: ts) = t ++ ts.flatMap ([',', ' '] ++ ·) := by
  induction ts generalizing t with
  | nil => exact (List.append_nil t).symm
  | cons t' ts ih =>
    change t ++ [',', ' '] ++ commaSeparated (t' :: ts) = _
    rw [ih, List.flatMap_cons, List.append_assoc, List.append_assoc]

theorem commaSeparated_append {ts ts' : List Text} (h : ts ≠ []) (h' : ts' ≠ []) :
    commaSeparated (ts ++ ts') = commaSeparated ts ++ ([',', ' '] ++ commaSeparated ts') := by
  cases ts with
  | nil => exact absurd rfl h
  | cons t ts =>
    cases ts' with
    | nil => exact absurd rfl h'
    | cons t' ts' =>
      rw [List.cons_append, commaSeparated_cons, commaSeparated_cons, commaSeparated_cons,
        List.flatMap_append, List.flatMap_cons]
      simp only [List.append_assoc]

theorem piecesOf_ne_nil {type : TypeExpr} {names : List Name} (h : names ≠ []) :
    piecesOf type names ≠ [] := by
  match names with
  | [] => exact absurd rfl h
  | [_] => exact List.cons_ne_nil _ _
  | _ :: _ :: _ => exact List.cons_ne_nil _ _

theorem commaSeparated_piecesOf (type : TypeExpr) {names : List Name} (h : names ≠ []) :
    commaSeparated ((piecesOf type names).map Piece.text) =
      commaSeparated (names.map Name.text) ++ ' ' :: type.text := by
  induction names with
  | nil => exact absurd rfl h
  | cons x names ih =>
    cases names with
    | nil => rfl
    | cons y names =>
      have hrest := ih (List.cons_ne_nil y names)
      have hpieces : (piecesOf type (y :: names)).map Piece.text ≠ [] :=
        fun hn => piecesOf_ne_nil (List.cons_ne_nil y names) (List.map_eq_nil_iff.1 hn)
      change commaSeparated ([x.text] ++ (piecesOf type (y :: names)).map Piece.text) =
        commaSeparated ([x.text] ++ (y :: names).map Name.text) ++ ' ' :: type.text
      have hnames : (y :: names).map Name.text ≠ [] := List.cons_ne_nil _ _
      rw [commaSeparated_append (List.cons_ne_nil _ _) hpieces, hrest,
        commaSeparated_append (List.cons_ne_nil _ _) hnames]
      simp only [List.append_assoc]

/-- A list is printed piece by piece. -/
theorem commaSeparated_pieces (list : ParameterList) :
    commaSeparated ((pieces list).map Piece.text) = commaSeparated list.groupTexts := by
  cases list with
  | unnamed types => rw [pieces, List.map_map]; rfl
  | named groups =>
    induction groups with
    | nil => rfl
    | cons g groups ih =>
      have hg : commaSeparated ((piecesOf g.type g.names).map Piece.text) = g.text :=
        commaSeparated_piecesOf g.type g.notEmpty
      cases groups with
      | nil => rw [pieces, List.flatMap_singleton, hg]; rfl
      | cons g' groups =>
        have hhead : (piecesOf g.type g.names).map Piece.text ≠ [] :=
          fun hn => piecesOf_ne_nil g.notEmpty (List.map_eq_nil_iff.1 hn)
        have htail : (pieces (.named (g' :: groups))).map Piece.text ≠ [] := by
          intro hn
          rw [pieces, List.flatMap_cons, List.map_append, List.append_eq_nil_iff] at hn
          exact piecesOf_ne_nil g'.notEmpty (List.map_eq_nil_iff.1 hn.1)
        have hpieces : pieces (.named (g :: g' :: groups)) =
            piecesOf g.type g.names ++ pieces (.named (g' :: groups)) := List.flatMap_cons
        rw [hpieces, List.map_append, commaSeparated_append hhead htail, hg, ih]
        exact (List.append_assoc _ _ _).symm

theorem pieces_ne_nil {list : ParameterList} (h : ¬list.groupTexts.isEmpty = true) :
    pieces list ≠ [] := by
  cases list with
  | unnamed types =>
    intro hn
    rw [List.map_eq_nil_iff.1 hn] at h
    exact h rfl
  | named groups =>
    cases groups with
    | nil => exact absurd rfl h
    | cons g groups =>
      rw [pieces, List.flatMap_cons]
      exact List.append_ne_nil_of_left_ne_nil (piecesOf_ne_nil g.notEmpty) _

end Pieces

section Signatures

def ParameterList.parameters : ParameterList → List Parameter
  | unnamed types => types.mapIdx fun i t => ⟨inventedName (i + 1), t.valueType⟩
  | named groups => groups.flatMap fun g => g.names.map fun n => ⟨n.text, g.type.valueType⟩

def ParameterList.valueTypes : ParameterList → List ValueType
  | unnamed types => types.map TypeExpr.valueType
  | named groups => groups.flatMap fun g => List.replicate g.names.length g.type.valueType

def ResultPart.valueTypes : ResultPart → List ValueType
  | listed list => list.valueTypes
  | bare type _ => [type.valueType]

/-- The signature that the declaration stands for. -/
def FunctionDeclaration.signature (f : FunctionDeclaration) : Signature :=
  ⟨f.name.text, f.parameters.parameters, f.results.valueTypes⟩

end Signatures

section Clearness

/-- No type in the list misleads the one before it. -/
def ParameterList.IsClear : ParameterList → Prop
  | unnamed types => types.IsChain fun t u => t.misleads u = false
  | named _ => True

def ResultPart.IsClear : ResultPart → Prop
  | listed list => list.IsClear
  | bare _ _ => True

def FunctionDeclaration.IsClear (f : FunctionDeclaration) : Prop :=
  f.parameters.IsClear ∧ f.results.IsClear

end Clearness

end RpcSchema.PrintedSource
