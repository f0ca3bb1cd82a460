import RpcSchema.Proofs.SurroundedSource

/-! # Function declarations with comments in them

Declarations as trees with a gap between any two tokens. What the gaps hold, blanks and block
comments, belongs to no token; without it a tree is a declaration as it is printed. -/
namespace RpcSchema.CommentedSource
open PrintedSource
open SurroundedSource (BlockText)

section Gaps

inductive GapPiece where
  | blank
  | comment (t : BlockText)

/-- What stands between two tokens. -/
abbrev Gap := List GapPiece

/-- A gap between two words. -/
structure Separator where
  gap : Gap
  notEmpty : gap ≠ []

def GapPiece.text : GapPiece → Text
  | blank => [' ']
  | comment t => '/' :: '*' :: (t.text ++ ['*', '/'])

def GapPiece.comments : GapPiece → List Text
  | blank => []
  | comment t => ['/' :: '*' :: (t.text ++ ['*', '/'])]

def Gap.text (g : Gap) : Text := g.flatMap GapPiece.text

def Gap.comments (g : Gap) : List Text := g.flatMap GapPiece.comments

def Separator.text (s : Separator) : Text := s.gap.text

/-- The gap between two words as they are printed. -/
def Separator.blank : Separator := ⟨[.blank], List.cons_ne_nil _ _⟩

end Gaps

section Types

/-- A type with a gap behind each of its tokens but the last. -/
inductive CommentedType where
  | name (n : Name)
  | qualified (package : Name) (before after : Gap) (member : Name)
  | pointer (gap : Gap) (target : CommentedType)
  | slice (inside behind : Gap) (element : CommentedType)
  | array (before : Gap) (length : DecimalLiteral) (after behind : Gap) (element : CommentedType)
  | map (front before : Gap) (key : CommentedType) (after behind : Gap) (value : CommentedType)
  | parens (before : Gap) (inner : CommentedType) (after : Gap)

namespace CommentedType

/-- The type without its gaps. -/
def plain : CommentedType → TypeExpr
  | name n => .name n
  | qualified package _ _ member => .qualified package member
  | pointer _ target => .pointer target.plain
  | slice _ _ element => .slice element.plain
  | array _ length _ _ element => .array length element.plain
  | map _ _ key _ _ value => .map key.plain value.plain
  | parens _ inner _ => .parens inner.plain

def text : CommentedType → Text
  | name n => n.text
  | qualified package before after member =>
    package.text ++ (before.text ++ '.' :: (after.text ++ member.text))
  | pointer gap target => '*' :: (gap.text ++ target.text)
  | slice inside behind element => '[' :: (inside.text ++ ']' :: (behind.text ++ element.text))
  | array before length after behind element =>
    '[' :: (before.text ++ (length.text ++ (after.text ++
      ']' :: (behind.text ++ element.text))))
  | map front before key after behind value =>
    "map".toList ++ (front.text ++ '[' :: (before.text ++ (key.text ++ (after.text ++
      ']' :: (behind.text ++ value.text)))))
  | parens before inner after => '(' :: (before.text ++ (inner.text ++ (after.text ++ [')'])))

/-- The first comment behind the parenthesis in which a type stands, if there is one. -/
def hidden : CommentedType → Option Text
  | parens before inner _ => before.comments.head?.or inner.hidden
  | _ => none

/-- A type that could be sent but for a comment before it in its parentheses. -/
def IsHidden (t : CommentedType) : Prop :=
  t.plain.valueType.isUnsupported = false ∧ t.hidden.isSome = true

end CommentedType

/-- The type as it is printed. -/
def ofType : TypeExpr → CommentedType
  | .name n => .name n
  | .qualified package member => .qualified package [] [] member
  | .pointer target => .pointer [] (ofType target)
  | .slice element => .slice [] [] (ofType element)
  | .array length element => .array [] length [] [] (ofType element)
  | .map key value => .map [] [] (ofType key) [] [] (ofType value)
  | .parens inner => .parens [] (ofType inner) []

theorem plain_ofType (t : TypeExpr) : (ofType t).plain = t := by
  induction t with
  | name n => rfl
  | qualified package member => rfl
  | pointer target ih => exact congrArg _ ih
  | slice element ih => exact congrArg _ ih
  | array length element ih => exact congrArg _ ih
  | map key value ihkey ihvalue => exact congr (congrArg _ ihkey) ihvalue
  | parens inner ih => exact congrArg _ ih

theorem text_ofType (t : TypeExpr) : (ofType t).text = t.text := by
  induction t with
  | name n => rfl
  | qualified package member => rfl
  | pointer target ih => exact congrArg _ ih
  | slice element ih => exact congrArg (fun s => '[' :: ']' :: s) ih
  | array length element ih =>
    exact congrArg (fun s => '[' :: (length.text ++ ']' :: s)) ih
  | map key value ihkey ihvalue =>
    exact congr (congrArg (fun s u => "map".toList ++ '[' :: (s ++ ']' :: u)) ihkey) ihvalue
  | parens inner ih => exact congrArg (fun s => '(' :: (s ++ [')'])) ih

end Types

section Lists

/-- What stands between two commas, gaps at its ends apart. -/
inductive CommentedPiece where
  | alone (type : CommentedType)
  | named (name : Name) (separator : Separator) (type : CommentedType)

namespace CommentedPiece

def type : CommentedPiece → CommentedType
  | alone type => type
  | named _ _ type => type

def plain : CommentedPiece → Piece
  | alone type => .alone type.plain
  | named name _ type => .named name type.plain

def text : CommentedPiece → Text
  | alone type => type.text
  | named name separator type => name.text ++ (separator.text ++ type.text)

end CommentedPiece

/-- A piece with the gaps around it. -/
structure CommentedItem where
  before : Gap
  piece : CommentedPiece
  after : Gap

def CommentedItem.text (i : CommentedItem) : Text :=
  i.before.text ++ (i.piece.text ++ i.after.text)

/-- A list of parameters or results with gaps in it: one for what stands in an empty list,
and those around and in its pieces. -/
structure CommentedList where
  list : ParameterList
  items : List CommentedItem
  pieces_eq : items.map (·.piece.plain) = pieces list
  empty : Gap

/-- Items with commas before all but the first. -/
def itemsText : List CommentedItem → Text
  | [] => []
  | i :: items => i.text ++ items.flatMap fun i => ',' :: i.text

/-- The list between its parentheses. -/
def CommentedList.inside (l : CommentedList) : Text :=
  if l.items.isEmpty then l.empty.text else itemsText l.items

def CommentedList.text (l : CommentedList) : Text := '(' :: (l.inside ++ [')'])

/-- The piece as it is printed. -/
def ofPiece : Piece → CommentedPiece
  | .alone type => .alone (ofType type)
  | .named name type => .named name .blank (ofType type)

/-- Behind a comma stands a blank. -/
def itemsOf : List Piece → List CommentedItem
  | [] => []
  | p :: ps => ⟨[], ofPiece p, []⟩ :: ps.map fun p => ⟨[.blank], ofPiece p, []⟩

theorem plain_ofPiece (p : Piece) : (ofPiece p).plain = p := by
  cases p with
  | alone type => exact congrArg _ (plain_ofType type)
  | named name type => exact congrArg _ (plain_ofType type)

theorem text_ofPiece (p : Piece) : (ofPiece p).text = p.text := by
  cases p with
  | alone type => exact text_ofType type
  | named name type => exact congrArg (fun s => name.text ++ ' ' :: s) (text_ofType type)

theorem plain_itemsOf (ps : List Piece) : (itemsOf ps).map (·.piece.plain) = ps := by
  cases ps with
  | nil => rfl
  | cons p ps =>
    rw [itemsOf, List.map_cons, List.map_map]
    simp [Function.comp_def, plain_ofPiece]

theorem itemsText_itemsOf (ps : List Piece) :
    itemsText (itemsOf ps) = commaSeparated (ps.map Piece.text) := by
  cases ps with
  | nil => rfl
  | cons p ps =>
    rw [itemsOf, itemsText, List.map_cons, commaSeparated_cons, List.flatMap_map, List.flatMap_map]
    simp [CommentedItem.text, text_ofPiece, Gap.text, GapPiece.text]

/-- The list as it is printed. -/
def ofList (list : ParameterList) : CommentedList :=
  ⟨list, itemsOf (pieces list), plain_itemsOf (pieces list), []⟩

theorem items_ofList_ne_nil {list : ParameterList} (h : ¬list.groupTexts.isEmpty = true) :
    (ofList list).items ≠ [] := by
  intro hn
  have hpieces := (ofList list).pieces_eq
  rw [hn] at hpieces
  exact pieces_ne_nil h hpieces.symm

theorem text_ofList (list : ParameterList) : (ofList list).text = list.text := by
  have hinside : (ofList list).inside = itemsText (itemsOf (pieces list)) := by
    unfold CommentedList.inside
    split
    · next h =>
      have hnil : itemsOf (pieces list) = [] := List.isEmpty_iff.1 h
      rw [hnil]
      rfl
    · rfl
  rw [CommentedList.text, hinside, itemsText_itemsOf, commaSeparated_pieces]
  rfl

end Lists

section Functions

/-- The result part with the gaps around it. An empty list is left out. -/
inductive CommentedResults where
  | none (gap : Gap)
  | listed (before : Gap) (list : CommentedList) (notEmpty : list.items ≠ []) (after : Gap)
  | bare (before : Gap) (type : CommentedType)
    (unparenthesized : type.plain.isParenthesized = false) (after : Gap)

namespace CommentedResults

def plain : CommentedResults → ResultPart
  | none _ => .listed (.unnamed [])
  | listed _ l _ _ => .listed l.list
  | bare _ type unparenthesized _ => .bare type.plain unparenthesized

def text : CommentedResults → Text
  | none gap => gap.text
  | listed before l _ after => before.text ++ (l.text ++ after.text)
  | bare before type _ after => before.text ++ (type.text ++ after.text)

/-- What stands between the results and the body. -/
def after : CommentedResults → Gap
  | none gap => gap
  | listed _ _ _ after => after
  | bare _ _ _ after => after

def types : CommentedResults → List CommentedType
  | none _ => []
  | listed _ l _ _ => l.items.map (·.piece.type)
  | bare _ type _ _ => [type]

end CommentedResults

/-- The result part as it is printed, with the blanks around it. -/
def ofResults : ResultPart → CommentedResults
  | .listed list =>
    if h : list.groupTexts.isEmpty then .none [.blank]
    else .listed [.blank] (ofList list) (items_ofList_ne_nil h) [.blank]
  | .bare type unparenthesized =>
    .bare [.blank] (ofType type) ((plain_ofType type).symm ▸ unparenthesized) [.blank]

theorem text_ofResults (part : ResultPart) : (ofResults part).text = ' ' :: part.text := by
  cases part with
  | listed list =>
    rw [ofResults, ResultPart.text]
    split
    · rfl
    · exact congrArg (fun s => ' ' :: (s ++ [' '])) (text_ofList list)
  | bare type unparenthesized => exact congrArg (fun s => ' ' :: (s ++ [' '])) (text_ofType type)

theorem after_ofResults (part : ResultPart) : (ofResults part).after = [.blank] := by
  cases part with
  | listed list =>
    rw [ofResults]
    split <;> rfl
  | bare type unparenthesized => rfl

structure CommentedFunction where
  before : Gap
  separator : Separator
  name : Name
  front : Gap
  parameters : CommentedList
  results : CommentedResults
  body : Gap
  behind : Gap

namespace CommentedFunction

def plain (f : CommentedFunction) : FunctionDeclaration :=
  ⟨f.name, f.parameters.list, f.results.plain⟩

/-- What stands behind the first word, with the body from its brace on. -/
def signatureText (f : CommentedFunction) (s : Text) : Text :=
  f.separator.text ++ (f.name.text ++ (f.front.text ++ (f.parameters.text ++
    (f.results.text ++ '\x7b' :: s))))

def text (f : CommentedFunction) : Text :=
  f.before.text ++ ("func".toList ++ f.signatureText
    (f.body.text ++ '\x7d' :: (f.behind.text ++ ['\n'])))

/-- All types in the declaration. -/
def types (f : CommentedFunction) : List CommentedType :=
  f.parameters.items.map (·.piece.type) ++ f.results.types

end CommentedFunction

/-- The function as it is printed. -/
def ofFunction (f : FunctionDeclaration) : CommentedFunction where
  before := []
  separator := .blank
  name := f.name
  front := []
  parameters := ofList f.parameters
  results := ofResults f.results
  body := []
  behind := []

theorem signatureText_ofFunction (f : FunctionDeclaration) (s : Text) :
    (ofFunction f).signatureText s = ' ' :: (f.name.text ++ (f.parameters.text ++
      ' ' :: (f.results.text ++ '\x7b' :: s))) := by
  unfold ofFunction CommentedFunction.signatureText
  rw [text_ofList, text_ofResults]
  rfl

/-- The source file that declares the functions. -/
def commentedText (fs : List CommentedFunction) : Text :=
  packageClause ++ fs.flatMap CommentedFunction.text

end Functions

end RpcSchema.CommentedSource
