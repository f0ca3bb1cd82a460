import RpcSchema.GoSyntax

/-! The layout of a source file: a package clause, then imports, then declarations.
Comments may stand anywhere. -/
namespace RpcSchema.GoLayout

inductive Part where
  | start
  | imports
  | declarations
deriving Repr, DecidableEq

/-- The part reached with one more item, or nothing if the item is out of place. -/
def advance : Part → ItemKind → Option Part
  | .start, .package => some .imports
  | .start, _ => none
  | _, .package => none
  | .imports, .importing => some .imports
  | .declarations, .importing => none
  | _, .statement => none
  | _, _ => some .declarations

inductive Fault where
  /-- An item out of place; `rest` is the text from it on. -/
  | misplaced (rest : Text)
  | noPackage
deriving Repr, DecidableEq

/-- The first fault of the items after a part, if any. -/
def fault? : Part → List Item → Option Fault
  | .start, [] => some .noPackage
  | _, [] => none
  | part, .comment _ :: items => fault? part items
  | part, .code kind rest :: items =>
    match advance part kind with
    | none => some (.misplaced rest)
    | some next => fault? next items

end RpcSchema.GoLayout
