import RpcSchema.Proofs.PrintedSource
import Mathlib.Data.List.Flatten

/-! # Source files with more in them than functions

Files as lines: a package clause and declarations of all kinds, comments and blank lines
between them, and lines of text within the bodies. Only the functions count. -/
namespace RpcSchema.SurroundedSource
open PrintedSource

inductive LineEnd where
  | lf
  | crlf

/-- What may stand in a line comment. -/
structure LineText where
  text : Text
  noBreak : '\n' ∉ text
  noNul : '\x00' ∉ text

/-- What may stand in a block comment. -/
structure BlockText where
  text : Text
  noEnd : ¬['*', '/'] <:+: text
  noNul : '\x00' ∉ text

/-- A line of a body: a text in back quotes, behind tabs. -/
structure RawLine where
  tabs : Nat
  text : Text
  noQuote : '\x60' ∉ text
  noNul : '\x00' ∉ text

/-- Lines that declare nothing. -/
inductive Filler where
  | blank
  | lineComment (t : LineText)
  | blockComment (t : BlockText)

/-- What functions, methods and function values have in common. -/
structure Routine where
  parameters : ParameterList
  results : ResultPart
  body : List RawLine

inductive Declaration where
  | function (name : Name) (routine : Routine)
  | method (receiver : Name) (owner : TypeExpr) (name : Name) (routine : Routine)
  | typing (name : Name)
  | constant (name : Name)
  /-- A variable whose value is a function. -/
  | closure (name : Name) (routine : Routine)

structure Section where
  before : List Filler
  declaration : Declaration

structure SourceFile where
  before : List Filler
  package : Name
  sections : List Section
  last : List Filler

section Printing

/-- What stands before the line break proper. -/
def LineEnd.blanks : LineEnd → Text
  | lf => []
  | crlf => ['\r']

def LineEnd.text (e : LineEnd) : Text := e.blanks ++ ['\n']

theorem LineEnd.length_text_pos (e : LineEnd) : 0 < e.text.length := by
  simp [LineEnd.text]

variable (e : LineEnd)

def Filler.text : Filler → Text
  | blank => e.text
  | lineComment t => '/' :: '/' :: (t.text ++ e.text)
  | blockComment t => '/' :: '*' :: (t.text ++ '*' :: '/' :: e.text)

/-- The statement of a line. -/
def RawLine.statement (l : RawLine) : Text :=
  '_' :: ' ' :: '=' :: ' ' :: '\x60' :: (l.text ++ ['\x60'])

def RawLine.line (l : RawLine) : Text := List.replicate l.tabs '\t' ++ (l.statement ++ e.text)

/-- A body behind its opening brace. -/
def bodyText : List RawLine → Text
  | [] => ['\x7d']
  | lines => e.text ++ (lines.flatMap (RawLine.line e) ++ ['\x7d'])

def Routine.text (r : Routine) : Text :=
  r.parameters.text ++ ' ' :: (r.results.text ++ '\x7b' :: bodyText e r.body)

def Declaration.text : Declaration → Text
  | function name r => "func".toList ++ ' ' :: (name.text ++ r.text e)
  | method receiver owner name r =>
    "func".toList ++ ' ' :: '(' :: (receiver.text ++ ' ' :: (owner.text ++
      ')' :: ' ' :: (name.text ++ r.text e)))
  | typing name => "type".toList ++ ' ' :: (name.text ++ ' ' :: ("struct".toList ++
      [' ', '\x7b', '\x7d']))
  | constant name => "const".toList ++ ' ' :: (name.text ++ [' ', '=', ' ', '1'])
  | closure name r => "var".toList ++ ' ' :: (name.text ++ ' ' :: '=' :: ' ' ::
      ("func".toList ++ r.text e))

section Equations

variable {e : LineEnd} {name receiver : Name} {owner : TypeExpr} {r : Routine}

theorem text_function : (Declaration.function name r).text e =
    "func".toList ++ ' ' :: (name.text ++ r.text e) := rfl

theorem text_method : (Declaration.method receiver owner name r).text e =
    "func".toList ++ ' ' :: '(' :: (receiver.text ++ ' ' :: (owner.text ++
      ')' :: ' ' :: (name.text ++ r.text e))) := rfl

theorem text_typing : (Declaration.typing name).text e =
    "type".toList ++ ' ' :: (name.text ++ ' ' :: ("struct".toList ++ [' ', '\x7b', '\x7d'])) := rfl

theorem text_constant : (Declaration.constant name).text e =
    "const".toList ++ ' ' :: (name.text ++ [' ', '=', ' ', '1']) := rfl

theorem text_closure : (Declaration.closure name r).text e =
    "var".toList ++ ' ' :: (name.text ++ ' ' :: '=' :: ' ' :: ("func".toList ++ r.text e)) := rfl

end Equations

def Section.text (s : Section) : Text :=
  s.before.flatMap (Filler.text e) ++ (s.declaration.text e ++ e.text)

/-- A package clause without the end of its line. -/
def clauseText (package : Name) : Text := "package".toList ++ ' ' :: package.text

/-- The file behind its package clause. -/
def SourceFile.behind (f : SourceFile) : Text :=
  f.sections.flatMap (Section.text e) ++ f.last.flatMap (Filler.text e)

/-- The file from its package clause on. -/
def SourceFile.fromClause (f : SourceFile) : Text :=
  clauseText f.package ++ (e.text ++ f.behind e)

def SourceFile.text (f : SourceFile) : Text :=
  f.before.flatMap (Filler.text e) ++ f.fromClause e

/-- The file that declares the functions and nothing else. -/
def bareText (package : Name) (fs : List FunctionDeclaration) : Text :=
  clauseText package ++ '\n' :: fs.flatMap FunctionDeclaration.text

end Printing

section Functions

def Declaration.function? : Declaration → Option FunctionDeclaration
  | function name r => some ⟨name, r.parameters, r.results⟩
  | _ => none

/-- The functions of a file, in order. -/
def SourceFile.functions (f : SourceFile) : List FunctionDeclaration :=
  f.sections.filterMap fun s => s.declaration.function?

/-- A function with nothing before it and nothing in its body. -/
def bareSection (f : FunctionDeclaration) : Section where
  before := []
  declaration := .function f.name ⟨f.parameters, f.results, []⟩

def bareFile (package : Name) (fs : List FunctionDeclaration) : SourceFile where
  before := []
  package := package
  sections := fs.map bareSection
  last := []

theorem functions_bareFile (package : Name) (fs : List FunctionDeclaration) :
    (bareFile package fs).functions = fs := by
  unfold SourceFile.functions bareFile
  rw [List.filterMap_map]
  exact List.filterMap_some

theorem text_bareSection (f : FunctionDeclaration) : (bareSection f).text .lf = f.text := by
  unfold Section.text bareSection Declaration.text Routine.text FunctionDeclaration.text
  simp only [List.append_assoc, List.cons_append]
  rfl

theorem text_bareFile (package : Name) (fs : List FunctionDeclaration) :
    (bareFile package fs).text .lf = bareText package fs := by
  have hsections : (fs.map bareSection).flatMap (Section.text .lf) =
      fs.flatMap FunctionDeclaration.text := by
    rw [List.flatMap_map]
    exact List.flatMap_congr fun f _ => text_bareSection f
  unfold SourceFile.text SourceFile.fromClause SourceFile.behind bareText bareFile
  rw [hsections]
  simp only [List.flatMap_nil, List.append_nil]
  rfl

end Functions

end RpcSchema.SurroundedSource
