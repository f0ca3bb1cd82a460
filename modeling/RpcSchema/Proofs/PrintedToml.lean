import RpcSchema.TomlLexeme

/-! # Printed TOML documents

Documents as trees, and how they are printed: lines before the first header, and tables, each
under a header of its own. -/
namespace RpcSchema.PrintedToml
open Toml

section Values

/-- A key without quotes. -/
structure BareKey where
  text : Text
  notEmpty : text ≠ []
  isBare : ∀ c ∈ text, isBareKeyCharacter c = true

/-- What stands in a string without any escapes. -/
structure StringText where
  text : Text
  isBasic : ∀ c ∈ text, isBasic c = true

structure CommentText where
  text : Text
  isPlain : ∀ c ∈ text, isPlain c = true

structure Blanks where
  text : Text
  isBlank : ∀ c ∈ text, isBlank c = true

inductive Sign where
  | none
  | plus
  | minus
deriving DecidableEq

def Sign.text : Sign → Text
  | none => []
  | plus => ['+']
  | minus => ['-']

def signed : Sign → Nat → Int
  | .minus, n => -n
  | _, n => n

/-- A decimal integer of 64 bits. -/
structure Numeral where
  sign : Sign
  magnitude : Nat
  inRange : -9223372036854775808 ≤ signed sign magnitude ∧
    signed sign magnitude ≤ 9223372036854775807

inductive Value where
  | integer (n : Numeral)
  | boolean (b : Bool)
  | string (t : StringText)

namespace Value

def text : Value → Text
  | integer n => n.sign.text ++ Text.ofNat n.magnitude
  | boolean b => (if b then "true" else "false").toList
  | string t => '"' :: (t.text ++ ['"'])

def scalar : Value → Scalar
  | integer n => .integer (signed n.sign n.magnitude)
  | boolean b => .boolean b
  | string t => .string t.text

end Value

end Values

section Documents

/-- What stands behind the equals sign of a line. -/
inductive PrintedItem where
  | scalar (v : Value)
  /-- A table of one entry, between braces. -/
  | braces (key : BareKey) (v : Value)
  | list (v : Value)

def PrintedItem.text : PrintedItem → Text
  | scalar v => v.text
  | braces key v => '\x7b' :: ' ' :: (key.text ++ ' ' :: '=' :: ' ' :: (v.text ++ [' ', '\x7d']))
  | list v => '[' :: (v.text ++ [']'])

inductive PrintedLine where
  | blank (b : Blanks)
  | comment (t : CommentText)
  | entry (key : BareKey) (item : PrintedItem)
  /-- An entry of a table that the line itself names. -/
  | dotted (table key : BareKey) (item : PrintedItem)

namespace PrintedLine

def text : PrintedLine → Text
  | blank b => b.text ++ ['\n']
  | comment t => '#' :: (t.text ++ ['\n'])
  | entry key item => key.text ++ ' ' :: '=' :: ' ' :: (item.text ++ ['\n'])
  | dotted table key item =>
    table.text ++ '.' :: (key.text ++ ' ' :: '=' :: ' ' :: (item.text ++ ['\n']))

/-- The name that the line sets in its table. -/
def name? : PrintedLine → Option Text
  | blank _ => none
  | comment _ => none
  | entry key _ => some key.text
  | dotted table _ _ => some table.text

end PrintedLine

def linesText (ls : List PrintedLine) : Text := ls.flatMap PrintedLine.text

def names (ls : List PrintedLine) : List Text := ls.filterMap PrintedLine.name?

structure PrintedTable where
  name : BareKey
  lines : List PrintedLine

def PrintedTable.text (t : PrintedTable) : Text :=
  '[' :: (t.name.text ++ ']' :: '\n' :: linesText t.lines)

def tablesText (ts : List PrintedTable) : Text := ts.flatMap PrintedTable.text

structure PrintedDocument where
  root : List PrintedLine
  tables : List PrintedTable

namespace PrintedDocument

def text (d : PrintedDocument) : Text := linesText d.root ++ tablesText d.tables

/-- The names at the root of the document. -/
def rootNames (d : PrintedDocument) : List Text := names d.root ++ d.tables.map (·.name.text)

/-- No name is set twice. -/
structure IsDistinct (d : PrintedDocument) : Prop where
  root : d.rootNames.Nodup
  tables : ∀ t ∈ d.tables, (names t.lines).Nodup

end PrintedDocument

end Documents

end RpcSchema.PrintedToml
