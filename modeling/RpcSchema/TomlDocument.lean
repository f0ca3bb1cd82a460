import RpcSchema.TomlNumber
import RpcSchema.TomlTable

/-! Values and lines of TOML, and whole documents. -/
namespace RpcSchema.Toml
open Reader (anyOf exactly)

def boolean : Reader Bool :=
  (do exactly "true".toList; return true) <|> (do exactly "false".toList; return false)

def scalar : Reader Scalar :=
  Scalar.string <$> string <|> (do moment; return .moment) <|> Scalar.float <$> float
    <|> Scalar.integer <$> integer <|> Scalar.boolean <$> boolean

/-- The items of a list in brackets; a comma may stand after the last one. -/
def listItems (item : Reader Item) : Reader (List Item) := do
  anyOf ['[']
  let items ← Reader.optional (Reader.separated (anyOf [',']) spaced)
  if items.isSome then
    let _ ← Reader.optional (anyOf [','])
    pure ()
  gap
  anyOf [']']
  return items.getD []
where
  spaced : Reader Item := do
    gap
    let i ← item
    gap
    return i

def setting (item : Reader Item) : Reader Setting := do
  let path ← key
  anyOf ['=']
  blanks
  return ⟨path, ← item⟩

/-- The entries of a table between braces. -/
def braceEntries (item : Reader Item) : Reader Entries := do
  anyOf ['{']
  let settings ← Reader.optional (Reader.separated (anyOf [',']) spaced)
  blanks
  anyOf ['}']
  match Entries.defineAll [] (settings.getD []) with
  | some entries => return entries
  | none => Reader.fail
where
  spaced : Reader Setting := do
    let s ← setting item
    blanks
    return s

/-- A value in which others are nested to a depth at most. -/
def value : Nat → Reader Item
  | 0 => do
    let (s, extent) ← located scalar
    return .scalar s extent
  | depth + 1 =>
    (do
      let (s, extent) ← located scalar
      return .scalar s extent)
    <|> (do
      let (items, extent) ← located (listItems (value depth))
      return .array items extent)
    <|> (do
      let (entries, extent) ← located (braceEntries (value depth))
      return .table .braces (some extent) entries)

inductive Line where
  | nothing
  | setting (s : Setting)
  | header (h : Header)

def header (opening closing : Text) (isRepeated : Bool) : Reader Line := do
  let (path, extent) ← located do
    exactly opening
    let path ← key
    exactly closing
    return path
  lineEnd
  return .header ⟨path, isRepeated, extent⟩

/-- One line; the last one may lack its line break. -/
def line : Reader Line := do
  blanks
  (do
      comment
      lineBreak <|> endOfText
      return .nothing)
    <|> (do lineBreak; return .nothing)
    <|> header ['[', '['] [']', ']'] true
    <|> header ['['] [']'] false
    <|> (do
      let s ← setting (value depthLimit)
      lineEnd
      return .setting s)

/-- The settings before the first header, and the sections. -/
def sections : List Line → List Setting × List Section
  | [] => ([], [])
  | .nothing :: lines => sections lines
  | .setting s :: lines => (s :: (sections lines).1, (sections lines).2)
  | .header h :: lines => ([], ⟨h, (sections lines).1⟩ :: (sections lines).2)

def lines : Reader (List Line) := do
  let _ ← Reader.optional (exactly ['\ufeff'])
  let lines ← Reader.many line
  blanks
  endOfText
  return lines

/-- The entries of a document, if the text is one. -/
def read (source : Text) : Option Entries :=
  match lines.run source with
  | none => none
  | some (found, _) => entriesOf (sections found).1 (sections found).2

end RpcSchema.Toml
