import RpcSchema.TextReader
import RpcSchema.TomlSyntax

/-! Blanks, line ends, strings and keys of TOML. -/
namespace RpcSchema.Toml
open Reader (one anyOf exactly span)

/-- Reads a value and tells where it stood. -/
def located {α : Type} (p : Reader α) : Reader (α × Extent) := do
  let start ← Reader.remaining
  let a ← p
  return (a, ⟨start, ← Reader.remaining⟩)

def isBlank (c : Char) : Bool := c == ' ' || c == '\t'

/-- Characters that may stand in comments and strings. -/
def isPlain (c : Char) : Bool := c == '\t' || (32 ≤ c.toNat && c.toNat != 127)

def blanks : Reader Unit := do
  let _ ← span isBlank

def lineBreak : Reader Unit := exactly ['\n'] <|> exactly ['\r', '\n']

def endOfText : Reader Unit := do
  Reader.require (← Reader.remaining).isEmpty

def comment : Reader Unit := do
  anyOf ['#']
  let _ ← span isPlain

/-- The rest of a line after what it says. -/
def lineEnd : Reader Unit := do
  blanks
  let _ ← Reader.optional comment
  lineBreak <|> endOfText

/-- Blanks, line breaks and comments that end in one. -/
def gap : Reader Unit := do
  let _ ← Reader.many (blankLine <|> (do let _ ← one isBlank))
where
  blankLine : Reader Unit := do
    let _ ← Reader.optional comment
    lineBreak

/-- What hexadecimal digits stand for. -/
def hexadecimalValue (digits : Text) : Nat :=
  digits.foldl (fun n c =>
    16 * n + (if c.isDigit then c.toNat - 48 else c.toLower.toNat - 87)) 0

def isHexadecimal (c : Char) : Bool :=
  c.isDigit || ('a' ≤ c && c ≤ 'f') || ('A' ≤ c && c ≤ 'F')

/-- Exactly `n` characters of a class. -/
def several (p : Char → Bool) : Nat → Reader Text
  | 0 => return []
  | n + 1 => do
    let c ← one p
    return c :: (← several p n)

/-- A character by its code point. -/
def codePoint (digits : Nat) : Reader Char := do
  let n := hexadecimalValue (← several isHexadecimal digits)
  Reader.require (n < 0xd800 || (0xdfff < n && n < 0x110000))
  return Char.ofNat n

def escape : Reader Char := do
  anyOf ['\\']
  match ← one fun _ => true with
  | 'b' => return '\x08'
  | 't' => return '\t'
  | 'n' => return '\n'
  | 'f' => return '\x0c'
  | 'r' => return '\r'
  | '"' => return '"'
  | '\\' => return '\\'
  | 'u' => codePoint 4
  | 'U' => codePoint 8
  | _ => Reader.fail

def isBasic (c : Char) : Bool := isPlain c && c != '"' && c != '\\'

def isLiteral (c : Char) : Bool := isPlain c && c != '\''

def basicString : Reader Text := do
  anyOf ['"']
  let text ← Reader.many (one isBasic <|> escape)
  anyOf ['"']
  return text

def literalString : Reader Text := do
  anyOf ['\'']
  let text ← span isLiteral
  anyOf ['\'']
  return text

def brokenLine : Reader Text := do
  lineBreak
  return ['\n']

/-- A backslash at the end of a line, with all blanks and line breaks after it. -/
def joinedLines : Reader Text := do
  anyOf ['\\']
  blanks
  lineBreak
  let _ ← Reader.many ((do let _ ← one isBlank) <|> lineBreak)
  return []

/-- One or two quotes that are followed by more of the string. -/
def innerQuotes (quote : Char) : Reader Text := do
  let quotes ← Reader.many (one (· == quote))
  Reader.require (quotes.length == 1 || quotes.length == 2)
  return quotes

/-- The end of a string in triple quotes. Up to two quotes before it belong to the string. -/
def closingQuotes (quote : Char) : Reader Text := do
  let quotes ← Reader.many (one (· == quote))
  Reader.require (3 ≤ quotes.length && quotes.length ≤ 5)
  return quotes.drop 3

/-- A string in triple quotes; a line break right after the opening is no part of it. -/
def longString (quote : Char) (piece : Reader Text) : Reader Text := do
  exactly [quote, quote, quote]
  let _ ← Reader.optional lineBreak
  let pieces ← Reader.many (piece <|> innerQuotes quote)
  return pieces.flatten ++ (← closingQuotes quote)

def basicPiece : Reader Text :=
  (do return [← one isBasic]) <|> joinedLines <|> (do return [← escape]) <|> brokenLine

def literalPiece : Reader Text := (do return [← one isLiteral]) <|> brokenLine

def string : Reader Text :=
  longString '"' basicPiece <|> basicString <|> longString '\'' literalPiece <|> literalString

def isBareKeyCharacter (c : Char) : Bool := c.isAlphanum || c == '-' || c == '_'

def bareKey : Reader Text := do
  let first ← one isBareKeyCharacter
  return first :: (← span isBareKeyCharacter)

/-- One part of a key, with the blanks around it. -/
def keyPart : Reader Key := do
  blanks
  let (name, extent) ← located (basicString <|> literalString <|> bareKey)
  blanks
  return ⟨name, extent⟩

/-- How deep values can be nested, and how many parts a key can have. -/
def depthLimit : Nat := 79

def key : Reader (List Key) := do
  let parts ← Reader.separated (anyOf ['.']) keyPart
  Reader.require (parts.length ≤ depthLimit)
  return parts

end RpcSchema.Toml
