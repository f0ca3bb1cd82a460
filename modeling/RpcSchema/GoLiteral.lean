import RpcSchema.GoLexeme

/-! The literals of Go: numbers, characters and strings. Only their extent matters. -/
namespace RpcSchema.GoLiteral
open GoLexeme
open Reader (one times anyOf)

def isBinaryDigit (c : Char) : Bool := c == '0' || c == '1'

def isOctalDigit (c : Char) : Bool := '0' ≤ c && c ≤ '7'

def isHexDigit (c : Char) : Bool :=
  c.isDigit || ('a' ≤ c && c ≤ 'f') || ('A' ≤ c && c ≤ 'F')

/-- Digits with single low lines between them. -/
def digits (p : Char → Bool) : Reader Unit := do
  let _ ← one p
  let _ ← Reader.many do
    let _ ← Reader.optional (anyOf ['_'])
    one p

/-- An integer with a radix letter after the leading zero. -/
def radixInteger (letters : List Char) (p : Char → Bool) : Reader Unit := do
  anyOf ['0']
  anyOf letters
  let _ ← Reader.optional (anyOf ['_'])
  digits p

def octalInteger : Reader Unit := do
  anyOf ['0']
  let _ ← Reader.optional (anyOf ['_'])
  digits isOctalDigit

def decimalInteger : Reader Unit := do
  let _ ← one fun c => '1' ≤ c && c ≤ '9'
  let _ ← Reader.optional do
    let _ ← Reader.optional (anyOf ['_'])
    digits Char.isDigit

def exponent (letters : List Char) : Reader Unit := do
  anyOf letters
  let _ ← Reader.optional (anyOf ['+', '-'])
  digits Char.isDigit

def decimalFloat : Reader Unit := (do
    digits Char.isDigit
    anyOf ['.']
    let _ ← Reader.optional (digits Char.isDigit)
    let _ ← Reader.optional (exponent ['e', 'E']))
  <|> (do
    digits Char.isDigit
    exponent ['e', 'E'])
  <|> (do
    anyOf ['.']
    digits Char.isDigit
    let _ ← Reader.optional (exponent ['e', 'E']))

def hexMantissa : Reader Unit := (do
    let _ ← Reader.optional (anyOf ['_'])
    digits isHexDigit
    let _ ← Reader.optional do
      anyOf ['.']
      Reader.optional (digits isHexDigit))
  <|> (do
    anyOf ['.']
    digits isHexDigit)

def hexFloat : Reader Unit := do
  anyOf ['0']
  anyOf ['x', 'X']
  hexMantissa
  exponent ['p', 'P']

/-- A number; where several readings agree at the start, the longest one. -/
def number : Reader Unit := do
  hexFloat <|> decimalFloat <|> imaginaryDigits <|> radixInteger ['x', 'X'] isHexDigit
    <|> radixInteger ['b', 'B'] isBinaryDigit <|> radixInteger ['o', 'O'] isOctalDigit
    <|> octalInteger <|> decimalInteger <|> anyOf ['0']
  let _ ← Reader.optional (anyOf ['i'])
where
  /-- Digits that are a number only because the imaginary unit follows. -/
  imaginaryDigits : Reader Unit := do
    digits Char.isDigit
    Reader.require (← Reader.sees (anyOf ['i']))

/-- What may follow the backslash in a character literal. -/
def characterEscape : Reader Unit :=
  anyOf ['a', 'b', 'f', 'n', 'r', 't', 'v', '\\', '\'', '"']
    <|> (do anyOf ['x']; times isHexDigit 2)
    <|> times isOctalDigit 3
    <|> (do anyOf ['u']; times isHexDigit 4)
    <|> (do anyOf ['U']; times isHexDigit 8)

def character : Reader Unit := do
  anyOf ['\'']
  (do anyOf ['\\']; characterEscape)
    <|> (do let _ ← one fun c => c != '\'' && c != '\\' && c != '\x00')
  anyOf ['\'']

/-- What may follow the backslash in a string. -/
def stringEscape : Reader Unit :=
  (do anyOf ['x']; times isHexDigit 2)
    <|> (do anyOf ['u']; times isHexDigit 4)
    <|> (do anyOf ['U']; times isHexDigit 8)
    <|> (do let _ ← one fun c => c != 'x' && c != 'u' && c != 'U' && c != '\x00')

/-- The text after the first comment, if there are only blanks before it. -/
def afterComment (s : Text) : Option Text :=
  match h : nextTrivia false s with
  | none => none
  | some (some _, r) => some r
  | some (none, r) =>
    have : r.length < s.length := length_lt_of_nextTrivia h
    afterComment r
termination_by s.length

theorem afterComment_suffix {s r : Text} (h : afterComment s = some r) : r <:+ s := by
  fun_induction afterComment s with
  | case1 => cases h
  | case2 s c t hn =>
    cases h
    obtain ⟨d, u, rfl, hu⟩ := nextTrivia_suffix hn
    exact hu.trans (List.suffix_cons d u)
  | case3 s t hn _ ih =>
    obtain ⟨d, u, rfl, hu⟩ := nextTrivia_suffix hn
    exact ((ih h).trans hu).trans (List.suffix_cons d u)

/-- A line break belongs to a string only if a comment follows it. -/
def brokenLine : Reader Unit where
  run
    | '\n' :: s => (afterComment s).map ((), ·)
    | _ => none
  suffix {s a r} h := by
    split at h
    · obtain ⟨t, ht, hr⟩ := Option.map_eq_some_iff.1 h
      cases hr
      exact (afterComment_suffix ht).trans (List.suffix_cons _ _)
    · cases h

def quotedString : Reader Unit := do
  anyOf ['"']
  let _ ← Reader.many <|
    (do let _ ← one fun c => c != '"' && c != '\\' && c != '\n' && c != '\x00')
      <|> (do anyOf ['\\']; stringEscape)
      <|> brokenLine
  anyOf ['"']

def rawString : Reader Unit := do
  anyOf ['\x60']
  let _ ← Reader.many (one fun c => c != '\x60' && c != '\x00')
  anyOf ['\x60']

def string : Reader Unit := quotedString <|> rawString

def literal : Reader Unit := string <|> character <|> number

end RpcSchema.GoLiteral
