import RpcSchema.TomlLexeme

/-! Numbers, dates and times of TOML. -/
namespace RpcSchema.Toml
open Reader (one anyOf exactly)

/-- What decimal digits stand for. -/
def decimalValue (digits : Text) : Nat := digits.foldl (fun n c => 10 * n + (c.toNat - 48)) 0

/-- Whether a number has a minus sign. A plus sign says nothing. -/
def sign : Reader Bool := do
  match ← Reader.optional (one fun c => c == '+' || c == '-') with
  | some c => return c == '-'
  | none => return false

/-- Digits with single low lines between them. -/
def digits (p : Char → Bool) : Reader Text := do
  let first ← one p
  let rest ← Reader.many do
    let _ ← Reader.optional (anyOf ['_'])
    one p
  return first :: rest

/-- Decimal digits without a leading zero. -/
def wholeDigits : Reader Text := (do
    Reader.require (!(← Reader.sees (anyOf ['0'])))
    digits Char.isDigit)
  <|> (do return [← one (· == '0')])

/-- An integer in signed 64-bit range. -/
def inRange (n : Int) : Reader Int := do
  Reader.require (-9223372036854775808 ≤ n && n ≤ 9223372036854775807)
  return n

def decimalInteger : Reader Int := do
  let negative ← sign
  let n := decimalValue (← wholeDigits)
  inRange (if negative then -n else n)

/-- An integer in another base, with a letter for the base after a zero. -/
def basedInteger (letter : Char) (base : Nat) (p : Char → Bool) : Reader Int := do
  exactly ['0', letter]
  let ds ← digits p
  inRange (ds.foldl (fun n c => base * n + hexadecimalValue [c]) 0)

def integer : Reader Int :=
  basedInteger 'x' 16 isHexadecimal
    <|> basedInteger 'o' 8 (fun c => '0' ≤ c && c ≤ '7')
    <|> basedInteger 'b' 2 (fun c => c == '0' || c == '1')
    <|> decimalInteger

def exponent : Reader Int := do
  anyOf ['e', 'E']
  let negative ← sign
  let n := decimalValue (← digits Char.isDigit)
  return if negative then -n else n

def fraction : Reader Text := do
  anyOf ['.']
  digits Char.isDigit

/-- A decimal as a floating-point value. Below the range it is infinite; there is none
above the range. -/
def floatValue (negative : Bool) (d : Decimal) : Reader FloatValue :=
  if d.toBinary.isFinite then return .decimal negative d
  else if negative then return .infinite true
  else Reader.fail

def decimalFloat : Reader FloatValue := do
  let negative ← sign
  let whole ← wholeDigits
  let part ← Reader.optional fraction
  let power ← Reader.optional exponent
  Reader.require (part.isSome || power.isSome)
  let places := part.getD []
  floatValue negative ⟨decimalValue (whole ++ places), power.getD 0 - places.length⟩

def specialFloat : Reader FloatValue := do
  let negative ← sign
  (do exactly "inf".toList; return .infinite negative)
    <|> (do exactly "nan".toList; return .nan)

def float : Reader FloatValue := decimalFloat <|> specialFloat

/-- A number of exactly `count` digits within bounds. -/
def bounded (count low high : Nat) : Reader Nat := do
  let n := decimalValue (← several Char.isDigit count)
  Reader.require (low ≤ n && n ≤ high)
  return n

def monthLength (year month : Nat) : Nat :=
  if month = 2 then
    if year % 4 = 0 ∧ (year % 100 ≠ 0 ∨ year % 400 = 0) then 29 else 28
  else if month ∈ [4, 6, 9, 11] then 30
  else 31

def date : Reader Unit := do
  let year ← bounded 4 0 9999
  anyOf ['-']
  let month ← bounded 2 1 12
  anyOf ['-']
  let _ ← bounded 2 1 (monthLength year month)

def time : Reader Unit := do
  let _ ← bounded 2 0 23
  anyOf [':']
  let _ ← bounded 2 0 59
  anyOf [':']
  let _ ← bounded 2 0 60
  let _ ← Reader.optional do
    anyOf ['.']
    let _ ← one Char.isDigit
    Reader.span Char.isDigit

def offset : Reader Unit :=
  anyOf ['Z', 'z'] <|> (do
    anyOf ['+', '-']
    let _ ← bounded 2 0 23
    anyOf [':']
    let _ ← bounded 2 0 59)

def moment : Reader Unit :=
  (do
    date
    let _ ← Reader.optional do
      anyOf ['T', 't', ' ']
      time
      Reader.optional offset)
  <|> time

end RpcSchema.Toml
