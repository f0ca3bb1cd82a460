/-! Texts are lists of characters, so that statements about them are statements
about lists. Numbers are written in decimal. -/
namespace RpcSchema

abbrev Text := List Char

namespace Text

def digit (n : Nat) : Char := Char.ofNat ('0'.toNat + n % 10)

/-- Decimal numeral of a number, without leading zeros. -/
def ofNat (n : Nat) : Text :=
  if n < 10 then [digit n] else ofNat (n / 10) ++ [digit n]
termination_by n

/-- Hexadecimal numeral in lower case, with leading zeros up to a width. -/
def hexadecimal (width n : Nat) : Text :=
  let digits := Nat.toDigits 16 n
  List.replicate (width - digits.length) '0' ++ digits

def firstLine (t : Text) : Text := t.takeWhile (· != '\n')

def join (separator : Text) : List Text → Text
  | [] => []
  | [t] => t
  | t :: ts => t ++ separator ++ join separator ts

/-- The pieces between the occurrences of a separator; there is always one. -/
def splitAt (separator : Char) : Text → List Text
  | [] => [[]]
  | c :: cs =>
    if c = separator then [] :: splitAt separator cs
    else
      match splitAt separator cs with
      | [] => [[c]]
      | piece :: pieces => (c :: piece) :: pieces

end Text

end RpcSchema
