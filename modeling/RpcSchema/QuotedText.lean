import RpcSchema.PrintableCharacter

/-! Texts in double quotes, as reports show them. -/
namespace RpcSchema.QuotedText

/-- A character within quotes. -/
def character (c : Char) : Text :=
  if c = '"' ∨ c = '\\' then ['\\', c]
  else if c = '\n' then "\\n".toList
  else if c = '\r' then "\\r".toList
  else if c = '\t' then "\\t".toList
  else if c.toNat = 0 then "\\0".toList
  else if PrintableCharacter.isPrintable c then [c]
  else "\\u\x7b".toList ++ Text.hexadecimal 1 c.toNat ++ ['}']

def quoted (t : Text) : Text := '"' :: t.flatMap character ++ ['"']

end RpcSchema.QuotedText
