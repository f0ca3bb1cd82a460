import RpcSchema.Text

/-! Places in a text. Lines and columns count from one; a column counts the bytes of
the UTF-8 encoding. -/
namespace RpcSchema

structure SourcePosition where
  line : Nat
  column : Nat
deriving Repr, DecidableEq

namespace SourcePosition

def first : SourcePosition := ⟨1, 1⟩

/-- The place after one more character. -/
def next (p : SourcePosition) (c : Char) : SourcePosition :=
  if c = '\n' then ⟨p.line + 1, 1⟩ else ⟨p.line, p.column + c.utf8Size⟩

/-- The place after a text. -/
def after (read : Text) : SourcePosition := read.foldl next first

/-- The place in `source` where `rest` begins. -/
def ofRest (source rest : Text) : SourcePosition :=
  after (source.take (source.length - rest.length))

def text (p : SourcePosition) : Text := Text.ofNat p.line ++ ':' :: Text.ofNat p.column

end SourcePosition

end RpcSchema
