import RpcSchema.TomlSyntax

/-! The line of a text that an extent begins in, with the extent underlined. Columns
count characters; underlines are as long as the extent has bytes, but not longer than
its line. -/
namespace RpcSchema.SourceExcerpt

def byteCount (t : Text) : Nat := t.foldl (fun n c => n + c.utf8Size) 0

/-- What stands before the beginning of an extent. -/
def before (source : Text) (e : Extent) : Text :=
  source.take (source.length - e.start.length)

/-- The line that is being written at the end of a text. -/
def lastLine (t : Text) : Text := (t.reverse.takeWhile (· != '\n')).reverse

def lineNumber (source : Text) (e : Extent) : Nat := (before source e).count '\n' + 1

/-- How many characters of its line stand before an extent. -/
def indentation (source : Text) (e : Extent) : Nat := (lastLine (before source e)).length

/-- The whole line. -/
def content (source : Text) (e : Extent) : Text :=
  lastLine (before source e) ++ Text.firstLine e.start

def underlineLength (source : Text) (e : Extent) : Nat :=
  max 1 (min (byteCount e.start - byteCount e.stop) (byteCount (content source e)))

def text (source : Text) (e : Extent) : Text :=
  let number := Text.ofNat (lineNumber source e)
  let margin := List.replicate (number.length + 1) ' ' ++ ['|']
  "TOML parse error at line ".toList ++ number ++ ", column ".toList ++
    Text.ofNat (indentation source e + 1) ++ '\n' :: margin ++
    '\n' :: number ++ " | ".toList ++ content source e ++
    '\n' :: margin ++ List.replicate (indentation source e + 1) ' ' ++
      List.replicate (underlineLength source e) '^' ++ ['\n']

end RpcSchema.SourceExcerpt
