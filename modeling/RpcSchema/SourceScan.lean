import RpcSchema.FileTree
import RpcSchema.GoSignatures
import RpcSchema.RecoveredTree

/-! The signatures in a list of files. A file that cannot be read, or has no
signatures, is passed over. -/
namespace RpcSchema

inductive ScanError where
  | access (e : AccessError)
  | fault {source : Text} (f : SyntaxFault)
deriving DecidableEq, Repr

/-- The place to blame for a fault in a text. -/
def SyntaxFault.position (recovery : Recovery) (source : Text) : SyntaxFault → SourcePosition
  | ungrammatical => recovery.blame source
  | layout p => p

def SyntaxFault.message (recovery : Recovery) (source : Text) (f : SyntaxFault) : Text :=
  "Syntax error at ".toList ++ (f.position recovery source).text

def ScanError.message (e : ScanError) (recovery : Recovery := .whole) : Text :=
  match e with
  | access e => "I/O error: ".toList ++ e.message
  | @fault source f => f.message recovery source

def scanFile (sources : Sources) (path : Text) : Except ScanError (List Signature) :=
  match sources path with
  | .error e => .error (.access e)
  | .ok source => (signaturesOf source).mapError (@ScanError.fault source)

def contribution (sources : Sources) (path : Text) : List Signature :=
  match scanFile sources path with
  | .error _ => []
  | .ok signatures => signatures

/-- The signatures of the files, file by file. -/
def scan (sources : Sources) (paths : List Text) : List Signature :=
  paths.flatMap (contribution sources)

end RpcSchema
