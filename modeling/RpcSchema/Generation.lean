import RpcSchema.LogEvent
import RpcSchema.ProtoDocument
import RpcSchema.SourceScan

/-! From files to a document, with the events on the way: one for each file, in
order, and one for the whole. -/
namespace RpcSchema

structure Generation where
  events : List LogEvent
  document : Except UnsupportedType Text

namespace Generation

def fileEvent (recovery : Recovery) (sources : Sources) (path : Text) : LogEvent where
  level := .debug
  target := "protogen::scanner".toList
  message :=
    match scanFile sources path with
    | .ok signatures =>
      path ++ ": ".toList ++ Text.ofNat signatures.length ++ " function(s)".toList
    | .error e => "Skipping ".toList ++ path ++ ": ".toList ++ e.message recovery

def summary (service : Text) (functions files : Nat) : LogEvent where
  level := .info
  target := "protogen::pipeline".toList
  message := Text.ofNat functions ++ " function(s) from ".toList ++ Text.ofNat files ++
    " file(s) into service ".toList ++ service

end Generation

/-- The document for the functions of some files. -/
def generate (sources : Sources) (service : Text) (paths : List Text) (naming : ReplyNaming)
    (recovery : Recovery := .whole) : Generation :=
  let signatures := scan sources paths
  { events := paths.map (Generation.fileEvent recovery sources) ++
      [Generation.summary service signatures.length paths.length]
    document := render service signatures naming }

end RpcSchema
