import RpcSchema.ProtoMessage

/-! The schema document: a preamble, one service with a method per signature, and
the messages in the order of the signatures. -/
namespace RpcSchema

def preamble : Text :=
  "syntax = \"proto3\";\n\nimport \"google/protobuf/empty.proto\";\n\n".toList

def assemble (service : Text) (methods messages : List Text) : Text :=
  preamble ++ "service ".toList ++ service ++ " \x7b\n".toList ++ methods.flatten ++ ['}'] ++
    messages.flatten

/-- The messages of one signature, the request before the reply. -/
def Signature.messages (s : Signature) (naming : ReplyNaming) :
    Except UnsupportedType (List Message) :=
  match s.requestMessage with
  | .error e => .error e
  | .ok request =>
    match s.replyMessage naming with
    | .error e => .error e
    | .ok reply => .ok (request.toList ++ reply.toList)

/-- The messages of a list of signatures; the first refusal is the answer. -/
def messagesOf (naming : ReplyNaming) : List Signature → Except UnsupportedType (List Message)
  | [] => .ok []
  | s :: signatures =>
    match s.messages naming with
    | .error e => .error e
    | .ok own => (messagesOf naming signatures).map (own ++ ·)

def render (service : Text) (signatures : List Signature) (naming : ReplyNaming) :
    Except UnsupportedType Text :=
  (messagesOf naming signatures).map fun messages =>
    assemble service (signatures.map Signature.method) (messages.map Message.text)

end RpcSchema
