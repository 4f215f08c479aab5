import Deliberation.Pipe.Wire

namespace Deliberation.Pipe

structure Choice where
  index : Nat
  role : Option String
  content : Option String
  toolCalls : List WireCall
  finishReason : Option String
  deriving DecidableEq, Repr, Inhabited

structure TokenCounts where
  prompt : Option Nat
  completion : Option Nat
  total : Option Nat
  deriving DecidableEq, Repr, Inhabited

structure RawResponse where
  model : Option String
  choices : List Choice
  usage : Option TokenCounts
  deriving DecidableEq, Repr, Inhabited

structure PipeResponse where
  success : Bool
  completion : String
  threadId : Option String
  raw : Option RawResponse
  deriving DecidableEq, Repr, Inhabited

structure PipeCreated where
  name : String
  description : Option String
  status : String
  ownerLogin : String
  url : String
  kind : String
  apiKey : String
  deriving DecidableEq, Repr, Inhabited

def tokens : Json.Decoder Nat :=
  .count Number.halfWordBound

def decodeChoiceMessage : Json.Decoder (Option String × Option String × List WireCall) :=
  Json.record ["role", "content", "tool_calls"] fun m => do
    let role ← m.optional "role" .string
    let content ← m.optional "content" .string
    let toolCalls ← m.orElse "tool_calls" [] (.list WireCall.decode)
    return (role, content, toolCalls)

def Choice.decode : Json.Decoder Choice :=
  Json.record ["index", "message", "finish_reason"] fun m => do
    let index ← m.orElse "index" 0 tokens
    let (role, content, toolCalls) ← m.required "message" decodeChoiceMessage
    let finishReason ← m.optional "finish_reason" .string
    return ⟨index, role, content, toolCalls, finishReason⟩

def TokenCounts.decode : Json.Decoder TokenCounts :=
  Json.record ["prompt_tokens", "completion_tokens", "total_tokens"] fun m => do
    let prompt ← m.optional "prompt_tokens" tokens
    let completion ← m.optional "completion_tokens" tokens
    let total ← m.optional "total_tokens" tokens
    return ⟨prompt, completion, total⟩

def RawResponse.decode : Json.Decoder RawResponse :=
  Json.record ["model", "choices", "usage"] fun m => do
    let model ← m.optional "model" .string
    let choices ← m.orElse "choices" [] (.list Choice.decode)
    let usage ← m.optional "usage" TokenCounts.decode
    return ⟨model, choices, usage⟩

namespace PipeResponse

def decode : Json.Decoder PipeResponse :=
  Json.record ["success", "completion", "threadId", "raw"] fun m => do
    let success ← m.orElse "success" true .bool
    let completion ← m.orElse "completion" "" .string
    let threadId ← m.optional "threadId" .string
    let raw ← m.optional "raw" RawResponse.decode
    return ⟨success, completion, threadId, raw⟩

def toolCalls (r : PipeResponse) : List WireCall :=
  match r.raw with
  | some ⟨_, c :: _, _⟩ => c.toolCalls
  | _ => []

def usage (r : PipeResponse) : Usage :=
  match r.raw.bind RawResponse.usage with
  | some u => ⟨u.prompt.getD 0, u.completion.getD 0, u.total.getD 0⟩
  | none => .zero

def toCompletion (r : PipeResponse) : Completion :=
  ⟨r.completion, r.toolCalls.map WireCall.toCall, r.usage⟩

end PipeResponse

def PipeCreated.decode : Json.Decoder PipeCreated :=
  Json.record ["name", "description", "status", "owner_login", "url", "type", "api_key"] fun m => do
    let name ← m.required "name" .string
    let description ← m.optional "description" .string
    let status ← m.required "status" .string
    let ownerLogin ← m.required "owner_login" .string
    let url ← m.required "url" .string
    let kind ← m.required "type" .string
    let apiKey ← m.required "api_key" .string
    return ⟨name, description, status, ownerLogin, url, kind, apiKey⟩

end Deliberation.Pipe
