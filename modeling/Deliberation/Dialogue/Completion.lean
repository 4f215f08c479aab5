import Deliberation.Dialogue.Message

namespace Deliberation

structure Request where
  messages : List Message
  tools : List ToolDeclaration
  deriving Inhabited

namespace Request

def ofMessages (ms : List Message) : Request :=
  ⟨ms, []⟩

def encode (r : Request) : Json :=
  .object <| ("messages", .array (r.messages.map Message.encode)) ::
    (if r.tools.isEmpty then [] else [("tools", .array (r.tools.map ToolDeclaration.encode))])

def text (r : Request) : String :=
  "\n".intercalate (r.messages.map Message.content)

end Request

structure Usage where
  promptTokens : Nat
  completionTokens : Nat
  totalTokens : Nat
  deriving DecidableEq, Repr, Inhabited

namespace Usage

def zero : Usage :=
  ⟨0, 0, 0⟩

def encode (u : Usage) : Json :=
  .object [("prompt_tokens", .count u.promptTokens), ("completion_tokens", .count u.completionTokens),
    ("total_tokens", .count u.totalTokens)]

def decode : Json.Decoder Usage :=
  Json.record ["prompt_tokens", "completion_tokens", "total_tokens"] fun m => do
    let tokens := Json.Decoder.count Number.halfWordBound
    let promptTokens ← m.orElse "prompt_tokens" 0 tokens
    let completionTokens ← m.orElse "completion_tokens" 0 tokens
    let totalTokens ← m.orElse "total_tokens" 0 tokens
    return ⟨promptTokens, completionTokens, totalTokens⟩

end Usage

structure Completion where
  text : String
  toolCalls : List ToolCall
  usage : Usage
  deriving Inhabited

namespace Completion

def ofText (text : String) : Completion :=
  ⟨text, [], .zero⟩

def requesting (text : String) (calls : List ToolCall) : Completion :=
  ⟨text, calls, .zero⟩

def hasToolCalls (c : Completion) : Bool :=
  !c.toolCalls.isEmpty

def encode (c : Completion) : Json :=
  .object [("text", .string c.text), ("tool_calls", .array (c.toolCalls.map ToolCall.encode)),
    ("usage", c.usage.encode)]

def decode : Json.Decoder Completion :=
  Json.record ["text", "tool_calls", "usage"] fun m => do
    let text ← m.required "text" .string
    let toolCalls ← m.orElse "tool_calls" [] (.list ToolCall.decode)
    let usage ← m.orElse "usage" .zero Usage.decode
    return ⟨text, toolCalls, usage⟩

end Completion

end Deliberation
