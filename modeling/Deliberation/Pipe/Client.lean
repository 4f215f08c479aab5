import Deliberation.Json.Bytes
import Deliberation.Pipe.Failure
import Deliberation.Pipe.Network
import Deliberation.Pipe.Response
import Deliberation.Prompt

namespace Deliberation.Pipe

structure Client where
  baseUrl : String
  apiKey : String
  timeout : Nat
  maxRetries : Nat
  retryDelay : Nat
  deriving DecidableEq, Repr, Inhabited

structure Timed (α : Type) where
  elapsed : Nat
  result : Except PipeFailure α

def trimSlashes (url : String) : String :=
  String.ofList (url.toList.reverse.dropWhile (· = '/')).reverse

def longestWait : Nat := Number.wordBound - 1

namespace Client

variable {σ α : Type}

def request (c : Client) (path : String) (body : Json) : HttpRequest :=
  ⟨c.baseUrl ++ path, "Bearer " ++ c.apiKey, "application/json", body⟩

def transportFailure (c : Client) (e : TransportError) : PipeFailure :=
  if e.timedOut then .timeout c.timeout else .http e.text

def invalid (path text : String) : PipeFailure :=
  .invalidResponse ("Failed to decode " ++ path ++ " response: " ++ text)

def decodeReply (n : Network σ) (q : HttpRequest) (path : String) (d : Json.Decoder α)
    (status : Nat) : Except TransportError Body → Except PipeFailure α
  | .ok body =>
    if 200 ≤ status ∧ status < 300 then
      match Json.decodeBytes d body.bytes with
      | some a => .ok a
      | none => .error (invalid path (n.undecodable q body.bytes))
    else .error (.api status body.text)
  | .error e =>
    if 200 ≤ status ∧ status < 300 then .error (invalid path e.text) else .error (.api status "")

def receive (n : Network σ) (c : Client) (q : HttpRequest) (path : String) (d : Json.Decoder α) :
    Delivery → Except PipeFailure α
  | .failed e => .error (c.transportFailure e)
  | .answered status body => decodeReply n q path d status body

def post (n : Network σ) (c : Client) (path : String) (body : Json) (d : Json.Decoder α) (s : σ) :
    Timed α × σ :=
  let q := c.request path body
  let (x, s) := n.send c.timeout q s
  (⟨x.elapsed, receive n c q path d x.delivery⟩, s)

def backoff (c : Client) (retry : Nat) : Nat :=
  min (c.retryDelay * Nat.pow 2 (min (retry - 1) 64)) longestWait

theorem backoff_eq (c : Client) (retry : Nat) :
    c.backoff retry = min (c.retryDelay * Nat.pow 2 (retry - 1)) longestWait := by
  by_cases h : retry - 1 ≤ 64
  · rw [backoff, Nat.min_eq_left h]
  · rw [backoff, Nat.min_eq_right (Nat.le_of_not_le h)]
    rcases Nat.eq_zero_or_pos c.retryDelay with h0 | h0
    · simp [h0]
    · have h1 : longestWait ≤ c.retryDelay * Nat.pow 2 64 :=
        Nat.le_trans (by decide) (Nat.le_mul_of_pos_left _ h0)
      have h2 : c.retryDelay * Nat.pow 2 64 ≤ c.retryDelay * Nat.pow 2 (retry - 1) :=
        Nat.mul_le_mul_left _ (Nat.pow_le_pow_right (by decide) (by omega))
      omega

def refusing (r : PipeResponse) : Except PipeFailure PipeResponse :=
  if r.success then .ok r else .error (.invalidResponse "Pipe reported success=false")

def runPath : String := "/v1/pipes/run"

def createPath : String := "/v1/pipes"

def callOnce (n : Network σ) (c : Client) (r : PipeRequest) (s : σ) : Timed PipeResponse × σ :=
  let (t, s) := post n c runPath r.encode PipeResponse.decode s
  (⟨t.elapsed, t.result.bind refusing⟩, s)

def overdue (patience : Option Nat) (elapsed : Nat) : Bool :=
  patience.any fun limit => limit < elapsed

structure Called where
  result : Except PipeFailure PipeResponse
  attempts : Nat
  waits : List Nat
  elapsed : Nat

/-- Tries again after each failure while retries are left. Whoever waits for the call may lose
patience, and then no further attempt is made. -/
def attempts (n : Network σ) (c : Client) (patience : Option Nat) (r : PipeRequest) :
    Nat → Called → σ → Called × σ
  | left, before, s =>
    let (t, s) := callOnce n c r s
    let elapsed := before.elapsed + t.elapsed
    let made := before.attempts + 1
    match t.result with
    | .ok response => (⟨.ok response, made, before.waits, elapsed⟩, s)
    | .error e =>
      let failed : Called := ⟨.error (.unavailable e.message made), made, before.waits, elapsed⟩
      match left with
      | 0 => (failed, s)
      | left + 1 =>
        let wait := c.backoff made
        if overdue patience (elapsed + wait) then (failed, s)
        else
          attempts n c patience r left
            { failed with waits := before.waits ++ [wait], elapsed := elapsed + wait } s

def notCalled : Called :=
  ⟨.error (.unavailable "no attempt was made" 0), 0, [], 0⟩

def call (n : Network σ) (c : Client) (patience : Option Nat) (r : PipeRequest) (s : σ) :
    Called × σ :=
  attempts n c patience r c.maxRetries notCalled s

def create (n : Network σ) (c : Client) (p : PipeProposal) (s : σ) : Timed PipeCreated × σ :=
  post n c createPath p.encode PipeCreated.decode s

def proposal (name : String) : PipeProposal where
  name := name
  description := some "Reasoning orchestrator backend"
  model := some "openai:gpt-4o-mini"
  upsert := some true
  temperature := some 0.7
  maxTokens := some 2000
  messages := some [.plain .system Prompt.pipe]

def ensured : Except PipeFailure PipeCreated → Except PipeFailure Unit
  | .ok _ => .ok ()
  | .error (.api 409 _) => .ok ()
  | .error e => .error e

def ensure (n : Network σ) (c : Client) (name : String) (s : σ) : Timed Unit × σ :=
  let (t, s) := create n c (proposal name) s
  (⟨t.elapsed, ensured t.result⟩, s)

def complete (n : Network σ) (c : Client) (pipe : String) (patience : Option Nat) (r : Request)
    (s : σ) : Except Failure Completion × Nat × σ :=
  let (called, s) := call n c patience (.ofRequest pipe r) s
  match called.result with
  | .ok response => (.ok response.toCompletion, called.elapsed, s)
  | .error e => (.error e.toFailure, called.elapsed, s)

end Client

end Deliberation.Pipe
