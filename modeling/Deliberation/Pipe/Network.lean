import Deliberation.Json.Value

namespace Deliberation.Pipe

structure HttpRequest where
  url : String
  authorization : String
  contentType : String
  body : Json
  deriving Inhabited

structure TransportError where
  timedOut : Bool
  text : String
  deriving DecidableEq, Repr, Inhabited

structure Body where
  bytes : List UInt8
  text : String
  deriving DecidableEq, Repr, Inhabited

/-- A response has a status, but its body may still fail to arrive. -/
inductive Delivery where
  | failed (e : TransportError)
  | answered (status : Nat) (body : Except TransportError Body)
  deriving Inhabited

/-- What becomes of a request. None goes out for one that cannot be built, and more than one
where a server redirects. -/
structure Dispatch where
  sent : List HttpRequest
  elapsed : Nat
  delivery : Delivery
  deriving Inhabited

/-- The library that sends requests, with the network behind it. -/
structure Network (σ : Type) where
  send : (timeout : Nat) → HttpRequest → σ → Dispatch × σ
  undecodable : HttpRequest → List UInt8 → String

end Deliberation.Pipe
