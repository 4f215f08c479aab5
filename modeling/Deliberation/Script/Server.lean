import Deliberation.Pipe.Network
import Deliberation.Script.Deck
import Deliberation.Text.Search
import Deliberation.Text.Utf8

namespace Deliberation.Script

open Pipe

structure Route where
  path : Option String
  cues : List String
  deriving DecidableEq, Repr, Inhabited

def Route.fits (route : Route) (path body : List Char) : Bool :=
  (route.path.all fun p => p.toList = path) &&
    route.cues.all fun cue => Text.occursIn cue.toList body

inductive Reaction where
  | hangs
  | refused (delay : Nat)
  | answered (delay status : Nat) (body : List UInt8)
  deriving DecidableEq, Repr, Inhabited

def Reaction.trim : Reaction → Reaction
  | answered delay status body =>
    answered delay status (if status = 204 ∨ status = 304 then [] else body)
  | x => x

structure Server where
  base : String
  routes : List (Route × Deck Reaction)
  seen : List (String × HttpRequest)

namespace Server

def start (base : String) (routes : List (Route × Deck Reaction)) : Server :=
  ⟨base, routes, []⟩

def path? (s : Server) (url : String) : Option (List Char) :=
  match Text.afterPrefix? s.base.toList url.toList with
  | some ('/' :: r) => some ('/' :: r)
  | _ => none

def noRoute : Reaction :=
  .answered 0 404 "no rule".toUTF8.data.toList

def noReply : Reaction :=
  .answered 0 200 []

def react (q : HttpRequest) (s : Server) : Reaction × Server :=
  match s.path? q.url with
  | none => (.refused 0, s)
  | some path =>
    let s := { s with seen := s.seen ++ [(String.ofList path, q)] }
    match drawFirst (fun route => Route.fits route path q.body.render) s.routes with
    | none => (noRoute, s)
    | some (reply, routes) => ((reply.getD noReply).trim, { s with routes := routes })

end Server

/-- The scripted library refuses to build a request without a scheme or a host. -/
def buildableUrl (url : String) : Bool :=
  ["http://", "https://"].any fun scheme =>
    match Text.afterPrefix? scheme.toList url.toList with
    | some (c :: _) => c ≠ '/'
    | _ => false

def buildableHeader (s : String) : Bool :=
  s.toList.all fun c => c = '\t' || 0x20 ≤ c.toNat && c.toNat ≠ 0x7f

def lost (q : HttpRequest) (elapsed : Nat) (e : TransportError) : Dispatch :=
  ⟨[q], elapsed, .failed e⟩

def timedOut (timeout : Nat) (q : HttpRequest) : Dispatch :=
  lost q timeout ⟨true, "error sending request for url (" ++ q.url ++ ")"⟩

def dispatch (timeout : Nat) (q : HttpRequest) : Reaction → Dispatch
  | .hangs => timedOut timeout q
  | .refused delay =>
    if timeout < delay then timedOut timeout q
    else lost q delay ⟨false, "error sending request for url (" ++ q.url ++ ")"⟩
  | .answered delay status body =>
    if timeout < delay then timedOut timeout q
    else ⟨[q], delay, .answered status (.ok ⟨body, Text.Utf8.lossy body⟩)⟩

def network : Network Server where
  send timeout q s :=
    if buildableUrl q.url && buildableHeader q.authorization then
      let (x, s) := s.react q
      (dispatch timeout q x, s)
    else (⟨[], 0, .failed ⟨false, "builder error"⟩⟩, s)
  undecodable _ _ := "error decoding response body"

end Deliberation.Script
