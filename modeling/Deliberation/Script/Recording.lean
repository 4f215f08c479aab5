import Deliberation.Archive.Timestamp
import Deliberation.Script.Server

namespace Deliberation.Script

open Pipe

def hexValue? (c : Char) : Option Nat :=
  let n := c.toNat
  if 48 ≤ n ∧ n ≤ 57 then some (n - 48)
  else if 97 ≤ n ∧ n ≤ 102 then some (n - 87)
  else if 65 ≤ n ∧ n ≤ 70 then some (n - 55)
  else none

def hexBytes? : List Char → Option (List UInt8)
  | [] => some []
  | a :: b :: r => do
    let high ← hexValue? a
    let low ← hexValue? b
    let bytes ← hexBytes? r
    return UInt8.ofNat (16 * high + low) :: bytes
  | [_] => none

def decodeReaction : Json.Decoder Reaction :=
  Json.record ["status", "body", "body_hex", "hang", "delay_ms", "refuse"] fun m => do
    let word := Json.Decoder.count Number.wordBound
    let status ← m.orElse "status" 200 word
    let body ← m.orElse "body" "" .string
    let hex ← m.orElse "body_hex" "" .string
    let hangs ← m.orElse "hang" false .bool
    let delay ← m.orElse "delay_ms" 0 word
    let refused ← m.orElse "refuse" false .bool
    let bytes ← hexBytes? hex.toList
    return if hangs then .hangs
      else if refused then .refused delay
      else .answered delay status (if hex.isEmpty then body.toUTF8.data.toList else bytes)

def decodeRoute : Json.Decoder (Route × Deck Reaction) :=
  Json.record ["path", "match", "replies"] fun m => do
    let path ← m.orElse "path" none (.optional .string)
    let cues ← m.orElse "match" [] (.list .string)
    let replies ← m.orElse "replies" [] (.list decodeReaction)
    return (⟨path, cues⟩, .ofList replies)

structure Recording where
  server : String
  id : String
  timestamp : Archive.Timestamp
  routes : List (Route × Deck Reaction)

namespace Recording

def decode : Json.Decoder Recording :=
  Json.record ["server", "id", "timestamp", "responses"] fun m => do
    let server ← m.required "server" .string
    let id ← m.required "id" .string
    let timestamp ← m.required "timestamp" Archive.Timestamp.decode
    let routes ← m.orElse "responses" [] (.list decodeRoute)
    return ⟨server, id, timestamp, routes⟩

def absent : Recording :=
  ⟨"", "", ⟨⟨1970, 1, 1⟩, 0, 0, 0⟩, []⟩

def read? (s : String) : Option Recording :=
  if Text.blankString s then some absent else Json.decodeText decode s

def start (r : Recording) : Server :=
  .start r.server r.routes

end Recording

end Deliberation.Script
