import Deliberation.Json.Syntax
import Deliberation.Text.Blank
import Deliberation.Text.Preview
import Deliberation.Text.Search

namespace Deliberation.Reply

def fence : List Char :=
  ['`', '`', '`']

def jsonFence : List Char :=
  ['`', '`', '`', 'j', 's', 'o', 'n']

inductive Unreadable where
  | emptyJsonFence
  | emptyFence
  | noJson (start : String)
  deriving DecidableEq, Repr

def Unreadable.message : Unreadable → String
  | emptyJsonFence => "Found ```json block but content was empty or malformed"
  | emptyFence => "Found ``` block but content was empty or malformed"
  | noJson start => "No JSON found in response. First 100 chars: '" ++ start ++ "'"

def startsJson : List Char → Bool
  | c :: _ => c = '\x7b' || c = '['
  | [] => false

def fenced (opened : List Char) (e : Unreadable) : Except Unreadable (List Char) :=
  let body := Text.trim (Text.before fence opened)
  if body.isEmpty then .error e else .ok body

/-- The part of a reply to be read as JSON: all of it if it starts so, or else its first fenced
block. The next JSON fence ends a JSON block before other fences are looked for in it, so that of
four backticks in front of `json` the first one stays in the block. -/
def extract (s : List Char) : Except Unreadable (List Char) :=
  if startsJson (Text.trim s) then .ok (Text.trim s)
  else match Text.breakOn? jsonFence s with
    | some (_, opened) => fenced (Text.before jsonFence opened) .emptyJsonFence
    | none =>
      match Text.breakOn? fence s with
      | some (_, opened) => fenced opened .emptyFence
      | none => .error (.noJson (String.ofList (s.take 100)))

inductive Place where
  | code
  | quoted
  | escaped
  deriving DecidableEq, Repr

def Place.next : Place → Char → Place
  | code, c => if c = '"' then quoted else code
  | quoted, c => if c = '\\' then escaped else if c = '"' then code else quoted
  | escaped, _ => quoted

def closing? : Nat → Place → List Char → Option (List Char)
  | _, _, [] => none
  | depth, place, c :: r =>
    if place = .code ∧ c = '\x7b' then (closing? (depth + 1) .code r).map (c :: ·)
    else if place = .code ∧ c = '\x7d' then
      if depth ≤ 1 then some [c] else (closing? (depth - 1) .code r).map (c :: ·)
    else (closing? depth (place.next c) r).map (c :: ·)

def findObject? (s : List Char) : Option (List Char) :=
  closing? 0 .code (s.dropWhile (· ≠ '\x7b'))

def asObject? : Json → Option Json
  | .object fields => some (.object fields)
  | _ => none

def readObject? (s : List Char) : Option Json :=
  (Json.read? s).bind asObject?

def object? (s : List Char) : Option Json :=
  match (extract s).toOption.bind readObject? with
  | some v => some v
  | none => (findObject? s).bind readObject?

theorem asObject?_eq_some {v w : Json} (h : asObject? v = some w) :
    v = w ∧ ∃ fields, w = .object fields := by
  cases v <;> simp only [asObject?, reduceCtorEq, Option.some.injEq] at h
  subst h
  exact ⟨rfl, _, rfl⟩

theorem object?_isObject {s : List Char} {v : Json} (h : object? s = some v) :
    ∃ fields, v = .object fields := by
  have key : ∀ t : Option (List Char), t.bind readObject? = some v → ∃ fields, v = .object fields := by
    intro t ht
    obtain ⟨u, _, hu⟩ := Option.bind_eq_some_iff.1 ht
    obtain ⟨w, _, hw⟩ := Option.bind_eq_some_iff.1 hu
    exact (asObject?_eq_some hw).2
  rw [object?] at h
  split at h
  · next hs => cases h; exact key _ hs
  · exact key _ h

end Deliberation.Reply
