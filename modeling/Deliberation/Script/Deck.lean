namespace Deliberation.Script

structure Deck (α : Type) where
  replies : List α
  used : Nat

namespace Deck

variable {α : Type}

def ofList (replies : List α) : Deck α :=
  ⟨replies, 0⟩

def top? (d : Deck α) : Option α :=
  d.replies[min d.used (d.replies.length - 1)]?

def drawn (d : Deck α) : Deck α :=
  ⟨d.replies, d.used + 1⟩

end Deck

def drawFirst {κ α : Type} (fits : κ → Bool) :
    List (κ × Deck α) → Option (Option α × List (κ × Deck α))
  | [] => none
  | (k, d) :: r =>
    if fits k then some (d.top?, (k, d.drawn) :: r)
    else (drawFirst fits r).map fun (a, r) => (a, (k, d) :: r)

end Deliberation.Script
