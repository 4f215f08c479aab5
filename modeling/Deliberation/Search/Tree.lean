import Deliberation.Search.Score

namespace Deliberation.Search

structure Node where
  id : Nat
  parent : Option Nat
  depth : Nat
  content : String
  score : Option Score
  deriving DecidableEq, Repr, Inhabited

structure Tree where
  nodes : List Node
  deriving DecidableEq, Repr, Inhabited

namespace Tree

def empty : Tree :=
  ⟨[]⟩

def ofRoot (content : String) : Tree :=
  ⟨[⟨0, none, 0, content, none⟩]⟩

def root : Nat :=
  0

def size (t : Tree) : Nat :=
  t.nodes.length

def get? (t : Tree) (id : Nat) : Option Node :=
  t.nodes[id]?

def addChild? (t : Tree) (parent : Nat) (content : String) (score : Option Score) :
    Option (Tree × Nat) :=
  (t.get? parent).map fun p =>
    (⟨t.nodes ++ [⟨t.size, some parent, p.depth + 1, content, score.map Score.clamped⟩]⟩, t.size)

def children (t : Tree) (id : Nat) : List Node :=
  t.nodes.filter fun n => n.parent == some id

def path (t : Tree) (id : Nat) : List String :=
  match t.get? id with
  | none => []
  | some n =>
    match n.parent with
    | none => []
    | some p => if p < id then t.path p ++ [n.content] else [n.content]
termination_by id

end Tree

def precedes (a b : Node) : Bool :=
  match a.score, b.score with
  | some s, some t => t.rank < s.rank || s.rank == t.rank && a.id ≤ b.id
  | _, _ => true

def ranking (nodes : List Node) : List Node :=
  (nodes.filter fun n => n.score.isSome).mergeSort precedes

def Tree.best? (t : Tree) : Option Node :=
  (ranking t.nodes).head?

end Deliberation.Search
