namespace Deliberation.Debate

def roster : List String :=
  ["Pragmatist", "Skeptic", "Innovator", "Risk Analyst", "User Advocate"]

def perspective (i : Nat) : String :=
  let base := roster.getD (i % roster.length) ""
  match i / roster.length with
  | 0 => base
  | cycle => base ++ " " ++ Nat.repr (cycle + 1)

def perspectives (count : Nat) : List String :=
  (List.range count).map perspective

theorem length_perspectives (count : Nat) : (perspectives count).length = count := by
  simp [perspectives]

end Deliberation.Debate
