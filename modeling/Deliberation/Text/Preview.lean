namespace Deliberation.Text

def truncate (s : String) (max : Nat) : String :=
  String.ofList (s.toList.take max)

def preview (s : String) (max : Nat) : String :=
  if s.length ≤ max then s else truncate s (max - 3) ++ "..."

end Deliberation.Text
