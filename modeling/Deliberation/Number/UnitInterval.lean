namespace Deliberation.Number

def clamp (x : Float) : Float :=
  if x < 0.0 then 0.0 else if 1.0 < x then 1.0 else x

def atMostOne (x : Float) : Float :=
  if 1.0 < x then 1.0 else x

def normalize (x : Float) : Float :=
  if x.isFinite then clamp x else 0.0

def ratio (n m : Nat) : Float :=
  Float.ofNat n / Float.ofNat m

end Deliberation.Number
