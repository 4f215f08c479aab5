import Deliberation.Command.Replay

namespace Deliberation.Command

def readEnvironment : IO Environment := do
  let mut found := []
  for name in Settings.variableNames do
    if let some value ← IO.getEnv name then
      found := (name, value) :: found
  let file ← (IO.FS.readFile ".env").toBaseIO
  match file with
  | .ok text => return (Environment.ofList found).supplyFile text
  | .error _ => return .ofList found

def runRecorded (words : List String) : IO UInt32 := do
  let e ← readEnvironment
  match Script.Recording.read? (← (← IO.getStdin).getLine) with
  | none =>
    IO.eprintln "Error: the first line of the input is not a recording"
    return 1
  | some r =>
    let ending := replay r words e
    IO.print (output r ending)
    if let some complaint := ending.complaint then
      IO.eprintln complaint
    return ending.exitCode.toUInt32

end Deliberation.Command

def main (words : List String) : IO UInt32 :=
  Deliberation.Command.runRecorded words
