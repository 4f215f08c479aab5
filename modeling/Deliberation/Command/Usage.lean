namespace Deliberation.Command

def programName : String :=
  "reasoning-orchestrator"

def versionText : String :=
  programName ++ " 0.1.0\n"

def purpose : String :=
  "Reasoning-strategy engine - ReAct tool loops, Reflexion retries, Tree-of-Thought search and " ++
    "multi-agent debate behind one orchestrator"

structure Entry where
  form : String
  meaning : String
  remark : Option String := none

def toolRemark : String :=
  "The CLI ships no tool implementations: names only narrow the allow-list and steer strategy " ++
    "selection. Any tool call is answered with an unknown-tool observation."

def entries : List Entry :=
  [⟨"-s, --strategy <STRATEGY>",
      "Strategy to use (iterative, reflexive, tree_search, debate); heuristic when omitted", none⟩,
    ⟨"-c, --constraint <CONSTRAINTS>", "Constraint the answer must satisfy (repeatable)", none⟩,
    ⟨"-t, --tool <TOOLS>", "Tool name the agent may use (repeatable)",
      some toolRemark⟩,
    ⟨"    --max-iterations <MAX_ITERATIONS>",
      "Iteration cap for the iterative and reflexive strategies", none⟩,
    ⟨"    --max-rounds <MAX_ROUNDS>", "Debate rounds", none⟩,
    ⟨"    --max-depth <MAX_DEPTH>", "Tree search depth", none⟩,
    ⟨"    --branch-factor <BRANCH_FACTOR>", "Children per expanded tree node", none⟩,
    ⟨"    --beam-width <BEAM_WIDTH>", "Tree nodes kept per depth", none⟩,
    ⟨"    --debaters <DEBATERS>", "Number of debaters", none⟩,
    ⟨"    --skip-pipe-setup", "Skip creating/updating the Langbase pipe", none⟩]

def helpEntry (full : Bool) : Entry :=
  ⟨"-h, --help", if full then "Print help (see a summary with '-h')"
    else "Print help (see more with '--help')", none⟩

def versionEntry : Entry :=
  ⟨"-V, --version", "Print version", none⟩

def margin : String :=
  "          "

def Entry.render (full : Bool) (e : Entry) : String :=
  "  " ++ e.form ++ "\n" ++ margin ++ e.meaning ++
    match full, e.remark with
    | true, some remark => ".\n" ++ margin ++ "\n" ++ margin ++ remark
    | _, _ => ""

def helpText (full : Bool) : String :=
  let gap := if full then "\n\n" else "\n"
  let task := if full then "  <TASK>\n" ++ margin ++ "Task description" else "  <TASK>  Task description"
  purpose ++ "\n\nUsage: " ++ programName ++ " [OPTIONS] <TASK>\n\nArguments:\n" ++ task ++
    "\n\nOptions:\n" ++
    gap.intercalate ((entries ++ [helpEntry full, versionEntry]).map (Entry.render full)) ++ "\n"

end Deliberation.Command
