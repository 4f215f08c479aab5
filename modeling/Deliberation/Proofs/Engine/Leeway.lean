import Deliberation.Engine.Orchestrator
import Deliberation.Proofs.Engine.Complete
import Deliberation.Proofs.Run.Leeway

namespace Deliberation.Engine

open Run

namespace Iterative

variable {t : Task} {tools : List ToolDeclaration}

def Answers (x : State × Except Failure String) : Prop :=
  ∃ text, x.2 = .ok text

theorem answers_of_succeeded {x : State × Except Failure String}
    (h : (conclude x).succeeded = true) : Answers x := by
  obtain ⟨s, y⟩ := x
  cases y with
  | ok text => exact ⟨text, rfl⟩
  | error e => cases e <;> cases h

theorem loop_upheld {left left' : Nat} (h : left ≤ left') (limit limit' : Nat) (s : State) :
    (loop t tools limit left s).Upheld Answers (loop t tools limit' left' s) := by
  induction left generalizing left' s with
  | zero => exact .lapsed (fun ⟨_, ha⟩ => nomatch ha) _
  | succ left ih =>
    obtain ⟨left', rfl⟩ : ∃ k, left' = k + 1 := ⟨left' - 1, by omega⟩
    rw [loop, loop]
    refine .after _ fun reply => ?_
    cases reply with
    | error e => exact .done _
    | ok c =>
      dsimp only
      split
      · exact .done _
      · refine .after _ fun x => ?_
        obtain ⟨s', e⟩ := x
        cases e with
        | some e => exact .done _
        | none => exact ih (Nat.le_of_succ_le_succ h) s'

theorem run_upheld (declarations : Outcome (List ToolDeclaration)) (t : Task) (o : Options)
    {n m : Nat} (h : n ≤ m) :
    (run declarations t { o with maxIterations := n }).Upheld (fun r => r.succeeded = true)
      (run declarations t { o with maxIterations := m }) := by
  have hcap : max n 1 ≤ max m 1 := by omega
  refine .after _ fun ds => ?_
  exact (loop_upheld hcap _ _ _).map fun _ => answers_of_succeeded

end Iterative

namespace Reflexive

variable {team : Team} {t : Task}

def Passes (x : State × Except Failure (String × Float)) : Prop :=
  ∃ y, x.2 = .ok y

theorem passes_of_succeeded {x : State × Except Failure (String × Float)}
    (h : (conclude x).succeeded = true) : Passes x := by
  obtain ⟨s, y⟩ := x
  cases y with
  | ok y => exact ⟨y, rfl⟩
  | error e => cases e <;> cases h

-- The last attempt of the shorter loop is not criticised, but then it has failed already.
theorem loop_upheld {left left' : Nat} (h : left ≤ left') (limit limit' number : Nat) (s : State) :
    (loop team t limit left number s).Upheld Passes (loop team t limit' left' number s) := by
  induction left generalizing left' number s with
  | zero => exact .lapsed (fun ⟨_, ha⟩ => nomatch ha) _
  | succ left ih =>
    obtain ⟨left', rfl⟩ : ∃ k, left' = k + 1 := ⟨left' - 1, by omega⟩
    rw [loop, loop]
    refine .after _ fun attempted => ?_
    cases output attempted with
    | error e => exact .done _
    | ok text =>
      refine .after _ fun checked => ?_
      cases checked with
      | error e => exact .done _
      | ok v =>
        dsimp only
        by_cases hv : v.passed = true
        · rw [if_pos hv, if_pos hv]
          exact .done _
        rw [if_neg hv, if_neg hv]
        by_cases hleft : left = 0
        · rw [if_pos hleft]
          exact .lapsed (fun ⟨_, ha⟩ => nomatch ha) _
        have hleft' : left' ≠ 0 := by omega
        rw [if_neg hleft, if_neg hleft']
        refine .after _ fun words => ?_
        cases words with
        | error e => exact .done _
        | ok words => exact ih (Nat.le_of_succ_le_succ h) _ _

theorem run_upheld (team : Team) (t : Task) (o : Options) {n m : Nat} (h : n ≤ m) :
    (run team t { o with maxIterations := n }).Upheld (fun r => r.succeeded = true)
      (run team t { o with maxIterations := m }) := by
  have hcap : max n 1 ≤ max m 1 := by omega
  exact (loop_upheld hcap _ _ 1 .start).map fun _ => passes_of_succeeded

end Reflexive

theorem play_upheld {σ : Type} (w : World σ) (team : Team) {strategy : Strategy}
    (hs : strategy = .iterative ∨ strategy = .reflexive) (t : Task) (o : Options) {n m : Nat}
    (h : n ≤ m) {s s' : Session σ} {r : Result}
    (hr : play w team strategy t { o with maxIterations := n } s = (.value r, s'))
    (hsucceeded : r.succeeded = true) :
    play w team strategy t { o with maxIterations := m } s = (.value r, s') := by
  obtain rfl | rfl := hs
  · exact (Iterative.run_upheld team.declarations t o h).run_eq hr hsucceeded
  · exact (Reflexive.run_upheld team t o h).run_eq hr hsucceeded

def relenting : World Nat where
  respond
    | .complete _ => pure (.ok (.ofText "Blue"))
    | .execute _ _ => pure (.ok "")
    | .score _ _ => pure 0
    | .check _ _ => fun n => (.atOnce (if n = 0 then .fail "Say why" else .pass), n + 1)
    | .attempt _ _ => pure (.ok "")

theorem play_upheld_relenting :
    let team : Team := { Team.unaided with validator := .external }
    let played (n : Nat) := play relenting team .reflexive (.ofDescription "Name a colour")
      { Options.default with maxIterations := n } (.start 0 none)
    ∃ r s, played 2 = (.value r, s) ∧ r.succeeded = true ∧ s.calls.length = 5 ∧
      played 7 = (.value r, s) := by
  intro team played
  have hpassed : (played 2).1.value?.map Result.succeeded = some true := by decide +kernel
  have hcalls : (played 2).2.calls.length = 5 := by decide +kernel
  obtain ⟨⟨ended, s⟩, hplayed⟩ : ∃ x, played 2 = x := ⟨_, rfl⟩
  rw [hplayed] at hpassed hcalls
  cases ended with
  | panic text => cases hpassed
  | value r =>
    have hsucceeded : r.succeeded = true := Option.some.inj hpassed
    exact ⟨r, s, hplayed, hsucceeded, hcalls,
      play_upheld relenting team (.inr rfl) _ .default (by decide) hplayed hsucceeded⟩

end Deliberation.Engine
