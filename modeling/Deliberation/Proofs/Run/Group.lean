import Deliberation.Proofs.Run.Abandonment
import Deliberation.Proofs.Run.Return
import Deliberation.Proofs.Run.Soundness

namespace Deliberation.Run

variable {σ β : Type} {w : World σ} {limit : Nat} {s : Session σ}

theorem Outcome.value?_eq_some {o : Outcome β} {b : β} : o.value? = some b ↔ o = .value b := by
  cases o <;> simp [value?]

def Stop.outcome? : Stop β → Option (Outcome β)
  | finished b => some (.value b)
  | crashed t => some (.panic t)
  | asleep _ _ _ _ _ => none

def outcomes (w : World σ) (limit : Nat) (ps : List (Process β)) (s : Session σ) :
    List (Outcome β) :=
  let (stops, s) := startAll w limit ps s
  (settle w limit stops s).stops.filterMap Stop.outcome?

theorem length_startAll (ps : List (Process β)) (s : Session σ) :
    (startAll w limit ps s).1.length = ps.length := by
  induction ps generalizing s with
  | nil => rfl
  | cons p ps ih => exact congrArg (· + 1) (ih _)

theorem settle_startAll (w : World σ) (limit : Nat) (ps : List (Process β)) (s : Session σ) :
    let stops := (settle w limit (startAll w limit ps s).1 (startAll w limit ps s).2).stops
    (∃ os : List (Outcome β), stops = os.map Stop.ofOutcome) ∧ stops.length = ps.length := by
  rw [← length_startAll (w := w) ps s]
  refine settle_induction (P := fun stops _ out =>
    (∃ os : List (Outcome β), out.stops = os.map Stop.ofOutcome) ∧
      out.stops.length = stops.length) ?_ ?_ _ _ (ahead_startAll ps s)
  · intro stops s h
    refine ⟨?_, rfl⟩
    induction stops with
    | nil => exact ⟨[], rfl⟩
    | cons stop stops ih =>
      obtain ⟨hs, h⟩ := List.forall_mem_cons.1 h
      obtain ⟨os, hos⟩ := ih h
      cases stop with
      | finished b => exact ⟨.value b :: os, congrArg _ hos⟩
      | crashed t => exact ⟨.panic t :: os, congrArg _ hos⟩
      | asleep q next wake ticket wait => cases hs
  · intro turn pre stop post s out _ _ ⟨hall, hlength⟩
    refine ⟨hall, hlength.trans ?_⟩
    simp

theorem settle_outcomes (ps : List (Process β)) (s : Session σ) :
    (settle w limit (startAll w limit ps s).1 (startAll w limit ps s).2).stops =
      (outcomes w limit ps s).map Stop.ofOutcome := by
  obtain ⟨⟨os, hos⟩, -⟩ := settle_startAll w limit ps s
  have hsome : Stop.outcome? ∘ Stop.ofOutcome = (some : Outcome β → _) := by
    funext o
    cases o <;> rfl
  rw [outcomes]
  dsimp only
  rw [hos, List.filterMap_map, hsome, List.filterMap_some]

theorem results_outcomes (ps : List (Process β)) (s : Session σ) :
    results w limit ps s = (outcomes w limit ps s).map Outcome.value? := by
  rw [results]
  dsimp only
  rw [settle_outcomes, List.map_map]
  exact List.map_congr_left fun o _ => Stop.result?_ofOutcome o

theorem runAll_outcomes (ps : List (Process β)) (s : Session σ) :
    (runAll w limit ps s).1.Perm ((outcomes w limit ps s).filterMap Outcome.value?) := by
  have hperm := runAll_perm w limit ps s
  rwa [results_outcomes, List.filterMap_map] at hperm

theorem runAll_together (w : World σ) (limit : Nat) (ps : List (Process β)) (s : Session σ) :
    ∃ l, Together (Process.Ends (w.surroundings limit True)) ps l (results w limit ps s) := by
  obtain ⟨l, -, hends⟩ := runAll_ends w limit (e := w.surroundings limit True) ps s fun _ => trivial
  exact ⟨l, hends fun x hx => World.admits_surroundings (reply_of_mem_exchanges hx)⟩

section Numbered

variable {ids : List Nat} {ps : List (Process (Nat × β))}

theorem returned_runAll (h : Numbered ids ps) (s : Session σ) :
    Returned ids (runAll w limit ps s).1 := by
  obtain ⟨l, htogether⟩ := runAll_together w limit ps s
  exact htogether.returned h (runAll_perm w limit ps s)

theorem outcomes_numbered (h : Numbered ids ps) (s : Session σ) :
    List.Forall₂ (fun id o => ∀ x, o = .value x → x.1 = id) ids (outcomes w limit ps s) := by
  obtain ⟨l, htogether⟩ := runAll_together w limit ps s
  have hresults := htogether.numbered h
  rw [results_outcomes, List.forall₂_map_right_iff] at hresults
  exact hresults.imp fun id o ho x hx => ho x (Outcome.value?_eq_some.2 hx)

end Numbered

end Deliberation.Run
