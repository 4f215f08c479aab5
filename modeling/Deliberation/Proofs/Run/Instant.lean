import Deliberation.Proofs.Run.Ends
import Deliberation.Proofs.Run.Schedule

namespace Deliberation.Run

variable {σ α β γ : Type} {w : World σ} {limit turns : Nat}

def Stop.asleep? : Stop β → Bool
  | asleep _ _ _ _ _ => true
  | _ => false

theorem Stop.turn?_of_awake {stop : Stop β} (h : stop.asleep? = false) (s : Session σ) :
    stop.turn? s = none := by
  cases stop with
  | finished a => rfl
  | crashed t => rfl
  | asleep q next wake ticket wait => cases h

theorem settle_awake {stops : List (Stop β)} {s : Session σ}
    (h : stops.all (fun stop => !stop.asleep?) = true) :
    settle w limit stops s = ⟨stops, [], s⟩ := by
  refine settle_ended fun stop hm => ?_
  have hawake := List.all_eq_true.1 h stop hm
  exact Stop.turn?_of_awake (by simpa using hawake) _

theorem runAll_awake {ps : List (Process β)} {s : Session σ}
    (h : (startAll w limit ps s).1.all (fun stop => !stop.asleep?) = true) :
    runAll w limit ps s =
      ((startAll w limit ps s).1.filterMap Stop.result?, (startAll w limit ps s).2) := by
  simp only [runAll, settle_awake h, List.append_nil]

def settleIn? (w : World σ) (limit : Nat) :
    Nat → List (Stop β) → Session σ → Option (Standstill σ β)
  | 0, stops, s => if stops.all (fun stop => !stop.asleep?) then some ⟨stops, [], s⟩ else none
  | turns + 1, stops, s =>
    match (soonest? s stops).bind fun turn => resumeAt w limit turn s stops with
    | some x => (settleIn? w limit turns x.stops x.session).map fun y =>
      { y with joined := x.stop.result?.toList ++ y.joined }
    | none => some ⟨stops, [], s⟩

theorem settle_of_settleIn? {stops : List (Stop β)} {s : Session σ} {out : Standstill σ β}
    (h : settleIn? w limit turns stops s = some out) : settle w limit stops s = out := by
  induction turns generalizing stops s out with
  | zero =>
    rw [settleIn?] at h
    split at h
    · next hawake =>
      cases h
      exact settle_awake hawake
    · cases h
  | succ turns ih =>
    rw [settleIn?] at h
    split at h
    · next x hx =>
      obtain ⟨y, hy, rfl⟩ := Option.map_eq_some_iff.1 h
      rw [settle_step hx, ih hy]
    · next hx =>
      cases h
      exact settle_ended (ended_of_stuck hx)

def Program.runIn? (w : World σ) (limit turns : Nat) :
    Program β α → Session σ → Option (Outcome α × Session σ)
  | .done a, s => some (.value a, s)
  | .crash t, s => some (.panic t, s)
  | .poll next, s => (next s.cancelled).runIn? w limit turns s
  | .call q next, s =>
    match s.perform w limit q with
    | (.value a, s) => (next a).runIn? w limit turns s
    | (.panic t, s) => some (.panic t, s)
  | .fork ps next, s =>
    let (stops, s) := startAll w limit ps s
    match settleIn? w limit turns stops s with
    | some x => (next (stops.filterMap Stop.result? ++ x.joined)).runIn? w limit turns x.session
    | none => none

theorem Program.run_of_runIn? {p : Program β α} {s : Session σ} {out : Outcome α × Session σ}
    (h : p.runIn? w limit turns s = some out) : p.run w limit s = out := by
  induction p generalizing s with
  | done a => exact Option.some.inj h
  | crash t => exact Option.some.inj h
  | poll next ih => exact ih _ h
  | call q next ih =>
    rw [runIn?] at h
    rw [run]
    generalize s.perform w limit q = ended at h ⊢
    obtain ⟨o, s⟩ := ended
    cases o with
    | value a => exact ih a h
    | panic t => exact Option.some.inj h
  | fork ps next ih =>
    rw [runIn?] at h
    rw [run, runAll]
    dsimp only at h ⊢
    split at h
    · next x hx =>
      rw [settle_of_settleIn? hx]
      exact ih _ h
    · cases h

theorem Program.value_of_runIn? {p : Program β α} {s : Session σ} {f : α → γ} {c : γ}
    (h : (p.runIn? w limit turns s).bind (fun out => out.1.value?.map f) = some c) :
    ∃ a, (p.run w limit s).1 = .value a ∧ f a = c := by
  obtain ⟨⟨o, s'⟩, hrun, ho⟩ := Option.bind_eq_some_iff.1 h
  rw [run_of_runIn? hrun]
  cases o with
  | value a => exact ⟨a, rfl, Option.some.inj ho⟩
  | panic t => cases ho

end Deliberation.Run
