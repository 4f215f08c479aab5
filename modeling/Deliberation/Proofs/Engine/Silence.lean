import Deliberation.Engine.Orchestrator
import Deliberation.Proofs.Engine.Debating
import Deliberation.Proofs.Engine.TreeSearch
import Deliberation.Proofs.Run.Calm
import Deliberation.Proofs.Run.Guard

namespace Deliberation.Run

open Session

variable {σ α β : Type} {w : World σ} {limit : Nat} {s : Session σ}

/-- A log in the order of time, in which no call begins once the run is cancelled: neither from
the instant of the signal on nor after a collaborator has cancelled the run. -/
structure Silenced (signal : Option Nat) (log : List Event) : Prop where
  chronological : log.Pairwise fun a b => a.instant ≤ b.instant
  unsignalled : ∀ call, .began call ∈ log → due signal call.instant = false
  uncancelled : log.Pairwise fun a b => ∀ n, a = .cancelled n → ∀ call, b ≠ .began call

structure Obedient (signal : Option Nat) (s : Session σ) : Prop where
  silenced : Silenced signal s.log
  past : ∀ e ∈ s.log, e.instant ≤ s.now
  signalled : ∀ n, due signal n = true → due s.cancelAt n = true
  cancelled : ∀ n, .cancelled n ∈ s.log → s.cancelled = true

theorem obedient_start (world : σ) (signal : Option Nat) :
    Obedient signal (Session.start world signal) where
  silenced := ⟨.nil, fun _ h => (nomatch h), .nil⟩
  past := fun _ h => nomatch h
  signalled := fun _ h => h
  cancelled := fun _ h => nomatch h

section Obedient

variable {signal : Option Nat} (h : Obedient signal s)
include h

theorem silenced_append {e : Event} (he : e.instant = s.now)
    (hcall : ∀ call, e = .began call → s.cancelled = false) : Silenced signal (s.log ++ [e]) where
  chronological := by
    refine List.pairwise_append.2
      ⟨h.silenced.chronological, List.pairwise_singleton _ _, fun a ha b hb => ?_⟩
    rw [List.mem_singleton.1 hb, he]
    exact h.past a ha
  unsignalled := by
    intro call hmem
    rcases List.mem_append.1 hmem with hmem | hmem
    · exact h.silenced.unsignalled call hmem
    · have hlast : e = .began call := (List.mem_singleton.1 hmem).symm
      have hnow : call.instant = s.now := by rw [← he, hlast, Event.instant]
      rw [hnow]
      exact Bool.eq_false_iff.2 fun hd =>
        Bool.eq_false_iff.1 (hcall call hlast) (h.signalled _ hd)
  uncancelled := by
    refine List.pairwise_append.2 ⟨h.silenced.uncancelled, List.pairwise_singleton _ _, ?_⟩
    rintro a ha b hb n rfl call rfl
    exact Bool.eq_false_iff.1 (hcall call (List.mem_singleton.1 hb).symm) (h.cancelled n ha)

theorem past_append {e : Event} (he : e.instant = s.now) :
    ∀ x ∈ s.log ++ [e], x.instant ≤ s.now := by
  intro x hx
  rcases List.mem_append.1 hx with hx | hx
  · exact h.past x hx
  · rw [List.mem_singleton.1 hx, he]

theorem obedient_begin (hs : s.cancelled = false) (q : Query) :
    Obedient signal (s.begin w q).2 where
  silenced := silenced_append h rfl fun _ _ => hs
  past := past_append h rfl
  signalled := h.signalled
  cancelled := by
    intro n hn
    exact h.cancelled n ((List.mem_append.1 hn).resolve_right fun hn => by simp at hn)

theorem obedient_cancel : Obedient signal s.cancel where
  silenced := silenced_append h rfl fun _ hcall => nomatch hcall
  past := past_append h rfl
  signalled := fun n hn => due_cancel (h.signalled n hn)
  cancelled := fun _ _ => cancelled_cancel s

end Obedient

theorem obedient_kept (w : World σ) (signal : Option Nat) : Kept w (Obedient signal) where
  begin := fun h hs q => obedient_begin h hs q
  cancel := fun h => obedient_cancel h
  sleepTo := fun h _ ht =>
    { silenced := h.silenced
      past := fun e he => Nat.le_trans (h.past e he) ht
      signalled := h.signalled
      cancelled := fun n hn => due_mono ht (h.cancelled n hn) }
  ticket := fun h => ⟨h.silenced, h.past, h.signalled, h.cancelled⟩

theorem Process.Guarded.silenced {p : Process α} (hp : p.Guarded) (world : σ)
    (signal : Option Nat) : Silenced signal (p.run w limit (.start world signal)).2.log :=
  (hp.run (obedient_kept w signal) (obedient_start world signal)).silenced

theorem Program.Guarded.silenced {p : Program β α} (hp : p.Guarded) (world : σ)
    (signal : Option Nat) : Silenced signal (p.run w limit (.start world signal)).2.log :=
  (hp.run (obedient_kept w signal) (obedient_start world signal)).silenced

example : ((Process.call (.execute "" .null) .done).run (.echo "") 0 (.start () (some 0))).2.calls.map
    Call.instant = [0] := by
  decide

end Deliberation.Run

namespace Deliberation.Engine

open Run

theorem complete_guarded (r : Request) : (complete r).Guarded :=
  .guarded fun _ => .done _

namespace Iterative

theorem observation_guarded (t : Task) (call : ToolCall) : (observation t call).Guarded := by
  rw [observation]
  split
  · exact .guarded fun _ => .done _
  · exact .done _

theorem answer_guarded (t : Task) (calls : List ToolCall) (s : State) :
    (answer t calls s).Guarded := by
  induction calls generalizing s with
  | nil => exact .done _
  | cons call calls ih =>
    rw [answer]
    refine .poll fun c => ?_
    cases c with
    | true => exact .done _
    | false =>
      refine (observation_guarded t call).bind fun x => ?_
      cases x with
      | ok text => exact ih _
      | error e => exact .done _

theorem loop_guarded (t : Task) (tools : List ToolDeclaration) (limit left : Nat) (s : State) :
    (loop t tools limit left s).Guarded := by
  induction left generalizing s with
  | zero => exact .done _
  | succ left ih =>
    rw [loop]
    refine (complete_guarded _).bind fun x => ?_
    cases x with
    | error e => exact .done _
    | ok c =>
      dsimp only
      split
      · exact .done _
      · refine (answer_guarded t _ _).bind fun y => ?_
        obtain ⟨s, e⟩ := y
        cases e with
        | some e => exact .done _
        | none => exact ih s

theorem run_guarded (declarations : Outcome (List ToolDeclaration)) (t : Task) (o : Options) :
    (run declarations t o).Guarded := by
  rw [run]
  cases declarations with
  | panic text => exact .crash text
  | value tools => exact (loop_guarded t _ _ _ _).bind fun _ => .done _

end Iterative

namespace Reflexive

theorem attempt_guarded (team : Team) (t : Task) (m : Reflection.Memory) :
    (attempt team t m).Guarded := by
  rw [attempt]
  cases team.attempter with
  | backend => exact (complete_guarded _).bind fun _ => .done _
  | external => exact .guarded fun _ => .done _

theorem check_guarded (team : Team) (t : Task) (text : String) :
    (check team t text).Guarded := by
  rw [check]
  cases team.validator <;> exact .guarded fun _ => .done _

theorem critique_guarded (t : Task) (m : Reflection.Memory) : (critique t m).Guarded :=
  (complete_guarded _).bind fun _ => .done _

theorem loop_guarded (team : Team) (t : Task) (limit left number : Nat) (s : State) :
    (loop team t limit left number s).Guarded := by
  induction left generalizing number s with
  | zero => exact .done _
  | succ left ih =>
    rw [loop]
    refine (attempt_guarded team t s.memory).bind fun x => ?_
    cases output x with
    | error e => exact .done _
    | ok text =>
      refine (check_guarded team t text).bind fun y => ?_
      cases y with
      | error e => exact .done _
      | ok v =>
        dsimp only
        split
        · exact .done _
        · split
          · exact .done _
          · refine (critique_guarded t _).bind fun z => ?_
            cases z with
            | error e => exact .done _
            | ok words => exact ih _ _

theorem run_guarded (team : Team) (t : Task) (o : Options) : (run team t o).Guarded :=
  (loop_guarded team t _ _ _ _).bind fun _ => .done _

end Reflexive

namespace TreeSearch

theorem evaluate_guarded (team : Team) (t : Task) (candidate : String) :
    (evaluate team t candidate).Guarded := by
  rw [evaluate]
  cases team.evaluator with
  | backend => exact .guarded fun _ => .done _
  | heuristic => exact .poll fun _ => .done _
  | external => exact .guarded fun _ => .done _

theorem scoreAll_guarded (team : Team) (t : Task) (cs : List String) :
    (scoreAll team t cs).Guarded := by
  induction cs with
  | nil => exact .done _
  | cons c cs ih =>
    rw [scoreAll]
    refine (evaluate_guarded team t c).bind fun x => ?_
    cases finiteScore x with
    | error e => exact .done _
    | ok score => exact ih.bind fun _ => .done _

theorem expandNode_guarded (team : Team) (t : Task) (count : Nat) (tree : Search.Tree) (id : Nat) :
    (expandNode team t count tree id).Guarded := by
  refine Process.Guarded.bind (.bind (complete_guarded _) fun x => ?_) fun _ => .done _
  cases x.bind fun c => Reply.candidates c.text count with
  | error e => exact .done _
  | ok cs => exact scoreAll_guarded team t cs

theorem workers_guarded (team : Team) (t : Task) (b : Bounds) (s : State) :
    ∀ p ∈ workers team t b s, p.Guarded := by
  intro p hp
  obtain ⟨id, -, rfl⟩ := List.mem_map.1 hp
  exact expandNode_guarded team t b.branch s.tree id

theorem explore_guarded (team : Team) (t : Task) (b : Bounds) (depths : Nat) (s : State) :
    (explore team t b depths s).Guarded :=
  explore_induction .done .poll (fun s => .fork (workers_guarded team t b s)) depths s

theorem search_guarded (team : Team) (t : Task) (o : Options) : (search team t o).Guarded :=
  (explore_guarded team t _ _ _).bind fun _ => .done _

end TreeSearch

namespace Debating

theorem speakers_guarded (t : Task) (names : List String) (soFar : String) (round : Nat) :
    ∀ p ∈ speakers t names soFar round, p.Guarded := by
  intro p hp
  obtain ⟨x, -, rfl⟩ := List.mem_map.1 hp
  exact (complete_guarded _).bind fun _ => .done _

theorem rounds_guarded (t : Task) (names : List String) (left round : Nat) (s : State) :
    (rounds t names left round s).Guarded :=
  rounds_induction .done .poll
    (fun soFar round => .fork (speakers_guarded t names soFar round)) left round s

theorem judge_guarded (t : Task) (arguments : List Debate.Argument) :
    (judge t arguments).Guarded := by
  refine (complete_guarded _).bind fun x => ?_
  split <;> exact .done _

theorem hold_guarded (t : Task) (names : List String) (o : Options) :
    (hold t names o).Guarded := by
  refine (rounds_guarded t names _ 0 .start).bind fun r => ?_
  obtain ⟨s, e⟩ := r
  cases e with
  | some e => exact .done _
  | none => exact (judge_guarded t s.arguments).lift.bind fun _ => .done _

end Debating

variable {σ : Type}

theorem no_call_once_cancelled (w : World σ) (team : Team) (t : Task) (o : Options)
    (names : List String) (world : σ) (signal : Option Nat) :
    (∀ strategy, Silenced signal (play w team strategy t o (.start world signal)).2.log) ∧
      Silenced signal
        ((Debating.hold t names o).run w o.callTimeoutMs (.start world signal)).2.log := by
  refine ⟨fun strategy => ?_, (Debating.hold_guarded t names o).silenced world signal⟩
  cases strategy with
  | iterative => exact (Iterative.run_guarded _ t o).silenced world signal
  | reflexive => exact (Reflexive.run_guarded team t o).silenced world signal
  | treeSearch =>
    exact ((TreeSearch.search_guarded team t o).bind fun _ => .done _).silenced world signal
  | debate =>
    exact ((Debating.hold_guarded t (Debating.debaters o) o).bind fun _ => .done _).silenced world
      signal

end Deliberation.Engine
