import Deliberation.Proofs.Engine.Debating
import Deliberation.Proofs.Engine.Depth
import Deliberation.Proofs.Engine.TreeSearch
import Deliberation.Proofs.Run.Evaluation
import Deliberation.Proofs.Run.Instant

namespace Deliberation.Engine

open Run

def Consults : Query → Prop
  | .complete _ => True
  | .score _ _ => True
  | _ => False

theorem complete_consults (r : Request) : (complete r).Asks Consults :=
  .guarded trivial fun _ => .done _

namespace TreeSearch

theorem workers_consult (team : Team) (t : Task) (b : Bounds) (s : State) :
    ∀ p ∈ workers team t b s, p.Asks Consults := by
  intro p hp
  obtain ⟨id, -, rfl⟩ := List.mem_map.1 hp
  refine expandNode_asks (fun q hq => ?_) team trivial
  obtain ⟨c, rfl | rfl⟩ := hq <;> trivial

theorem explore_consults (team : Team) (t : Task) (b : Bounds) (depths : Nat) (s : State) :
    (explore team t b depths s).Asks Consults :=
  explore_induction .done .poll (fun s => .fork (workers_consult team t b s)) depths s

theorem search_consults (team : Team) (t : Task) (o : Options) :
    (search team t o).Asks Consults :=
  (explore_consults team t _ _ _).bind fun _ => .done _

-- By induction on the depths left: the ids in the frontier stay those of different nodes, so the
-- sorted expansions do not show in which order the workers have ended.
theorem explore_orderly (team : Team) (t : Task) (b : Bounds) {d : Nat} (depths : Nat) {s : State}
    (hs : Standing d s) : (explore team t b depths s).Orderly := by
  induction depths generalizing d s with
  | zero => exact .done _
  | succ depths ih =>
    rw [explore]
    split
    · exact .done _
    · refine .poll fun c => ?_
      cases c with
      | true => exact .done _
      | false =>
        refine Program.orderly_together_bind hs.nodup (workers_numbered team t b s)
          (fun l m hperm hr => ?_) fun joined hr => .poll fun c => ?_
        · dsimp only
          rw [inOrder_eq_of_perm hperm (hr.nodup hs.nodup), hperm.any_eq]
        · cases c with
          | true => exact .done _
          | false =>
            dsimp only
            split
            · exact .done _
            · split
              · exact .done _
              · exact ih (hs.next (hr.perm (inOrder_perm joined)) b.beam)

theorem search_orderly (team : Team) (t : Task) (o : Options) : (search team t o).Orderly :=
  (explore_orderly team t _ _ (standing_start t)).bind fun _ => .done _

end TreeSearch

namespace Debating

theorem speakers_consult (t : Task) (names : List String) (soFar : String) (round : Nat) :
    ∀ p ∈ speakers t names soFar round, p.Asks Consults := by
  intro p hp
  obtain ⟨x, -, rfl⟩ := List.mem_map.1 hp
  exact speak_asks trivial x.2

theorem rounds_consults (t : Task) (names : List String) (left round : Nat) (s : State) :
    (rounds t names left round s).Asks Consults :=
  rounds_induction .done .poll
    (fun soFar round => .fork (speakers_consult t names soFar round)) left round s

theorem judge_consults (t : Task) (arguments : List Debate.Argument) :
    (judge t arguments).Asks Consults := by
  refine (complete_consults _).bind fun x => ?_
  split <;> exact .done _

theorem hold_consults (t : Task) (names : List String) (o : Options) :
    (hold t names o).Asks Consults := by
  refine (rounds_consults t names _ 0 .start).bind fun r => ?_
  obtain ⟨s, e⟩ := r
  cases e with
  | some e => exact .done _
  | none => exact (judge_consults t s.arguments).lift.bind fun _ => .done _

theorem rounds_orderly (t : Task) (names : List String) (left round : Nat) (s : State) :
    (rounds t names left round s).Orderly := by
  induction left generalizing round s with
  | zero => exact .done _
  | succ left ih =>
    rw [rounds]
    refine .poll fun c => ?_
    cases c with
    | true => exact .done _
    | false =>
      refine Program.orderly_together_bind List.nodup_range (speakers_numbered t names _ round)
        (fun l m hperm hr => ?_) fun joined _ => .poll fun c => ?_
      · rw [heard, heard, inOrder_eq_of_perm hperm (hr.nodup List.nodup_range)]
      · cases c with
        | true => exact .done _
        | false =>
          dsimp only
          split
          · exact .done _
          · split
            · exact .done _
            · exact ih _ _

theorem hold_orderly (t : Task) (names : List String) (o : Options) :
    (hold t names o).Orderly := by
  refine (rounds_orderly t names _ 0 .start).bind fun r => ?_
  obtain ⟨s, e⟩ := r
  cases e with
  | some e => exact .done _
  | none => exact (Process.orderly_lift _).bind fun _ => .done _

end Debating

theorem delays_immaterial {σ τ : Type} {answers : (q : Query) → Outcome q.Answer} (o : Options)
    {w : World σ} {w' : World τ} (hw : w.Answers Consults answers o.callTimeoutMs)
    (hw' : w'.Answers Consults answers o.callTimeoutMs) (world : σ) (world' : τ) (team : Team)
    (t : Task) (names : List String) :
    ((TreeSearch.search team t o).run w o.callTimeoutMs (.start world none)).1 =
        ((TreeSearch.search team t o).run w' o.callTimeoutMs (.start world' none)).1 ∧
      ((Debating.hold t names o).run w o.callTimeoutMs (.start world none)).1 =
        ((Debating.hold t names o).run w' o.callTimeoutMs (.start world' none)).1 := by
  have hsearch := TreeSearch.search_consults team t o
  have hhold := Debating.hold_consults t names o
  -- in both worlds a program comes to what its answers alone make of it
  constructor
  · have horderly := TreeSearch.search_orderly team t o
    rw [Program.run_eval hw hsearch horderly rfl, Program.run_eval hw' hsearch horderly rfl]
  · have horderly := Debating.hold_orderly t names o
    rw [Program.run_eval hw hhold horderly rfl, Program.run_eval hw' hhold horderly rfl]

def repeated : (q : Query) → q.Answer
  | .complete r => .ok (.ofText r.text)
  | .execute name _ => .ok name
  | .score _ _ => 1
  | .check _ _ => .pass
  | .attempt t _ => .ok t.description

def mirror (delays : Nat → Nat) : World Nat where
  respond q n := (⟨none, delays n, .value (repeated q)⟩, n + 1)

theorem answers_mirror {delays : Nat → Nat} {limit : Nat} (h : ∀ n, delays n ≤ limit)
    (P : Query → Prop) : (mirror delays).Answers P (fun q => .value (repeated q)) limit where
  calm := fun _ _ _ => rfl
  prompt := fun _ n _ => h n
  answered := fun _ _ _ => rfl

example :
    let t := Task.ofDescription "Name a colour"
    let ids (delays : Nat → Nat) := ((Program.together
      (Debating.speakers t ["first", "second"] "" 0)).runIn? (mirror delays) 9 2
        (.start 0 none)).bind fun out => out.1.value?.map (List.map Prod.fst)
    ids (fun n => n) = some [0, 1] ∧ ids (fun n => 2 - n) = some [1, 0] := by
  decide +kernel

theorem delays_immaterial_mirrored :
    let o := Options.default
    let t := Task.ofDescription "Name a colour"
    let said := fun q => Outcome.value (repeated q)
    let falling := mirror fun n => 9 - n
    let cycling := mirror fun n => n % 7
    falling.Answers Consults said o.callTimeoutMs ∧ cycling.Answers Consults said o.callTimeoutMs ∧
      ((TreeSearch.search .unaided t o).run falling o.callTimeoutMs (.start 0 none)).1 =
        ((TreeSearch.search .unaided t o).run cycling o.callTimeoutMs (.start 0 none)).1 ∧
      ((Debating.hold t ["first", "second"] o).run falling o.callTimeoutMs (.start 0 none)).1 =
        ((Debating.hold t ["first", "second"] o).run cycling o.callTimeoutMs (.start 0 none)).1 := by
  intro o t said falling cycling
  have hlimit : o.callTimeoutMs = 60000 := rfl
  have hfalling : falling.Answers Consults said o.callTimeoutMs :=
    answers_mirror (fun n => by omega) _
  have hcycling : cycling.Answers Consults said o.callTimeoutMs :=
    answers_mirror (fun n => by omega) _
  exact ⟨hfalling, hcycling,
    delays_immaterial o hfalling hcycling 0 0 .unaided t ["first", "second"]⟩

end Deliberation.Engine
