import Deliberation.Run.Session

namespace Deliberation.Run

inductive Lower {α : Type} (r : α → α → Prop) : List α → List α → Prop
  | head {a b : α} {l : List α} (h : r a b) : Lower r (a :: l) (b :: l)
  | tail {a : α} {l m : List α} (h : Lower r l m) : Lower r (a :: l) (a :: m)

theorem acc_lower_cons {α : Type} {r : α → α → Prop} {a : α} (ha : Acc r a) :
    ∀ {l : List α}, Acc (Lower r) l → Acc (Lower r) (a :: l) := by
  induction ha with
  | intro a _ iha =>
    intro l hl
    induction hl with
    | intro l hl ihl =>
      refine ⟨_, fun m h => ?_⟩
      cases h with
      | head h => exact iha _ h ⟨_, hl⟩
      | tail h => exact ihl _ h

theorem wellFounded_lower {α : Type} {r : α → α → Prop} (h : WellFounded r) :
    WellFounded (Lower r) := by
  refine ⟨fun l => ?_⟩
  induction l with
  | nil => exact ⟨_, fun _ h => nomatch h⟩
  | cons a l ih => exact acc_lower_cons (h.apply a) ih

abbrev Beneath {β : Type} : Process β → Process β → Prop :=
  Relation.TransGen Process.Below

structure Group (β : Type) where
  rests : List (Process β)

instance {β : Type} : WellFoundedRelation (Group β) where
  rel a b := Lower Beneath a.rests b.rests
  wf := InvImage.wf Group.rests (wellFounded_lower Process.wellFounded_below.transGen)

variable {σ β : Type}

theorem Process.rest_advance {w : World σ} {limit : Nat} {p : Process β} {s : Session σ} :
    ∀ {q : Query} {next : Except Failure q.Answer → Process β},
      Process.Below p (.call q next) ∨ Beneath p (.call q next) →
        Beneath (p.advance w limit s).1.rest (.call q next) := by
  intro q next h
  have hb : Beneath p (.call q next) := h.elim Relation.TransGen.single id
  clear h
  induction p generalizing s with
  | done a => exact hb
  | crash t => exact hb
  | poll next' ih => exact ih _ (.trans (.single (.poll _ _)) hb)
  | call q' next' ih =>
    rw [advance]
    dsimp only
    split
    · split
      · exact ih _ (.trans (.single (.call _ _ _)) hb)
      · exact .single (.crash _ _ _)
    · exact hb

theorem Stop.rest_resume (w : World σ) (limit : Nat) (q : Query)
    (next : Except Failure q.Answer → Process β) (wake ticket : Nat) (wait : Wait q.Answer)
    (s : Session σ) :
    Beneath ((asleep q next wake ticket wait).resume w limit s).1.rest (.call q next) := by
  simp only [resume]
  split
  · exact Process.rest_advance (.inl (.call _ _ _))
  · exact .single (.crash _ _ _)

def Stop.turn? (s : Session σ) : Stop β → Option (Nat × Nat)
  | asleep _ _ wake ticket _ => some (s.rouse wake, ticket)
  | _ => none

def sooner (a b : Nat × Nat) : Bool :=
  a.1 < b.1 || a.1 == b.1 && a.2 ≤ b.2

def soonest? (s : Session σ) : List (Stop β) → Option (Nat × Nat)
  | [] => none
  | stop :: r =>
    match stop.turn? s, soonest? s r with
    | some a, some b => some (if sooner a b then a else b)
    | some a, none => some a
    | none, b => b

structure Resumption (σ β : Type) where
  stop : Stop β
  stops : List (Stop β)
  session : Session σ

def resumeAt (w : World σ) (limit : Nat) (turn : Nat × Nat) (s : Session σ) :
    List (Stop β) → Option (Resumption σ β)
  | [] => none
  | stop :: r =>
    if stop.turn? s = some turn then
      let (stop, s) := stop.resume w limit s
      some ⟨stop, stop :: r, s⟩
    else (resumeAt w limit turn s r).map fun x => { x with stops := stop :: x.stops }

theorem lower_of_resumeAt {w : World σ} {limit : Nat} {turn : Nat × Nat} {s : Session σ}
    {stops : List (Stop β)} {x : Resumption σ β} (h : resumeAt w limit turn s stops = some x) :
    Lower Beneath (x.stops.map Stop.rest) (stops.map Stop.rest) := by
  induction stops generalizing x with
  | nil => simp [resumeAt] at h
  | cons stop r ih =>
    rw [resumeAt] at h
    split at h
    · next ht =>
      cases h
      cases stop with
      | finished a => simp [Stop.turn?] at ht
      | crashed t => simp [Stop.turn?] at ht
      | asleep q next wake ticket wait =>
        exact .head (Stop.rest_resume w limit q next wake ticket wait s)
    · obtain ⟨y, hr, he⟩ := Option.map_eq_some_iff.1 h
      cases he
      exact .tail (ih hr)

def Stop.result? : Stop β → Option β
  | finished b => some b
  | _ => none

/-- Where processes stand when none of them sleeps, and the values of those that have ended since
they were started, in the order in which they ended. -/
structure Standstill (σ β : Type) where
  stops : List (Stop β)
  joined : List β
  session : Session σ

/-- Wakes sleepers one after the other until all have ended. Those that wake at the same instant
take turns as they fell asleep. -/
def settle (w : World σ) (limit : Nat) (stops : List (Stop β)) (s : Session σ) : Standstill σ β :=
  match _h : (soonest? s stops).bind fun turn => resumeAt w limit turn s stops with
  | some x =>
    let y := settle w limit x.stops x.session
    { y with joined := x.stop.result?.toList ++ y.joined }
  | none => ⟨stops, [], s⟩
termination_by Group.mk (stops.map Stop.rest)
decreasing_by
  obtain ⟨_, _, h⟩ := Option.bind_eq_some_iff.1 _h
  exact lower_of_resumeAt h

def startAll (w : World σ) (limit : Nat) : List (Process β) → Session σ → List (Stop β) × Session σ
  | [], s => ([], s)
  | p :: r, s =>
    let (stop, s) := p.advance w limit s
    let (stops, s) := startAll w limit r s
    (stop :: stops, s)

/-- Runs processes side by side, and gives their values in the order in which they end. One that
panics has no value. -/
def runAll (w : World σ) (limit : Nat) (ps : List (Process β)) (s : Session σ) :
    List β × Session σ :=
  let (stops, s) := startAll w limit ps s
  let x := settle w limit stops s
  (stops.filterMap Stop.result? ++ x.joined, x.session)

end Deliberation.Run
