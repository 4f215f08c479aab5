import Deliberation.Engine.Debating
import Deliberation.Proofs.Prompt
import Deliberation.Proofs.Run.Footprint
import Deliberation.Proofs.Run.Return

namespace Deliberation.Engine.Debating

open Run Debate

variable {e : Surroundings} {l : List Query} {t : Task} {names : List String}

def Judges (t : Task) (q : Query) : Prop :=
  ∃ arguments, q = .complete (judgeRequest t arguments)

theorem debaterRequest_ne_judgeRequest (t t' : Task) (name soFar : String) (round : Nat)
    (arguments : List Argument) :
    debaterRequest t name soFar round ≠ judgeRequest t' arguments := by
  intro h
  have hm := (List.cons.inj (Request.mk.inj h).1).1
  exact Prompt.debater_ne_judge name (Message.mk.inj hm).2.1

theorem speak_asks {P : Query → Prop} {name soFar : String} {round : Nat}
    (hq : P (.complete (debaterRequest t name soFar round))) (id : Nat) :
    (speak t soFar round name id).Asks P :=
  Process.Asks.bind (.guarded hq fun _ => .done _) fun _ => .done _

theorem speakers_numbered (t : Task) (names : List String) (soFar : String) (round : Nat) :
    Numbered (List.range names.length) (speakers t names soFar round) := by
  rw [List.range_eq_range', ← List.zipIdx_map_snd 0 names, speakers]
  refine List.forall₂_map_left_iff.2 (List.forall₂_map_right_iff.2 ?_)
  refine List.forall₂_same.2 fun x _ => Process.Returns.bind (fun _ => .done ?_) _
  rfl

namespace State

def addAll (s : State) (as : List Argument) : State :=
  ⟨s.arguments ++ as, s.trace.recordAll .argue (as.map Argument.line)⟩

theorem addAll_nil (s : State) : s.addAll [] = s := by
  simp [addAll, Trace.recordAll]

theorem addAll_cons (s : State) (a : Argument) (as : List Argument) :
    s.addAll (a :: as) = (s.add a).addAll as := by
  simp [addAll, add, Trace.recordAll]

end State

def argument? (round : Nat) : Nat × String × Speech → Option Argument
  | (id, name, .ok text) => if Text.blankString text then none else some ⟨round, id, name, text⟩
  | (_, _, .error _) => none

theorem takeIn_extends (round : Nat) (hs : List (Nat × String × Speech)) (s : State)
    (x : Option Failure) : ∃ as, (takeIn round hs s x).1 = s.addAll as := by
  induction hs generalizing s x with
  | nil => exact ⟨[], (State.addAll_nil s).symm⟩
  | cons h hs ih =>
    obtain ⟨id, name, speech⟩ := h
    cases speech with
    | ok text =>
      rw [takeIn]
      split
      · exact ih s x
      · obtain ⟨as, ha⟩ := ih (s.add ⟨round, id, name, text⟩) x
        exact ⟨_ :: as, ha.trans (State.addAll_cons _ _ _).symm⟩
    | error f =>
      cases f with
      | cancelled => exact ⟨[], (State.addAll_nil s).symm⟩
      | _ => exact ih s _

theorem takeIn_uncancelled {round : Nat} {hs : List (Nat × String × Speech)} {s : State}
    {x : Option Failure} (h : ∀ y ∈ hs, y.2.2 ≠ .error .cancelled) :
    ∃ x', takeIn round hs s x = (s.addAll (hs.filterMap (argument? round)), x', false) := by
  induction hs generalizing s x with
  | nil => exact ⟨x, by rw [List.filterMap_nil, State.addAll_nil, takeIn]⟩
  | cons y hs ih =>
    have hr : ∀ y ∈ hs, y.2.2 ≠ .error .cancelled := fun y hy => h y (List.mem_cons_of_mem _ hy)
    have hy := h y List.mem_cons_self
    obtain ⟨id, name, speech⟩ := y
    cases speech with
    | ok text =>
      rw [takeIn, List.filterMap_cons, argument?]
      by_cases hb : Text.blankString text = true
      · rw [if_pos hb, if_pos hb]
        exact ih hr
      · rw [if_neg hb, if_neg hb]
        dsimp only
        rw [State.addAll_cons]
        exact ih hr
    | error f =>
      cases f with
      | cancelled => exact absurd rfl hy
      | _ => exact ih hr

structure Joined (e : Surroundings) (t : Task) (names : List String) (soFar : String) (round : Nat)
    (l : List Query) (rs : List (Option (Nat × Speech))) (joined : List (Nat × Speech)) :
    Prop where
  together : Together (Process.Ends e) (speakers t names soFar round) l rs
  perm : joined.Perm (rs.filterMap id)

theorem rounds_induction {P : Program (Nat × Speech) (State × Option Failure) → Prop}
    (done : ∀ a, P (.done a)) (poll : ∀ {next}, (∀ c, P (next c)) → P (.poll next))
    (fork : ∀ soFar round {next}, (∀ joined, P (next joined)) →
      P (.fork (speakers t names soFar round) next))
    (left round : Nat) (s : State) : P (rounds t names left round s) := by
  induction left generalizing round s with
  | zero => exact done _
  | succ left ih =>
    rw [rounds]
    refine poll fun c => ?_
    cases c with
    | true => exact done _
    | false =>
      refine fork _ round fun joined => poll fun c => ?_
      cases c with
      | true => exact done _
      | false =>
        dsimp only
        split
        · exact done _
        · split
          · exact done _
          · exact ih _ _

theorem rounds_ends {left round : Nat} {s : State} {o : Outcome (State × Option Failure)}
    (h : (rounds t names (left + 1) round s).Ends e l o) :
    (o = .value (s, some .cancelled) ∧ e.cancels) ∨
      ∃ rs joined m n, l = m ++ n ∧
        Joined e t names (debateSoFar s.arguments) round m rs joined ∧
          ∃ s₁ x gaveUp, takeIn round (heard names joined) s none = (s₁, x, gaveUp) ∧
            ((gaveUp = true ∧ n = [] ∧ o = .value (s₁, some .cancelled)) ∨
              (gaveUp = false ∧ s₁.arguments.length = s.arguments.length ∧ n = [] ∧
                o = .value (s₁, some (x.getD (silent round)))) ∨
              (gaveUp = false ∧ s₁.arguments.length ≠ s.arguments.length ∧
                (rounds t names left (round + 1) s₁).Ends e n o)) := by
  rw [rounds] at h
  obtain ⟨c, hc, h⟩ := Program.ends_cancelled_bind h
  cases c with
  | true =>
    cases h
    exact .inl ⟨rfl, hc rfl⟩
  | false =>
    obtain ⟨rs, joined, m, n, rfl, hw, hj, h⟩ := Program.ends_together_bind h
    obtain ⟨c, hc₁, h⟩ := Program.ends_cancelled_bind h
    cases c with
    | true =>
      cases h
      exact .inl ⟨rfl, hc₁ rfl⟩
    | false =>
      refine .inr ⟨rs, joined, m, n, rfl, ⟨hw, hj⟩, _, _, _, rfl, ?_⟩
      simp only [Bool.false_eq_true, ↓reduceIte] at h
      split at h
      · next ht =>
        cases h
        rw [ht]
        exact .inl ⟨rfl, rfl, rfl⟩
      · next ht =>
        rw [ht]
        split at h
        · next hl =>
          cases h
          exact .inr (.inl ⟨rfl, hl, rfl, rfl⟩)
        · next hl => exact .inr (.inr ⟨rfl, hl, h⟩)

end Deliberation.Engine.Debating
