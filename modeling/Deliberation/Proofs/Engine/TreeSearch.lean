import Deliberation.Engine.TreeSearch
import Deliberation.Proofs.Run.Return

namespace Deliberation.Engine.TreeSearch

open Run Search

variable {e : Surroundings} {l : List Query} {team : Team} {t : Task} {b : Bounds}

theorem isCancelled_iff {x : Expansion} : isCancelled x = true ↔ x = .error .cancelled := by
  constructor
  · intro h
    unfold isCancelled at h
    split at h
    · rfl
    · cases h
  · rintro rfl
    rfl

theorem workers_numbered (team : Team) (t : Task) (b : Bounds) (s : State) :
    Numbered s.frontier (workers team t b s) := by
  refine List.forall₂_map_right_iff.2 (List.forall₂_same.2 fun id _ => ?_)
  refine Process.Returns.bind (fun _ => .done ?_) _
  rfl

structure Joined (e : Surroundings) (team : Team) (t : Task) (b : Bounds) (s : State)
    (l : List Query) (rs : List (Option (Nat × Expansion))) (joined : List (Nat × Expansion)) :
    Prop where
  together : Together (Process.Ends e) (workers team t b s) l rs
  perm : joined.Perm (rs.filterMap id)

theorem Joined.returned {s : State} {rs : List (Option (Nat × Expansion))}
    {joined : List (Nat × Expansion)} (h : Joined e team t b s l rs joined) :
    Returned s.frontier joined :=
  h.together.returned (workers_numbered team t b s) h.perm

theorem Joined.mem {s : State} {rs : List (Option (Nat × Expansion))}
    {joined : List (Nat × Expansion)} (h : Joined e team t b s l rs joined) {x : Nat × Expansion}
    (hx : x ∈ joined) : some x ∈ rs := by
  obtain ⟨_, hr, rfl⟩ := List.mem_filterMap.1 (h.perm.mem_iff.1 hx)
  exact hr

theorem explore_induction {P : Program (Nat × Expansion) (State × Option Failure) → Prop}
    (done : ∀ a, P (.done a)) (poll : ∀ {next}, (∀ c, P (next c)) → P (.poll next))
    (fork : ∀ s {next}, (∀ joined, P (next joined)) → P (.fork (workers team t b s) next))
    (depths : Nat) (s : State) : P (explore team t b depths s) := by
  induction depths generalizing s with
  | zero => exact done _
  | succ depths ih =>
    rw [explore]
    split
    · exact done _
    · refine poll fun c => ?_
      cases c with
      | true => exact done _
      | false =>
        refine fork s fun joined => poll fun c => ?_
        cases c with
        | true => exact done _
        | false =>
          dsimp only
          split
          · exact done _
          · split
            · exact done _
            · exact ih _

theorem explore_ends {depths : Nat} {s : State} {o : Outcome (State × Option Failure)}
    (h : (explore team t b (depths + 1) s).Ends e l o) :
    (s.frontier = [] ∧ l = [] ∧ o = .value (s, none)) ∨
      (o = .value (s, some .cancelled) ∧ (e.cancels ∨
        ∃ rs joined m, Joined e team t b s m rs joined ∧
          ∃ x ∈ joined, isCancelled x.2 = true)) ∨
      ∃ rs joined m n, l = m ++ n ∧ Joined e team t b s m rs joined ∧
        ∃ s₁, s₁ = s.enterAll (inOrder joined) ∧
          ((s₁.exceeds b.floor = true ∧ n = [] ∧ o = .value (s₁, none)) ∨
            (s₁.exceeds b.floor = false ∧
              (explore team t b depths (s₁.retain b.beam)).Ends e n o)) := by
  rw [explore] at h
  split at h
  · next hf =>
    cases h
    exact .inl ⟨List.isEmpty_iff.1 hf, rfl, rfl⟩
  · obtain ⟨c, hc, h⟩ := Program.ends_cancelled_bind h
    cases c with
    | true =>
      cases h
      exact .inr (.inl ⟨rfl, .inl (hc rfl)⟩)
    | false =>
      obtain ⟨rs, joined, m, n, rfl, hw, hj, h⟩ := Program.ends_together_bind h
      obtain ⟨c, hc₁, h⟩ := Program.ends_cancelled_bind h
      cases c with
      | true =>
        cases h
        exact .inr (.inl ⟨rfl, .inl (hc₁ rfl)⟩)
      | false =>
        simp only [Bool.false_eq_true, ↓reduceIte] at h
        split at h
        · next hx =>
          cases h
          obtain ⟨x, hm, hx⟩ := List.any_eq_true.1 hx
          exact .inr (.inl ⟨rfl, .inr ⟨rs, joined, m, ⟨hw, hj⟩, x, hm, hx⟩⟩)
        · refine .inr (.inr ⟨rs, joined, m, n, rfl, ⟨hw, hj⟩, _, rfl, ?_⟩)
          split at h
          · next hx =>
            cases h
            exact .inl ⟨hx, rfl, rfl⟩
          · next hx => exact .inr ⟨Bool.eq_false_iff.2 hx, h⟩

end Deliberation.Engine.TreeSearch
