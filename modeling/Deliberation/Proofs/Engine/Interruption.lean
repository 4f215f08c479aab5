import Deliberation.Proofs.Engine.Survival
import Deliberation.Proofs.Engine.Transcript
import Deliberation.Proofs.Run.Calm
import Deliberation.Proofs.Run.Instant

namespace Deliberation.Engine

open Run

variable {σ α β : Type} {w : World σ} {limit : Nat} {t : Task}

theorem uncancelled_of_run (w : World σ) (limit : Nat) (p : Program β α) {x : Session σ}
    (h : (p.run w limit x).2.cancelled = false) : x.cancelled = false := by
  refine Bool.eq_false_iff.2 fun hx => ?_
  have hend : (p.run w limit x).2.cancelled = true := Program.run_steady (cancelled_steady w) p hx
  exact Bool.false_ne_true (h.symm.trans hend)

namespace Debating

variable {names : List String} {round : Nat} {s s' st : State} {x x₀ x₁ : Session σ}

theorem run_rounds (w : World σ) (limit : Nat) (t : Task) (names : List String) (left round : Nat)
    (s : State) (x : Session σ) :
    (rounds t names (left + 1) round s).run w limit x =
      let (results, x₁) := runAll w limit (speakers t names (debateSoFar s.arguments) round) x
      if x.cancelled then (.value (s, some .cancelled), x)
      else if x₁.cancelled then (.value (s, some .cancelled), x₁)
      else
        match takeIn round (heard names results) s none with
        | (s', _, true) => (.value (s', some .cancelled), x₁)
        | (s', e, false) =>
          if s'.arguments.length = s.arguments.length then
            (.value (s', some (e.getD (silent round))), x₁)
          else (rounds t names left (round + 1) s').run w limit x₁ := by
  rw [rounds]
  dsimp only
  generalize speakers t names (debateSoFar s.arguments) round = ps
  simp only [bind, liftM, monadLift, MonadLift.monadLift, Process.cancelled, Program.ofProcess,
    Program.bind, Program.run]
  cases x.cancelled with
  | true => rfl
  | false =>
    simp only [Bool.false_eq_true, ↓reduceIte, Program.together, Program.bind, Program.run]
    generalize runAll w limit ps x = joined
    obtain ⟨results, x₁⟩ := joined
    cases x₁.cancelled with
    | true => rfl
    | false =>
      simp only [Bool.false_eq_true, ↓reduceIte]
      generalize takeIn round (heard names results) s none = taken
      obtain ⟨s', e, gaveUp⟩ := taken
      cases gaveUp with
      | true => rfl
      | false =>
        dsimp only
        split <;> rfl

theorem takeIn_kept {hs : List (Nat × String × Speech)} {e e' : Option Failure}
    (h : takeIn round hs s e = (s', e', false)) :
    s' = s.addAll (hs.filterMap (argument? round)) := by
  have hheard : ∀ y ∈ hs, y.2.2 ≠ .error .cancelled := by
    intro y hy hcancelled
    induction hs generalizing s e with
    | nil => cases hy
    | cons z hs ih =>
      obtain ⟨id, name, speech⟩ := z
      rcases List.mem_cons.1 hy with rfl | hrest
      · obtain rfl : speech = .error .cancelled := hcancelled
        cases h
      · cases speech with
        | ok text =>
          rw [takeIn] at h
          split at h
          · exact ih h hrest
          · exact ih h hrest
        | error f =>
          cases f with
          | cancelled => cases h
          | _ => exact ih h hrest
  obtain ⟨x', hx⟩ := takeIn_uncancelled (s := s) (x := e) hheard
  exact congrArg Prod.fst (h.symm.trans hx)

inductive Turns (w : World σ) (limit : Nat) (t : Task) (names : List String) (round : Nat)
    (s : State) (x : Session σ) : Prop
  | cut {x₁ : Session σ}
      (hx : (runAll w limit (speakers t names (debateSoFar s.arguments) round) x).2 = x₁)
      (hc : x₁.cancelled = true) (h : ∀ n, (rounds t names (n + 1) round s).run w limit x =
        (.value (s, some .cancelled), x₁))
  | over {s' : State} {e : Failure} {x₁ : Session σ} (hc : x₁.cancelled = false)
      (h : ∀ n, (rounds t names (n + 1) round s).run w limit x = (.value (s', some e), x₁))
  | held {as : List Debate.Argument} {x₁ : Session σ} (hc : x₁.cancelled = false)
      (ha : ∀ a ∈ as, a.round = round)
      (h : ∀ n, (rounds t names (n + 1) round s).run w limit x =
        (rounds t names n (round + 1) (s.addAll as)).run w limit x₁)

theorem turns (w : World σ) (limit : Nat) (t : Task) (names : List String) (round : Nat)
    (s : State) (hx : x.cancelled = false) : Turns w limit t names round s x := by
  have hrun := fun n => run_rounds w limit t names n round s x
  cases hc : (runAll w limit (speakers t names (debateSoFar s.arguments) round) x).2.cancelled with
  | true => exact .cut rfl hc fun n => by simp only [hrun, hx, hc, Bool.false_eq_true, ↓reduceIte]
  | false =>
    simp only [hx, hc, Bool.false_eq_true, ↓reduceIte] at hrun
    cases ht : takeIn round (heard names (runAll w limit
        (speakers t names (debateSoFar s.arguments) round) x).1) s none with
    | mk s' r =>
      obtain ⟨e, gaveUp⟩ := r
      simp only [ht] at hrun
      cases gaveUp with
      | true => exact .over hc hrun
      | false =>
        dsimp only at hrun
        split at hrun
        · exact .over hc hrun
        · obtain rfl := takeIn_kept ht
          refine .held hc (fun a ha => ?_) hrun
          obtain ⟨y, -, hy⟩ := List.mem_filterMap.1 ha
          exact (argument?_eq_some hy).1

theorem State.addAll_addAll (s : State) (as bs : List Debate.Argument) :
    (s.addAll as).addAll bs = s.addAll (as ++ bs) := by
  simp [State.addAll, Trace.recordAll]

theorem run_rounds_add {r : Nat} (hx : x.cancelled = false)
    (h : (rounds t names r round s).run w limit x = (.value (st, none), x₁)) :
    (∀ n, (rounds t names (r + n) round s).run w limit x =
      (rounds t names n (round + r) st).run w limit x₁) ∧
      ∃ as, st = s.addAll as ∧ ∀ a ∈ as, a.round < round + r := by
  induction r generalizing round s x with
  | zero =>
    cases h
    refine ⟨fun n => by rw [Nat.zero_add, Nat.add_zero], [], (State.addAll_nil st).symm, ?_⟩
    exact List.forall_mem_nil _
  | succ r ih =>
    rcases turns w limit t names round s hx with ⟨-, -, hrun⟩ | ⟨-, hrun⟩ | ⟨hc, ha, hrun⟩
    · cases (hrun r).symm.trans h
    · cases (hrun r).symm.trans h
    · obtain ⟨hrest, bs, rfl, hbs⟩ := ih hc ((hrun r).symm.trans h)
      refine ⟨fun n => ?_, _, s.addAll_addAll _ bs, fun a hm => ?_⟩
      · rw [Nat.add_right_comm, hrun, hrest, Nat.add_assoc round, Nat.add_comm 1]
      · rcases List.mem_append.1 hm with hm | hm
        · have hround : a.round = round := ha a hm
          omega
        · have hround := hbs a hm
          omega

theorem rounds_end_or_cut (w : World σ) (limit : Nat) (t : Task) (names : List String)
    (left round : Nat) (s : State) (hx : x.cancelled = false) :
    (∃ out x₁, (rounds t names left round s).run w limit x = (.value out, x₁) ∧
      x₁.cancelled = false) ∨
      ∃ r st x₁, r < left ∧ (rounds t names r round s).run w limit x = (.value (st, none), x₁) ∧
        x₁.cancelled = false ∧
        (runAll w limit (speakers t names (debateSoFar st.arguments) (round + r)) x₁).2.cancelled
          = true := by
  induction left generalizing round s x with
  | zero => exact .inl ⟨_, x, rfl, hx⟩
  | succ left ih =>
    rcases turns w limit t names round s hx with ⟨rfl, hc, -⟩ | ⟨hc, hrun⟩ | ⟨hc, -, hrun⟩
    · exact .inr ⟨0, s, x, Nat.succ_pos left, rfl, hx, hc⟩
    · exact .inl ⟨_, _, hrun left, hc⟩
    · rcases ih (round + 1) _ hc with ⟨out, x₂, hout, hx₂⟩ | ⟨r, st, x₂, hr, hheld, hx₂, hcut⟩
      · exact .inl ⟨out, x₂, (hrun left).trans hout, hx₂⟩
      · refine .inr ⟨r + 1, st, x₂, Nat.succ_lt_succ hr, (hrun r).trans hheld, hx₂, ?_⟩
        rwa [Nat.add_assoc, Nat.add_comm 1] at hcut

def CutOff (w : World σ) (limit : Nat) (t : Task) (names : List String) (r : Nat)
    (x : Session σ) (st : State) (x₂ : Session σ) : Prop :=
  ∃ x₁, (rounds t names r 0 .start).run w limit x = (.value (st, none), x₁) ∧
    x₁.cancelled = false ∧
    (runAll w limit (speakers t names (debateSoFar st.arguments) r) x₁).2 = x₂ ∧
    x₂.cancelled = true

variable {o : Options} {r : Nat} {x₂ : Session σ}

theorem CutOff.uncancelled (h : CutOff w limit t names r x st x₂) : x.cancelled = false := by
  obtain ⟨x₁, hheld, hx₁, -⟩ := h
  refine uncancelled_of_run w limit (rounds t names r 0 .start) ?_
  rw [hheld]
  exact hx₁

theorem CutOff.run_hold (h : CutOff w limit t names r x st x₂) (hr : r < max o.maxRounds 1) :
    (hold t names o).run w limit x =
      (.value ⟨.cancelled .debate st.trace, st.arguments, none⟩, x₂) := by
  have hx := h.uncancelled
  obtain ⟨x₁, hheld, hx₁, hcut, hc⟩ := h
  obtain ⟨left, hleft⟩ : ∃ left, max o.maxRounds 1 = r + (left + 1) :=
    ⟨max o.maxRounds 1 - r - 1, by omega⟩
  have hrounds : (rounds t names (max o.maxRounds 1) 0 .start).run w limit x =
      (.value (st, some .cancelled), x₂) := by
    rw [hleft, (run_rounds_add hx hheld).1, Nat.zero_add, run_rounds]
    dsimp only
    rw [hx₁, hcut, hc]
    rfl
  exact Program.run_bind hrounds

theorem CutOff.before (h : CutOff w limit t names r x st x₂) :
    st.trace.steps = st.arguments.map (fun a => ⟨.argue, a.line⟩) ∧
      ∀ a ∈ st.arguments, a.round < r := by
  have hx := h.uncancelled
  obtain ⟨x₁, hheld, -⟩ := h
  obtain ⟨-, as, rfl, has⟩ := run_rounds_add hx hheld
  rw [Nat.zero_add] at has
  refine ⟨?_, has⟩
  simp [State.addAll, State.start, Trace.recordAll, Trace.empty]

theorem cutOff_or_judged (hx : x.cancelled = false)
    (hc : ((hold t names o).run w limit x).2.cancelled = true) :
    (∃ r st, r < max o.maxRounds 1 ∧
      CutOff w limit t names r x st ((hold t names o).run w limit x).2) ∨
      ∃ st x₁, (rounds t names (max o.maxRounds 1) 0 .start).run w limit x =
        (.value (st, none), x₁) ∧ x₁.cancelled = false := by
  rcases rounds_end_or_cut w limit t names (max o.maxRounds 1) 0 .start hx with
    ⟨⟨st, e⟩, x₁, hrun, hx₁⟩ | ⟨r, st, x₁, hr, hheld, hx₁, hcut⟩
  · cases e with
    | none => exact .inr ⟨st, x₁, hrun, hx₁⟩
    | some e =>
      rw [show (hold t names o).run w limit x = _ from Program.run_bind hrun] at hc
      exact absurd (hx₁.symm.trans hc) Bool.false_ne_true
  · rw [Nat.zero_add] at hcut
    have hoff : CutOff w limit t names r x st _ := ⟨x₁, hheld, hx₁, rfl, hcut⟩
    refine .inl ⟨r, st, hr, ?_⟩
    rw [hoff.run_hold hr]
    exact hoff

end Debating

namespace TreeSearch

variable {team : Team} {b : Bounds} {s st : State} {x x₁ : Session σ}

inductive Turns (w : World σ) (limit : Nat) (team : Team) (t : Task) (b : Bounds) (s : State)
    (x : Session σ) : Prop
  | barren (hf : s.frontier = [])
      (h : ∀ n, (explore team t b n s).run w limit x = (.value (s, none), x))
  | cut {x₁ : Session σ} (hx : (runAll w limit (workers team t b s) x).2 = x₁)
      (hc : x₁.cancelled = true)
      (h : ∀ n, (explore team t b (n + 1) s).run w limit x = (.value (s, some .cancelled), x₁))
  | lost {x₁ : Session σ} (hc : x₁.cancelled = false)
      (h : ∀ n, (explore team t b (n + 1) s).run w limit x = (.value (s, some .cancelled), x₁))
  | found {s₁ : State} {x₁ : Session σ} (hc : x₁.cancelled = false)
      (hfloor : s₁.exceeds b.floor = true)
      (h : ∀ n, (explore team t b (n + 1) s).run w limit x = (.value (s₁, none), x₁))
  | deeper {s₁ : State} {x₁ : Session σ} (hc : x₁.cancelled = false)
      (hfloor : s₁.exceeds b.floor = false)
      (h : ∀ n, (explore team t b (n + 1) s).run w limit x =
        (explore team t b n s₁).run w limit x₁)

theorem turns (w : World σ) (limit : Nat) (team : Team) (t : Task) (b : Bounds) (s : State)
    (hx : x.cancelled = false) : Turns w limit team t b s x := by
  cases hf : s.frontier.isEmpty with
  | true =>
    refine .barren (List.isEmpty_iff.1 hf) fun n => ?_
    cases n with
    | zero => rfl
    | succ n =>
      rw [explore, if_pos hf]
      rfl
  | false =>
    have hrun (n : Nat) : (explore team t b (n + 1) s).run w limit x = _ :=
      run_explore team t b n hf x
    cases hc : (runAll w limit (workers team t b s) x).2.cancelled with
    | true =>
      refine .cut rfl hc fun n => ?_
      simp only [hrun, hx, hc, Bool.true_or, Bool.false_eq_true, ↓reduceIte]
    | false =>
      simp only [hx, hc, Bool.false_or, Bool.false_eq_true, ↓reduceIte] at hrun
      split at hrun
      · exact .lost hc hrun
      · split at hrun
        · next hfloor => exact .found hc hfloor hrun
        · next hfloor =>
          refine .deeper hc ?_ hrun
          exact Bool.eq_false_iff.2 hfloor

theorem run_explore_add {d : Nat} (hx : x.cancelled = false)
    (h : (explore team t b d s).run w limit x = (.value (st, none), x₁))
    (hfloor : st.exceeds b.floor = false) (n : Nat) :
    (explore team t b (d + n) s).run w limit x = (explore team t b n st).run w limit x₁ := by
  induction d generalizing s x with
  | zero =>
    cases h
    rw [Nat.zero_add]
  | succ d ih =>
    rcases turns w limit team t b s hx with ⟨-, hrun⟩ | ⟨-, -, hrun⟩ | ⟨-, hrun⟩ |
      ⟨-, hs₁, hrun⟩ | ⟨hc, -, hrun⟩
    · cases (hrun (d + 1)).symm.trans h
      rw [hrun, hrun]
    · cases (hrun d).symm.trans h
    · cases (hrun d).symm.trans h
    · cases (hrun d).symm.trans h
      exact absurd (hfloor.symm.trans hs₁) Bool.false_ne_true
    · rw [Nat.add_right_comm, hrun]
      exact ih hc ((hrun d).symm.trans h)

theorem explore_ends_or_cut (w : World σ) (limit : Nat) (team : Team) (t : Task) (b : Bounds)
    (depths : Nat) (hx : x.cancelled = false) (hs : s.exceeds b.floor = false) :
    (∃ out x₁, (explore team t b depths s).run w limit x = (.value out, x₁) ∧
      x₁.cancelled = false) ∨
      ∃ d st x₁, d < depths ∧ (explore team t b d s).run w limit x = (.value (st, none), x₁) ∧
        st.exceeds b.floor = false ∧ x₁.cancelled = false ∧
        (runAll w limit (workers team t b st) x₁).2.cancelled = true := by
  induction depths generalizing s x with
  | zero => exact .inl ⟨_, x, rfl, hx⟩
  | succ depths ih =>
    rcases turns w limit team t b s hx with ⟨-, hrun⟩ | ⟨rfl, hc, -⟩ | ⟨hc, hrun⟩ |
      ⟨hc, -, hrun⟩ | ⟨hc, hs₁, hrun⟩
    · exact .inl ⟨_, x, hrun _, hx⟩
    · exact .inr ⟨0, s, x, Nat.succ_pos depths, rfl, hs, hx, hc⟩
    · exact .inl ⟨_, _, hrun depths, hc⟩
    · exact .inl ⟨_, _, hrun depths, hc⟩
    · rcases ih hc hs₁ with ⟨out, x₂, hout, hx₂⟩ | ⟨d, st, x₂, hd, hrest, hst, hx₂, hcut⟩
      · exact .inl ⟨out, x₂, (hrun depths).trans hout, hx₂⟩
      · exact .inr ⟨d + 1, st, x₂, Nat.succ_lt_succ hd, (hrun d).trans hrest, hst, hx₂, hcut⟩

def CutOff (w : World σ) (limit : Nat) (team : Team) (t : Task) (b : Bounds) (d : Nat)
    (x : Session σ) (st : State) (x₂ : Session σ) : Prop :=
  ∃ x₁, (explore team t b d (.start t)).run w limit x = (.value (st, none), x₁) ∧
    st.exceeds b.floor = false ∧ x₁.cancelled = false ∧
    (runAll w limit (workers team t b st) x₁).2 = x₂ ∧ x₂.cancelled = true

variable {o : Options} {d : Nat} {x₂ : Session σ}

theorem CutOff.run_search (h : CutOff w limit team t (bounds o) d x st x₂)
    (hd : d < max o.maxDepth 1) :
    (search team t o).run w limit x = (.value (.cancelled .treeSearch st.trace, st.tree), x₂) := by
  obtain ⟨x₁, hrest, hst, hx₁, hcut, hc⟩ := h
  have hx : x.cancelled = false := by
    refine uncancelled_of_run w limit (explore team t (bounds o) d (.start t)) ?_
    rw [hrest]
    exact hx₁
  have hf : st.frontier.isEmpty = false := by
    refine Bool.eq_false_iff.2 fun hf => ?_
    -- a depth without nodes has no workers, and time stands still
    rw [workers, List.isEmpty_iff.1 hf, List.map_nil, runAll_awake rfl] at hcut
    obtain rfl : x₁ = x₂ := hcut
    exact Bool.false_ne_true (hx₁.symm.trans hc)
  obtain ⟨left, hleft⟩ : ∃ left, max o.maxDepth 1 = d + (left + 1) :=
    ⟨max o.maxDepth 1 - d - 1, by omega⟩
  have hexplore : (explore team t (bounds o) (max o.maxDepth 1) (.start t)).run w limit x =
      (.value (st, some .cancelled), x₂) := by
    rw [hleft, run_explore_add hx hrest hst, run_explore team t _ _ hf]
    dsimp only
    rw [hx₁, hcut, hc]
    rfl
  exact Program.run_bind hexplore

theorem cutOff_of_cancelled (hx : x.cancelled = false)
    (hc : ((search team t o).run w limit x).2.cancelled = true) :
    ∃ d st, d < max o.maxDepth 1 ∧
      CutOff w limit team t (bounds o) d x st ((search team t o).run w limit x).2 := by
  rcases explore_ends_or_cut w limit team t (bounds o) (max o.maxDepth 1) hx (s := .start t) rfl
    with ⟨⟨st, e⟩, x₁, hrun, hx₁⟩ | ⟨d, st, x₁, hd, hrest, hst, hx₁, hcut⟩
  · rw [show (search team t o).run w limit x = _ from Program.run_bind hrun] at hc
    exact absurd (hx₁.symm.trans hc) Bool.false_ne_true
  · have hoff : CutOff w limit team t (bounds o) d x st _ := ⟨x₁, hrest, hst, hx₁, rfl, hcut⟩
    refine ⟨d, st, hd, ?_⟩
    rw [hoff.run_search hd]
    exact hoff

end TreeSearch

theorem steps_cancelled (strategy : Strategy) (trace : Trace) :
    (Result.cancelled strategy trace).trace.steps =
      trace.steps ++ [⟨.halt, "Reasoning cancelled by caller"⟩] := by
  rw [Result.cancelled, Result.trace_build (Trace.record_ne_nil _ _ _), Trace.steps_record]

theorem interruption_atomic (w : World σ) (team : Team) (t : Task) (names : List String)
    (o : Options) (x : Session σ) :
    let limit := o.callTimeoutMs
    let held := (Debating.hold t names o).run w limit x
    let searched := (TreeSearch.search team t o).run w limit x
    let halt : Step := ⟨.halt, "Reasoning cancelled by caller"⟩
    (∀ r st x₂, r < max o.maxRounds 1 → Debating.CutOff w limit t names r x st x₂ →
      (∀ a ∈ st.arguments, a.round < r) ∧
      st.trace.steps = st.arguments.map (fun a => ⟨.argue, a.line⟩) ∧
      ∃ report, held = (.value report, x₂) ∧ report.arguments = st.arguments ∧
        report.result.trace.steps = st.trace.steps ++ [halt] ∧ report.verdict = none) ∧
    (∀ d st x₂, d < max o.maxDepth 1 →
      TreeSearch.CutOff w limit team t (TreeSearch.bounds o) d x st x₂ →
      ∃ result tree, searched = (.value (result, tree), x₂) ∧ tree = st.tree ∧
        result.trace.steps = st.trace.steps ++ [halt]) ∧
    (x.cancelled = false →
      (held.2.cancelled = true →
        (∃ r st, r < max o.maxRounds 1 ∧ Debating.CutOff w limit t names r x st held.2) ∨
        ∃ st x₁, (Debating.rounds t names (max o.maxRounds 1) 0 .start).run w limit x =
          (.value (st, none), x₁) ∧ x₁.cancelled = false) ∧
      (searched.2.cancelled = true → ∃ d st, d < max o.maxDepth 1 ∧
        TreeSearch.CutOff w limit team t (TreeSearch.bounds o) d x st searched.2)) := by
  intro limit held searched halt
  refine ⟨fun r st x₂ hr hcut => ?_, fun d st x₂ hd hcut => ?_, fun hx => ⟨?_, ?_⟩⟩
  · obtain ⟨hsteps, hrounds⟩ := hcut.before
    exact ⟨hrounds, hsteps, _, hcut.run_hold hr, rfl, steps_cancelled .debate st.trace, rfl⟩
  · exact ⟨_, _, hcut.run_search hd, rfl, steps_cancelled .treeSearch st.trace⟩
  · exact Debating.cutOff_or_judged hx
  · exact TreeSearch.cutOff_of_cancelled hx

def meddling (n : Nat) : World Nat where
  respond q i :=
    ({ ((World.echo "Blue").respond q ()).1 with cancels := if i = n then some 0 else none }, i + 1)

-- Both debaters of the second round have spoken, and so has the evaluator of the only candidate.
theorem interruption_atomic_meddled :
    let o := Options.default
    let t := Task.ofDescription "Name a colour"
    let names := ["First", "Second"]
    let held := ((Debating.hold t names o).run (meddling 3) o.callTimeoutMs (.start 0 none)).1
    let searched := ((TreeSearch.search .unaided t o).run (meddling 1) o.callTimeoutMs
      (.start 0 none)).1
    let halt : Step := ⟨.halt, "Reasoning cancelled by caller"⟩
    (∃ report, held = .value report ∧ report.verdict = none ∧
      report.arguments = [⟨0, 0, "First", "Blue"⟩, ⟨0, 1, "Second", "Blue"⟩] ∧
      report.result.trace.steps =
        report.arguments.map (fun a => ⟨.argue, a.line⟩) ++ [halt]) ∧
    ∃ result, searched = .value (result, .ofRoot "Name a colour") ∧
      result.trace.steps = [halt] := by
  intro o t names held searched halt
  constructor
  · let st := Debating.State.start.addAll [⟨0, 0, "First", "Blue"⟩, ⟨0, 1, "Second", "Blue"⟩]
    let p := Debating.rounds t names 1 0 .start
    let ps := Debating.speakers t names (Debating.debateSoFar st.arguments) 1
    have hfirst : (p.runIn? (meddling 3) o.callTimeoutMs 0 (.start 0 none)).bind (fun out =>
        out.1.value?.map fun a => (a.1.arguments, a.1.trace, a.2, out.2.cancelled)) =
          some (st.arguments, st.trace, none, false) := by
      simp only [p, Debating.rounds, Debating.heard, inOrder_eq_insertionSort]
      decide +kernel
    have hsecond : ((p.bind fun _ => Program.together ps).runIn? (meddling 3) o.callTimeoutMs 0
        (.start 0 none)).map (fun out => out.2.cancelled) = some true := by
      simp only [p, Debating.rounds, Debating.heard, inOrder_eq_insertionSort]
      decide +kernel
    obtain ⟨x₂, hcut⟩ : ∃ x₂, Debating.CutOff (meddling 3) o.callTimeoutMs t names 1
        (.start 0 none) st x₂ := by
      obtain ⟨⟨⟨st', e⟩ | _, x₁⟩, hrun, hst⟩ := Option.bind_eq_some_iff.1 hfirst
      · simp only [Prod.mk.injEq, Outcome.value?, Option.map_some, Option.some.injEq] at hst
        obtain ⟨harguments, htrace, rfl, hx₁⟩ := hst
        obtain rfl : st' = st := by
          cases st'
          cases harguments
          cases htrace
          rfl
        have hheld : p.run (meddling 3) o.callTimeoutMs (.start 0 none) = (.value (st, none), x₁) :=
          Program.run_of_runIn? hrun
        obtain ⟨out, hrun, hc⟩ := Option.map_eq_some_iff.1 hsecond
        have hjoined := (Program.run_bind hheld).symm.trans (Program.run_of_runIn? hrun)
        refine ⟨_, x₁, hheld, hx₁, rfl, ?_⟩
        rw [← hc, ← hjoined]
        rfl
      · cases hst
    obtain ⟨-, hsteps, report, hheld, harguments, htrace, hverdict⟩ :=
      (interruption_atomic (meddling 3) .unaided t names o (.start 0 none)).1 1 st x₂
        (by decide) hcut
    refine ⟨report, congrArg Prod.fst hheld, hverdict, harguments, ?_⟩
    rw [htrace, hsteps, harguments]
  · obtain ⟨x₂, hcut⟩ : ∃ x₂, TreeSearch.CutOff (meddling 1) o.callTimeoutMs .unaided t
        (TreeSearch.bounds o) 0 (.start 0 none) (.start t) x₂ := by
      refine ⟨_, .start 0 none, rfl, rfl, rfl, rfl, ?_⟩
      rw [runAll_awake (by decide +kernel)]
      decide +kernel
    obtain ⟨result, tree, hsearched, rfl, htrace⟩ :=
      (interruption_atomic (meddling 1) .unaided t names o (.start 0 none)).2.1 0 (.start t)
        x₂ (by decide) hcut
    exact ⟨result, congrArg Prod.fst hsearched, htrace⟩

end Deliberation.Engine
