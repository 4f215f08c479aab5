import Deliberation.Proofs.Run.Schedule

namespace Deliberation.Run

variable {σ α β γ : Type}

inductive Process.Guarded : Process α → Prop
  | done (a : α) : Guarded (.done a)
  | crash (t : String) : Guarded (.crash t)
  | poll {next : Bool → Process α} (h : ∀ b, Guarded (next b)) : Guarded (.poll next)
  | guarded {q : Query} {next : Except Failure q.Answer → Process α} (h : ∀ a, Guarded (next a)) :
      Guarded (.guarded q next)

inductive Program.Guarded : Program β α → Prop
  | done (a : α) : Guarded (.done a)
  | crash (t : String) : Guarded (.crash t)
  | poll {next : Bool → Program β α} (h : ∀ b, Guarded (next b)) : Guarded (.poll next)
  | guarded {q : Query} {next : Except Failure q.Answer → Program β α} (h : ∀ a, Guarded (next a)) :
      Guarded (.guarded q next)
  | fork {ps : List (Process β)} {next : List β → Program β α} (hps : ∀ p ∈ ps, p.Guarded)
      (h : ∀ joined, Guarded (next joined)) : Guarded (.fork ps next)

theorem Process.Guarded.bind {p : Process α} {f : α → Process β} (hp : p.Guarded)
    (hf : ∀ a, (f a).Guarded) : (p.bind f).Guarded := by
  induction hp with
  | done a => exact hf a
  | crash t => exact .crash t
  | poll _ ih => exact .poll ih
  | guarded _ ih =>
    rw [guarded_bind]
    exact .guarded ih

theorem Process.Guarded.lift {p : Process α} (hp : p.Guarded) :
    (Program.ofProcess p : Program β α).Guarded := by
  induction hp with
  | done a => exact .done a
  | crash t => exact .crash t
  | poll _ ih => exact .poll ih
  | guarded _ ih =>
    rw [Program.ofProcess_guarded]
    exact .guarded ih

theorem Program.Guarded.bind {p : Program β α} {f : α → Program β γ} (hp : p.Guarded)
    (hf : ∀ a, (f a).Guarded) : (p.bind f).Guarded := by
  induction hp with
  | done a => exact hf a
  | crash t => exact .crash t
  | poll _ ih => exact .poll ih
  | guarded _ ih =>
    rw [guarded_bind]
    exact .guarded ih
  | fork hps _ ih => exact .fork hps ih

def Stop.Guarded : Stop α → Prop
  | asleep _ next _ _ _ => ∀ a, (next a).Guarded
  | _ => True

structure Session.Kept (w : World σ) (I : Session σ → Prop) : Prop where
  begin : ∀ {s}, I s → s.cancelled = false → ∀ q, I (s.begin w q).2
  cancel : ∀ {s}, I s → I s.cancel
  sleepTo : ∀ {s}, I s → ∀ {t}, s.now ≤ t → I (s.sleepTo t)
  ticket : ∀ {s}, I s → I { s with tickets := s.tickets + 1 }

open Session

section Kept

variable {w : World σ} {limit : Nat} {I : Session σ → Prop} {s : Session σ}

theorem Session.Kept.close (hI : Kept w I) (wait : Wait α) (hs : I s) : I (s.close wait) := by
  rw [Session.close]
  split
  · exact hI.cancel hs
  · exact hs

theorem Session.Kept.await (hI : Kept w I) {wake : Nat} (hle : s.now ≤ wake) (wait : Wait α)
    (hs : I s) : I (s.await wake wait).2 := by
  have hslept : I (s.sleepTo (s.rouse wake)) := hI.sleepTo hs (le_rouse hle)
  rw [Session.await]
  split
  · exact hslept
  · exact hI.close wait hslept

theorem Session.Kept.after (hI : Kept w I) (hs : I s) (hc : s.cancelled = false) (q : Query) :
    I (s.after w limit q) := by
  have hbegun : I (s.begin w q).2 := hI.begin hs hc q
  rw [Session.after, perform]
  dsimp only
  split
  · exact hI.close _ hbegun
  · exact hI.await (Nat.le_add_right _ _) _ hbegun

theorem Process.Guarded.run (hI : Kept w I) {p : Process α} (hp : p.Guarded) (hs : I s) :
    I (p.run w limit s).2 := by
  induction hp generalizing s with
  | done a => exact hs
  | crash t => exact hs
  | poll _ ih => exact ih _ hs
  | @guarded q next _ ih =>
    rw [Process.guarded, Process.run]
    split
    · exact ih _ hs
    · next hc =>
      have hafter : I (s.perform w limit q).2 := hI.after hs (Bool.eq_false_iff.2 hc) q
      rw [run_call]
      cases (s.perform w limit q).1 with
      | value a => exact ih a hafter
      | panic t => exact hafter

theorem Process.Guarded.advance (hI : Kept w I) {p : Process β} (hp : p.Guarded) (hs : I s) :
    (p.advance w limit s).1.Guarded ∧ I (p.advance w limit s).2 := by
  induction hp generalizing s with
  | done a => exact ⟨trivial, hs⟩
  | crash t => exact ⟨trivial, hs⟩
  | poll _ ih => exact ih _ hs
  | @guarded q next h ih =>
    rw [Process.guarded, Process.advance]
    split
    · exact ih _ hs
    · next hc =>
      have hbegun : I (s.begin w q).2 := hI.begin hs (Bool.eq_false_iff.2 hc) q
      rw [advance_call]
      dsimp only
      split
      · have hclosed := hI.close ((s.begin w q).1.wait limit) hbegun
        cases ((s.begin w q).1.wait limit).outcome with
        | value a => exact ih a hclosed
        | panic t => exact ⟨trivial, hclosed⟩
      · exact ⟨h, hI.ticket hbegun⟩

theorem Stop.Guarded.resume (hI : Kept w I) {stop : Stop β} (hp : stop.Guarded)
    (hpending : stop.Pending w limit s.now) (hs : I s) :
    (stop.resume w limit s).1.Guarded ∧ I (stop.resume w limit s).2 := by
  cases hpending with
  | finished b => exact ⟨trivial, hs⟩
  | crashed t => exact ⟨trivial, hs⟩
  | @asleep q next wake ticket x hlength hwake =>
    have hawaited := hI.await hwake ((w.respond q x).1.wait limit) hs
    rw [resume_asleep]
    cases (s.await wake ((w.respond q x).1.wait limit)).1 with
    | value a => exact (hp a).advance hI hawaited
    | panic t => exact ⟨trivial, hawaited⟩

theorem startAll_guarded (hI : Kept w I) {ps : List (Process β)} (hps : ∀ p ∈ ps, p.Guarded)
    (hs : I s) :
    (∀ stop ∈ (startAll w limit ps s).1, stop.Guarded) ∧ I (startAll w limit ps s).2 := by
  induction ps generalizing s with
  | nil => exact ⟨List.forall_mem_nil _, hs⟩
  | cons p ps ih =>
    obtain ⟨hp, hps⟩ := List.forall_mem_cons.1 hps
    obtain ⟨hstop, hs⟩ := hp.advance hI hs
    obtain ⟨hstops, hs⟩ := ih hps hs
    exact ⟨List.forall_mem_cons.2 ⟨hstop, hstops⟩, hs⟩

theorem settle_guarded (hI : Kept w I) {stops : List (Stop β)} (ha : Ahead w limit s.now stops)
    (hp : ∀ stop ∈ stops, stop.Guarded) (hs : I s) : I (settle w limit stops s).session := by
  refine settle_induction (P := fun stops s out => (∀ stop ∈ stops, stop.Guarded) → I s →
    I out.session) (fun _ _ _ _ hs => hs) ?_ stops s ha hp hs
  intro turn pre stop post s out _ ha ih hp hs
  obtain ⟨hpre, hp⟩ := List.forall_mem_append.1 hp
  obtain ⟨hstop, hpost⟩ := List.forall_mem_cons.1 hp
  obtain ⟨hresumed, hs⟩ := hstop.resume hI (ha stop (by simp)) hs
  exact ih (List.forall_mem_append.2 ⟨hpre, List.forall_mem_cons.2 ⟨hresumed, hpost⟩⟩) hs

theorem runAll_guarded (hI : Kept w I) {ps : List (Process β)} (hps : ∀ p ∈ ps, p.Guarded)
    (hs : I s) : I (runAll w limit ps s).2 := by
  obtain ⟨hstops, hs⟩ := startAll_guarded hI hps hs
  exact settle_guarded hI (ahead_startAll ps _) hstops hs

theorem Program.Guarded.run (hI : Kept w I) {p : Program β α} (hp : p.Guarded) (hs : I s) :
    I (p.run w limit s).2 := by
  induction hp generalizing s with
  | done a => exact hs
  | crash t => exact hs
  | poll _ ih => exact ih _ hs
  | @guarded q next _ ih =>
    rw [Program.guarded, Program.run]
    split
    · exact ih _ hs
    · next hc =>
      have hafter : I (s.after w limit q) := hI.after hs (Bool.eq_false_iff.2 hc) q
      rw [run_call]
      cases (s.perform w limit q).1 with
      | value a => exact ih a hafter
      | panic t => exact hafter
  | fork hps _ ih => exact ih _ (runAll_guarded hI hps hs)

end Kept

end Deliberation.Run
