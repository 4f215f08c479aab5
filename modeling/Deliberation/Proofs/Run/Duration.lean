import Deliberation.Proofs.Run.Schedule

namespace Deliberation.Run

open Session

variable {σ α β : Type} {w : World σ} {limit : Nat} {s₀ s s' : Session σ}

def Session.Lasts (limit : Nat) (s₀ s : Session σ) : Prop :=
  s.now + limit * s₀.calls.length ≤ s₀.now + limit * s.calls.length

theorem Session.lasts_refl (limit : Nat) (s : Session σ) : s.Lasts limit s :=
  Nat.le_refl _

theorem Session.Lasts.trans (h : s₀.Lasts limit s) (h' : s.Lasts limit s') :
    s₀.Lasts limit s' := by
  simp only [Lasts] at h h' ⊢
  omega

theorem Session.length_calls_begin (q : Query) (s : Session σ) :
    (s.begin w q).2.calls.length = s.calls.length + 1 := by
  simp [calls_begin]

theorem Session.calls_sleepTo (s : Session σ) (instant : Nat) :
    (s.sleepTo instant).calls = s.calls :=
  rfl

theorem Session.now_sleepTo (s : Session σ) (instant : Nat) : (s.sleepTo instant).now = instant :=
  rfl

theorem Session.Lasts.begin (h : s₀.Lasts limit s) (w : World σ) (q : Query) {wait : Nat}
    (hw : wait ≤ limit) : s₀.Lasts limit ((s.begin w q).2.sleepTo (s.now + wait)) := by
  rw [Lasts] at h ⊢
  rw [calls_sleepTo, length_calls_begin, Nat.mul_succ, now_sleepTo]
  omega

theorem Session.Lasts.earlier {now : Nat} (h : s₀.Lasts limit (s.sleepTo now)) {t : Nat}
    (ht : t ≤ now) : s₀.Lasts limit (s.sleepTo t) := by
  simp only [Lasts, calls_sleepTo, now_sleepTo] at h ⊢
  omega

theorem Session.Lasts.later {wake : Nat} (h : s₀.Lasts limit (s.sleepTo wake))
    (hs : s.calls.length ≤ s'.calls.length) : s₀.Lasts limit (s'.sleepTo wake) := by
  have hmul : limit * s.calls.length ≤ limit * s'.calls.length := Nat.mul_le_mul_left limit hs
  simp only [Lasts, calls_sleepTo, now_sleepTo] at h ⊢
  omega

theorem Session.sleepTo_now (s : Session σ) : s.sleepTo s.now = s :=
  rfl

theorem Session.lasts_begun (h : s₀.Lasts limit s) (q : Query) :
    s₀.Lasts limit (s.begin w q).2 := by
  have hbegun := h.begin w q (Nat.zero_le limit)
  rwa [Nat.add_zero, ← show (s.begin w q).2.now = s.now from rfl, sleepTo_now] at hbegun

theorem Session.Lasts.close (h : s₀.Lasts limit s) (wait : Wait α) :
    s₀.Lasts limit (s.close wait) := by
  rw [Lasts, now_close, calls_close]
  exact h

theorem Session.Lasts.await {wake : Nat} (h : s₀.Lasts limit (s.sleepTo wake))
    (hle : s.now ≤ wake) (wait : Wait α) : s₀.Lasts limit (s.await wake wait).2 := by
  have hroused : s₀.Lasts limit (s.sleepTo (s.rouse wake)) := h.earlier (rouse_le hle)
  rw [Session.await]
  split
  · exact hroused
  · exact hroused.close wait

theorem Reply.length_wait_le_limit (r : Reply α) : (r.wait limit).length ≤ limit :=
  Nat.le_trans (r.length_wait_le limit) (Nat.min_le_right _ _)

theorem Session.lasts_after (q : Query) (s : Session σ) : s.Lasts limit (s.after w limit q) := by
  rw [after, perform]
  dsimp only
  split
  · exact (lasts_begun (lasts_refl limit s) q).close _
  · exact ((lasts_refl limit s).begin w q (Reply.length_wait_le_limit _)).await
      (Nat.le_add_right _ _) _

def Stop.wake? : Stop β → Option Nat
  | asleep _ _ wake _ _ => some wake
  | _ => none

structure Paced (limit : Nat) (s₀ s : Session σ) (stops : List (Stop β)) : Prop where
  now : s₀.Lasts limit s
  wakes : ∀ stop ∈ stops, ∀ wake ∈ stop.wake?, s₀.Lasts limit (s.sleepTo wake)

theorem Process.advance_paced (p : Process β) (h : s₀.Lasts limit s) :
    Paced limit s₀ (p.advance w limit s).2 [(p.advance w limit s).1] ∧
      s.calls.length ≤ (p.advance w limit s).2.calls.length := by
  induction p generalizing s with
  | done a => exact ⟨⟨h, by simp [advance, Stop.wake?]⟩, Nat.le_refl _⟩
  | crash t => exact ⟨⟨h, by simp [advance, Stop.wake?]⟩, Nat.le_refl _⟩
  | poll next ih => exact ih _ h
  | call q next ih =>
    have hgrows := length_calls_begin (w := w) q s
    have hbegun : s₀.Lasts limit (s.begin w q).2 := lasts_begun h q
    rw [advance_call]
    dsimp only
    split
    · have hclosed := hbegun.close ((s.begin w q).1.wait limit)
      have hcalls := congrArg List.length
        (calls_close ((s.begin w q).1.wait limit) (s.begin w q).2)
      cases ((s.begin w q).1.wait limit).outcome with
      | value a =>
        obtain ⟨hpaced, hle⟩ := ih a hclosed
        exact ⟨hpaced, by dsimp only [resumed]; omega⟩
      | panic t => exact ⟨⟨hclosed, by simp [resumed, advance, Stop.wake?]⟩, by
          dsimp only [resumed, advance]; omega⟩
    · refine ⟨⟨hbegun, ?_⟩, Nat.le_of_lt (Nat.lt_of_succ_le (Nat.le_of_eq hgrows.symm))⟩
      intro stop hm wake hw
      rw [List.mem_singleton.1 hm] at hw
      cases hw
      exact h.begin w q (Reply.length_wait_le_limit _)

theorem Stop.resume_paced {stop : Stop β} (hp : stop.Pending w limit s.now)
    (hnow : s₀.Lasts limit s)
    (h : ∀ wake ∈ stop.wake?, s₀.Lasts limit (s.sleepTo wake)) :
    Paced limit s₀ (stop.resume w limit s).2 [(stop.resume w limit s).1] ∧
      s.calls.length ≤ (stop.resume w limit s).2.calls.length := by
  cases hp with
  | finished b => exact ⟨⟨hnow, by simp [resume, wake?]⟩, Nat.le_refl _⟩
  | crashed t => exact ⟨⟨hnow, by simp [resume, wake?]⟩, Nat.le_refl _⟩
  | @asleep q next wake ticket x hlength hwake =>
    have hawaited := (h wake rfl).await hwake ((w.respond q x).1.wait limit)
    obtain ⟨hpaced, hle⟩ := Process.advance_paced (w := w)
      (Process.resumed next (s.await wake ((w.respond q x).1.wait limit)).1) hawaited
    rw [calls_await] at hle
    rw [resume_asleep]
    exact ⟨hpaced, hle⟩

theorem Paced.wakes_later {stops : List (Stop β)} (h : Paced limit s₀ s stops)
    (hs : s.calls.length ≤ s'.calls.length) :
    ∀ stop ∈ stops, ∀ wake ∈ stop.wake?, s₀.Lasts limit (s'.sleepTo wake) :=
  fun stop hm wake hw => (h.wakes stop hm wake hw).later hs

theorem startAll_paced (ps : List (Process β)) (h : s₀.Lasts limit s) :
    Paced limit s₀ (startAll w limit ps s).2 (startAll w limit ps s).1 ∧
      s.calls.length ≤ (startAll w limit ps s).2.calls.length := by
  induction ps generalizing s with
  | nil => exact ⟨⟨h, fun _ hm => nomatch hm⟩, Nat.le_refl _⟩
  | cons p ps ih =>
    obtain ⟨hp, hfirst⟩ := Process.advance_paced (w := w) p h
    obtain ⟨hps, hrest⟩ := ih hp.now
    refine ⟨⟨hps.now, ?_⟩, Nat.le_trans hfirst hrest⟩
    intro stop hm
    rcases List.mem_cons.1 hm with rfl | hm
    · exact hp.wakes_later hrest _ (List.mem_singleton_self _)
    · exact hps.wakes stop hm

theorem settle_lasts {stops : List (Stop β)} (ha : Ahead w limit s.now stops)
    (h : Paced limit s₀ s stops) : s₀.Lasts limit (settle w limit stops s).session := by
  refine settle_induction (P := fun stops s out => Paced limit s₀ s stops →
    s₀.Lasts limit out.session) (fun _ _ _ h => h.now) ?_ stops s ha h
  intro turn pre stop post s out ht ha ih h
  have hstop : stop ∈ pre ++ stop :: post := by simp
  obtain ⟨hresumed, hle⟩ := Stop.resume_paced (ha stop hstop) h.now (h.wakes stop hstop)
  refine ih ⟨hresumed.now, ?_⟩
  intro other hm
  rcases List.mem_append.1 hm with hm | hm
  · exact h.wakes_later hle other (by simp [hm])
  · rcases List.mem_cons.1 hm with rfl | hm
    · exact hresumed.wakes _ (List.mem_singleton_self _)
    · exact h.wakes_later hle other (by simp [hm])

theorem runAll_lasts (ps : List (Process β)) (s : Session σ) :
    s.Lasts limit (runAll w limit ps s).2 :=
  settle_lasts (ahead_startAll ps s) (startAll_paced ps (lasts_refl limit s)).1

theorem Program.run_lasts (p : Program β α) (s : Session σ) :
    s.Lasts limit (p.run w limit s).2 := by
  induction p generalizing s with
  | done a => exact lasts_refl limit s
  | crash t => exact lasts_refl limit s
  | poll next ih => exact ih _ s
  | call q next ih =>
    have hafter : s.Lasts limit (s.after w limit q) := lasts_after q s
    rw [run_call]
    cases (s.perform w limit q).1 with
    | value a => exact hafter.trans (ih a _)
    | panic t => exact hafter
  | fork ps next ih => exact (runAll_lasts ps s).trans (ih _ _)

end Deliberation.Run
