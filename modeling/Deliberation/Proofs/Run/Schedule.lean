import Deliberation.Proofs.Run.Call

namespace Deliberation.Run

open Session

variable {σ α β : Type} {w : World σ} {limit : Nat} {s s' : Session σ}

theorem resumeAt_eq_some {turn : Nat × Nat} {stops : List (Stop β)} {x : Resumption σ β}
    (h : resumeAt w limit turn s stops = some x) :
    ∃ pre stop post, stops = pre ++ stop :: post ∧ stop.turn? s = some turn ∧
      x.stop = (stop.resume w limit s).1 ∧ x.stops = pre ++ x.stop :: post ∧
      x.session = (stop.resume w limit s).2 := by
  induction stops generalizing x with
  | nil => simp [resumeAt] at h
  | cons stop r ih =>
    rw [resumeAt] at h
    split at h
    · next ht =>
      cases h
      exact ⟨[], stop, r, rfl, ht, rfl, rfl, rfl⟩
    · obtain ⟨y, hr, rfl⟩ := Option.map_eq_some_iff.1 h
      obtain ⟨pre, found, post, rfl, ht, hstop, hstops, hsession⟩ := ih hr
      exact ⟨stop :: pre, found, post, rfl, ht, hstop, congrArg (stop :: ·) hstops, hsession⟩

theorem isSome_resumeAt {turn : Nat × Nat} {stops : List (Stop β)} {stop : Stop β}
    (hm : stop ∈ stops) (ht : stop.turn? s = some turn) :
    (resumeAt w limit turn s stops).isSome = true := by
  induction stops with
  | nil => simp at hm
  | cons first r ih =>
    rw [resumeAt]
    split
    · rfl
    · next hf =>
      rcases List.mem_cons.1 hm with rfl | hr
      · exact absurd ht hf
      · simpa using ih hr

theorem sooner_total {a b : Nat × Nat} (h : sooner a b = false) : sooner b a = true := by
  simp only [sooner, Bool.or_eq_false_iff, decide_eq_false_iff_not, Bool.and_eq_false_iff,
    beq_eq_false_iff_ne, Bool.or_eq_true, decide_eq_true_iff, Bool.and_eq_true, beq_iff_eq] at *
  omega

theorem instant_le_of_sooner {a b : Nat × Nat} (h : sooner a b = true) : a.1 ≤ b.1 := by
  simp only [sooner, Bool.or_eq_true, decide_eq_true_iff, Bool.and_eq_true, beq_iff_eq] at h
  omega

theorem soonest?_mem {stops : List (Stop β)} {turn : Nat × Nat}
    (h : soonest? s stops = some turn) : ∃ stop ∈ stops, stop.turn? s = some turn := by
  induction stops generalizing turn with
  | nil => simp [soonest?] at h
  | cons stop r ih =>
    rw [soonest?] at h
    split at h
    · next a b ha hb =>
      split at h
      · exact ⟨stop, List.mem_cons_self, ha.trans h⟩
      · obtain ⟨found, hm, ht⟩ := ih (hb.trans h)
        exact ⟨found, List.mem_cons_of_mem _ hm, ht⟩
    · next a ha hb => exact ⟨stop, List.mem_cons_self, ha.trans h⟩
    · next ha =>
      obtain ⟨found, hm, ht⟩ := ih h
      exact ⟨found, List.mem_cons_of_mem _ hm, ht⟩

theorem isSome_soonest? {stops : List (Stop β)} {stop : Stop β} {turn : Nat × Nat}
    (hm : stop ∈ stops) (ht : stop.turn? s = some turn) : (soonest? s stops).isSome = true := by
  induction stops with
  | nil => simp at hm
  | cons first r ih =>
    rw [soonest?]
    split
    · rfl
    · rfl
    · next hn =>
      rcases List.mem_cons.1 hm with rfl | hr
      · simp [ht] at hn
      · exact ih hr

theorem soonest?_le {stops : List (Stop β)} {turn other : Nat × Nat} {stop : Stop β}
    (h : soonest? s stops = some turn) (hm : stop ∈ stops) (ht : stop.turn? s = some other) :
    turn.1 ≤ other.1 := by
  induction stops generalizing turn with
  | nil => simp at hm
  | cons first r ih =>
    rw [soonest?] at h
    rcases List.mem_cons.1 hm with rfl | hr
    · split at h
      · next a b ha hb =>
        cases ha.symm.trans ht
        split at h
        · cases h
          exact Nat.le_refl _
        · next hs =>
          cases h
          exact instant_le_of_sooner (sooner_total (Bool.eq_false_iff.2 hs))
      · next a ha hb =>
        cases ha.symm.trans ht
        cases h
        exact Nat.le_refl _
      · next hn => simp [ht] at hn
    · split at h
      · next a b ha hb =>
        have hle := ih hb hr
        split at h
        · next hs =>
          cases h
          exact Nat.le_trans (instant_le_of_sooner hs) hle
        · cases h
          exact hle
      · next a ha hb =>
        have hs := isSome_soonest? hr ht
        simp [hb] at hs
      · exact ih h hr

inductive Stop.Pending (w : World σ) (limit now : Nat) : Stop β → Prop
  | finished (b : β) : Pending w limit now (.finished b)
  | crashed (t : String) : Pending w limit now (.crashed t)
  | asleep {q : Query} {next : Except Failure q.Answer → Process β} {wake ticket : Nat} {x : σ}
      (hlength : 0 < ((w.respond q x).1.wait limit).length) (hwake : now ≤ wake) :
      Pending w limit now (.asleep q next wake ticket ((w.respond q x).1.wait limit))

def Ahead (w : World σ) (limit now : Nat) (stops : List (Stop β)) : Prop :=
  ∀ stop ∈ stops, stop.Pending w limit now

theorem Stop.turn?_eq_some {stop : Stop β} {turn : Nat × Nat} (h : stop.turn? s = some turn) :
    ∃ q next wake e, stop = asleep q next wake turn.2 e ∧ turn.1 = s.rouse wake := by
  cases stop with
  | finished a => cases h
  | crashed t => cases h
  | asleep q next wake ticket e =>
    cases h
    exact ⟨q, next, wake, e, rfl, rfl⟩

theorem Process.now_advance (p : Process β) (s : Session σ) :
    (p.advance w limit s).2.now = s.now := by
  induction p generalizing s with
  | done a => rfl
  | crash t => rfl
  | poll next ih => exact ih _ s
  | call q next ih =>
    rw [advance_call]
    dsimp only
    split
    · have hnow := now_close ((s.begin w q).1.wait limit) (s.begin w q).2
      cases ((s.begin w q).1.wait limit).outcome with
      | value a => exact (ih a _).trans hnow
      | panic t => exact hnow
    · rfl

theorem Process.pending_advance (p : Process β) (s : Session σ) :
    (p.advance w limit s).1.Pending w limit s.now := by
  induction p generalizing s with
  | done a => exact .finished a
  | crash t => exact .crashed t
  | poll next ih => exact ih _ s
  | call q next ih =>
    rw [advance_call]
    dsimp only
    split
    · have hnow := now_close ((s.begin w q).1.wait limit) (s.begin w q).2
      cases ((s.begin w q).1.wait limit).outcome with
      | value a => exact hnow ▸ ih a _
      | panic t => exact .crashed t
    · next hlength => exact .asleep (Nat.pos_of_ne_zero hlength) (Nat.le_add_right _ _)

theorem Stop.now_resume {stop : Stop β} {turn : Nat × Nat} (h : stop.turn? s = some turn) :
    (stop.resume w limit s).2.now = turn.1 := by
  obtain ⟨q, next, wake, wait, rfl, hr⟩ := turn?_eq_some h
  rw [resume_asleep, Process.now_advance, now_await, hr]

theorem Stop.pending_resume {stop : Stop β} {turn : Nat × Nat} (h : stop.turn? s = some turn) :
    (stop.resume w limit s).1.Pending w limit turn.1 := by
  obtain ⟨q, next, wake, wait, rfl, hr⟩ := turn?_eq_some h
  rw [resume_asleep, hr, ← now_await]
  exact Process.pending_advance _ _

theorem Stop.resume_steady {I : Session σ → Prop} (hI : Steady w I) {stop : Stop β}
    (hp : stop.Pending w limit s.now) (hs : I s) : I (stop.resume w limit s).2 := by
  cases hp with
  | finished b => exact hs
  | crashed t => exact hs
  | asleep _ hwake =>
    rw [resume_asleep]
    exact Process.advance_steady hI _ (hI.await hwake hs)

theorem Ahead.resume {turn : Nat × Nat} {pre post : List (Stop β)} {stop : Stop β}
    (ha : Ahead w limit s.now (pre ++ stop :: post))
    (hs : soonest? s (pre ++ stop :: post) = some turn) (ht : stop.turn? s = some turn) :
    Ahead w limit (stop.resume w limit s).2.now (pre ++ (stop.resume w limit s).1 :: post) := by
  have hother : ∀ other ∈ pre ++ stop :: post, other.Pending w limit turn.1 := by
    intro other hm
    have hpending := ha other hm
    cases hpending with
    | finished b => exact .finished b
    | crashed t => exact .crashed t
    | asleep hlength hwake =>
      exact .asleep hlength (Nat.le_trans (soonest?_le hs hm rfl) (rouse_le hwake))
  rw [Stop.now_resume ht]
  intro other hm
  rcases List.mem_append.1 hm with hp | hp
  · exact hother other (by simp [hp])
  · rcases List.mem_cons.1 hp with rfl | hp
    · exact Stop.pending_resume ht
    · exact hother other (by simp [hp])

theorem ended_of_stuck {stops : List (Stop β)}
    (h : ((soonest? s stops).bind fun turn => resumeAt w limit turn s stops) = none) :
    ∀ stop ∈ stops, stop.turn? s = none := by
  intro stop hm
  cases ht : stop.turn? s with
  | none => rfl
  | some turn =>
    obtain ⟨first, hf⟩ := Option.isSome_iff_exists.1 (isSome_soonest? hm ht)
    obtain ⟨found, hfm, hft⟩ := soonest?_mem hf
    have hr : (resumeAt w limit first s stops).isSome := isSome_resumeAt hfm hft
    rw [hf, Option.bind_some] at h
    simp [h] at hr

theorem soonest?_eq_none {stops : List (Stop β)} (h : ∀ stop ∈ stops, stop.turn? s = none) :
    soonest? s stops = none := by
  cases hs : soonest? s stops with
  | none => rfl
  | some turn =>
    obtain ⟨stop, hm, ht⟩ := soonest?_mem hs
    cases (h stop hm).symm.trans ht

theorem settle_step {stops : List (Stop β)} {x : Resumption σ β}
    (h : ((soonest? s stops).bind fun turn => resumeAt w limit turn s stops) = some x) :
    settle w limit stops s =
      { settle w limit x.stops x.session with
        joined := x.stop.result?.toList ++ (settle w limit x.stops x.session).joined } := by
  rw [settle]
  split
  · next hr =>
    cases h.symm.trans hr
    rfl
  · next hr => cases h.symm.trans hr

theorem settle_ended {stops : List (Stop β)} (h : ∀ stop ∈ stops, stop.turn? s = none) :
    settle w limit stops s = ⟨stops, [], s⟩ := by
  have hs := soonest?_eq_none h
  rw [settle]
  split
  · next hr => simp [hs] at hr
  · rfl

theorem settle_induction {P : List (Stop β) → Session σ → Standstill σ β → Prop}
    (rest : ∀ stops s, (∀ stop ∈ stops, stop.turn? s = none) → P stops s ⟨stops, [], s⟩)
    (step : ∀ turn pre stop post s (out : Standstill σ β), stop.turn? s = some turn →
      Ahead w limit s.now (pre ++ stop :: post) →
      P (pre ++ (stop.resume w limit s).1 :: post) (stop.resume w limit s).2 out →
      P (pre ++ stop :: post) s
        { out with joined := (stop.resume w limit s).1.result?.toList ++ out.joined })
    (stops : List (Stop β)) (s : Session σ) (ha : Ahead w limit s.now stops) :
    P stops s (settle w limit stops s) := by
  fun_induction settle w limit stops s with
  | case1 stops s x h y ih =>
    obtain ⟨turn, hs, hr⟩ := Option.bind_eq_some_iff.1 h
    obtain ⟨pre, stop, post, rfl, ht, hstop, hstops, hsession⟩ := resumeAt_eq_some hr
    have ha' := ha.resume hs ht
    rw [hstop] at hstops
    rw [hstops, hsession] at ih
    have hout := step turn pre stop post s _ ht ha (ih ha')
    rwa [← hstops, ← hsession, ← hstop] at hout
  | case2 stops s h => exact rest stops s (ended_of_stuck h)

theorem now_startAll (ps : List (Process β)) (s : Session σ) :
    (startAll w limit ps s).2.now = s.now := by
  induction ps generalizing s with
  | nil => rfl
  | cons p ps ih => exact (ih _).trans (Process.now_advance p s)

theorem ahead_startAll (ps : List (Process β)) (s : Session σ) :
    Ahead w limit (startAll w limit ps s).2.now (startAll w limit ps s).1 := by
  rw [now_startAll]
  induction ps generalizing s with
  | nil => exact fun stop hm => nomatch hm
  | cons p ps ih =>
    refine List.forall_mem_cons.2 ⟨Process.pending_advance p s, ?_⟩
    exact Process.now_advance (w := w) p s ▸ ih _

variable {I : Session σ → Prop}

theorem startAll_steady (hI : Steady w I) (ps : List (Process β)) (hs : I s) :
    I (startAll w limit ps s).2 := by
  induction ps generalizing s with
  | nil => exact hs
  | cons p ps ih => exact ih (Process.advance_steady hI p hs)

theorem settle_steady (hI : Steady w I) {stops : List (Stop β)} (ha : Ahead w limit s.now stops)
    (hs : I s) : I (settle w limit stops s).session := by
  refine settle_induction (P := fun _ s out => I s → I out.session) (fun _ _ _ h => h) ?_ stops s
    ha hs
  intro turn pre stop post s out _ ha ih hs
  exact ih (Stop.resume_steady hI (ha stop (by simp)) hs)

theorem runAll_steady (hI : Steady w I) (ps : List (Process β)) (hs : I s) :
    I (runAll w limit ps s).2 :=
  settle_steady hI (ahead_startAll ps s) (startAll_steady hI ps hs)

theorem Program.run_steady (hI : Steady w I) (p : Program β α) (hs : I s) :
    I (p.run w limit s).2 := by
  induction p generalizing s with
  | done a => exact hs
  | crash t => exact hs
  | poll next ih => exact ih _ hs
  | call q next ih =>
    have hafter : I (s.after w limit q) := hI.perform q hs
    rw [run_call]
    cases (s.perform w limit q).1 with
    | value a => exact ih a hafter
    | panic t => exact hafter
  | fork ps next ih => exact ih _ (runAll_steady hI ps hs)

theorem Stop.result?_of_turn {stop : Stop β} {turn : Nat × Nat} (h : stop.turn? s = some turn) :
    stop.result? = none := by
  obtain ⟨q, next, wake, wait, rfl, -⟩ := turn?_eq_some h
  rfl

theorem settle_joined {stops : List (Stop β)} (ha : Ahead w limit s.now stops) :
    (stops.filterMap Stop.result? ++ (settle w limit stops s).joined).Perm
      ((settle w limit stops s).stops.filterMap Stop.result?) := by
  refine settle_induction (P := fun stops _ out =>
    (stops.filterMap Stop.result? ++ out.joined).Perm (out.stops.filterMap Stop.result?))
    (fun stops _ _ => by rw [List.append_nil]) ?_ stops s ha
  intro turn pre stop post s out ht _ ih
  refine List.Perm.trans ?_ ih
  have hnew (r : Option β) (l : List β) :
      (stop :: post).filterMap Stop.result? ++ (r.toList ++ l) =
        post.filterMap Stop.result? ++ (r.toList ++ l) := by
    rw [List.filterMap_cons_none (Stop.result?_of_turn ht)]
  have hresumed : ((stop.resume w limit s).1 :: post).filterMap Stop.result? =
      (stop.resume w limit s).1.result?.toList ++ post.filterMap Stop.result? := by
    cases h : (stop.resume w limit s).1.result? with
    | none => exact List.filterMap_cons_none h
    | some b => exact List.filterMap_cons_some h
  simp only [List.filterMap_append, List.append_assoc, hnew, hresumed]
  refine List.Perm.append_left _ ?_
  rw [← List.append_assoc, ← List.append_assoc]
  exact List.perm_append_comm.append_right _

def results (w : World σ) (limit : Nat) (ps : List (Process β)) (s : Session σ) :
    List (Option β) :=
  let (stops, s) := startAll w limit ps s
  (settle w limit stops s).stops.map Stop.result?

theorem runAll_perm (w : World σ) (limit : Nat) (ps : List (Process β)) (s : Session σ) :
    (runAll w limit ps s).1.Perm ((results w limit ps s).filterMap id) := by
  rw [results, List.filterMap_map]
  exact settle_joined (ahead_startAll ps s)

end Deliberation.Run
