import Deliberation.Proofs.Run.Evaluation
import Deliberation.Proofs.Run.Group
import Deliberation.Proofs.Run.Soundness

namespace Deliberation.Run

open Session

variable {σ α β : Type} {w : World σ} {limit : Nat} {s : Session σ} {P : Query → Prop}

def Stop.Doomed (text : String) : Stop β → Prop
  | finished _ => False
  | crashed t => t = text
  | asleep _ _ _ _ wait => wait.outcome = .panic text ∨ wait.cancels = true

theorem Stop.doomed_ofOutcome {o : Outcome β} {text : String} :
    (ofOutcome o).Doomed text ↔ o = .panic text := by
  cases o <;> simp [ofOutcome, Doomed]

theorem Reply.dooms_wait {r : Reply α} {text : String} (h : ending limit r = .panic text) :
    (r.wait limit).outcome = .panic text ∨ (r.wait limit).cancels = true := by
  generalize ho : (r.wait limit).outcome = o
  have hends := r.wait_ends limit
  rw [ho] at hends
  cases hends with
  | itself hitself => exact .inl (hitself.symm.trans h)
  | lost hc _ => exact .inr hc

structure Adds (w : World σ) (limit : Nat) (P : Query → Prop) (s : Session σ) (stop : Stop β)
    (s' : Session σ) (l : List Query) : Prop where
  began : Began w s s' l
  asked : ∀ q ∈ l, P q
  asks : stop.Asks P
  dooms : s'.cancelled = false → ∀ e ∈ w.exchanges s.world l, ∀ text,
    ending limit e.reply = .panic text → stop.Doomed text

theorem Adds.nil {s' : Session σ} {stop : Stop β} (hs : Began w s s' []) (h : stop.Asks P) :
    Adds w limit P s stop s' [] where
  began := hs
  asked := fun _ hq => nomatch hq
  asks := h
  dooms := fun _ _ he => nomatch he

theorem Process.advance_adds (w : World σ) (limit : Nat) {p : Process β} (hp : p.Asks P)
    (s : Session σ) :
    ∃ l, Adds w limit P s (p.advance w limit s).1 (p.advance w limit s).2 l := by
  induction hp generalizing s with
  | done a => exact ⟨[], .nil (.refl s) trivial⟩
  | crash t => exact ⟨[], .nil (.refl s) trivial⟩
  | poll _ ih => exact ih _ s
  | @call q next hq hnext ih =>
    have hbegun : Began w s (s.begin w q).2 [q] := .begin q s
    have hone : ∀ q' ∈ [q], P q' := List.forall_mem_singleton.2 hq
    have hdooms {e : Exchange} (he : e ∈ w.exchanges s.world [q]) {text : String}
        (ht : ending limit e.reply = .panic text) :
        ((s.begin w q).1.wait limit).outcome = .panic text ∨
          ((s.begin w q).1.wait limit).cancels = true := by
      cases List.mem_singleton.1 he
      exact Reply.dooms_wait ht
    rw [advance_call]
    dsimp only
    split
    · have hclosed := hbegun.close ((s.begin w q).1.wait limit)
      have hcancelled : ((s.begin w q).1.wait limit).cancels = true →
          ((s.begin w q).2.close ((s.begin w q).1.wait limit)).cancelled = true :=
        fun h => cancelled_close h _
      cases ho : ((s.begin w q).1.wait limit).outcome with
      | value a =>
        obtain ⟨l, h⟩ := ih a ((s.begin w q).2.close ((s.begin w q).1.wait limit))
        refine ⟨[q] ++ l, hclosed.trans h.began, List.forall_mem_cons.2 ⟨hq, h.asked⟩, h.asks, ?_⟩
        intro hc e he text ht
        rw [exchanges_append, ← hclosed.world] at he
        rcases List.mem_append.1 he with he | he
        · obtain hpanic | hcancels := hdooms he ht
          · cases ho.symm.trans hpanic
          · exact absurd (advance_steady (cancelled_steady w) _ (hcancelled hcancels))
              (Bool.eq_false_iff.1 hc)
        · exact h.dooms hc e he text ht
      | panic t =>
        refine ⟨[q], hclosed, hone, trivial, fun hc e he text ht => ?_⟩
        obtain hpanic | hcancels := hdooms he ht
        · cases ho.symm.trans hpanic
          exact rfl
        · exact absurd (hcancelled hcancels) (Bool.eq_false_iff.1 hc)
    · exact ⟨[q], ⟨hbegun.queries, hbegun.world⟩, hone, ⟨hq, hnext⟩,
        fun _ _ he _ ht => hdooms he ht⟩

theorem Stop.resume_adds (w : World σ) (limit : Nat) {stop : Stop β} (hs : stop.Asks P)
    (s : Session σ) :
    ∃ l, Adds w limit P s (stop.resume w limit s).1 (stop.resume w limit s).2 l ∧
      ((stop.resume w limit s).2.cancelled = false → ∀ text, stop.Doomed text →
        (stop.resume w limit s).1.Doomed text) := by
  cases stop with
  | finished a => exact ⟨[], .nil (.refl s) trivial, fun _ _ h => h⟩
  | crashed t => exact ⟨[], .nil (.refl s) trivial, fun _ _ h => h⟩
  | asleep q next wake ticket wait =>
    have hawaited : Began w s (s.await wake wait).2 [] := .await (.refl s) wake wait
    have hworld : (s.await wake wait).2.world = s.world := hawaited.world
    have hcancelled (p : Process β) (hc : (s.await wake wait).2.cancelled = true) :
        (p.advance w limit (s.await wake wait).2).2.cancelled = true :=
      Process.advance_steady (cancelled_steady w) p hc
    have hdoomed (hc : (s.await wake wait).2.cancelled = false) (text : String)
        (hd : (Stop.asleep q next wake ticket wait).Doomed text) :
        (s.await wake wait).1 = .panic text := by
      rw [await] at hc ⊢
      split at hc
      · next h => exact absurd h (Bool.eq_false_iff.1 hc)
      · next h =>
        rw [if_neg h]
        exact hd.resolve_right fun h => Bool.eq_false_iff.1 hc (cancelled_close h _)
    rw [resume_asleep]
    cases ho : (s.await wake wait).1 with
    | value a =>
      obtain ⟨l, h⟩ := Process.advance_adds w limit (hs.2 a) (s.await wake wait).2
      refine ⟨l, ⟨hawaited.trans h.began, h.asked, h.asks, hworld ▸ h.dooms⟩, ?_⟩
      intro hc text hd
      cases hopen : (s.await wake wait).2.cancelled with
      | false => cases ho.symm.trans (hdoomed hopen text hd)
      | true => exact absurd (hcancelled _ hopen) (Bool.eq_false_iff.1 hc)
    | panic t =>
      refine ⟨[], .nil hawaited trivial, fun hc text hd => ?_⟩
      cases ho.symm.trans (hdoomed hc text hd)
      exact rfl

structure Blamed (w : World σ) (limit : Nat) (P : Nat → Query → Prop) (s s' : Session σ)
    (stops : List (Stop β)) (l : List Query) : Prop where
  began : Began w s s' l
  asked : ∀ q ∈ l, ∃ i, P i q
  asks : ∀ (i : Nat) stop, stops[i]? = some stop → stop.Asks (P i)
  dooms : s'.cancelled = false → ∀ e ∈ w.exchanges s.world l, ∀ text,
    ending limit e.reply = .panic text →
      ∃ (i : Nat) (stop : Stop β), stops[i]? = some stop ∧ P i e.query ∧ stop.Doomed text

theorem blamed_startAll (w : World σ) (limit : Nat) {P : Nat → Query → Prop}
    {ps : List (Process β)} (hps : ∀ (i : Nat) p, ps[i]? = some p → p.Asks (P i))
    (s : Session σ) :
    ∃ l, Blamed w limit P s (startAll w limit ps s).2 (startAll w limit ps s).1 l := by
  induction ps generalizing P s with
  | nil =>
    exact ⟨[], .refl s, fun _ hq => (nomatch hq), fun _ _ h => (nomatch h), fun _ _ he => nomatch he⟩
  | cons p ps ih =>
    obtain ⟨m, hm⟩ := Process.advance_adds w limit (hps 0 p rfl) s
    obtain ⟨n, hn⟩ := ih (fun i p h => hps (i + 1) p h) (p.advance w limit s).2
    rw [startAll]
    refine ⟨m ++ n, hm.began.trans hn.began, fun q hq => ?_, fun i stop hi => ?_,
      fun hc e he text ht => ?_⟩
    · rcases List.mem_append.1 hq with hq | hq
      · exact ⟨0, hm.asked q hq⟩
      · obtain ⟨i, hi⟩ := hn.asked q hq
        exact ⟨i + 1, hi⟩
    · cases i with
      | zero =>
        cases hi
        exact hm.asks
      | succ i => exact hn.asks i stop hi
    · have hfirst : (p.advance w limit s).2.cancelled = false :=
        Bool.eq_false_iff.2 fun h => Bool.eq_false_iff.1 hc (startAll_steady (cancelled_steady w) ps h)
      rw [exchanges_append, ← hm.began.world] at he
      rcases List.mem_append.1 he with he | he
      · have hq := hm.asked e.query (query_mem_of_mem_exchanges he)
        exact ⟨0, _, rfl, hq, hm.dooms hfirst e he text ht⟩
      · obtain ⟨i, stop, hi, hd⟩ := hn.dooms hc e he text ht
        exact ⟨i + 1, stop, hi, hd⟩

theorem getElem?_middle {α : Type} (pre post : List α) (a b : α) (i : Nat) :
    (pre ++ a :: post)[i]? = if i = pre.length then some a else (pre ++ b :: post)[i]? := by
  split
  · next hi =>
    rw [hi, List.getElem?_append_right (Nat.le_refl _), Nat.sub_self, List.getElem?_cons_zero]
  · next hi =>
    rw [List.getElem?_append, List.getElem?_append]
    split
    · rfl
    · obtain ⟨k, hk⟩ : ∃ k, i - pre.length = k + 1 := ⟨i - pre.length - 1, by omega⟩
      rw [hk, List.getElem?_cons_succ, List.getElem?_cons_succ]

theorem Blamed.resume {P : Nat → Query → Prop} {s₀ : Session σ} {pre post : List (Stop β)}
    {stop : Stop β} {l : List Query} (h : Blamed w limit P s₀ s (pre ++ stop :: post) l)
    (hpending : stop.Pending w limit s.now) :
    ∃ l, Blamed w limit P s₀ (stop.resume w limit s).2
      (pre ++ (stop.resume w limit s).1 :: post) l := by
  have hstop : stop.Asks (P pre.length) :=
    h.asks _ _ ((getElem?_middle pre post stop stop _).trans (if_pos rfl))
  obtain ⟨m, hm, hkeeps⟩ := Stop.resume_adds w limit hstop s
  have hresumed : (pre ++ (stop.resume w limit s).1 :: post)[pre.length]? =
      some (stop.resume w limit s).1 :=
    (getElem?_middle pre post _ stop _).trans (if_pos rfl)
  refine ⟨l ++ m, h.began.trans hm.began, fun q hq => ?_, fun i other hi => ?_,
    fun hc e he text ht => ?_⟩
  · exact (List.mem_append.1 hq).elim (h.asked q) fun hq => ⟨_, hm.asked q hq⟩
  · rw [getElem?_middle pre post _ stop] at hi
    split at hi
    · next hlen =>
      cases hi
      rw [hlen]
      exact hm.asks
    · exact h.asks i other hi
  · have hs : s.cancelled = false :=
      Bool.eq_false_iff.2 fun hs => Bool.eq_false_iff.1 hc
        (Stop.resume_steady (cancelled_steady w) hpending hs)
    rw [exchanges_append, ← h.began.world] at he
    rcases List.mem_append.1 he with he | he
    · -- the process that the call has doomed goes on now, or stands where it stood
      obtain ⟨i, other, hi, hq, hd⟩ := h.dooms hs e he text ht
      by_cases hlen : i = pre.length
      · subst hlen
        rw [getElem?_middle pre post _ stop, if_pos rfl] at hi
        cases hi
        exact ⟨_, _, hresumed, hq, hkeeps hc text hd⟩
      · rw [getElem?_middle pre post _ (stop.resume w limit s).1, if_neg hlen] at hi
        exact ⟨i, other, hi, hq, hd⟩
    · have hq := hm.asked e.query (query_mem_of_mem_exchanges he)
      exact ⟨_, _, hresumed, hq, hm.dooms hc e he text ht⟩

theorem blamed_settle {P : Nat → Query → Prop} {s₀ : Session σ} {stops : List (Stop β)}
    {l : List Query} (ha : Ahead w limit s.now stops) (h : Blamed w limit P s₀ s stops l) :
    ∃ l, Blamed w limit P s₀ (settle w limit stops s).session (settle w limit stops s).stops l := by
  refine settle_induction (P := fun stops s out => ∀ l, Blamed w limit P s₀ s stops l →
    ∃ l, Blamed w limit P s₀ out.session out.stops l) (fun _ _ _ l h => ⟨l, h⟩) ?_ stops s ha l h
  intro turn pre stop post s out _ ha ih l h
  obtain ⟨m, hm⟩ := h.resume (ha stop (by simp))
  exact ih m hm

theorem runAll_blamed (w : World σ) (limit : Nat) {P : Nat → Query → Prop}
    {ps : List (Process β)} (hps : ∀ (i : Nat) p, ps[i]? = some p → p.Asks (P i))
    (s : Session σ) :
    ∃ l, Blamed w limit P s (runAll w limit ps s).2
      ((outcomes w limit ps s).map Stop.ofOutcome) l := by
  obtain ⟨_, hstart⟩ := blamed_startAll w limit hps s
  rw [← settle_outcomes]
  exact blamed_settle (ahead_startAll ps s) hstart

structure Contained (w : World σ) (limit : Nat) (P : Query → Prop) (s : Session σ)
    (ended : Outcome α × Session σ) (l : List Query) : Prop where
  queries : ended.2.queries = s.queries ++ l
  fatal : ∀ e ∈ w.exchanges s.world l, P e.query → ∀ text, ending limit e.reply = .panic text →
    (0 < e.reply.delay → ended.2.cancelled = false) → ended.1 = .panic text
  cause : ∀ text, ended.1 = .panic text →
    ∃ e ∈ w.exchanges s.world l, P e.query ∧ ending limit e.reply = .panic text

theorem Contained.after {s₁ : Session σ} {ended : Outcome α × Session σ} {l m : List Query}
    (h : Contained w limit P s₁ ended m) (hq : s₁.queries = s.queries ++ l)
    (hw : s₁.world = w.replay s.world l)
    (hl : ∀ e ∈ w.exchanges s.world l, P e.query → ∀ text, ending limit e.reply = .panic text →
      0 < e.reply.delay ∧ ended.2.cancelled = true) :
    Contained w limit P s ended (l ++ m) where
  queries := by rw [h.queries, hq, List.append_assoc]
  fatal := by
    intro e he hown text ht hlive
    rw [exchanges_append, ← hw] at he
    rcases List.mem_append.1 he with he | he
    · obtain ⟨hdelay, hc⟩ := hl e he hown text ht
      exact absurd hc (Bool.eq_false_iff.1 (hlive hdelay))
    · exact h.fatal e he hown text ht hlive
  cause := by
    intro text ht
    obtain ⟨e, he, hown⟩ := h.cause text ht
    refine ⟨e, ?_, hown⟩
    rw [exchanges_append, ← hw]
    exact List.mem_append_right _ he

theorem Program.Heeds.contained {C : Outcome α → Prop} {p : Program β α} (hp : p.Heeds P C)
    (hC : ∀ text, ¬ C (.panic text)) (w : World σ) (limit : Nat) (s : Session σ) :
    ∃ l, Contained w limit P s (p.run w limit s) l := by
  have hnil {p : Program β α} (hg : p.Guarded) (hc : C p.abandoned) {s : Session σ}
      (hs : s.cancelled = true) : ∃ l, Contained w limit P s (p.run w limit s) l := by
    rw [hg.abandons hs]
    refine ⟨[], (List.append_nil _).symm, fun _ he => (nomatch he), fun text ht => ?_⟩
    exact absurd (ht ▸ hc) (hC text)
  induction hp generalizing s with
  | done a =>
    exact ⟨[], (List.append_nil _).symm, fun _ he => (nomatch he), fun _ ht => nomatch ht⟩
  | poll hc hg _ ih =>
    rw [run]
    cases hs : s.cancelled with
    | false => exact ih s
    | true => exact hs ▸ hnil hg hc hs
  | @guarded q next hq hc h ih =>
    rw [Program.guarded, run]
    cases hs : s.cancelled with
    | true => exact hnil (h _).all_guarded hc hs
    | false =>
      have hqueries : (s.after w limit q).queries = s.queries ++ [q] := queries_after q s
      have hworld : (s.after w limit q).world = w.replay s.world [q] := world_after q s
      have hends := s.perform_ends w limit q
      rw [if_neg Bool.false_ne_true, run_call]
      cases ho : (s.perform w limit q).1 with
      | value a =>
        rw [ho] at hends
        obtain ⟨l, hl⟩ := ih a (s.after w limit q)
        refine ⟨[q] ++ l, hl.after hqueries hworld fun e he _ text ht => ?_⟩
        cases List.mem_singleton.1 he
        cases hends with
        | itself ha => cases ha.symm.trans ht
        | lost hcancelled hdelay =>
          exact ⟨hdelay, run_steady (cancelled_steady w) _ hcancelled⟩
      | panic t =>
        rw [ho] at hends
        cases hends with
        | itself hend =>
          refine ⟨[q], hqueries, fun e he _ text ht _ => ?_, fun text ht => ?_⟩
          · cases List.mem_singleton.1 he
            cases hend.symm.trans ht
            rfl
          · cases ht
            exact ⟨_, List.mem_singleton_self _, hq, hend⟩
  | @fork ps next hps _ _ _ ih =>
    -- the workers panic on their own account, and none of their calls is the program's
    obtain ⟨m, hm⟩ := ih (runAll w limit ps s).1 (runAll w limit ps s).2
    obtain ⟨l, hl⟩ := runAll_blamed w limit (P := fun _ q => ¬ P q)
      (fun i p h => hps p (List.mem_of_getElem? h)) s
    refine ⟨l ++ m, hm.after hl.began.queries hl.began.world fun e he hown => ?_⟩
    obtain ⟨_, hnot⟩ := hl.asked e.query (query_mem_of_mem_exchanges he)
    exact absurd hown hnot

end Deliberation.Run
