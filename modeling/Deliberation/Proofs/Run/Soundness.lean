import Deliberation.Proofs.Run.Ends
import Deliberation.Proofs.Run.Exchange
import Deliberation.Proofs.Run.Schedule

namespace Deliberation.Run

open Session

variable {σ α β ι κ : Type} {w : World σ} {limit : Nat} {s : Session σ} {c : Prop}

def World.surroundings (w : World σ) (limit : Nat) (c : Prop) : Surroundings where
  answers q a := ∃ s, ending limit (w.respond q s).1 = .value a
  panics q t := ∃ s, ending limit (w.respond q s).1 = .panic t
  cancels := c

structure Surroundings.Admits (e : Surroundings) (limit : Nat) (x : Exchange) : Prop where
  answers : ∀ a, ending limit x.reply = .value a → e.answers x.query a
  panics : ∀ t, ending limit x.reply = .panic t → e.panics x.query t

theorem World.admits_surroundings {x : Exchange} (h : ∃ y, x.reply = (w.respond x.query y).1) :
    (w.surroundings limit c).Admits limit x := by
  obtain ⟨y, hy⟩ := h
  refine ⟨fun a ha => ⟨y, ?_⟩, fun t ht => ⟨y, ?_⟩⟩
  · rw [← hy, ha]
  · rw [← hy, ht]

theorem ending_eq_ok {r : Reply α} {a : α} (h : ending limit r = .value (.ok a)) :
    r.outcome = .value a := by
  rw [ending] at h
  split at h
  · split at h
    · next hr =>
      cases h
      exact hr
    · cases h
  · cases h

theorem ending_of_lt {r : Reply α} (h : limit < r.delay) :
    ending limit r = .value (.error (.timeout limit)) :=
  if_neg (Nat.not_le.2 h)

theorem ending_eq_error {r : Reply α} {f : Failure}
    (h : ending limit r = .value (.error f)) : limit < r.delay ∧ f = .timeout limit := by
  rw [ending] at h
  split at h
  · split at h <;> cases h
  · next hdelay =>
    cases h
    exact ⟨Nat.lt_of_not_le hdelay, rfl⟩

theorem ending_ne_cancelled (r : Reply α) : ending limit r ≠ .value (.error .cancelled) := by
  intro h
  rw [ending] at h
  split at h
  · split at h <;> cases h
  · cases h

variable {e : Surroundings}

theorem Process.Conducts.ends {p : Process α} {m : List Exchange} {o : Outcome α}
    (h : p.Conducts limit c m o) (hc : c → e.cancels) (hm : ∀ x ∈ m, e.Admits limit x) :
    p.Ends e (m.map Exchange.query) o := by
  induction h with
  | done a => exact .done a
  | crash t => exact .crash t
  | poll hb _ ih => exact .poll (fun h => hc (hb h)) (ih hm)
  | lost hr _ _ ih => exact .lost (hc hr) (ih (List.forall_mem_cons.1 hm).2)
  | answered ha _ ih =>
    obtain ⟨hx, hm⟩ := List.forall_mem_cons.1 hm
    exact .answered (hx.answers _ ha) (ih hm)
  | panicked ht => exact .panicked ((hm _ (List.mem_singleton_self _)).panics _ ht)

structure Began (w : World σ) (s s' : Session σ) (l : List Query) : Prop where
  queries : s'.queries = s.queries ++ l
  world : s'.world = w.replay s.world l

namespace Began

variable {s' s'' : Session σ} {l m : List Query}

theorem refl (s : Session σ) : Began w s s [] :=
  ⟨(List.append_nil _).symm, rfl⟩

theorem trans (h : Began w s s' l) (h' : Began w s' s'' m) : Began w s s'' (l ++ m) where
  queries := by rw [h'.queries, h.queries, List.append_assoc]
  world := by rw [h'.world, h.world, replay_append]

theorem begin (q : Query) (s : Session σ) : Began w s (s.begin w q).2 [q] :=
  ⟨queries_begin q s, rfl⟩

theorem after (q : Query) (s : Session σ) : Began w s (s.after w limit q) [q] :=
  ⟨queries_after q s, world_after q s⟩

theorem cancel (h : Began w s s' l) : Began w s s'.cancel l where
  queries := (congrArg (List.map Call.query) (calls_cancel s')).trans h.queries
  world := h.world

theorem close (h : Began w s s' l) (wait : Wait α) : Began w s (s'.close wait) l := by
  rw [Session.close]
  split
  · exact h.cancel
  · exact h

theorem await (h : Began w s s' l) (wake : Nat) (wait : Wait α) :
    Began w s (s'.await wake wait).2 l where
  queries := (congrArg (List.map Call.query) (calls_await wake wait s')).trans h.queries
  world := (world_await wake wait s').trans h.world

theorem admits (h : Began w s s' l) (hl : ∀ x ∈ w.exchanges s.world (l ++ m), e.Admits limit x) :
    (∀ x ∈ w.exchanges s.world l, e.Admits limit x) ∧
      ∀ x ∈ w.exchanges s'.world m, e.Admits limit x := by
  rw [exchanges_append, ← h.world] at hl
  exact List.forall_mem_append.1 hl

end Began

theorem began_steady (w : World σ) (s : Session σ) : Steady w fun s' => ∃ l, Began w s s' l where
  begin := fun ⟨_, h⟩ q => ⟨_, h.trans (.begin q _)⟩
  cancel := fun _ ⟨l, h⟩ => ⟨l, h.cancel⟩
  sleepTo := fun ⟨l, h⟩ _ _ => ⟨l, h.queries, h.world⟩
  ticket := fun ⟨l, h⟩ => ⟨l, h.queries, h.world⟩

theorem Process.run_admitted (p : Process α) (s : Session σ)
    (hc : (p.run w limit s).2.cancelled = true → e.cancels) :
    ∃ l, Began w s (p.run w limit s).2 l ∧
      ((∀ x ∈ w.exchanges s.world l, e.Admits limit x) → p.Ends e l (p.run w limit s).1) := by
  obtain ⟨l, hl, h⟩ := run_conducts p s hc
  obtain ⟨m, hm⟩ : ∃ m, Began w s (p.run w limit s).2 m :=
    run_steady (began_steady w s) p ⟨[], .refl s⟩
  obtain rfl := List.append_cancel_left (hl.symm.trans hm.queries)
  refine ⟨l, hm, fun hadmits => ?_⟩
  have hends := h.ends id hadmits
  rwa [query_exchanges] at hends

def Stop.Ends (e : Surroundings) : Stop α → List Query → Outcome α → Prop
  | finished a, l, o => l = [] ∧ o = .value a
  | crashed t, l, o => l = [] ∧ o = .panic t
  | asleep _ next _ _ wait, l, o =>
    (e.cancels ∧ (next (.error .cancelled)).Ends e l o) ∨
      ((wait.cancels = true → e.cancels) ∧ (Process.resumed next wait.outcome).Ends e l o)

theorem Process.ends_of_reply {q : Query} {next : Except Failure q.Answer → Process α}
    {r : Reply q.Answer} {x : Outcome (Except Failure q.Answer)} {l : List Query} {o : Outcome α}
    (hx : r.Ends limit e.cancels x) (hadmits : e.Admits limit ⟨q, r⟩)
    (h : (resumed next x).Ends e l o) : (call q next).Ends e (q :: l) o := by
  cases x with
  | value a =>
    cases hx with
    | itself ha => exact .answered (hadmits.answers a ha) h
    | lost hc _ => exact .lost hc h
  | panic t =>
    obtain ⟨rfl, rfl⟩ := ends_crash_iff.1 h
    cases hx with
    | itself ht => exact .panicked (hadmits.panics t ht)

theorem Process.advance_ends (p : Process α) (s : Session σ)
    (hc : (p.advance w limit s).2.cancelled = true → e.cancels) :
    ∃ d, Began w s (p.advance w limit s).2 d ∧
      ((∀ x ∈ w.exchanges s.world d, e.Admits limit x) →
        ∀ l o, (p.advance w limit s).1.Ends e l o → p.Ends e (d ++ l) o) := by
  induction p generalizing s with
  | done a => exact ⟨[], .refl s, fun _ l o h => ends_done_iff.2 h⟩
  | crash t => exact ⟨[], .refl s, fun _ l o h => ends_crash_iff.2 h⟩
  | poll next ih =>
    obtain ⟨d, hd, h⟩ := ih _ s hc
    refine ⟨d, hd, fun hadmits l o hl => .poll (fun hb => hc ?_) (h hadmits l o hl)⟩
    exact advance_steady (cancelled_steady w) _ hb
  | call q next ih =>
    have hone (m : List Query) (h : ∀ x ∈ w.exchanges s.world (q :: m), e.Admits limit x) :
        e.Admits limit ⟨q, (s.begin w q).1⟩ :=
      h _ List.mem_cons_self
    have hbegun : Began w s (s.begin w q).2 [q] := .begin q s
    have hends := (s.begin w q).1.wait_ends limit
    rw [advance_call] at hc ⊢
    dsimp only at hc ⊢
    split at hc
    · next hlength =>
      rw [if_pos hlength]
      have hclosed := hbegun.close ((s.begin w q).1.wait limit)
      have hcancels : ((s.begin w q).1.wait limit).cancels = true → e.cancels := fun h =>
        hc (advance_steady (cancelled_steady w) _ (cancelled_close h _))
      cases ho : ((s.begin w q).1.wait limit).outcome with
      | value a =>
        rw [ho] at hc hends
        obtain ⟨d, hd, h⟩ := ih a _ hc
        refine ⟨[q] ++ d, hclosed.trans hd, fun hadmits l o hl => ?_⟩
        exact ends_of_reply (hends.imp hcancels) (hone d hadmits)
          (h (hclosed.admits hadmits).2 l o hl)
      | panic t =>
        rw [ho] at hends
        refine ⟨[q], hclosed, fun hadmits l o hl => ?_⟩
        exact ends_of_reply (hends.imp hcancels) (hone [] hadmits) (ends_crash_iff.2 hl)
    · next hlength =>
      rw [if_neg hlength]
      refine ⟨[q], ⟨hbegun.queries, hbegun.world⟩, fun hadmits l o hl => ?_⟩
      obtain ⟨hcancels, h⟩ | ⟨hcancels, h⟩ := hl
      · exact .lost hcancels h
      · exact ends_of_reply (hends.imp hcancels) (hone [] hadmits) h

theorem Stop.resume_ends (stop : Stop α) (s : Session σ)
    (hc : (stop.resume w limit s).2.cancelled = true → e.cancels) :
    ∃ d, Began w s (stop.resume w limit s).2 d ∧
      ((∀ x ∈ w.exchanges s.world d, e.Admits limit x) →
        ∀ l o, (stop.resume w limit s).1.Ends e l o → stop.Ends e (d ++ l) o) := by
  cases stop with
  | finished a => exact ⟨[], .refl s, fun _ l o h => h⟩
  | crashed t => exact ⟨[], .refl s, fun _ l o h => h⟩
  | asleep q next wake ticket wait =>
    rw [resume_asleep] at hc ⊢
    obtain ⟨d, hd, h⟩ := Process.advance_ends _ _ hc
    have hawaited : Began w s (s.await wake wait).2 [] := .await (.refl s) wake wait
    refine ⟨d, hawaited.trans hd, fun hadmits l o hl => ?_⟩
    have hends := h (hawaited.admits hadmits).2 l o hl
    have hcancelled : (s.await wake wait).2.cancelled = true → e.cancels := fun h =>
      hc (Process.advance_steady (cancelled_steady w) _ h)
    rw [await] at hends hcancelled
    split at hends
    · next hs =>
      rw [if_pos hs] at hcancelled
      exact .inl ⟨hcancelled hs, hends⟩
    · next hs =>
      rw [if_neg hs] at hcancelled
      exact .inr ⟨fun h => hcancelled (cancelled_close h _), hends⟩

theorem Together.replace {E : ι → List Query → Outcome β → Prop} {x y : ι} {d : List Query}
    (hxy : ∀ l o, E y l o → E x (d ++ l) o) {pre post : List ι} {m : List Query}
    {rs : List (Option β)} (h : Together E (pre ++ y :: post) m rs) :
    Together E (pre ++ x :: post) (d ++ m) rs := by
  induction pre generalizing m rs with
  | nil =>
    cases h with
    | cons hy h hm =>
      refine .cons (hxy _ _ hy) h ?_
      rw [List.append_assoc]
      exact hm.append_left d
  | cons z pre ih =>
    cases h with
    | @cons _ _ l l' _ _ _ hz h hm =>
      refine .cons hz (ih h) ?_
      have hd : (d ++ m).Perm ((d ++ l) ++ l') := by
        rw [List.append_assoc]
        exact hm.append_left d
      refine hd.trans ?_
      rw [← List.append_assoc]
      exact List.perm_append_comm.append_right l'

theorem together_of_ended {e : Surroundings} {stops : List (Stop β)}
    (h : ∀ stop ∈ stops, stop.turn? s = none) :
    Together (Stop.Ends e) stops [] (stops.map Stop.result?) := by
  induction stops with
  | nil => exact .nil
  | cons stop r ih =>
    have hr := ih fun other hm => h other (List.mem_cons_of_mem _ hm)
    cases stop with
    | finished a => exact .cons (o := .value a) ⟨rfl, rfl⟩ hr (List.Perm.refl _)
    | crashed t => exact .cons (o := .panic t) ⟨rfl, rfl⟩ hr (List.Perm.refl _)
    | asleep q next wake ticket wait => cases h _ List.mem_cons_self

theorem settle_ends {stops : List (Stop β)} (ha : Ahead w limit s.now stops)
    (hc : (settle w limit stops s).session.cancelled = true → e.cancels) :
    ∃ m, Began w s (settle w limit stops s).session m ∧
      ((∀ x ∈ w.exchanges s.world m, e.Admits limit x) →
        Together (Stop.Ends e) stops m ((settle w limit stops s).stops.map Stop.result?)) := by
  refine (settle_induction (P := fun stops s out =>
    (s.cancelled = true → out.session.cancelled = true) ∧
      ((out.session.cancelled = true → e.cancels) →
        ∃ m, Began w s out.session m ∧ ((∀ x ∈ w.exchanges s.world m, e.Admits limit x) →
          Together (Stop.Ends e) stops m (out.stops.map Stop.result?))))
    ?_ ?_ stops s ha).2 hc
  · intro stops s h
    exact ⟨id, fun _ => ⟨[], .refl s, fun _ => together_of_ended h⟩⟩
  · intro turn pre stop post s out _ ha ih
    have hs : s.cancelled = true → (stop.resume w limit s).2.cancelled = true :=
      Stop.resume_steady (cancelled_steady w) (ha stop (by simp))
    refine ⟨fun h => ih.1 (hs h), fun hc => ?_⟩
    obtain ⟨m, hm, h⟩ := ih.2 hc
    obtain ⟨d, hd, hr⟩ := Stop.resume_ends stop s fun h => hc (ih.1 h)
    refine ⟨d ++ m, hd.trans hm, fun hadmits => ?_⟩
    obtain ⟨hadmits, hrest⟩ := hd.admits hadmits
    exact (h hrest).replace (hr hadmits)

theorem startAll_ends (ps : List (Process β)) (s : Session σ)
    (hc : (startAll w limit ps s).2.cancelled = true → e.cancels) :
    ∃ d, Began w s (startAll w limit ps s).2 d ∧
      ((∀ x ∈ w.exchanges s.world d, e.Admits limit x) →
        ∀ m rs, Together (Stop.Ends e) (startAll w limit ps s).1 m rs →
          Together (Process.Ends e) ps (d ++ m) rs) := by
  induction ps generalizing s with
  | nil =>
    refine ⟨[], .refl s, fun _ m rs h => ?_⟩
    cases h
    exact .nil
  | cons p ps ih =>
    obtain ⟨d, hd, hp⟩ := Process.advance_ends (e := e) p s fun h =>
      hc (startAll_steady (cancelled_steady w) ps h)
    obtain ⟨d', hd', hps⟩ := ih (p.advance w limit s).2 hc
    refine ⟨d ++ d', hd.trans hd', fun hadmits m rs h => ?_⟩
    obtain ⟨hadmits, hrest⟩ := hd.admits hadmits
    cases h with
    | @cons _ _ l l' _ _ _ hx h hm =>
      refine .cons (hp hadmits _ _ hx) (hps hrest _ _ h) ?_
      have hl : (d' ++ (l ++ l')).Perm (l ++ (d' ++ l')) := by
        rw [← List.append_assoc, ← List.append_assoc]
        exact List.perm_append_comm.append_right l'
      rw [List.append_assoc, List.append_assoc]
      exact ((hm.append_left d').trans hl).append_left d

theorem runAll_ends (w : World σ) (limit : Nat) (ps : List (Process β)) (s : Session σ)
    (hc : (runAll w limit ps s).2.cancelled = true → e.cancels) :
    ∃ l, Began w s (runAll w limit ps s).2 l ∧
      ((∀ x ∈ w.exchanges s.world l, e.Admits limit x) →
        Together (Process.Ends e) ps l (results w limit ps s)) := by
  have ha : Ahead w limit (startAll w limit ps s).2.now (startAll w limit ps s).1 :=
    ahead_startAll ps s
  obtain ⟨m, hm, h⟩ := settle_ends (e := e) ha hc
  obtain ⟨d, hd, hps⟩ := startAll_ends (e := e) ps s fun h =>
    hc (settle_steady (cancelled_steady w) ha h)
  refine ⟨d ++ m, hd.trans hm, fun hadmits => ?_⟩
  obtain ⟨hadmits, hrest⟩ := hd.admits hadmits
  exact hps hadmits _ _ (h hrest)

theorem Program.run_admitted (p : Program β α) (s : Session σ)
    (hc : (p.run w limit s).2.cancelled = true → e.cancels) :
    ∃ l, Began w s (p.run w limit s).2 l ∧
      ((∀ x ∈ w.exchanges s.world l, e.Admits limit x) → p.Ends e l (p.run w limit s).1) := by
  induction p generalizing s with
  | done a => exact ⟨[], .refl s, fun _ => .done a⟩
  | crash t => exact ⟨[], .refl s, fun _ => .crash t⟩
  | poll next ih =>
    obtain ⟨l, hl, h⟩ := ih _ s hc
    refine ⟨l, hl, fun hadmits => .poll (fun hb => hc ?_) (h hadmits)⟩
    exact run_steady (cancelled_steady w) _ hb
  | call q next ih =>
    have hafter : Began w s (s.after w limit q) [q] := .after q s
    have hone (m : List Query) (h : ∀ x ∈ w.exchanges s.world (q :: m), e.Admits limit x) :
        e.Admits limit ⟨q, (w.respond q s.world).1⟩ :=
      h _ List.mem_cons_self
    have hends := s.perform_ends w limit q
    rw [run_call] at hc ⊢
    cases ho : (s.perform w limit q).1 with
    | value a =>
      rw [ho] at hc hends
      obtain ⟨m, hm, h⟩ := ih a _ hc
      refine ⟨[q] ++ m, hafter.trans hm, fun hadmits => ?_⟩
      have hrest := h (hafter.admits hadmits).2
      cases hends with
      | itself ha => exact .answered ((hone m hadmits).answers a ha) hrest
      | lost hcancelled _ =>
        exact .lost (hc (run_steady (cancelled_steady w) _ hcancelled)) hrest
    | panic t =>
      rw [ho] at hends
      refine ⟨[q], hafter, fun hadmits => ?_⟩
      cases hends with
      | itself ht => exact .panicked ((hone [] hadmits).panics t ht)
  | fork ps next ih =>
    obtain ⟨m, hm, h⟩ := ih (runAll w limit ps s).1 (runAll w limit ps s).2 hc
    obtain ⟨l, hl, hw⟩ := runAll_ends w limit ps s fun h =>
      hc (run_steady (cancelled_steady w) (next (runAll w limit ps s).1) h)
    refine ⟨l ++ m, hl.trans hm, fun hadmits => ?_⟩
    obtain ⟨hadmits, hrest⟩ := hl.admits hadmits
    exact .fork (hw hadmits) (runAll_perm w limit ps s) (h hrest)

theorem Process.run_ends (p : Process α) (s : Session σ)
    (hc : (p.run w limit s).2.cancelled = true → c) :
    ∃ l, (p.run w limit s).2.queries = s.queries ++ l ∧
      p.Ends (w.surroundings limit c) l (p.run w limit s).1 := by
  obtain ⟨l, hl, h⟩ := p.run_admitted (e := w.surroundings limit c) s hc
  exact ⟨l, hl.queries, h fun _ hx => World.admits_surroundings (reply_of_mem_exchanges hx)⟩

theorem Program.run_ends (p : Program β α) (s : Session σ)
    (hc : (p.run w limit s).2.cancelled = true → c) :
    ∃ l, (p.run w limit s).2.queries = s.queries ++ l ∧
      p.Ends (w.surroundings limit c) l (p.run w limit s).1 := by
  obtain ⟨l, hl, h⟩ := p.run_admitted (e := w.surroundings limit c) s hc
  exact ⟨l, hl.queries, h fun _ hx => World.admits_surroundings (reply_of_mem_exchanges hx)⟩

theorem Program.run_ends_uncancelled (p : Program β α) (s : Session σ)
    (hc : (p.run w limit s).2.cancelled = false) :
    ∃ l, (p.run w limit s).2.queries = s.queries ++ l ∧
      p.Ends (w.surroundings limit False) l (p.run w limit s).1 :=
  p.run_ends s fun h => Bool.false_ne_true (hc.symm.trans h)

def Surroundings.ofLog (limit : Nat) (log : List Exchange) (c : Prop) : Surroundings where
  answers q a := ∃ r, ⟨q, r⟩ ∈ log ∧ ending limit r = .value a
  panics q t := ∃ r, ⟨q, r⟩ ∈ log ∧ ending limit r = .panic t
  cancels := c

theorem Program.run_ends_logged (p : Program β α) (s : Session σ)
    (hc : (p.run w limit s).2.cancelled = true → c) :
    ∃ l, (p.run w limit s).2.queries = s.queries ++ l ∧
      p.Ends (.ofLog limit (w.exchanges s.world l) c) l (p.run w limit s).1 := by
  have hadmitted {e : Surroundings} (he : e.cancels = c) := p.run_admitted (e := e) s fun h =>
    he ▸ hc h
  obtain ⟨l, hl, -⟩ := hadmitted (e := .ofLog limit [] c) rfl
  obtain ⟨m, hm, h⟩ := hadmitted (e := .ofLog limit (w.exchanges s.world l) c) rfl
  obtain rfl : l = m := List.append_cancel_left (hl.queries.symm.trans hm.queries)
  exact ⟨l, hl.queries, h fun x hx => ⟨fun a ha => ⟨_, hx, ha⟩, fun t ht => ⟨_, hx, ht⟩⟩⟩

end Deliberation.Run
