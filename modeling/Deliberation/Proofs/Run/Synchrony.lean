import Deliberation.Proofs.Run.Ends
import Deliberation.Proofs.Run.Schedule
import Mathlib.Data.List.Forall2

namespace Deliberation.Run

open Session

variable {σ α β γ : Type} {w w' : World σ} {limit : Nat} {s : Session σ}

theorem Process.resumed_bind (next : Except Failure γ → Process α) (f : α → Process β)
    (o : Outcome (Except Failure γ)) :
    resumed (fun a => (next a).bind f) o = (resumed next o).bind f := by
  cases o <;> rfl

theorem Program.resumed_bind {δ : Type} (next : Except Failure γ → Program β α)
    (f : α → Program β δ) (o : Outcome (Except Failure γ)) :
    resumed (fun a => (next a).bind f) o = (resumed next o).bind f := by
  cases o <;> rfl

abbrev Correspondence : Type :=
  (q : Query) → Outcome (Except Failure q.Answer) → Outcome (Except Failure q.Answer) → Prop

structure Matches (D : Correspondence) (limit : Nat) (q : Query)
    (replied replied' : Reply q.Answer × σ) : Prop where
  world : replied'.2 = replied.2
  cancels : replied'.1.cancels = replied.1.cancels
  delay : min replied'.1.delay limit = min replied.1.delay limit
  ends : D q (ending limit replied.1) (ending limit replied'.1)

structure Wait.Matches (D : Correspondence) (q : Query) (wait wait' : Wait q.Answer) : Prop where
  length : wait'.length = wait.length
  cancels : wait'.cancels = wait.cancels
  outcome : wait.outcome = .value (.error .cancelled) ∧ wait'.outcome = .value (.error .cancelled) ∨
    D q wait.outcome wait'.outcome

theorem Matches.wait {D : Correspondence} {q : Query} {replied replied' : Reply q.Answer × σ}
    (h : Matches D limit q replied replied') :
    Wait.Matches D q (replied.1.wait limit) (replied'.1.wait limit) := by
  rw [Reply.wait, Reply.wait, h.cancels, h.delay]
  split
  · exact ⟨rfl, rfl, .inr h.ends⟩
  · split
    · exact ⟨rfl, rfl, .inl ⟨rfl, rfl⟩⟩
    · exact ⟨rfl, rfl, .inr h.ends⟩

theorem Session.close_congr {wait wait' : Wait α} (h : wait'.cancels = wait.cancels)
    (s : Session σ) : s.close wait' = s.close wait := by
  rw [close, close, h]

def Corresponds (D : Correspondence) (limit : Nat) (w w' : World σ) : Prop :=
  ∀ q x, Matches D limit q (w.respond q x) (w'.respond q x)

variable {D : Correspondence} {V V' : Outcome α → Outcome α → Prop}

inductive Process.Parallel (D : Correspondence) (V : Outcome α → Outcome α → Prop) :
    Process α → Process α → Prop
  | done {a a' : α} (h : V (.value a) (.value a')) : Parallel D V (.done a) (.done a')
  | crash {t : String} (h : V (.panic t) (.panic t)) : Parallel D V (.crash t) (.crash t)
  | recovers {t : String} {a : α} (h : V (.panic t) (.value a)) :
      Parallel D V (.crash t) (.done a)
  | poll {next next' : Bool → Process α} (h : ∀ b, Parallel D V (next b) (next' b)) :
      Parallel D V (.poll next) (.poll next')
  | call {q : Query} {next next' : Except Failure q.Answer → Process α}
      (hc : Parallel D V (next (.error .cancelled)) (next' (.error .cancelled)))
      (h : ∀ o o', D q o o' → Parallel D V (resumed next o) (resumed next' o')) :
      Parallel D V (.call q next) (.call q next')

inductive Stop.Parallel (D : Correspondence) (V : Outcome β → Outcome β → Prop) :
    Stop β → Stop β → Prop
  | finished {b b' : β} (h : V (.value b) (.value b')) :
      Parallel D V (.finished b) (.finished b')
  | crashed {t : String} (h : V (.panic t) (.panic t)) : Parallel D V (.crashed t) (.crashed t)
  | recovers {t : String} {b : β} (h : V (.panic t) (.value b)) :
      Parallel D V (.crashed t) (.finished b)
  | asleep {q : Query} {next next' : Except Failure q.Answer → Process β} (wake ticket : Nat)
      {wait wait' : Wait q.Answer} (hcancels : wait'.cancels = wait.cancels)
      (hc : (next (.error .cancelled)).Parallel D V (next' (.error .cancelled)))
      (h : (Process.resumed next wait.outcome).Parallel D V
        (Process.resumed next' wait'.outcome)) :
      Parallel D V (.asleep q next wake ticket wait) (.asleep q next' wake ticket wait')

theorem Process.Parallel.call_same {q : Query} {next next' : Except Failure q.Answer → Process α}
    (hD : ∀ o o', D q o o' → o' = o) (hV : ∀ t, V (.panic t) (.panic t))
    (h : ∀ a, (next a).Parallel D V (next' a)) :
    (Process.call q next).Parallel D V (.call q next') := by
  refine .call (h _) fun o o' ho => ?_
  obtain rfl := hD o o' ho
  cases o' with
  | value a => exact h a
  | panic t => exact .crash (hV t)

theorem Process.Parallel.guarded {q : Query} {next next' : Except Failure q.Answer → Process α}
    (hc : (next (.error .cancelled)).Parallel D V (next' (.error .cancelled)))
    (h : ∀ o o', D q o o' → (resumed next o).Parallel D V (resumed next' o')) :
    (Process.guarded q next).Parallel D V (.guarded q next') := by
  refine .poll fun cancelled => ?_
  cases cancelled with
  | true => exact hc
  | false => exact .call hc h

theorem Process.Parallel.guarded_same {q : Query} {next next' : Except Failure q.Answer → Process α}
    (hD : ∀ o o', D q o o' → o' = o) (hV : ∀ t, V (.panic t) (.panic t))
    (h : ∀ a, (next a).Parallel D V (next' a)) :
    (Process.guarded q next).Parallel D V (.guarded q next') := by
  refine .poll fun cancelled => ?_
  cases cancelled with
  | true => exact h _
  | false => exact .call_same hD hV h

theorem Process.Parallel.bind {p p' : Process α} (hp : p.Parallel D V p')
    {W : Outcome β → Outcome β → Prop} {f f' : α → Process β}
    (hf : ∀ a a', V (.value a) (.value a') → (f a).Parallel D W (f' a'))
    (hpanic : ∀ t, V (.panic t) (.panic t) → W (.panic t) (.panic t))
    (hrecovers : ∀ t a, V (.panic t) (.value a) → (Process.crash t).Parallel D W (f' a)) :
    (p.bind f).Parallel D W (p'.bind f') := by
  induction hp with
  | done h => exact hf _ _ h
  | crash h => exact .crash (hpanic _ h)
  | recovers h => exact hrecovers _ _ h
  | poll _ ih => exact .poll ih
  | call _ _ ihc ih =>
    refine .call ihc fun o o' ho => ?_
    rw [resumed_bind, resumed_bind]
    exact ih o o' ho

theorem Process.Parallel.bind_eq {p p' : Process α} (hp : p.Parallel D Eq p')
    {f f' : α → Process β} (hf : ∀ a, (f a).Parallel D Eq (f' a)) :
    (p.bind f).Parallel D Eq (p'.bind f') := by
  refine hp.bind (fun a a' h => ?_) (fun _ _ => rfl) fun t a h => ?_
  · cases h
    exact hf a
  · cases h

inductive Abreast (Q : Option β → Option β → Prop) : List β → List β → Prop
  | nil : Abreast Q [] []
  | cons {r r' : Option β} {l l' : List β} (hr : Q r r') (h : Abreast Q l l') :
      Abreast Q (r.toList ++ l) (r'.toList ++ l')

namespace Abreast

variable {Q Q' : Option β → Option β → Prop} {l l' m m' : List β}

theorem append (h : Abreast Q l l') (h' : Abreast Q m m') : Abreast Q (l ++ m) (l' ++ m') := by
  induction h with
  | nil => exact h'
  | cons hr _ ih =>
    rw [List.append_assoc, List.append_assoc]
    exact .cons hr ih

theorem imp (h : Abreast Q l l') (hQ : ∀ r r', Q r r' → Q' r r') : Abreast Q' l l' := by
  induction h with
  | nil => exact .nil
  | cons hr _ ih => exact .cons (hQ _ _ hr) ih

end Abreast

structure Synchronous (w w' : World σ) (limit : Nat) (R : Stop β → Stop β → Prop) : Prop where
  turn : ∀ {stop stop'}, R stop stop' → ∀ s : Session σ, stop.turn? s = stop'.turn? s
  resume : ∀ {stop stop'}, R stop stop' → ∀ s : Session σ,
    R (stop.resume w limit s).1 (stop'.resume w' limit s).1 ∧
      (stop'.resume w' limit s).2 = (stop.resume w limit s).2

def Process.InStep (w w' : World σ) (limit : Nat) (R : Stop β → Stop β → Prop)
    (p p' : Process β) : Prop :=
  ∀ s : Session σ, R (p.advance w limit s).1 (p'.advance w' limit s).1 ∧
    (p'.advance w' limit s).2 = (p.advance w limit s).2

namespace Synchronous

variable {R : Stop β → Stop β → Prop} {stops stops' : List (Stop β)}

theorem soonest?_eq (hR : Synchronous w w' limit R) (h : List.Forall₂ R stops stops')
    (s : Session σ) : soonest? s stops = soonest? s stops' := by
  induction h with
  | nil => rfl
  | cons hstop _ ih => rw [soonest?, soonest?, hR.turn hstop, ih]

theorem resumeAt (hR : Synchronous w w' limit R) (h : List.Forall₂ R stops stops')
    (turn : Nat × Nat) (s : Session σ) :
    (Run.resumeAt w limit turn s stops = none ∧ Run.resumeAt w' limit turn s stops' = none) ∨
      ∃ x x', Run.resumeAt w limit turn s stops = some x ∧
        Run.resumeAt w' limit turn s stops' = some x' ∧ R x.stop x'.stop ∧
          List.Forall₂ R x.stops x'.stops ∧ x'.session = x.session := by
  induction h with
  | nil => exact .inl ⟨rfl, rfl⟩
  | @cons stop stop' stops stops' hstop hstops ih =>
    rw [Run.resumeAt, Run.resumeAt, ← hR.turn hstop]
    split
    · obtain ⟨hnext, hsession⟩ := hR.resume hstop s
      exact .inr ⟨_, _, rfl, rfl, hnext, .cons hnext hstops, hsession⟩
    · obtain ⟨h, h'⟩ | ⟨x, x', h, h', hnext, hstops, hsession⟩ := ih
      · rw [h, h']
        exact .inl ⟨rfl, rfl⟩
      · rw [h, h']
        exact .inr ⟨_, _, rfl, rfl, hnext, .cons hstop hstops, hsession⟩

def Contributes (R : Stop β → Stop β → Prop) (Q : Option β → Option β → Prop) : Prop :=
  ∀ {stop stop'} {σ : Type} (s : Session σ), R stop stop' → stop.turn? s = none →
    Q stop.result? stop'.result?

variable {Q : Option β → Option β → Prop}

theorem abreast_cons (hR : Synchronous w w' limit R) (hQ : Contributes R Q) {stop stop' : Stop β}
    (hstop : R stop stop') {l l' : List β} (h : Abreast Q l l') (s : Session σ) :
    Abreast Q (stop.result?.toList ++ l) (stop'.result?.toList ++ l') := by
  cases ht : stop.turn? s with
  | none => exact .cons (hQ s hstop ht) h
  | some turn =>
    rw [Stop.result?_of_turn ht, Stop.result?_of_turn ((hR.turn hstop s).symm.trans ht)]
    exact h

theorem abreast_results (hR : Synchronous w w' limit R) (hQ : Contributes R Q)
    (h : List.Forall₂ R stops stops') (s : Session σ) :
    Abreast Q (stops.filterMap Stop.result?) (stops'.filterMap Stop.result?) := by
  have hcons (stop : Stop β) (stops : List (Stop β)) :
      (stop :: stops).filterMap Stop.result? =
        stop.result?.toList ++ stops.filterMap Stop.result? := by
    rw [List.filterMap_cons]
    cases stop.result? <;> rfl
  induction h with
  | nil => exact .nil
  | cons hstop _ ih =>
    rw [hcons, hcons]
    exact hR.abreast_cons hQ hstop ih s

theorem settle (hR : Synchronous w w' limit R) (hQ : Contributes R Q) (stops : List (Stop β))
    (s : Session σ) : ∀ stops', List.Forall₂ R stops stops' →
      Abreast Q (Run.settle w limit stops s).joined (Run.settle w' limit stops' s).joined ∧
        (Run.settle w' limit stops' s).session = (Run.settle w limit stops s).session := by
  fun_induction Run.settle w limit stops s with
  | case1 stops s x hr y ih =>
    intro stops' h
    obtain ⟨turn, ht, hr⟩ := Option.bind_eq_some_iff.1 hr
    obtain ⟨hnone, -⟩ | ⟨_, x', hx, hr', hstop, hstops, hsession⟩ := hR.resumeAt h turn s
    · rw [hnone] at hr
      cases hr
    · cases hx.symm.trans hr
      have ht' : soonest? s stops' = some turn := (hR.soonest?_eq h s).symm.trans ht
      obtain ⟨hjoined, hsessions⟩ := ih _ hstops
      rw [settle_step (Option.bind_eq_some_iff.2 ⟨turn, ht', hr'⟩), hsession]
      exact ⟨hR.abreast_cons hQ hstop hjoined s, hsessions⟩
  | case2 stops s hr =>
    intro stops' h
    have hnone : soonest? s stops' = none :=
      (hR.soonest?_eq h s).symm.trans (soonest?_eq_none (ended_of_stuck hr))
    have hr' :
        ((soonest? s stops').bind fun turn => Run.resumeAt w' limit turn s stops') = none := by
      rw [hnone]
      rfl
    rw [settle_ended (ended_of_stuck hr')]
    exact ⟨.nil, rfl⟩

theorem startAll {ps ps' : List (Process β)}
    (hps : List.Forall₂ (Process.InStep w w' limit R) ps ps') (s : Session σ) :
    List.Forall₂ R (Run.startAll w limit ps s).1 (Run.startAll w' limit ps' s).1 ∧
      (Run.startAll w' limit ps' s).2 = (Run.startAll w limit ps s).2 := by
  induction hps generalizing s with
  | nil => exact ⟨.nil, rfl⟩
  | @cons p p' _ _ hp _ ih =>
    obtain ⟨hstop, hsession⟩ := hp s
    obtain ⟨hstops, hsessions⟩ := ih (p.advance w limit s).2
    simp only [Run.startAll, hsession]
    exact ⟨.cons hstop hstops, hsessions⟩

theorem runAll (hR : Synchronous w w' limit R) (hQ : Contributes R Q)
    {ps ps' : List (Process β)} (hps : List.Forall₂ (Process.InStep w w' limit R) ps ps')
    (s : Session σ) :
    Abreast Q (Run.runAll w limit ps s).1 (Run.runAll w' limit ps' s).1 ∧
      (Run.runAll w' limit ps' s).2 = (Run.runAll w limit ps s).2 := by
  obtain ⟨hstops, hsession⟩ := startAll hps s
  obtain ⟨hjoined, hsessions⟩ := hR.settle hQ _ (Run.startAll w limit ps s).2 _ hstops
  simp only [Run.runAll, hsession]
  exact ⟨(hR.abreast_results hQ hstops s).append hjoined, hsessions⟩

end Synchronous

def Contribute (W : Outcome β → Outcome β → Prop) (r r' : Option β) : Prop :=
  ∃ o o', W o o' ∧ r = o.value? ∧ r' = o'.value?

theorem Stop.Parallel.contributes (D : Correspondence) (W : Outcome β → Outcome β → Prop) :
    Synchronous.Contributes (Stop.Parallel D W) (Contribute W) := by
  intro stop stop' σ s h hs
  cases h with
  | finished h => exact ⟨_, _, h, rfl, rfl⟩
  | crashed h => exact ⟨_, _, h, rfl, rfl⟩
  | recovers h => exact ⟨_, _, h, rfl, rfl⟩
  | asleep wake ticket hcancels hc h => cases hs

theorem eq_of_contribute {l l' : List β} (h : Abreast (Contribute Eq) l l') : l' = l := by
  induction h with
  | nil => rfl
  | cons hr _ ih =>
    obtain ⟨o, _, rfl, rfl, rfl⟩ := hr
    rw [ih]

section Worlds

variable (hw : Corresponds D limit w w') {W : Outcome β → Outcome β → Prop}
include hw

theorem Corresponds.begin_eq (q : Query) (s : Session σ) :
    (s.begin w' q).2 = (s.begin w q).2 := by
  rw [begin, begin]
  dsimp only
  rw [(hw q s.world).world]

theorem Process.Parallel.inStep {p p' : Process β} (hp : p.Parallel D W p') :
    Process.InStep w w' limit (Stop.Parallel D W) p p' := by
  induction hp with
  | done h => exact fun s => ⟨.finished h, rfl⟩
  | crash h => exact fun s => ⟨.crashed h, rfl⟩
  | recovers h => exact fun s => ⟨.recovers h, rfl⟩
  | poll _ ih => exact fun s => ih s.cancelled s
  | @call q next next' hc h ihc ih =>
    intro s
    have hwait : Wait.Matches D q ((s.begin w q).1.wait limit) ((s.begin w' q).1.wait limit) :=
      (hw q s.world).wait
    rw [advance_call, advance_call]
    dsimp only
    rw [hwait.length, hw.begin_eq, close_congr hwait.cancels]
    split
    · obtain ⟨hcut, hcut'⟩ | ho := hwait.outcome
      · rw [hcut, hcut']
        exact ihc _
      · exact ih _ _ ho _
    · refine ⟨.asleep _ _ hwait.cancels hc ?_, rfl⟩
      obtain ⟨hcut, hcut'⟩ | ho := hwait.outcome
      · rw [hcut, hcut']
        exact hc
      · exact h _ _ ho

theorem Corresponds.perform (q : Query) (s : Session σ) :
    (s.perform w' limit q).2 = (s.perform w limit q).2 ∧
      ((s.perform w limit q).1 = .value (.error .cancelled) ∧
          (s.perform w' limit q).1 = .value (.error .cancelled) ∨
        D q (s.perform w limit q).1 (s.perform w' limit q).1) := by
  have hwait : Wait.Matches D q ((s.begin w q).1.wait limit) ((s.begin w' q).1.wait limit) :=
    (hw q s.world).wait
  rw [Session.perform, Session.perform]
  dsimp only
  rw [hwait.length, hw.begin_eq, close_congr hwait.cancels]
  split
  · exact ⟨rfl, hwait.outcome⟩
  · rw [await, await, close_congr hwait.cancels]
    split
    · exact ⟨rfl, .inl ⟨rfl, rfl⟩⟩
    · exact ⟨rfl, hwait.outcome⟩

theorem Corresponds.synchronous : Synchronous w w' limit (Stop.Parallel D W) where
  turn := by
    intro stop stop' h s
    cases h <;> rfl
  resume := by
    intro stop stop' h s
    cases h with
    | finished h => exact ⟨.finished h, rfl⟩
    | crashed h => exact ⟨.crashed h, rfl⟩
    | recovers h => exact ⟨.recovers h, rfl⟩
    | asleep wake ticket hcancels hc h =>
      rw [Stop.resume_asleep, Stop.resume_asleep, await, await, close_congr hcancels]
      split
      · exact hc.inStep hw _
      · exact h.inStep hw _

end Worlds

inductive Program.Parallel (D : Correspondence) (W : Outcome β → Outcome β → Prop) :
    Program β α → Program β α → Prop
  | done (a : α) : Parallel D W (.done a) (.done a)
  | crash (t : String) : Parallel D W (.crash t) (.crash t)
  | poll {next next' : Bool → Program β α} (h : ∀ b, Parallel D W (next b) (next' b)) :
      Parallel D W (.poll next) (.poll next')
  | call {q : Query} {next next' : Except Failure q.Answer → Program β α}
      (hc : Parallel D W (next (.error .cancelled)) (next' (.error .cancelled)))
      (h : ∀ o o', D q o o' → Parallel D W (resumed next o) (resumed next' o')) :
      Parallel D W (.call q next) (.call q next')
  | fork {ps ps' : List (Process β)} {next next' : List β → Program β α}
      (hps : List.Forall₂ (Process.Parallel D W) ps ps')
      (h : ∀ l l', Abreast (Contribute W) l l' → Parallel D W (next l) (next' l')) :
      Parallel D W (.fork ps next) (.fork ps' next')

namespace Program.Parallel

variable {W : Outcome β → Outcome β → Prop}

theorem bind {p p' : Program β α} {f f' : α → Program β γ} (hp : p.Parallel D W p')
    (hf : ∀ a, (f a).Parallel D W (f' a)) : (p.bind f).Parallel D W (p'.bind f') := by
  induction hp with
  | done a => exact hf a
  | crash t => exact .crash t
  | poll _ ih => exact .poll ih
  | call _ _ ihc ih =>
    refine .call ihc fun o o' ho => ?_
    rw [resumed_bind, resumed_bind]
    exact ih o o' ho
  | fork hps _ ih => exact .fork hps ih

theorem run_eq {p p' : Program β α} (hp : p.Parallel D W p') (hw : Corresponds D limit w w')
    (s : Session σ) : p'.run w' limit s = p.run w limit s := by
  induction hp generalizing s with
  | done a => rfl
  | crash t => rfl
  | poll _ ih => exact ih s.cancelled s
  | @call q next next' _ _ ihc ih =>
    obtain ⟨hsession, ho⟩ := hw.perform q s
    rw [run_call, run_call, after, after, hsession]
    obtain ⟨hcut, hcut'⟩ | ho := ho
    · rw [hcut, hcut']
      exact ihc _
    · exact ih _ _ ho _
  | fork hps _ ih =>
    have hsteps := hps.imp fun _ _ h => h.inStep hw
    obtain ⟨hjoined, hsession⟩ :=
      hw.synchronous.runAll (Stop.Parallel.contributes D W) hsteps s
    rw [run, run]
    dsimp only
    rw [hsession]
    exact ih _ _ hjoined _

end Program.Parallel

end Deliberation.Run
