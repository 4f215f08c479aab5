import Deliberation.Proofs.Debate.Verdict
import Deliberation.Proofs.Engine.Transcript
import Deliberation.Proofs.Run.Instant
import Deliberation.Proofs.Run.Sequence

namespace Deliberation.Engine.Debating

open Run Debate

variable {σ : Type} {w : World σ} {limit : Nat} {t : Task} {names : List String} {o : Options}
  {s : Session σ}

def reply? (limit : Nat) : Exchange → Option String
  | ⟨.complete _, r⟩ => read? limit r fun a => (a.bind id).map Completion.text
  | _ => none

def verdict (limit : Nat) (arguments : List Argument) (judging : Exchange) : Verdict :=
  ((reply? limit judging).bind Verdict.parse?).getD (fallback arguments)

theorem inUnit_fallback (arguments : List Argument) :
    Number.InUnit (fallback arguments).confidence := by
  rw [fallback]
  split
  · exact Number.inUnit_half
  · exact Number.inUnit_half

theorem inUnit_verdict (limit : Nat) (arguments : List Argument) (judging : Exchange) :
    Number.InUnit (verdict limit arguments judging).confidence := by
  rw [verdict]
  cases h : (reply? limit judging).bind Verdict.parse? with
  | none => exact inUnit_fallback arguments
  | some v =>
    obtain ⟨text, -, hv⟩ := Option.bind_eq_some_iff.1 h
    exact Verdict.inUnit_of_parse? hv

theorem rounds_run (hw : ∀ r x, (w.respond (.complete r) x).1.outcome ≠ .value (.error .cancelled))
    (n : Nat) (hc : ((rounds t names n 0 .start).run w limit s).2.cancelled = false) :
    ∃ st x, ((rounds t names n 0 .start).run w limit s).1 = .value (st, x) ∧
      (x = none ∨ ∃ r < n, ∀ a ∈ st.arguments, a.round ≠ r) := by
  obtain ⟨l, -, h⟩ := Program.run_ends_uncancelled _ s hc
  obtain ⟨st, held, hkept, ⟨ho, -⟩ | ⟨x, -, ho, -, hlt, -⟩⟩ :=
    rounds_kept (steadfast_surroundings hw limit) (kept_start _ t names) h
  · exact ⟨st, none, ho, .inl rfl⟩
  · refine ⟨st, some x, ho, .inr ⟨held.length, hlt, fun a ha hr => ?_⟩⟩
    exact Nat.lt_irrefl _ (hr ▸ (hkept.transcript.entered a ha).1)

theorem guarded_run {α : Type} {q : Query} {next : Except Failure q.Answer → Process α}
    (hc : ((Process.guarded q next).run w limit s).2.cancelled = false)
    (hp : ∀ text, ending limit (w.respond q s.world).1 ≠ .panic text) :
    ∃ a, ending limit (w.respond q s.world).1 = .value a ∧
      (Process.guarded q next).run w limit s = (next a).run w limit (s.after w limit q) := by
  have hearlier {p : Process α} {x : Session σ} (h : (p.run w limit x).2.cancelled = false) :
      x.cancelled = false := Bool.eq_false_iff.2 fun hx =>
    Bool.eq_false_iff.1 h (Process.run_steady (cancelled_steady w) _ hx)
  have hcall : (Process.guarded q next).run w limit s = (Process.call q next).run w limit s := by
    rw [Process.guarded, Process.run, hearlier hc]
    rfl
  rw [hcall, Process.run_call] at hc ⊢
  have hafter := hearlier hc
  have hends := s.perform_ends w limit q
  generalize (s.perform w limit q).1 = ended at hends ⊢
  cases hends with
  | lost hcancelled _ => exact absurd hcancelled (Bool.eq_false_iff.1 hafter)
  | itself h =>
    cases ended with
    | value a => exact ⟨a, h, rfl⟩
    | panic text => exact absurd h (hp text)

theorem judge_run {arguments : List Argument}
    (hw : ∀ r x, (w.respond (.complete r) x).1.outcome ≠ .value (.error .cancelled))
    (hc : ((judge t arguments).run w limit s).2.cancelled = false)
    (hp : ∀ text, ending limit (w.respond (.complete (judgeRequest t arguments)) s.world).1 ≠
      .panic text) :
    (judge t arguments).run w limit s =
      (.value (some (verdict limit arguments
        ⟨.complete (judgeRequest t arguments),
          (w.respond (.complete (judgeRequest t arguments)) s.world).1⟩)),
        s.after w limit (.complete (judgeRequest t arguments))) := by
  have hjudge : judge t arguments = (complete (judgeRequest t arguments)).bind _ := rfl
  rw [hjudge, complete_bind] at hc ⊢
  obtain ⟨a, ha, hrun⟩ := guarded_run hc hp
  refine Eq.trans hrun ?_
  have hcancelled : a.bind id ≠ .error .cancelled := by
    cases a with
    | ok x =>
      rintro rfl
      exact hw _ _ (ending_eq_ok ha)
    | error f =>
      rintro ⟨⟩
      exact ending_ne_cancelled _ ha
  have hverdict : verdict limit arguments ⟨.complete (judgeRequest t arguments),
      (w.respond (.complete (judgeRequest t arguments)) s.world).1⟩ =
        ((a.bind id).toOption.bind fun c => Verdict.parse? c.text).getD (fallback arguments) := by
    rw [verdict, reply?, read?, ha]
    dsimp only
    cases a.bind id <;> rfl
  rw [hverdict]
  generalize a.bind id = x at hcancelled ⊢
  cases x with
  | ok c => rfl
  | error f =>
    cases f with
    | cancelled => exact absurd rfl hcancelled
    | _ => rfl

theorem judge_queries {arguments : List Argument}
    (hc : ((judge t arguments).run w limit s).2.cancelled = false) :
    ((judge t arguments).run w limit s).2.queries =
      s.queries ++ [.complete (judgeRequest t arguments)] := by
  obtain ⟨l, hl, h⟩ := Process.run_ends (c := False) (judge t arguments) s fun h => by
    cases hc.symm.trans h
  rw [hl, judge_ends id h]

theorem world_run {α β : Type} (w : World σ) (limit : Nat) (p : Program β α) (x : σ)
    (signal : Option Nat) :
    (p.run w limit (.start x signal)).2.world =
      w.replay x (p.run w limit (.start x signal)).2.queries :=
  Program.run_steady (replay_steady w x) p rfl

theorem exchanges_snoc {x : σ} (hs : s.world = w.replay x s.queries) (q : Query) :
    w.exchanges x (s.queries ++ [q]) =
      w.exchanges x s.queries ++ [⟨q, (w.respond q s.world).1⟩] := by
  rw [exchanges_append, hs]
  rfl

structure Adopted (limit : Nat) (t : Task) (log : List Exchange) (report : Report)
    (judging : Exchange) : Prop where
  last : ∃ before, log = before ++ [judging]
  judges : judging.query = .complete (judgeRequest t report.arguments)
  verdict : report.verdict = some (verdict limit report.arguments judging)
  succeeded : report.result.succeeded = true
  finalAnswer : report.result.finalAnswer =
    (Debating.verdict limit report.arguments judging).selectedApproach
  confidence : report.result.confidence =
    (Debating.verdict limit report.arguments judging).confidence

theorem adopted_conclude {st : State} {judging : Exchange} {before : List Exchange}
    (hq : judging.query = .complete (judgeRequest t st.arguments)) :
    Adopted limit t (before ++ [judging])
      (conclude st (some (verdict limit st.arguments judging))) judging where
  last := ⟨before, rfl⟩
  judges := hq
  verdict := rfl
  succeeded := rfl
  finalAnswer := rfl
  confidence := Number.normalize_of_inUnit (inUnit_verdict limit st.arguments judging)

def judging (t : Task) (st : State) : Program (Nat × Speech) Report :=
  (Program.ofProcess (judge t st.arguments)).bind fun v => .done (conclude st v)

theorem judging_run (t : Task) (st : State) (s : Session σ) :
    (judging t st).run w limit s =
      match (judge t st.arguments).run w limit s with
      | (.value v, s) => (.value (conclude st v), s)
      | (.panic text, s) => (.panic text, s) := by
  rw [judging, Program.run_bind_eq, Program.run_ofProcess]
  obtain ⟨out, s₁⟩ := (judge t st.arguments).run w limit s
  cases out <;> rfl

theorem judging_adopts {world : σ} {st : State} (hs : s.world = w.replay world s.queries)
    (hw : ∀ r x, (w.respond (.complete r) x).1.outcome ≠ .value (.error .cancelled))
    (hc : ((judging t st).run w limit s).2.cancelled = false)
    (hp : ∀ e ∈ w.exchanges world ((judging t st).run w limit s).2.queries, ∀ text,
      ending limit e.reply ≠ .panic text) :
    ∃ report e, ((judging t st).run w limit s).1 = .value report ∧
      report.arguments = st.arguments ∧
        Adopted limit t (w.exchanges world ((judging t st).run w limit s).2.queries) report e := by
  have hsession : ((judging t st).run w limit s).2 = ((judge t st.arguments).run w limit s).2 := by
    rw [judging_run]
    obtain ⟨out, s₁⟩ := (judge t st.arguments).run w limit s
    cases out <;> rfl
  rw [hsession] at hc hp ⊢
  rw [judge_queries hc, exchanges_snoc hs] at hp ⊢
  have hlast := hp _ (List.mem_append_right _ List.mem_cons_self)
  rw [judging_run, judge_run hw hc hlast]
  exact ⟨_, _, rfl, rfl, adopted_conclude rfl⟩

def closing (t : Task) : State × Option Failure → Program (Nat × Speech) Report
  | (st, some e) => .done ⟨abort st e, st.arguments, none⟩
  | (st, none) => judging t st

theorem hold_eq (t : Task) (names : List String) (o : Options) :
    hold t names o = (rounds t names (max o.maxRounds 1) 0 .start).bind (closing t) := by
  refine congrArg (Program.bind _) (funext fun x => ?_)
  obtain ⟨st, e⟩ := x
  cases e <;> rfl

theorem hold_adopts {world : σ} {signal : Option Nat}
    (hw : ∀ r x, (w.respond (.complete r) x).1.outcome ≠ .value (.error .cancelled))
    (hc : ((hold t names o).run w limit (.start world signal)).2.cancelled = false)
    (hp : ∀ e ∈ w.exchanges world ((hold t names o).run w limit (.start world signal)).2.queries,
      ∀ text, ending limit e.reply ≠ .panic text) :
    ∃ report, ((hold t names o).run w limit (.start world signal)).1 = .value report ∧
      ((∀ r < max o.maxRounds 1, ∃ a ∈ report.arguments, a.round = r) →
        ∃ e, Adopted limit t
          (w.exchanges world ((hold t names o).run w limit (.start world signal)).2.queries) report
            e) := by
  have hheld := @rounds_run σ w limit t names (.start world signal) hw (max o.maxRounds 1)
  have hworld := world_run w limit (rounds t names (max o.maxRounds 1) 0 .start) world signal
  rw [hold_eq, Program.run_bind_eq] at hc hp ⊢
  generalize (rounds t names (max o.maxRounds 1) 0 .start).run w limit (.start world signal) = r
    at hheld hworld hc hp ⊢
  obtain ⟨out, s₁⟩ := r
  cases out with
  | panic text =>
    obtain ⟨_, _, hvalue, -⟩ := hheld hc
    cases hvalue
  | value y =>
    dsimp only at hc hp ⊢
    have hc₁ : s₁.cancelled = false := Bool.eq_false_iff.2 fun h =>
      Bool.eq_false_iff.1 hc (Program.run_steady (cancelled_steady w) _ h)
    obtain ⟨st, x, hvalue, hsilent⟩ := hheld hc₁
    cases hvalue
    cases x with
    | some e =>
      refine ⟨_, rfl, fun hall => ?_⟩
      obtain h | ⟨r, hr, hnone⟩ := hsilent
      · cases h
      · obtain ⟨a, ha, hround⟩ := hall r hr
        exact absurd hround (hnone a ha)
    | none =>
      obtain ⟨report, e, hreport, -, hadopted⟩ := judging_adopts hworld hw hc hp
      exact ⟨report, hreport, fun _ => ⟨e, hadopted⟩⟩

theorem verdict_read_and_adopted :
    (∀ s : String, (Verdict.parse? s).isSome = true ↔
      ∃ p j t fs, Verdict.Embeds s.toList p j t fs) ∧
    (∀ (s : String) (p j t : List Char) (fs : List (Option String × Json.Syntax)),
      Verdict.Embeds s.toList p j t fs → ∃ x, Json.read? j = some x ∧
        Verdict.parse? s = some (.ofObject x) ∧ Verdict.ReadFrom x (.ofObject x)) ∧
    ∀ {σ : Type} (w : World σ) (t : Task) (names : List String) (o : Options) (limit : Nat)
      (world : σ) (signal : Option Nat),
      let ended := (hold t names o).run w limit (.start world signal)
      let log := w.exchanges world ended.2.queries
      ended.2.cancelled = false → (∀ e ∈ log, ∀ text, ending limit e.reply ≠ .panic text) →
        (∀ r x, (w.respond (.complete r) x).1.outcome ≠ .value (.error .cancelled)) →
          ∃ report, ended.1 = .value report ∧
            ((∀ r < max o.maxRounds 1, ∃ a ∈ report.arguments, a.round = r) →
              ∃ judging, Adopted limit t log report judging) := by
  refine ⟨fun s => Verdict.isSome_parse?_iff, fun s p j t fs h => ?_,
    fun w t names o limit world signal hc hp hw => hold_adopts hw hc hp⟩
  obtain ⟨v, hv⟩ := Option.isSome_iff_exists.1 h.isSome
  have hread := Verdict.parse?_append h.first h.object h.text
  rw [hv] at hread
  obtain ⟨x, hx, rfl⟩ := Option.map_eq_some_iff.1 hread.symm
  exact ⟨x, hx, hv, Verdict.readFrom_ofObject hx⟩

theorem verdict_read_and_adopted_blue :
    let text := "Use \x7b\"selectedApproach\":\"Blue\",\"confidence\":2\x7d"
    let t := Task.ofDescription "Name a colour"
    let ended := (hold t ["Skeptic"] .default).run (.echo text) 60000 (.start () none)
    let log := (World.echo text).exchanges () ended.2.queries
    (∃ p j t fs x, Verdict.Embeds text.toList p j t fs ∧ Json.read? j = some x ∧
      Verdict.parse? text = some (.ofObject x)) ∧
    (∀ e ∈ log, ∀ text, ending 60000 e.reply ≠ .panic text) ∧
      ∃ report judging, ended.1 = .value report ∧
        (∀ r < 3, ∃ a ∈ report.arguments, a.round = r) ∧ Adopted 60000 t log report judging := by
  intro text t ended log
  have hsome : (Verdict.parse? text).isSome = true := by decide +kernel
  obtain ⟨p, j, t', fs, hembeds⟩ := (verdict_read_and_adopted.1 text).1 hsome
  obtain ⟨x, hx, hv, -⟩ := verdict_read_and_adopted.2.1 text p j t' fs hembeds
  have hp : ∀ e ∈ log, ∀ text, ending 60000 e.reply ≠ .panic text := fun e he =>
    (immediate_echo text).not_panic he
  have hc : ended.2.cancelled = false := Program.run_uncancelled (calm_echo _) _ rfl
  obtain ⟨report, hreport, hadopted⟩ := verdict_read_and_adopted.2.2 (World.echo text) t
    ["Skeptic"] .default 60000 () none hc hp fun _ _ h => nomatch h
  have hheld : ∀ r < 3, ∃ a ∈ report.arguments, a.round = r := by
    have hrounds : (((hold t ["Skeptic"] .default).runIn? (.echo text) 60000 0
        (.start () none)).bind fun out => out.1.value?.map fun report =>
          report.arguments.map Argument.round) = some [0, 1, 2] := by decide +kernel
    obtain ⟨out, hout, hrounds⟩ := Option.bind_eq_some_iff.1 hrounds
    obtain rfl : ended = out := Program.run_of_runIn? hout
    rw [show ended.1 = _ from hreport] at hrounds
    have hrounds : report.arguments.map Argument.round = [0, 1, 2] := Option.some.inj hrounds
    intro r hr
    have hmem : r ∈ report.arguments.map Argument.round := by
      rw [hrounds]
      simp
      omega
    exact List.mem_map.1 hmem
  obtain ⟨judging, hjudging⟩ := hadopted hheld
  exact ⟨⟨p, j, t', fs, x, hembeds, hx, hv⟩, hp, report, judging, hreport, hheld, hjudging⟩

theorem strict_object_refused :
    ¬∀ s : String, (Verdict.parse? s).isSome = true ↔
      ∃ p j t fs, s.toList = p ++ j ++ t ∧ '\x7b' ∉ p ∧ Json.ObjectText fs j ∧
        (Json.Syntax.object fs).depth ≤ 127 := by
  intro h
  have hread : Json.Syntax.read? "\x7b\"a\":1e999\x7d".toList =
      some (.object [(some "a", .number none)]) := by rfl
  obtain ⟨p, j, t, htext, hp, hj, -⟩ := Json.Syntax.read?_eq_some_iff.1 hread
  have hnone : Verdict.parse? "\x7b\"a\":1e999\x7d" = none := by decide +kernel
  have hsome := (h "\x7b\"a\":1e999\x7d").2
    ⟨p, j, t, _, by rw [htext, List.append_assoc], Reply.not_brace_of_spaces hp, hj, by decide⟩
  rw [hnone] at hsome
  cases hsome

end Deliberation.Engine.Debating
