import Deliberation.Proofs.Engine.Appraisal
import Deliberation.Proofs.Engine.Beam
import Deliberation.Proofs.Run.Instant
import Deliberation.Proofs.Run.Synchrony

namespace Deliberation.Engine.TreeSearch

open Run Search

variable {limit : Nat} {t : Task}

def Rejudged (t : Task) : Correspondence
  | .complete r, o, o' => o' = o ∨ ((∃ c, r = evaluationRequest t c) ∧
    ∃ a a', o = .value a ∧ o' = .value a' ∧
      ∀ c, r = evaluationRequest t c → regarded t c a' = regarded t c a)
  | .execute _ _, o, o' => o' = o
  | .score _ _, o, o' => o' = o
  | .check _ _, o, o' => o' = o
  | .attempt _ _, o, o' => o' = o

inductive SameScore : Outcome (Except Failure Float) → Outcome (Except Failure Float) → Prop
  | panic (text : String) : SameScore (.panic text) (.panic text)
  | value {x x' : Except Failure Float} (h : finiteScore x' = finiteScore x) :
      SameScore (.value x) (.value x')

theorem complete_parallel (t : Task) (path : List String) (count : Nat) :
    (complete (expansionRequest t path count)).Parallel (Rejudged t) Eq
      (complete (expansionRequest t path count)) := by
  refine .guarded_same (fun o o' ho => ?_) (fun _ => rfl) fun _ => .done rfl
  obtain ho | ⟨⟨c, hc⟩, -⟩ := ho
  · exact ho
  · exact absurd ⟨c, .inl (congrArg _ hc)⟩ (expansionRequest_not_judges t t path count)

theorem evaluate_parallel (team : Team) (t : Task) (candidate : String) :
    (evaluate team t candidate).Parallel (Rejudged t) SameScore (evaluate team t candidate) := by
  rw [evaluate]
  cases team.evaluator with
  | backend =>
    refine .guarded (.done (.value rfl)) fun o o' ho => ?_
    obtain rfl | ⟨-, a, a', rfl, rfl, h⟩ := ho
    · cases o' with
      | value a => exact .done (.value rfl)
      | panic text => exact .crash (.panic text)
    · exact .done (.value (h candidate rfl))
  | heuristic => exact .poll fun _ => .done (.value rfl)
  | external => exact .guarded_same (fun _ _ ho => ho) .panic fun _ => .done (.value rfl)

theorem scoreAll_parallel (team : Team) (t : Task) (cs : List String) :
    (scoreAll team t cs).Parallel (Rejudged t) Eq (scoreAll team t cs) := by
  induction cs with
  | nil => exact .done rfl
  | cons c cs ih =>
    rw [scoreAll]
    refine (evaluate_parallel team t c).bind (fun x x' h => ?_) (fun _ _ => rfl) fun t x h => ?_
    · cases h with
      | value h =>
        rw [h]
        cases finiteScore x with
        | error f => exact .done rfl
        | ok score => exact ih.bind_eq fun rest => .done rfl
    · cases h

theorem expand_parallel (team : Team) (t : Task) (count : Nat) (path : List String) :
    (expand team t count path).Parallel (Rejudged t) Eq (expand team t count path) := by
  refine (complete_parallel t path count).bind_eq fun x => ?_
  cases x.bind fun c => Reply.candidates c.text count with
  | error f => exact .done rfl
  | ok cs => exact scoreAll_parallel team t cs

theorem explore_parallel (team : Team) (t : Task) (b : Bounds) (depths : Nat) (s : State) :
    (explore team t b depths s).Parallel (Rejudged t) Eq (explore team t b depths s) := by
  induction depths generalizing s with
  | zero => exact .done _
  | succ depths ih =>
    have hworkers : ∀ p ∈ workers team t b s, p.Parallel (Rejudged t) Eq p := by
      intro p hp
      obtain ⟨id, -, rfl⟩ := List.mem_map.1 hp
      exact (expand_parallel team t b.branch (s.tree.path id)).bind_eq fun _ => .done rfl
    rw [explore]
    split
    · exact .done _
    · refine .poll fun c => ?_
      cases c with
      | true => exact .done _
      | false =>
        refine .fork (List.forall₂_same.2 hworkers) fun rs rs' hrs => ?_
        rw [eq_of_contribute hrs]
        refine .poll fun c => ?_
        cases c with
        | true => exact .done _
        | false =>
          dsimp only
          split
          · exact .done _
          · split
            · exact .done _
            · exact ih _

theorem search_parallel (team : Team) (t : Task) (o : Options) :
    (search team t o).Parallel (Rejudged t) Eq (search team t o) :=
  (explore_parallel team t _ _ _).bind fun _ => .done _

variable {σ : Type} {w w' : World σ}

/-- The worlds reply to every call alike, except that an evaluation may have another reply at the
same instant that leaves its candidate the same score. -/
structure Reappraises (limit : Nat) (t : Task) (w w' : World σ) : Prop where
  others : ∀ q x, (∀ c, q ≠ .complete (evaluationRequest t c)) → w'.respond q x = w.respond q x
  evaluations : ∀ c x,
    let replied := w.respond (.complete (evaluationRequest t c)) x
    let replied' := w'.respond (.complete (evaluationRequest t c)) x
    replied' = replied ∨ replied'.2 = replied.2 ∧ replied'.1.cancels = replied.1.cancels ∧
      min replied'.1.delay limit = min replied.1.delay limit ∧
        ∃ score, Appraised limit t c replied.1 score ∧ Appraised limit t c replied'.1 score

theorem rejudged_refl (t : Task) (q : Query) (o : Outcome (Except Failure q.Answer)) :
    Rejudged t q o o := by
  cases q with
  | complete r => exact .inl rfl
  | execute | score | check | attempt => exact rfl

namespace Reappraises

theorem regarded_eq (h : Reappraises limit t w w') {r : Request} {x : σ}
    {a a' : Except Failure (Except Failure Completion)}
    (ha : ending limit (w.respond (.complete r) x).1 = .value a)
    (ha' : ending limit (w'.respond (.complete r) x).1 = .value a') (c : String)
    (hr : r = evaluationRequest t c) : regarded t c a' = regarded t c a := by
  subst hr
  obtain hsame | ⟨-, -, -, score, happraised, happraised'⟩ := h.evaluations c x
  · rw [hsame] at ha'
    cases ha.symm.trans ha'
    rfl
  · obtain ⟨y, hy, hscore⟩ := appraised_iff.1 happraised
    obtain ⟨y', hy', hscore'⟩ := appraised_iff.1 happraised'
    cases ha.symm.trans hy
    cases ha'.symm.trans hy'
    exact hscore'.trans hscore.symm

theorem corresponds (h : Reappraises limit t w w') : Corresponds (Rejudged t) limit w w' := by
  intro q x
  by_cases hq : ∃ c, q = .complete (evaluationRequest t c)
  · obtain ⟨c, rfl⟩ := hq
    obtain hsame | ⟨hworld, hcancels, hdelay, score, happraised, happraised'⟩ := h.evaluations c x
    · rw [hsame]
      exact ⟨rfl, rfl, rfl, rejudged_refl t _ _⟩
    · obtain ⟨a, ha, -⟩ := appraised_iff.1 happraised
      obtain ⟨a', ha', -⟩ := appraised_iff.1 happraised'
      exact ⟨hworld, hcancels, hdelay, .inr ⟨⟨c, rfl⟩, a, a', ha, ha', h.regarded_eq ha ha'⟩⟩
  · rw [h.others q x fun c hc => hq ⟨c, hc⟩]
    exact ⟨rfl, rfl, rfl, rejudged_refl t q _⟩

end Reappraises

theorem search_appraised (w : World σ) (team : Team) (hteam : team.evaluator = .backend)
    (t : Task) (o : Options) (limit : Nat) (world : σ) (signal : Option Nat) :
    let ended := (search team t o).run w limit (.start world signal)
    (∀ r tree, ended.1 = .value (r, tree) → ∀ n ∈ tree.nodes, ∀ p, n.parent = some p →
      ∃ reply score, (⟨.complete (evaluationRequest t n.content), reply⟩ : Exchange) ∈
          w.exchanges world ended.2.queries ∧
        Appraised limit t n.content reply score ∧
        n.score = (score.map Score.ofFloat).map Score.clamped) ∧
      ∀ w' : World σ, Reappraises limit t w w' →
        (search team t o).run w' limit (.start world signal) = ended := by
  intro ended
  constructor
  · intro r tree hr n hn p hp
    obtain ⟨hroot, -⟩ | ⟨score, ⟨reply, hm, happraised⟩, hscore⟩ :=
      search_accounted w hteam world signal hr n hn
    · cases hroot.symm.trans hp
    · exact ⟨reply, score, hm, happraised, hscore⟩
  · exact fun w' hw => (search_parallel team t o).run_eq hw.corresponds _

def evaluationPreamble (t : Task) : String :=
  "Task:\n" ++ t.render ++ "\n\nCandidate approach:\n"

def evaluates (t : Task) : Request → Bool
  | ⟨[⟨.system, prompt, none, none⟩, ⟨.user, question, none, none⟩], []⟩ =>
    prompt == Prompt.evaluation && (evaluationPreamble t).toList.isPrefixOf question.toList
  | _ => false

theorem evaluates_iff {r : Request} : evaluates t r = true ↔ ∃ c, r = evaluationRequest t c := by
  constructor
  · intro h
    unfold evaluates at h
    split at h
    · next prompt question =>
      obtain ⟨hprompt, hquestion⟩ := Bool.and_eq_true_iff.1 h
      obtain ⟨rest, hrest⟩ := List.isPrefixOf_iff_prefix.1 hquestion
      obtain rfl := eq_of_beq hprompt
      refine ⟨String.ofList rest, ?_⟩
      have hq : question = evaluationPreamble t ++ String.ofList rest := by
        rw [← String.toList_inj, String.toList_append, String.toList_ofList, hrest]
      rw [hq]
      rfl
    · cases h
  · rintro ⟨c, rfl⟩
    have hquestion : (evaluationPreamble t).toList <+: (evaluationPreamble t ++ c).toList := by
      rw [String.toList_append]
      exact List.prefix_append _ _
    simp only [evaluationRequest, Request.ofMessages, Message.system, Message.user, evaluates,
      beq_self_eq_true, Bool.true_and]
    exact List.isPrefixOf_iff_prefix.2 hquestion

def judging (t : Task) (reply : Reply (Except Failure Completion)) : World Unit where
  respond
    | .complete r => fun x => (if evaluates t r then reply else .atOnce (.ok (.ofText "Blue")), x)
    | .execute _ _ => pure (.ok "")
    | .score _ _ => pure 0
    | .check _ _ => pure .pass
    | .attempt _ _ => pure (.ok "")

theorem respond_judging (reply : Reply (Except Failure Completion)) (c : String) (x : Unit) :
    (judging t reply).respond (.complete (evaluationRequest t c)) x = (reply, x) :=
  congrArg (·, x) (if_pos (evaluates_iff.2 ⟨c, rfl⟩))

theorem reappraises_judging {reply reply' : Reply (Except Failure Completion)}
    (hcancels : reply'.cancels = reply.cancels)
    (hdelay : min reply'.delay limit = min reply.delay limit)
    (happraised : ∀ c, ∃ score,
      Appraised limit t c reply score ∧ Appraised limit t c reply' score) :
    Reappraises limit t (judging t reply) (judging t reply') where
  others := by
    intro q x hq
    cases q with
    | complete r =>
      have hr : ¬ evaluates t r = true := fun h => by
        obtain ⟨c, rfl⟩ := evaluates_iff.1 h
        exact hq c rfl
      rw [judging, judging]
      dsimp only
      rw [if_neg hr, if_neg hr]
    | execute | score | check | attempt => rfl
  evaluations := by
    intro c x
    dsimp only
    rw [respond_judging, respond_judging]
    exact .inr ⟨rfl, hcancels, hdelay, happraised c⟩

def narrow : Options :=
  { Options.default with maxDepth := 1, branchFactor := 1, beamWidth := 1 }

theorem search_appraised_judging :
    let t := Task.ofDescription "Name a colour"
    let w := judging t (.atOnce (.error (.timeout 10)))
    let w' := judging t (.atOnce (.error (.backend "no connection")))
    let ended := (search .unaided t narrow).run w 30 (.start () none)
    ended.1.value?.map (fun out => out.2.size) = some 2 ∧
      (∀ r tree, ended.1 = .value (r, tree) → ∀ n ∈ tree.nodes, ∀ p, n.parent = some p →
        ∃ reply score, (⟨.complete (evaluationRequest t n.content), reply⟩ : Exchange) ∈
            w.exchanges () ended.2.queries ∧
          Appraised 30 t n.content reply score ∧
          n.score = (score.map Score.ofFloat).map Score.clamped) ∧
        Reappraises 30 t w w' ∧ (search .unaided t narrow).run w' 30 (.start () none) = ended := by
  intro t w w' ended
  have hw : Reappraises 30 t w w' :=
    reappraises_judging rfl rfl fun _ => ⟨_, .failed (ending_atOnce _), .failed (ending_atOnce _)⟩
  have hsize : ((search .unaided t narrow).runIn? w 30 0 (.start () none)).bind
      (fun out => out.1.value?.map fun out => out.2.size) = some 2 := by decide +kernel
  obtain ⟨x, hx, hsize⟩ := Program.value_of_runIn? hsize
  obtain ⟨hnodes, hsame⟩ := search_appraised w .unaided rfl t narrow 30 () none
  refine ⟨?_, hnodes, hw, hsame w' hw⟩
  rw [show ended.1 = .value x from hx, Outcome.value?, Option.map_some, hsize]

theorem overrun_unscored :
    let t := Task.ofDescription "Name a colour"
    let ended (reply : Reply (Except Failure Completion)) :=
      ((search .unaided t narrow).run (judging t reply) 30 (.start () none)).1
    let failing : Reply (Except Failure Completion) := .atOnce (.error (.backend "no connection"))
    let late : Reply (Except Failure Completion) := ⟨none, 50, .value (.ok (.ofText "Fine"))⟩
    (∃ r tree, ended failing = .value (r, tree) ∧ r.succeeded = true ∧ tree.best?.isSome = true) ∧
      ∃ r tree, ended late = .value (r, tree) ∧ r.succeeded = false ∧ tree.best? = none := by
  intro t ended failing late
  constructor
  · have hscored : ((search .unaided t narrow).runIn? (judging t failing) 30 0
        (.start () none)).bind (fun out => out.1.value?.map fun out =>
          (out.1.succeeded, out.2.best?.isSome)) = some (true, true) := by decide +kernel
    obtain ⟨⟨r, tree⟩, hvalue, hscored⟩ := Program.value_of_runIn? hscored
    exact ⟨r, tree, hvalue, congrArg Prod.fst hscored, congrArg Prod.snd hscored⟩
  · obtain ⟨s, e, x, hrun, -⟩ :=
      search_descends (judging t late) 30 .unaided t narrow (.start () none)
    have hended : ended late = .value (conclude s e, s.tree) := congrArg Prod.fst hrun
    have hbest : s.tree.best? = none := by
      refine best?_of_unscored fun n hn => ?_
      obtain ⟨-, hscore⟩ | ⟨score, ⟨reply, hm, happraised⟩, hscore⟩ :=
        search_accounted (judging t late) rfl () none hended n hn
      · exact hscore
      · obtain ⟨y, hreply⟩ := reply_of_mem_exchanges hm
        rw [respond_judging] at hreply
        obtain rfl : reply = late := hreply
        rw [hscore, Appraised.unique (.overran (by decide)) happraised]
        rfl
    exact ⟨_, _, hended, conclude_of_unscored hbest e, hbest⟩

end Deliberation.Engine.TreeSearch
