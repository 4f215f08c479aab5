import Deliberation.Engine.Iterative
import Deliberation.Proofs.Run.Footprint

namespace Deliberation.Engine.Iterative

open Run

def Permitted (names : List String) (tools : List ToolDeclaration) : Query → Prop
  | .complete r => r.tools = tools
  | .execute name _ => name ∈ names
  | _ => False

variable {t : Task} {tools : List ToolDeclaration}

theorem mem_of_allows (ht : t.toolNames ≠ []) {name : String} (h : t.allows name = true) :
    name ∈ t.toolNames :=
  (Task.allows_iff.1 h).resolve_left ht

theorem advertised_eq_filter (ht : t.toolNames ≠ []) (ds : List ToolDeclaration) :
    advertised t ds = ds.filter fun d => d.name ∈ t.toolNames := by
  refine List.filter_congr fun d _ => Bool.eq_iff_iff.2 ?_
  rw [decide_eq_true_iff]
  exact ⟨mem_of_allows ht, fun h => Task.allows_iff.2 (.inr h)⟩

theorem complete_asks (names : List String) (messages : List Message)
    (tools : List ToolDeclaration) : (complete ⟨messages, tools⟩).Asks (Permitted names tools) :=
  .guarded rfl fun _ => .done _

theorem observation_asks (ht : t.toolNames ≠ []) (call : ToolCall) :
    (observation t call).Asks (Permitted t.toolNames tools) := by
  rw [observation]
  split
  · next h => exact .guarded (mem_of_allows ht h) fun _ => .done _
  · exact .done _

theorem answer_asks (ht : t.toolNames ≠ []) (calls : List ToolCall) (s : State) :
    (answer t calls s).Asks (Permitted t.toolNames tools) := by
  induction calls generalizing s with
  | nil => exact .done _
  | cons call calls ih =>
    rw [answer]
    refine .poll fun b => ?_
    cases b with
    | true => exact .done _
    | false =>
      refine (observation_asks ht call).bind fun a => ?_
      cases a with
      | ok text => exact ih _
      | error e => exact .done _

theorem loop_asks (ht : t.toolNames ≠ []) (bound left : Nat) (s : State) :
    (loop t tools bound left s).Asks (Permitted t.toolNames tools) := by
  induction left generalizing s with
  | zero => exact .done _
  | succ left ih =>
    rw [loop]
    refine (complete_asks t.toolNames s.messages tools).bind fun a => ?_
    cases a with
    | error e => exact .done _
    | ok x =>
      dsimp only
      split
      · exact .done _
      · refine (answer_asks ht x.toolCalls _).bind fun r => ?_
        obtain ⟨s, e⟩ := r
        cases e with
        | some e => exact .done _
        | none => exact ih s

theorem run_asks (ht : t.toolNames ≠ []) (ds : List ToolDeclaration) (o : Options) :
    (run (.value ds) t o).Asks (Permitted t.toolNames (advertised t ds)) :=
  (loop_asks ht _ _ _).bind fun _ => .done _

theorem run_congr {declarations declarations' : Outcome (List ToolDeclaration)} {o : Options}
    (h : declarations.map (advertised t) = declarations'.map (advertised t)) :
    run declarations t o = run declarations' t o := by
  cases declarations with
  | panic text =>
    cases declarations' with
    | panic text' =>
      cases h
      rfl
    | value ds' => cases h
  | value ds =>
    cases declarations' with
    | panic text' => cases h
    | value ds' =>
      have h : advertised t ds = advertised t ds' := by injection h
      change (loop t (advertised t ds) _ _ _).bind _ = (loop t (advertised t ds') _ _ _).bind _
      rw [h]

structure AgreeOn {σ τ : Type} (names : List String) (R : σ → τ → Prop) (w : World σ)
    (w' : World τ) : Prop where
  complete : ∀ r x y, R x y → (w.respond (.complete r) x).1 = (w'.respond (.complete r) y).1 ∧
    R (w.respond (.complete r) x).2 (w'.respond (.complete r) y).2
  execute : ∀ name ∈ names, ∀ arguments x y, R x y →
    (w.respond (.execute name arguments) x).1 = (w'.respond (.execute name arguments) y).1 ∧
      R (w.respond (.execute name arguments) x).2 (w'.respond (.execute name arguments) y).2

theorem AgreeOn.indistinguishable {σ τ : Type} {names : List String} {R : σ → τ → Prop}
    {w : World σ} {w' : World τ} (h : AgreeOn names R w w') :
    Indistinguishable (Permitted names tools) R w w' := by
  intro q x y hq hR
  cases q with
  | complete r => exact h.complete r x y hR
  | execute name arguments => exact h.execute name hq arguments x y hR
  | score | check | attempt => exact hq.elim

theorem run_isolated (t : Task) (ht : t.toolNames ≠ []) (o : Options) (limit : Nat)
    (signal : Option Nat) :
    (∀ {σ : Type} (w : World σ) (world : σ) (declarations : Outcome (List ToolDeclaration)),
      ∀ c ∈ ((run declarations t o).run w limit (.start world signal)).2.calls,
        (∀ name arguments, c.query = .execute name arguments → name ∈ t.toolNames) ∧
        ∀ r, c.query = .complete r → ∃ ds, declarations = .value ds ∧
          r.tools = ds.filter fun d => d.name ∈ t.toolNames) ∧
    ∀ {σ τ : Type} (R : σ → τ → Prop) (w : World σ) (w' : World τ) (world : σ) (world' : τ)
      (declarations declarations' : Outcome (List ToolDeclaration)),
      AgreeOn t.toolNames R w w' → R world world' →
      declarations.map (List.filter fun d => d.name ∈ t.toolNames) =
        declarations'.map (List.filter fun d => d.name ∈ t.toolNames) →
      let ended := (run declarations t o).run w limit (.start world signal)
      let ended' := (run declarations' t o).run w' limit (.start world' signal)
      ended.1 = ended'.1 ∧ ended.2.calls = ended'.2.calls := by
  have hadvertised : advertised t = List.filter fun d => d.name ∈ t.toolNames :=
    funext (advertised_eq_filter ht)
  refine ⟨fun {σ} w world declarations => ?_,
    fun {σ τ} R w w' world world' declarations declarations' hw hworld hd => ?_⟩
  · cases declarations with
    | panic text => exact fun c hc => nomatch hc
    | value ds =>
      intro c hc
      have hp := Process.run_asks (run_asks ht ds o) w (List.forall_mem_nil _) c hc
      refine ⟨fun name arguments hq => ?_, fun r hq => ⟨ds, rfl, ?_⟩⟩
      · rwa [hq] at hp
      · rw [hq] at hp
        rw [← hadvertised]
        exact hp
  · -- with the same advertised tools both runs are those of one process
    have hstart : (Session.start world signal).Alike R (Session.start world' signal) :=
      ⟨hworld, rfl, rfl, rfl, rfl⟩
    rw [← hadvertised] at hd
    rw [run_congr hd]
    cases declarations' with
    | panic text => exact ⟨rfl, rfl⟩
    | value ds =>
      obtain ⟨hresult, hsession⟩ := Process.run_alike (run_asks ht ds o) hw.indistinguishable hstart
      exact ⟨hresult, hsession.calls_eq⟩

def tempting (deletion : Reply ToolOutcome) : World Nat where
  respond
    | .complete _ => pure (.ok (.requesting "I need both"
        [⟨"c1", "delete", .null⟩, ⟨"c2", "search", .null⟩]))
    | .execute name _ => if name = "search" then pure (.ok "found") else fun n => (deletion, n + 1)
    | .score _ _ => pure 0
    | .check _ _ => pure .pass
    | .attempt _ _ => pure (.ok "")

theorem agreeOn_tempting (deletion deletion' : Reply ToolOutcome) :
    AgreeOn ["search"] (fun _ _ => True) (tempting deletion) (tempting deletion') where
  complete := fun _ _ _ _ => ⟨rfl, trivial⟩
  execute := by
    intro name hname arguments x y _
    obtain rfl := List.mem_singleton.1 hname
    exact ⟨rfl, trivial⟩

def reviewed : Task :=
  ⟨"Find the answer", [], ["search"]⟩

def searching : ToolDeclaration :=
  ⟨"search", "", .null⟩

def deleting : ToolDeclaration :=
  ⟨"delete", "", .null⟩

theorem run_isolated_tempted :
    reviewed.toolNames ≠ [] ∧
      (∀ c ∈ ((run (.value [deleting, searching]) reviewed .default).run
          (tempting (.atOnce (.ok "gone"))) 60000 (.start 0 none)).2.calls,
        ∀ name arguments, c.query = .execute name arguments → name ∈ reviewed.toolNames) ∧
      AgreeOn reviewed.toolNames (fun _ _ => True) (tempting (.atOnce (.ok "gone")))
        (tempting ⟨some 0, 5, .panic "no such tool"⟩) ∧
      ((run (.value [deleting, searching]) reviewed .default).run
          (tempting (.atOnce (.ok "gone"))) 60000 (.start 0 none)).1 =
        ((run (.value [searching]) reviewed .default).run
          (tempting ⟨some 0, 5, .panic "no such tool"⟩) 60000 (.start 7 none)).1 := by
  have ht : reviewed.toolNames ≠ [] := List.cons_ne_nil _ _
  have hw := agreeOn_tempting (.atOnce (.ok "gone")) ⟨some 0, 5, .panic "no such tool"⟩
  obtain ⟨hlisted, hsame⟩ := run_isolated reviewed ht .default 60000 none
  refine ⟨ht, fun c hc => (hlisted _ 0 _ c hc).1, hw, ?_⟩
  exact (hsame _ _ _ 0 7 (.value [deleting, searching]) (.value [searching]) hw trivial rfl).1

end Deliberation.Engine.Iterative
