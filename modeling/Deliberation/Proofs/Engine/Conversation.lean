import Deliberation.Engine.Iterative
import Deliberation.Proofs.Outcome.Sound
import Deliberation.Proofs.Run.Soundness

namespace Deliberation.Run

def Exchange.completion? : Exchange → Option (Request × Reply (Except Failure Completion))
  | ⟨.complete r, reply⟩ => some (r, reply)
  | _ => none

theorem completions_cons (r : Request) (reply : Reply (Except Failure Completion))
    (l : List Exchange) : List.filterMap Exchange.completion? (⟨.complete r, reply⟩ :: l) =
      (r, reply) :: l.filterMap Exchange.completion? :=
  rfl

end Deliberation.Run

namespace Deliberation.Engine.Iterative

open Run

structure Turn where
  completion : Completion
  observations : List String

def actStep (call : ToolCall) : Step :=
  ⟨.act, call.name ++ "(" ++ call.arguments.text ++ ")"⟩

def thought (c : Completion) : String :=
  if Text.blankString c.text then "(no reasoning text)" else c.text

def cancelledStep : Step :=
  ⟨.halt, "Reasoning cancelled by caller"⟩

def toolMessages (calls : List ToolCall) (observations : List String) : List Message :=
  List.zipWith (fun call text => .tool call.id text) calls observations

def callSteps (calls : List ToolCall) (observations : List String) : List Step :=
  (calls.zip observations).flatMap fun p => [actStep p.1, ⟨.observe, p.2⟩]

namespace Turn

def Answered (turn : Turn) : Prop :=
  turn.observations.length = turn.completion.toolCalls.length

def messages (turn : Turn) : List Message :=
  .requesting turn.completion.text turn.completion.toolCalls ::
    toolMessages turn.completion.toolCalls turn.observations

def steps (turn : Turn) : List Step :=
  ⟨.think, thought turn.completion⟩ :: callSteps turn.completion.toolCalls turn.observations

end Turn

/-- Completion calls and the turns they led to: every request is the one before it and the
messages of its turn, and only the last call may have led to none. -/
structure Conversation (limit : Nat) (c : Prop) (opening : List Message)
    (tools : List ToolDeclaration) (turns : List Turn)
    (asked : List (Request × Reply (Except Failure Completion))) : Prop where
  opens : ∀ a, asked[0]? = some a → a.1.messages = opening
  grows : ∀ k a b, asked[k]? = some a → asked[k + 1]? = some b → ∃ turn, turns[k]? = some turn ∧
    turn.Answered ∧ b.1.messages = a.1.messages ++ turn.messages
  advertises : ∀ a ∈ asked, a.1.tools = tools
  arrives : ∀ (k : Nat) turn, turns[k]? = some turn → ∃ a, asked[k]? = some a ∧
    ending limit a.2 = .value (.ok (.ok turn.completion))
  misses : ∀ (k : Nat) a completion, asked[k]? = some a → turns[k]? = none →
    ending limit a.2 = .value (.ok (.ok completion)) → c ∧ 0 < a.2.delay

/-- The steps of these turns. In the last one the calls may be taken up no further than to an act
without its observation, if the run has been cancelled. -/
inductive Told (c : Prop) : List Turn → List Step → Except Failure String → Prop
  | whole {turns : List Turn} {x : Except Failure String} (h : ∀ turn ∈ turns, turn.Answered)
      (hx : ∀ text, x = .ok text → turns ≠ []) : Told c turns (turns.flatMap Turn.steps) x
  | cut {turns : List Turn} {turn : Turn} {under : List Step} (hc : c)
      (h : ∀ turn ∈ turns, turn.Answered)
      (hlt : turn.observations.length < turn.completion.toolCalls.length)
      (hunder : under = [] ∨ ∃ call,
        turn.completion.toolCalls[turn.observations.length]? = some call ∧ under = [actStep call]) :
      Told c (turns ++ [turn]) (turns.flatMap Turn.steps ++ (turn.steps ++ under))
        (.error .cancelled)

def halting : Except Failure String → List Step
  | .ok _ => []
  | .error .cancelled => [cancelledStep]
  | .error (.exhausted bound limit) => [⟨.halt, (Failure.exhausted bound limit).message⟩]
  | .error e => [⟨.halt, "Reasoning aborted: " ++ e.message⟩]

variable {limit bound left : Nat} {c : Prop} {t : Task} {tools : List ToolDeclaration}
  {opening : List Message} {turn : Turn} {turns : List Turn}
  {asked : List (Request × Reply (Except Failure Completion))}
  {reply : Reply (Except Failure Completion)} {s : State} {calls : List ToolCall}
  {l : List Exchange}

namespace Conversation

theorem nil : Conversation limit c opening tools [] [] where
  opens := fun _ h => nomatch h
  grows := fun _ _ _ h => nomatch h
  advertises := fun _ h => nomatch h
  arrives := fun _ _ h => nomatch h
  misses := fun _ _ _ h => nomatch h

theorem missed (h : ∀ x, ending limit reply = .value (.ok (.ok x)) → c ∧ 0 < reply.delay) :
    Conversation limit c opening tools [] [(⟨opening, tools⟩, reply)] where
  opens := by
    rintro a ⟨⟩
    rfl
  grows := fun _ _ _ _ hb => nomatch hb
  advertises := fun a ha => by rw [List.mem_singleton.1 ha]
  arrives := fun _ _ h => nomatch h
  misses := by
    intro k a x ha _ hx
    cases k with
    | zero =>
      cases ha
      exact h x hx
    | succ k => cases ha

theorem cons (h : Conversation limit c (opening ++ turn.messages) tools turns asked)
    (ht : asked ≠ [] → turn.Answered)
    (hr : ending limit reply = .value (.ok (.ok turn.completion))) :
    Conversation limit c opening tools (turn :: turns) ((⟨opening, tools⟩, reply) :: asked) where
  opens := by
    rintro a ⟨⟩
    rfl
  grows := by
    intro k a b ha hb
    cases k with
    | zero =>
      cases ha
      refine ⟨turn, rfl, ht ?_, h.opens b hb⟩
      rintro rfl
      cases hb
    | succ k => exact h.grows k a b ha hb
  advertises := List.forall_mem_cons.2 ⟨rfl, h.advertises⟩
  arrives := by
    intro k turn' hk
    cases k with
    | zero =>
      cases hk
      exact ⟨_, rfl, hr⟩
    | succ k => exact h.arrives k turn' hk
  misses := by
    intro k a x ha hk hx
    cases k with
    | zero => cases hk
    | succ k => exact h.misses k a x ha hk hx

end Conversation

theorem Told.cons {told : List Step} {x : Except Failure String} (h : Told c turns told x)
    (ht : turn.Answered) : Told c (turn :: turns) (turn.steps ++ told) x := by
  cases h with
  | whole h hx =>
    have h : ∀ other ∈ turn :: turns, other.Answered := List.forall_mem_cons.2 ⟨ht, h⟩
    exact .whole h fun _ _ => List.cons_ne_nil _ _
  | @cut turns last under hc h hlt hunder =>
    have h : ∀ other ∈ turn :: turns, other.Answered := List.forall_mem_cons.2 ⟨ht, h⟩
    have hcut := Told.cut hc h hlt hunder
    rwa [List.flatMap_cons, List.append_assoc] at hcut

inductive Heard (limit : Nat) (c : Prop) (r : Request) :
    List Exchange → Outcome (Except Failure Completion) → Prop
  | refused (e : Failure) : Heard limit c r [] (.value (.error e))
  | missed {reply : Reply (Except Failure Completion)} (e : Failure)
      (h : ∀ x, ending limit reply = .value (.ok (.ok x)) → c ∧ 0 < reply.delay) :
      Heard limit c r [⟨.complete r, reply⟩] (.value (.error e))
  | heard {reply : Reply (Except Failure Completion)} {x : Completion}
      (h : ending limit reply = .value (.ok (.ok x))) :
      Heard limit c r [⟨.complete r, reply⟩] (.value (.ok x))
  | panicked {reply : Reply (Except Failure Completion)} {text : String}
      (h : ending limit reply = .panic text) :
      Heard limit c r [⟨.complete r, reply⟩] (.panic text)

theorem complete_conducts {r : Request} {o : Outcome (Except Failure Completion)}
    (h : (complete r).Conducts limit c l o) : Heard limit c r l o := by
  cases h.guarded with
  | refused _ h =>
    obtain ⟨rfl, rfl⟩ := Process.conducts_done_iff.1 h
    exact .refused _
  | lost hc hr h =>
    obtain ⟨rfl, rfl⟩ := Process.conducts_done_iff.1 h
    exact .missed _ fun _ _ => ⟨hc, hr⟩
  | @answered _ _ reply a ha h =>
    obtain ⟨rfl, rfl⟩ := Process.conducts_done_iff.1 h
    cases a with
    | error e => exact .missed e fun x hx => by cases ha.symm.trans hx
    | ok a =>
      cases a with
      | error e => exact .missed e fun x hx => by cases ha.symm.trans hx
      | ok x => exact .heard ha
  | panicked ht => exact .panicked ht

theorem observation_conducts {call : ToolCall} {o : Outcome (Except Failure String)}
    (h : (observation t call).Conducts limit c l o) :
    l.filterMap Exchange.completion? = [] ∧
      ∀ e, o = .value (.error e) → e = .cancelled ∧ c := by
  rw [observation] at h
  split at h
  · cases h.guarded with
    | refused hc h =>
      obtain ⟨rfl, rfl⟩ := Process.conducts_done_iff.1 h
      exact ⟨rfl, by rintro e ⟨⟩; exact ⟨rfl, hc⟩⟩
    | lost hc hr h =>
      obtain ⟨rfl, rfl⟩ := Process.conducts_done_iff.1 h
      exact ⟨rfl, by rintro e ⟨⟩; exact ⟨rfl, hc⟩⟩
    | @answered _ _ reply a ha h =>
      obtain ⟨rfl, rfl⟩ := Process.conducts_done_iff.1 h
      refine ⟨rfl, fun e he => ?_⟩
      cases a with
      | ok x => cases he
      | error f =>
        cases f with
        -- a call that has been answered may have timed out, but was not cancelled
        | cancelled => exact absurd ha (ending_ne_cancelled reply)
        | _ => cases he
    | panicked ht => exact ⟨rfl, fun e he => nomatch he⟩
  · obtain ⟨rfl, rfl⟩ := Process.conducts_done_iff.1 h
    exact ⟨rfl, fun e he => nomatch he⟩

inductive Worked (c : Prop) (calls : List ToolCall) (s s' : State) : Option Failure → Prop
  | all (observations : List String) (hl : observations.length = calls.length)
      (hm : s'.messages = s.messages ++ toolMessages calls observations)
      (ht : s'.trace.steps = s.trace.steps ++ callSteps calls observations) :
      Worked c calls s s' none
  | cut (observations : List String) (under : List Step) (hc : c)
      (hl : observations.length < calls.length)
      (hu : under = [] ∨ ∃ call, calls[observations.length]? = some call ∧ under = [actStep call])
      (ht : s'.trace.steps = s.trace.steps ++ (callSteps calls observations ++ under)) :
      Worked c calls s s' (some .cancelled)

theorem Worked.cons {call : ToolCall} {s' : State} {x : Option Failure} (text : String)
    (h : Worked c calls ((s.act call).observe call text) s' x) :
    Worked c (call :: calls) s s' x := by
  cases h with
  | all observations hl hm ht =>
    refine .all (text :: observations) (congrArg (· + 1) hl) ?_ ?_
    · simp [hm, toolMessages, State.act, State.observe]
    · simp [ht, callSteps, actStep, State.act, State.observe]
  | cut observations under hc hl hu ht =>
    refine .cut (text :: observations) under hc (Nat.succ_lt_succ hl) hu ?_
    simp [ht, callSteps, actStep, State.act, State.observe]

theorem worked_none (c : Prop) (s : State) : Worked c [] s s none :=
  .all [] rfl (List.append_nil _).symm (List.append_nil _).symm

theorem worked_untouched (hc : c) (call : ToolCall) (calls : List ToolCall) (s : State) :
    Worked c (call :: calls) s s (some .cancelled) :=
  .cut [] [] hc (Nat.succ_pos _) (.inl rfl) (List.append_nil _).symm

theorem worked_underway (hc : c) (call : ToolCall) (calls : List ToolCall) (s : State) :
    Worked c (call :: calls) s (s.act call) (some .cancelled) :=
  .cut [] [actStep call] hc (Nat.succ_pos _) (.inr ⟨call, rfl, rfl⟩) rfl

theorem answer_conducts {o : Outcome (State × Option Failure)}
    (h : (answer t calls s).Conducts limit c l o) :
    l.filterMap Exchange.completion? = [] ∧
      ∀ s' x, o = .value (s', x) → Worked c calls s s' x := by
  induction calls generalizing s l with
  | nil =>
    obtain ⟨rfl, rfl⟩ := Process.conducts_done_iff.1 h
    refine ⟨rfl, ?_⟩
    rintro s' x ⟨⟩
    exact worked_none c s
  | cons call calls ih =>
    rw [answer] at h
    cases h with
    | @poll _ b _ _ hb h =>
      cases b with
      | true =>
        obtain ⟨rfl, rfl⟩ := Process.conducts_done_iff.1 h
        refine ⟨rfl, ?_⟩
        rintro s' x ⟨⟩
        exact worked_untouched (hb rfl) call calls s
      | false =>
        -- the look at the signal is over, and the call itself comes next
        change Process.Conducts limit c ((observation t call).bind _) l o at h
        obtain ⟨a, m, n, rfl, hm, h⟩ | ⟨text, rfl, hp⟩ := Process.conducts_bind h
        · obtain ⟨hm, he⟩ := observation_conducts hm
          rw [List.filterMap_append, hm, List.nil_append]
          cases a with
          | error e =>
            obtain ⟨rfl, hc⟩ := he e rfl
            obtain ⟨rfl, rfl⟩ := Process.conducts_done_iff.1 h
            refine ⟨rfl, ?_⟩
            rintro s' x ⟨⟩
            exact worked_underway hc call calls s
          | ok text =>
            obtain ⟨hl, hw⟩ := ih h
            exact ⟨hl, fun s' x hx => (hw s' x hx).cons text⟩
        · exact ⟨(observation_conducts hp).1, fun s' x hx => nomatch hx⟩

theorem steps_think (s : State) (x : Completion) :
    (s.think x).trace.steps = s.trace.steps ++ [⟨.think, thought x⟩] := by
  rw [State.think, thought]
  split <;> rfl

theorem messages_think (s : State) (x : Completion) : (s.think x).messages = s.messages := by
  rw [State.think]
  split <;> rfl

theorem messages_request (s : State) (x : Completion) (observations : List String) :
    ((s.think x).request x).messages ++ toolMessages x.toolCalls observations =
      s.messages ++ (Turn.mk x observations).messages := by
  rw [State.request, messages_think, List.append_assoc]
  rfl

theorem steps_request (s : State) (x : Completion) (observations : List String) :
    ((s.think x).request x).trace.steps ++ callSteps x.toolCalls observations =
      s.trace.steps ++ (Turn.mk x observations).steps := by
  rw [State.request, steps_think, List.append_assoc]
  rfl

def Converses (limit : Nat) (c : Prop) (tools : List ToolDeclaration) (s : State)
    (l : List Exchange) (o : Outcome (State × Except Failure String)) : Prop :=
  ∃ turns, Conversation limit c s.messages tools turns (l.filterMap Exchange.completion?) ∧
    ∀ s' x, o = .value (s', x) →
      ∃ told, Told c turns told x ∧ s'.trace.steps = s.trace.steps ++ told

theorem told_error (c : Prop) (e : Failure) : Told c [] [] (.error e) :=
  .whole (List.forall_mem_nil _) fun _ h => nomatch h

theorem converses_refused (e : Failure) :
    Converses limit c tools s [] (.value (s, .error e)) := by
  refine ⟨[], .nil, ?_⟩
  rintro s' x ⟨⟩
  exact ⟨[], told_error c e, (List.append_nil _).symm⟩

theorem converses_missed (e : Failure)
    (h : ∀ x, ending limit reply = .value (.ok (.ok x)) → c ∧ 0 < reply.delay) :
    Converses limit c tools s [⟨.complete ⟨s.messages, tools⟩, reply⟩] (.value (s, .error e)) := by
  refine ⟨[], .missed h, ?_⟩
  rintro s' x ⟨⟩
  exact ⟨[], told_error c e, (List.append_nil _).symm⟩

theorem converses_panicked {text : String} (h : ending limit reply = .panic text) :
    Converses limit c tools s [⟨.complete ⟨s.messages, tools⟩, reply⟩] (.panic text) :=
  ⟨[], .missed (fun x hx => by cases h.symm.trans hx), fun _ _ h => nomatch h⟩

variable {x : Completion} (hr : ending limit reply = .value (.ok (.ok x)))

include hr

theorem converses_answer (hx : x.toolCalls = []) :
    Converses limit c tools s [⟨.complete ⟨s.messages, tools⟩, reply⟩]
      (.value (s.think x, .ok x.text)) := by
  have hturn : (Turn.mk x []).Answered := by
    rw [Turn.Answered, hx]
    rfl
  refine ⟨[⟨x, []⟩], .cons .nil (fun h => absurd rfl h) hr, ?_⟩
  rintro s' y ⟨⟩
  refine ⟨_, .whole (List.forall_mem_singleton.2 hturn) fun _ _ => List.cons_ne_nil _ _, ?_⟩
  rw [steps_think, List.flatMap_singleton, Turn.steps, hx]
  rfl

theorem converses_cut (hl : l.filterMap Exchange.completion? = []) {s' : State} {e : Failure}
    (h : Worked c x.toolCalls ((s.think x).request x) s' (some e)) :
    Converses limit c tools s (⟨.complete ⟨s.messages, tools⟩, reply⟩ :: l)
      (.value (s', .error e)) := by
  cases h with
  | cut observations under hc hlt hu ht =>
    have hcut : Told c ([] ++ [⟨x, observations⟩]) ([] ++ ((Turn.mk x observations).steps ++ under))
        (.error .cancelled) := .cut hc (List.forall_mem_nil _) hlt hu
    refine ⟨[⟨x, observations⟩], ?_, ?_⟩
    · rw [completions_cons, hl]
      exact .cons .nil (fun h => absurd rfl h) hr
    · rintro s'' y ⟨⟩
      refine ⟨_, hcut, ?_⟩
      rw [ht, ← List.append_assoc, steps_request, List.append_assoc]
      rfl

theorem converses_crash (hl : l.filterMap Exchange.completion? = []) (text : String) :
    Converses limit c tools s (⟨.complete ⟨s.messages, tools⟩, reply⟩ :: l) (.panic text) := by
  refine ⟨[⟨x, []⟩], ?_, fun _ _ h => nomatch h⟩
  rw [completions_cons, hl]
  exact .cons .nil (fun h => absurd rfl h) hr

theorem converses_next {m n : List Exchange} {s' : State}
    {o : Outcome (State × Except Failure String)} (hm : m.filterMap Exchange.completion? = [])
    (h : Worked c x.toolCalls ((s.think x).request x) s' none)
    (hn : Converses limit c tools s' n o) :
    Converses limit c tools s (⟨.complete ⟨s.messages, tools⟩, reply⟩ :: (m ++ n)) o := by
  cases h with
  | all observations hl hmessages hsteps =>
    rw [messages_request] at hmessages
    rw [steps_request] at hsteps
    obtain ⟨turns, hconv, htold⟩ := hn
    rw [hmessages] at hconv
    refine ⟨⟨x, observations⟩ :: turns, ?_, fun s'' y hy => ?_⟩
    · rw [completions_cons, List.filterMap_append, hm]
      exact .cons hconv (fun _ => hl) hr
    · obtain ⟨told, ht, hs⟩ := htold s'' y hy
      exact ⟨_, ht.cons hl, by rw [hs, hsteps, List.append_assoc]⟩

omit hr

theorem loop_conducts {o : Outcome (State × Except Failure String)}
    (h : (loop t tools bound left s).Conducts limit c l o) : Converses limit c tools s l o := by
  induction left generalizing s l with
  | zero =>
    obtain ⟨rfl, rfl⟩ := Process.conducts_done_iff.1 h
    exact converses_refused _
  | succ left ih =>
    rw [loop] at h
    obtain ⟨a, m, n, rfl, hm, h⟩ | ⟨text, rfl, hm⟩ := Process.conducts_bind h
    · generalize ho : Outcome.value a = o' at hm
      cases complete_conducts hm with
      | refused e =>
        cases ho
        obtain ⟨rfl, rfl⟩ := Process.conducts_done_iff.1 h
        exact converses_refused e
      | missed e hmiss =>
        cases ho
        obtain ⟨rfl, rfl⟩ := Process.conducts_done_iff.1 h
        exact converses_missed e hmiss
      | @heard reply x hr =>
        cases ho
        dsimp only at h
        split at h
        · next hx =>
          obtain ⟨rfl, rfl⟩ := Process.conducts_done_iff.1 h
          exact converses_answer hr (by simpa [Completion.hasToolCalls] using hx)
        · obtain ⟨⟨s', e⟩, m, n, rfl, hm, h⟩ | ⟨text, rfl, hm⟩ := Process.conducts_bind h
          · obtain ⟨hl, hw⟩ := answer_conducts hm
            rw [List.singleton_append]
            cases e with
            | some e =>
              obtain ⟨rfl, rfl⟩ := Process.conducts_done_iff.1 h
              rw [List.append_nil]
              exact converses_cut hr hl (hw _ _ rfl)
            | none => exact converses_next hr hl (hw _ _ rfl) (ih h)
          · -- a tool has panicked, so that nobody is told of this turn
            exact converses_crash hr (answer_conducts hm).1 text
      | panicked => cases ho
    · generalize ho : Outcome.panic text = o' at hm
      cases complete_conducts hm with
      | refused | missed | heard => cases ho
      | panicked hp =>
        cases ho
        exact converses_panicked hp

theorem Told.steps_ne_nil {told : List Step} {text : String} (h : Told c turns told (.ok text)) :
    told ≠ [] := by
  cases h with
  | whole _ hx =>
    obtain ⟨turn, rest, rfl⟩ := List.exists_cons_of_ne_nil (hx text rfl)
    exact List.cons_ne_nil _ _

theorem steps_conclude {y : Except Failure String} (h : Told c turns s.trace.steps y) :
    (conclude (s, y)).trace.steps = s.trace.steps ++ halting y := by
  cases y with
  | ok text =>
    rw [halting, List.append_nil]
    exact congrArg Trace.steps (Result.trace_build h.steps_ne_nil)
  | error e => cases e <;> exact congrArg Trace.steps (Result.trace_build (Trace.record_ne_nil _ _ _))

theorem run_conversation {declarations : Outcome (List ToolDeclaration)} {o : Options}
    {ended : Outcome Result} (h : (run declarations t o).Conducts limit c l ended) :
    ∃ tools turns, (∀ ds, declarations = .value ds → tools = advertised t ds) ∧
      Conversation limit c [.system (Prompt.iterative (toolNames tools)), .user t.render] tools turns
        (l.filterMap Exchange.completion?) ∧
      ∀ r, ended = .value r → ∃ told x, Told c turns told x ∧ r.trace.steps = told ++ halting x := by
  cases declarations with
  | panic text =>
    cases h
    exact ⟨[], [], fun _ h => (nomatch h), .nil, fun _ h => nomatch h⟩
  | value ds =>
    change Process.Conducts limit c ((loop t (advertised t ds) _ _ _).bind _) l ended at h
    refine ⟨advertised t ds, ?_⟩
    obtain ⟨⟨s, x⟩, m, n, rfl, hm, hn⟩ | ⟨text, rfl, hm⟩ := Process.conducts_bind h
    · obtain ⟨rfl, rfl⟩ := Process.conducts_done_iff.1 hn
      obtain ⟨turns, hconv, htold⟩ := loop_conducts hm
      rw [List.append_nil]
      refine ⟨turns, by rintro _ ⟨⟩; rfl, hconv, ?_⟩
      rintro r ⟨⟩
      obtain ⟨told, ht, hs⟩ := htold s x rfl
      obtain rfl : s.trace.steps = told := hs
      exact ⟨_, x, ht, steps_conclude ht⟩
    · obtain ⟨turns, hconv, -⟩ := loop_conducts hm
      exact ⟨turns, by rintro _ ⟨⟩; rfl, hconv, fun _ h => nomatch h⟩

theorem run_converses {σ : Type} (w : World σ) (declarations : Outcome (List ToolDeclaration))
    (t : Task) (o : Options) (limit : Nat) (world : σ) (signal : Option Nat) :
    let ended := (run declarations t o).run w limit (.start world signal)
    ∃ tools turns, (∀ ds, declarations = .value ds → tools = advertised t ds) ∧
      Conversation limit (ended.2.cancelled = true)
        [.system (Prompt.iterative (toolNames tools)), .user t.render] tools turns
        ((w.exchanges world ended.2.queries).filterMap Exchange.completion?) ∧
      ∀ r, ended.1 = .value r → ∃ told x,
        Told (ended.2.cancelled = true) turns told x ∧ r.trace.steps = told ++ halting x := by
  intro ended
  obtain ⟨l, hl, h⟩ := (run declarations t o).run_conducts (w := w) (.start world signal) id
  rw [show ended.2.queries = l from hl]
  exact run_conversation h

def arrived? (limit : Nat) (reply : Reply (Except Failure Completion)) : Option Completion :=
  match ending limit reply with
  | .value (.ok (.ok x)) => some x
  | _ => none

def Recounted (limit : Nat) (asked : List (Request × Reply (Except Failure Completion)))
    (trace : Trace) : Prop :=
  trace.count .think = asked.length ∧ trace.count .act =
    ((asked.filterMap fun a => arrived? limit a.2).flatMap Completion.toolCalls).length

def repeating (reply : Reply (Except Failure Completion)) : World Unit where
  respond
    | .complete _ => fun x => (reply, x)
    | .execute _ _ => pure (.ok "")
    | .score _ _ => pure 0
    | .check _ _ => pure .pass
    | .attempt _ _ => pure (.ok "")

def lookup : Completion :=
  .requesting "I will look it up" [⟨"c1", "search", .null⟩]

theorem cancelled_or_failed_not_recounted :
    (let w := repeating ⟨some 0, 0, .value (.ok lookup)⟩
      let ended := (run (.value []) (.ofDescription "Find the answer") .default).run w 60000
        (.start () none)
      ∃ r, ended.1 = .value r ∧ ¬Recounted 60000
        ((w.exchanges () ended.2.queries).filterMap Exchange.completion?) r.trace) ∧
    let w := repeating ⟨none, 0, .value (.error (.backend "no scripted reply"))⟩
    let ended := (run (.value []) (.ofDescription "Find the answer") .default).run w 60000
      (.start () none)
    ∃ r, ended.1 = .value r ∧ ¬Recounted 60000
      ((w.exchanges () ended.2.queries).filterMap Exchange.completion?) r.trace := by
  refine ⟨⟨_, rfl, fun h => ?_⟩, _, rfl, fun h => ?_⟩
  · have hact : 0 = 1 := h.2
    cases hact
  · have hthink : 0 = 1 := h.1
    cases hthink

end Deliberation.Engine.Iterative
