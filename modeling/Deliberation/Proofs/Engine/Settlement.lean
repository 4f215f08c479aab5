import Deliberation.Proofs.Engine.Conversation
import Deliberation.Proofs.Run.Calm
import Deliberation.Proofs.Run.Sequence
import Mathlib.Data.List.Basic
import Mathlib.Data.List.Induction

namespace Deliberation.Engine.Iterative

open Run

def replied? (limit : Nat) (reply : Reply (Except Failure Completion)) :
    Option (Except Failure Completion) :=
  match ending limit reply with
  | .value a => some (a.bind id)
  | .panic _ => none

def replies (limit : Nat) (log : List Exchange) : List (Option (Except Failure Completion)) :=
  (log.filterMap Exchange.completion?).map fun a => replied? limit a.2

def lastText (cs : List Completion) : String :=
  ((cs.filter fun c => !Text.blankString c.text).getLast?.map Completion.text).getD ""

inductive Settles (n : Nat) : List (Except Failure Completion) → Bool → String → Float → Prop
  | answered {earlier : List Completion} {c : Completion}
      (busy : ∀ x ∈ earlier, x.hasToolCalls = true) (idle : c.hasToolCalls = false)
      (within : earlier.length < n) :
      Settles n (earlier.map .ok ++ [.ok c]) true c.text 0.8
  | failed {earlier : List Completion} (e : Failure)
      (busy : ∀ x ∈ earlier, x.hasToolCalls = true) (within : earlier.length < n) :
      Settles n (earlier.map .ok ++ [.error e]) false (lastText earlier) 0
  | capped {cs : List Completion} (busy : ∀ x ∈ cs, x.hasToolCalls = true) (full : cs.length = n) :
      Settles n (cs.map .ok) false (lastText cs)
        (if cs.all fun c => Text.blankString c.text then 0 else 0.5)

structure Undisturbed (limit : Nat) (log : List Exchange) : Prop where
  unbroken : ∀ e ∈ log, ∀ text, ending limit e.reply ≠ .panic text
  refused : ∀ e, some (.error e) ∈ replies limit log → e.isBackendFailure = true

section

variable {t : Task} {tools : List ToolDeclaration} {limit bound left n : Nat} {l m : List Exchange}
  {s : State} {calls : List ToolCall} {earlier : List Completion} {c : Completion}

theorem replied?_atOnce (x : Except Failure Completion) : replied? limit (.atOnce x) = some x := by
  rw [replied?, ending_atOnce]
  rfl

theorem replies_append (l m : List Exchange) :
    replies limit (l ++ m) = replies limit l ++ replies limit m := by
  rw [replies, List.filterMap_append, List.map_append]
  rfl

theorem Undisturbed.right (h : Undisturbed limit (l ++ m)) : Undisturbed limit m where
  unbroken := fun e he => h.unbroken e (List.mem_append_right _ he)
  refused := by
    intro e he
    refine h.refused e ?_
    rw [replies_append]
    exact List.mem_append_right _ he

theorem lastText_snoc (cs : List Completion) (c : Completion) :
    lastText (cs ++ [c]) = if Text.blankString c.text then lastText cs else c.text := by
  rw [lastText, List.filter_append]
  cases h : Text.blankString c.text <;> simp [h, lastText]

theorem blank_lastText (cs : List Completion) :
    Text.blankString (lastText cs) = cs.all fun c => Text.blankString c.text := by
  induction cs using List.reverseRecOn with
  | nil => rfl
  | append_singleton cs c ih =>
    rw [lastText_snoc, List.all_append, ← ih]
    cases h : Text.blankString c.text <;> simp [h]

theorem lastText_think (s : State) (c : Completion) :
    (s.think c).lastText = if Text.blankString c.text then s.lastText else c.text := by
  rw [State.think]
  split <;> rfl

theorem complete_calls (r : Request) :
    Calls limit (.complete r)
      (fun e x => ∀ rest, replies limit (e :: rest) = some x :: replies limit rest)
      (complete r) := by
  refine ⟨fun a => a.bind id, rfl, fun reply a ha rest => ?_⟩
  rw [replies, completions_cons, List.map_cons, replied?, ha]
  rfl

theorem observation_value {call : ToolCall} {o : Outcome (Except Failure String)}
    (hl : ∀ e ∈ l, ∀ text, ending limit e.reply ≠ .panic text)
    (h : (observation t call).Conducts limit False l o) : ∃ text, o = .value (.ok text) := by
  rw [observation] at h
  split at h
  · cases h.guarded with
    | refused hc => exact hc.elim
    | lost hc => exact hc.elim
    | @answered _ _ reply a ha h =>
      obtain ⟨rfl, rfl⟩ := Process.conducts_done_iff.1 h
      cases a with
      | ok x => exact ⟨_, rfl⟩
      | error e =>
        cases e with
        | cancelled => exact absurd ha (ending_ne_cancelled reply)
        | _ => exact ⟨_, rfl⟩
    | panicked ht => exact absurd ht (hl _ List.mem_cons_self _)
  · exact ⟨_, (Process.conducts_done_iff.1 h).2⟩

theorem answer_value {o : Outcome (State × Option Failure)}
    (hl : ∀ e ∈ l, ∀ text, ending limit e.reply ≠ .panic text)
    (h : (answer t calls s).Conducts limit False l o) :
    ∃ s', o = .value (s', none) ∧ s'.lastText = s.lastText := by
  induction calls generalizing s l with
  | nil => exact ⟨s, (Process.conducts_done_iff.1 h).2, rfl⟩
  | cons call calls ih =>
    rw [answer] at h
    cases h with
    | @poll _ b _ _ hb h =>
      cases b with
      | true => exact (hb rfl).elim
      | false =>
        change Process.Conducts limit False ((observation t call).bind _) l o at h
        obtain ⟨a, m, n, rfl, hm, h⟩ | ⟨text, rfl, hm⟩ := Process.conducts_bind h
        · obtain ⟨text, ha⟩ := observation_value (fun e he => hl e (List.mem_append_left _ he)) hm
          cases ha
          exact ih (s := (s.act call).observe call text)
            (fun e he => hl e (List.mem_append_right _ he)) h
        · obtain ⟨_, ho⟩ := observation_value hl hm
          cases ho

theorem settles_answered (busy : ∀ x ∈ earlier, x.hasToolCalls = true)
    (idle : c.hasToolCalls = false) (within : earlier.length < n) (s : State) :
    Settles n (earlier.map .ok ++ [.ok c]) (conclude (s, .ok c.text)).succeeded
      (conclude (s, .ok c.text)).finalAnswer (conclude (s, .ok c.text)).confidence := by
  have hx : (conclude (s, .ok c.text)).confidence = 0.8 := by
    show Number.normalize 0.8 = 0.8
    exact Number.normalize_of_inUnit ⟨by decide, by decide, by decide⟩
  rw [hx]
  exact .answered busy idle within

theorem settles_failed (busy : ∀ x ∈ earlier, x.hasToolCalls = true)
    (within : earlier.length < n) {e : Failure} (he : e.isBackendFailure = true)
    (hs : s.lastText = lastText earlier) :
    Settles n (earlier.map .ok ++ [.error e]) (conclude (s, .error e)).succeeded
      (conclude (s, .error e)).finalAnswer (conclude (s, .error e)).confidence := by
  have hdegraded : conclude (s, .error e) =
      .degraded .iterative s.lastText s.trace e.message := by
    cases e <;> first | rfl | cases he
  have hx : (conclude (s, .error e)).confidence = 0 := by
    rw [hdegraded]
    exact Number.normalize_of_inUnit Number.inUnit_zero
  rw [hx, hdegraded]
  show Settles n _ false s.lastText 0
  rw [hs]
  exact .failed e busy within

theorem settles_capped (busy : ∀ x ∈ earlier, x.hasToolCalls = true) (full : earlier.length = n)
    (hs : s.lastText = lastText earlier) (bound : String) (cap : Nat) :
    Settles n (earlier.map .ok) (conclude (s, .error (.exhausted bound cap))).succeeded
      (conclude (s, .error (.exhausted bound cap))).finalAnswer
      (conclude (s, .error (.exhausted bound cap))).confidence := by
  have hx : (conclude (s, .error (.exhausted bound cap))).confidence =
      if earlier.all fun c => Text.blankString c.text then 0 else 0.5 := by
    rw [← blank_lastText, ← hs]
    show Number.normalize (if Text.blankString s.lastText then 0.0 else 0.5) = _
    cases Text.blankString s.lastText with
    | true => exact Number.normalize_of_inUnit Number.inUnit_zero
    | false => exact Number.normalize_of_inUnit Number.inUnit_half
  rw [hx]
  show Settles n _ false s.lastText _
  rw [hs]
  exact .capped busy full

theorem loop_turns {o : Outcome (State × Except Failure String)}
    (hl : ∀ e ∈ l, ∀ text, ending limit e.reply ≠ .panic text)
    (h : (loop t tools bound (left + 1) s).Conducts limit False l o) :
    (∃ e, replies limit l = [some (.error e)] ∧ o = .value (s, .error e)) ∨
      (∃ c : Completion, c.hasToolCalls = false ∧ replies limit l = [some (.ok c)] ∧
        o = .value (s.think c, .ok c.text)) ∨
      ∃ (c : Completion) (s' : State) (m n : List Exchange), c.hasToolCalls = true ∧ l = m ++ n ∧
        replies limit m = [some (.ok c)] ∧ s'.lastText = (s.think c).lastText ∧
        (loop t tools bound left s').Conducts limit False n o := by
  rw [loop] at h
  obtain ⟨reply, x, l, rfl, hreply, h⟩ := (complete_calls ⟨s.messages, tools⟩).answered h hl
  cases x with
  | error e =>
    obtain ⟨rfl, rfl⟩ := Process.conducts_done_iff.1 h
    exact .inl ⟨e, hreply [], rfl⟩
  | ok c =>
    dsimp only at h
    cases hc : c.hasToolCalls with
    | false =>
      rw [hc] at h
      obtain ⟨rfl, rfl⟩ := Process.conducts_done_iff.1 h
      exact .inr (.inl ⟨c, hc, hreply [], rfl⟩)
    | true =>
      rw [hc] at h
      have hl := (List.forall_mem_cons.1 hl).2
      obtain ⟨⟨s', e⟩, m, n, rfl, hm, h⟩ | ⟨text, rfl, hm⟩ := Process.conducts_bind h
      · obtain ⟨s'', ho, hs⟩ := answer_value (fun e he => hl e (List.mem_append_left _ he)) hm
        cases ho
        refine .inr (.inr ⟨c, s', _ :: m, n, hc, rfl, ?_, hs, h⟩)
        rw [hreply, replies, (answer_conducts hm).1]
        rfl
      · obtain ⟨_, ho, -⟩ := answer_value hl hm
        cases ho

-- By induction on the iterations left, with the completions so far in hand.
theorem loop_settles {o : Outcome (State × Except Failure String)}
    (busy : ∀ x ∈ earlier, x.hasToolCalls = true) (hn : earlier.length + left = n)
    (hs : s.lastText = lastText earlier) (hl : Undisturbed limit l)
    (h : (loop t tools bound left s).Conducts limit False l o) :
    ∃ p came, o = .value p ∧ replies limit l = came.map some ∧
      Settles n (earlier.map .ok ++ came) (conclude p).succeeded (conclude p).finalAnswer
        (conclude p).confidence := by
  induction left generalizing earlier s l with
  | zero =>
    obtain ⟨rfl, rfl⟩ := Process.conducts_done_iff.1 h
    refine ⟨_, [], rfl, rfl, ?_⟩
    rw [List.append_nil]
    exact settles_capped busy hn hs _ _
  | succ left ih =>
    obtain ⟨e, hr, rfl⟩ | ⟨c, hc, hr, rfl⟩ | ⟨c, s', m, k, hc, rfl, hr, hs', h⟩ :=
      loop_turns hl.unbroken h
    · have he := hl.refused e (by simp [hr])
      exact ⟨_, [.error e], rfl, hr, settles_failed busy (by omega) he hs⟩
    · exact ⟨_, [.ok c], rfl, hr, settles_answered busy hc (by omega) _⟩
    · have hbusy : ∀ x ∈ earlier ++ [c], x.hasToolCalls = true :=
        List.forall_mem_append.2 ⟨busy, List.forall_mem_singleton.2 hc⟩
      have hlength : (earlier ++ [c]).length + left = n := by
        rw [List.length_append, List.length_singleton]
        omega
      have hlast : s'.lastText = lastText (earlier ++ [c]) := by
        rw [hs', lastText_think, lastText_snoc, hs]
      obtain ⟨p, came, rfl, hcame, hsettles⟩ := ih hbusy hlength hlast hl.right h
      refine ⟨p, .ok c :: came, rfl, ?_, ?_⟩
      · rw [replies_append, hr, hcame]
        rfl
      · rw [List.map_append, List.append_assoc] at hsettles
        exact hsettles

theorem run_settles {σ : Type} (w : World σ) (ds : List ToolDeclaration) (t : Task) (o : Options)
    (limit : Nat) (world : σ) (signal : Option Nat) :
    let ended := (run (.value ds) t o).run w limit (.start world signal)
    let log := w.exchanges world ended.2.queries
    ended.2.cancelled = false → Undisturbed limit log →
      ∃ r came, ended.1 = .value r ∧ replies limit log = came.map some ∧
        Settles (max o.maxIterations 1) came r.succeeded r.finalAnswer r.confidence := by
  intro ended log hc hl
  obtain ⟨l, hqueries, h⟩ := (run (.value ds) t o).run_conducts (c := False) (.start world signal)
    fun hcancelled : ended.2.cancelled = true => by cases hc.symm.trans hcancelled
  have hlog : w.exchanges world l = log := congrArg (w.exchanges world) hqueries.symm
  rw [show w.exchanges (Session.start world signal).world l = log from hlog] at h
  change Process.Conducts limit False ((loop t (advertised t ds) _ _ _).bind _) log ended.1 at h
  generalize ended.1 = out at h
  generalize log = log at h hl
  have hbusy : ∀ x ∈ ([] : List Completion), x.hasToolCalls = true := List.forall_mem_nil _
  obtain ⟨p, m, n, rfl, hm, hn⟩ | ⟨text, rfl, hm⟩ := Process.conducts_bind h
  · obtain ⟨rfl, rfl⟩ := Process.conducts_done_iff.1 hn
    rw [List.append_nil] at hl ⊢
    obtain ⟨_, came, hp, hcame, hsettles⟩ := loop_settles hbusy (Nat.zero_add _) rfl hl hm
    cases hp
    exact ⟨_, came, rfl, hcame, hsettles⟩
  · obtain ⟨_, _, hp, -⟩ := loop_settles hbusy (Nat.zero_add _) rfl hl hm
    cases hp

end

namespace Settles

variable {n : Nat} {l l' : List (Except Failure Completion)} {a a' : Bool} {b b' : String}
  {x x' : Float}

theorem length_le (h : Settles n l a b x) : l.length ≤ n := by
  cases h with
  | answered busy idle within =>
    rw [List.length_append, List.length_map]
    exact within
  | failed e busy within =>
    rw [List.length_append, List.length_map]
    exact within
  | capped busy full =>
    rw [List.length_map]
    exact Nat.le_of_eq full

theorem getElem?_busy {earlier : List Completion} (busy : ∀ c ∈ earlier, c.hasToolCalls = true)
    {i : Nat} (hi : i < earlier.length) (rest : List (Except Failure Completion)) :
    ∃ c, (earlier.map .ok ++ rest)[i]? = some (.ok c) ∧ c.hasToolCalls = true := by
  refine ⟨earlier[i], ?_, busy _ (List.getElem_mem hi)⟩
  rw [List.getElem?_append_left (by rwa [List.length_map]), List.getElem?_map,
    List.getElem?_eq_getElem hi]
  rfl

theorem busy_of_lt (h : Settles n l a b x) {i : Nat} (hi : i + 1 < l.length) :
    ∃ c, l[i]? = some (.ok c) ∧ c.hasToolCalls = true := by
  cases h with
  | answered busy idle within =>
    simp only [List.length_append, List.length_map, List.length_singleton] at hi
    exact getElem?_busy busy (by omega) _
  | failed e busy within =>
    simp only [List.length_append, List.length_map, List.length_singleton] at hi
    exact getElem?_busy busy (by omega) _
  | capped busy full =>
    rw [List.length_map] at hi
    have hget := getElem?_busy busy (by omega : i < _) []
    rwa [List.append_nil] at hget

theorem idle_of_lt (h : Settles n l a b x) (hn : l.length < n) :
    ∃ i y, i + 1 = l.length ∧ l[i]? = some y ∧ ∀ c, y = .ok c → c.hasToolCalls = false := by
  cases h with
  | @answered earlier c busy idle within =>
    refine ⟨earlier.length, .ok c, by simp, ?_, ?_⟩
    · rw [List.getElem?_append_right (by simp), List.length_map, Nat.sub_self]
      rfl
    · rintro _ ⟨⟩
      exact idle
  | @failed earlier e busy within =>
    refine ⟨earlier.length, .error e, by simp, ?_, fun _ hc => nomatch hc⟩
    rw [List.getElem?_append_right (by simp), List.length_map, Nat.sub_self]
    rfl
  | capped busy full =>
    rw [List.length_map] at hn
    exact absurd full (Nat.ne_of_lt hn)

theorem length_le_of_agree (h : Settles n l a b x) (h' : Settles n l' a' b' x')
    (hagree : ∀ (i : Nat) y y', l[i]? = some y → l'[i]? = some y' → y = y') :
    l'.length ≤ l.length := by
  refine Nat.le_of_not_lt fun hlt => ?_
  obtain ⟨i, y, hi, hy, hidle⟩ := h.idle_of_lt (Nat.lt_of_lt_of_le hlt h'.length_le)
  obtain ⟨c, hc, hbusy⟩ := h'.busy_of_lt (i := i) (by omega)
  cases hbusy.symm.trans (hidle c (hagree i y _ hy hc))

theorem eq_of_agree (h : Settles n l a b x) (h' : Settles n l' a' b' x')
    (hagree : ∀ (i : Nat) y y', l[i]? = some y → l'[i]? = some y' → y = y') : l' = l := by
  have hlength : l'.length = l.length := by
    refine Nat.le_antisymm (h.length_le_of_agree h' hagree) (h'.length_le_of_agree h ?_)
    exact fun i y y' hy hy' => (hagree i y' y hy' hy).symm
  refine List.ext_getElem hlength fun i hi' hi => ?_
  exact (hagree i _ _ (List.getElem?_eq_getElem hi) (List.getElem?_eq_getElem hi')).symm

theorem mem_of_append_eq {earlier cs : List Completion} {y : Except Failure Completion}
    (h : earlier.map .ok ++ [y] = cs.map .ok) : ∃ c ∈ cs, .ok c = y :=
  List.mem_map.1 (h ▸ List.mem_append_right _ (List.mem_singleton_self y))

theorem map_ok_injective {cs cs' : List Completion}
    (h : cs.map (.ok : _ → Except Failure Completion) = cs'.map .ok) : cs = cs' :=
  List.map_injective_iff.2 (fun _ _ => Except.ok.inj) h

theorem unique (h : Settles n l a b x) (h' : Settles n l a' b' x') : a' = a ∧ b' = b ∧ x' = x := by
  cases h with
  | @answered earlier c busy idle within =>
    generalize hl : earlier.map Except.ok ++ [.ok c] = l at h'
    cases h' with
    | answered =>
      cases List.append_inj_right' hl rfl
      exact ⟨rfl, rfl, rfl⟩
    | failed => cases List.append_inj_right' hl rfl
    | capped busy' =>
      obtain ⟨_, hm, hc⟩ := mem_of_append_eq hl
      cases hc
      cases idle.symm.trans (busy' c hm)
  | @failed earlier e busy within =>
    generalize hl : earlier.map Except.ok ++ [.error e] = l at h'
    cases h' with
    | answered => cases List.append_inj_right' hl rfl
    | failed =>
      obtain rfl := map_ok_injective (List.append_inj_left' hl rfl)
      exact ⟨rfl, rfl, rfl⟩
    | capped =>
      obtain ⟨_, -, hc⟩ := mem_of_append_eq hl
      cases hc
  | @capped cs busy full =>
    generalize hl : cs.map Except.ok = l at h'
    cases h' with
    | answered busy' idle =>
      obtain ⟨c, hm, hc⟩ := mem_of_append_eq hl.symm
      cases hc
      cases idle.symm.trans (busy _ hm)
    | failed =>
      obtain ⟨_, -, hc⟩ := mem_of_append_eq hl.symm
      cases hc
    | capped =>
      obtain rfl := map_ok_injective hl
      exact ⟨rfl, rfl, rfl⟩

end Settles

theorem run_settled {σ : Type} (w : World σ) (ds : List ToolDeclaration) (t : Task) (o : Options)
    (limit : Nat) (world : σ) (signal : Option Nat) :
    let ended := (run (.value ds) t o).run w limit (.start world signal)
    let log := w.exchanges world ended.2.queries
    ended.2.cancelled = false → Undisturbed limit log →
      ∃ r came, ended.1 = .value r ∧ replies limit log = came.map some ∧
        Settles (max o.maxIterations 1) came r.succeeded r.finalAnswer r.confidence ∧
        ∀ {τ : Type} (w' : World τ) (ds' : List ToolDeclaration) (t' : Task) (world' : τ)
          (signal' : Option Nat),
          let ended' := (run (.value ds') t' o).run w' limit (.start world' signal')
          let log' := w'.exchanges world' ended'.2.queries
          ended'.2.cancelled = false → Undisturbed limit log' →
            (∀ (i : Nat) x x', (replies limit log)[i]? = some x →
              (replies limit log')[i]? = some x' → x = x') →
            replies limit log' = replies limit log ∧ ∃ r', ended'.1 = .value r' ∧
              r'.succeeded = r.succeeded ∧ r'.finalAnswer = r.finalAnswer ∧
                r'.confidence = r.confidence := by
  intro ended log hc hl
  obtain ⟨r, came, hr, hcame, hsettles⟩ := run_settles w ds t o limit world signal hc hl
  refine ⟨r, came, hr, hcame, hsettles, ?_⟩
  intro τ w' ds' t' world' signal' ended' log' hc' hl' hagree
  obtain ⟨r', came', hr', hcame', hsettles'⟩ := run_settles w' ds' t' o limit world' signal' hc' hl'
  have hsame : came' = came := by
    refine hsettles.eq_of_agree hsettles' fun i y y' hy hy' => Option.some.inj ?_
    refine hagree i _ _ ?_ ?_
    · rw [show replies limit log = came.map some from hcame, List.getElem?_map, hy]
      rfl
    · rw [show replies limit log' = came'.map some from hcame', List.getElem?_map, hy']
      rfl
  subst hsame
  exact ⟨hcame'.trans hcame.symm, r', hr', hsettles.unique hsettles'⟩

def looking (found : Reply ToolOutcome) : World Nat where
  respond
    | .complete _ => fun n => (.atOnce (.ok (if n = 0 then lookup else .ofText "Blue")), n + 1)
    | .execute _ _ => fun n => (found, n)
    | .score _ _ => pure 0
    | .check _ _ => pure .pass
    | .attempt _ _ => pure (.ok "")

theorem getElem?_replies_looking {found : Reply ToolOutcome} {limit i n : Nat} (qs : List Query)
    {x : Option (Except Failure Completion)}
    (h : (replies limit ((looking found).exchanges n qs))[i]? = some x) :
    x = some (.ok (if n + i = 0 then lookup else .ofText "Blue")) := by
  induction qs generalizing n i with
  | nil => cases h
  | cons q qs ih =>
    cases q with
    | complete r =>
      cases i with
      | zero =>
        refine (Option.some.inj h).symm.trans ?_
        exact replied?_atOnce (.ok (if n = 0 then lookup else .ofText "Blue"))
      | succ i =>
        rw [ih (i := i) (n := n + 1) h, Nat.add_assoc, Nat.add_comm 1]
    | _ => exact ih h

theorem undisturbed_looking {found : Reply ToolOutcome} {o : ToolOutcome}
    (h : found.outcome = .value o) {limit n : Nat} (qs : List Query) :
    Undisturbed limit ((looking found).exchanges n qs) := by
  have hfound (text : String) : ending limit found ≠ .panic text := by
    rw [ending, h]
    split
    all_goals
      intro hpanic
      cases hpanic
  refine ⟨fun e he text => ?_, fun f hf => ?_⟩
  · obtain ⟨m, hm⟩ := reply_of_mem_exchanges he
    obtain ⟨q, r⟩ := e
    obtain rfl : r = ((looking found).respond q m).1 := hm
    cases q with
    | execute => exact hfound text
    | _ =>
      intro hpanic
      cases (ending_atOnce _).symm.trans hpanic
  · obtain ⟨i, hi⟩ := List.mem_iff_getElem?.1 hf
    cases getElem?_replies_looking qs hi

theorem run_settled_looking :
    let t := Task.ofDescription "Find the answer"
    let w := looking (.atOnce (.ok "found"))
    let w' := looking ⟨none, 70000, .value (.ok "too late")⟩
    let ended := (run (.value []) t .default).run w 60000 (.start 0 none)
    let ended' := (run (.value []) t .default).run w' 60000 (.start 0 none)
    let log := w.exchanges 0 ended.2.queries
    let log' := w'.exchanges 0 ended'.2.queries
    ended.2.cancelled = false ∧ ended'.2.cancelled = false ∧ Undisturbed 60000 log ∧
      Undisturbed 60000 log' ∧ (replies 60000 log).length = 2 ∧
      ∃ r came, ended.1 = .value r ∧ replies 60000 log = came.map some ∧
        Settles 5 came r.succeeded r.finalAnswer r.confidence ∧
        replies 60000 log' = replies 60000 log ∧ ∃ r', ended'.1 = .value r' ∧
          r'.succeeded = r.succeeded ∧ r'.finalAnswer = r.finalAnswer ∧
            r'.confidence = r.confidence := by
  intro t w w' ended ended' log log'
  have hc : ended.2.cancelled = false := by decide +kernel
  have hc' : ended'.2.cancelled = false := by decide +kernel
  have hl : Undisturbed 60000 log := undisturbed_looking rfl _
  have hl' : Undisturbed 60000 log' := undisturbed_looking rfl _
  obtain ⟨r, came, hr, hcame, hsettles, hrest⟩ := run_settled w [] t .default 60000 0 none hc hl
  refine ⟨hc, hc', hl, hl', by decide +kernel, r, came, hr, hcame, hsettles, ?_⟩
  refine hrest w' [] t 0 none hc' hl' fun i x x' hx hx' => ?_
  exact (getElem?_replies_looking _ hx).trans (getElem?_replies_looking _ hx').symm

end Deliberation.Engine.Iterative
