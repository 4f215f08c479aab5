import Deliberation.Proofs.Engine.Complete
import Deliberation.Proofs.Engine.TreeSearch
import Deliberation.Proofs.Prompt
import Deliberation.Proofs.Run.Footprint
import Deliberation.Proofs.Search.Growth

namespace Deliberation.Engine.TreeSearch

open Run Search Number

variable {e : Surroundings} {l : List Query} {team : Team} {t : Task}

def Judges (t : Task) (q : Query) : Prop :=
  ∃ c, q = .complete (evaluationRequest t c) ∨ q = .score c t

theorem expansionRequest_not_judges (t t' : Task) (path : List String) (count : Nat) :
    ¬ Judges t (.complete (expansionRequest t' path count)) := by
  rintro ⟨c, h | h⟩
  · have hm := (List.cons.inj (Request.mk.inj (Query.complete.inj h)).1).1
    exact Prompt.expansion_ne_evaluation _ (Message.mk.inj hm).2.1
  · cases h

section Asks

variable {P : Query → Prop} (hP : ∀ q, Judges t q → P q)
include hP

theorem evaluate_asks (team : Team) (candidate : String) :
    (evaluate team t candidate).Asks P := by
  rw [evaluate]
  cases team.evaluator with
  | backend => exact .guarded (hP _ ⟨candidate, .inl rfl⟩) fun _ => .done _
  | heuristic => exact .poll fun _ => .done _
  | external => exact .guarded (hP _ ⟨candidate, .inr rfl⟩) fun _ => .done _

theorem scoreAll_asks (team : Team) (cs : List String) : (scoreAll team t cs).Asks P := by
  induction cs with
  | nil => exact .done _
  | cons c cs ih =>
    rw [scoreAll]
    refine (evaluate_asks hP team c).bind fun x => ?_
    cases finiteScore x with
    | error e => exact .done _
    | ok score => exact ih.bind fun _ => .done _

theorem expand_asks (team : Team) {count : Nat} {path : List String}
    (hq : P (.complete (expansionRequest t path count))) :
    (expand team t count path).Asks P := by
  refine Process.Asks.bind (.guarded hq fun _ => .done _) fun a => ?_
  cases a.bind fun c => Reply.candidates c.text count with
  | error e => exact .done _
  | ok cs => exact scoreAll_asks hP team cs

theorem expandNode_asks (team : Team) {count : Nat} {tree : Tree} {id : Nat}
    (hq : P (.complete (expansionRequest t (tree.path id) count))) :
    (expandNode team t count tree id).Asks P :=
  (expand_asks hP team hq).bind fun _ => .done _

end Asks

theorem evaluate_ends (he : Steadfast e) {c : String} {o : Outcome (Except Failure Float)}
    (h : (evaluate team t c).Ends e l o) :
    (∀ q ∈ l, Judges t q) ∧ o ≠ .value (.error .cancelled) := by
  rw [evaluate] at h
  cases hev : team.evaluator with
  | backend =>
    rw [hev] at h
    obtain ⟨rfl, hv⟩ := call_ends he.uncancelled h
    refine ⟨fun q hq => ⟨c, .inl (List.mem_singleton.1 hq)⟩, fun ho => ?_⟩
    obtain ⟨a, ha, hx⟩ := hv _ ho
    cases a with
    | ok a => cases hx
    | error f =>
      cases hx
      exact he.guarded _ ha
  | heuristic =>
    rw [hev] at h
    obtain ⟨b, hb, hd⟩ := Process.ends_poll_iff.1 h
    cases b with
    | true => exact absurd (hb rfl) he.uncancelled
    | false =>
      cases hd
      exact ⟨fun q hq => (nomatch hq), fun ho => nomatch ho⟩
  | external =>
    rw [hev] at h
    obtain ⟨rfl, hv⟩ := call_ends he.uncancelled h
    refine ⟨fun q hq => ⟨c, .inr (List.mem_singleton.1 hq)⟩, fun ho => ?_⟩
    obtain ⟨a, ha, rfl⟩ := hv _ ho
    exact he.guarded _ ha

def Scored (cs : List (String × Option Float)) : Prop :=
  ∀ c ∈ cs, ∀ x, c.2 = some x → InUnit x

theorem finiteScore_ok {x : Except Failure Float} {score : Option Float}
    (h : finiteScore x = .ok score) : ∀ y, score = some y → InUnit y := by
  intro y hy
  cases x with
  | ok x =>
    rw [finiteScore] at h
    split at h
    · next hx =>
      cases h
      cases hy
      exact inUnit_clamp hx
    · cases h
      cases hy
  | error f =>
    cases f with
    | cancelled => cases h
    | _ =>
      cases h
      cases hy

theorem finiteScore_uncancelled {x : Except Failure Float} (hx : x ≠ .error .cancelled) :
    ∃ score, finiteScore x = .ok score := by
  cases x with
  | ok x => exact ⟨_, rfl⟩
  | error f =>
    cases f with
    | cancelled => exact absurd rfl hx
    | _ => exact ⟨_, rfl⟩

theorem scoreAll_ends (he : Steadfast e) {cs : List String} {o : Outcome Expansion}
    (h : (scoreAll team t cs).Ends e l o) :
    (∀ q ∈ l, Judges t q) ∧ ∀ x, o = .value x →
      ∃ scored, x = .ok scored ∧ scored.map Prod.fst = cs ∧ Scored scored := by
  induction cs generalizing l o with
  | nil =>
    cases h
    refine ⟨fun q hq => (nomatch hq), ?_⟩
    rintro _ ⟨⟩
    exact ⟨[], rfl, rfl, fun _ hc => nomatch hc⟩
  | cons c cs ih =>
    rcases Process.ends_bind h with ⟨y, m, n, rfl, hy, hn⟩ | ⟨_, rfl, hp⟩
    · obtain ⟨hm, hyc⟩ := evaluate_ends he hy
      obtain ⟨score, hs⟩ := finiteScore_uncancelled fun hc => hyc (congrArg _ hc)
      rw [hs] at hn
      rcases Process.ends_bind hn with ⟨rest, m', n', rfl, hr, hd⟩ | ⟨_, rfl, hp⟩
      · obtain ⟨hm', hv⟩ := ih hr
        obtain ⟨scored, rfl, rfl, hsc⟩ := hv _ rfl
        cases hd
        rw [List.append_nil]
        refine ⟨fun q hq => (List.mem_append.1 hq).elim (hm q) (hm' q), ?_⟩
        rintro _ ⟨⟩
        refine ⟨(c, score) :: scored, rfl, rfl, fun d hd => ?_⟩
        rcases List.mem_cons.1 hd with rfl | hd
        · exact finiteScore_ok hs
        · exact hsc d hd
      · refine ⟨fun q hq => (List.mem_append.1 hq).elim (hm q) ((ih hp).1 q), ?_⟩
        exact fun x hx => nomatch hx
    · exact ⟨(evaluate_ends he hp).1, fun x hx => nomatch hx⟩

theorem length_candidates {reply : String} {count : Nat} {cs : List String}
    (h : Reply.candidates reply count = .ok cs) : cs.length ≤ count := by
  rw [Reply.candidates] at h
  split at h
  · cases h
  · cases h
    exact List.length_take_le _ _

theorem candidates_uncancelled (reply : String) (count : Nat) :
    Reply.candidates reply count ≠ .error .cancelled := by
  intro h
  rw [Reply.candidates] at h
  split at h <;> cases h

def proposals (count : Nat) (a : Except Failure (Except Failure Completion)) : List String :=
  match (a.bind id).bind fun c => Reply.candidates c.text count with
  | .ok cs => cs
  | .error _ => []

def contents : Expansion → List String
  | .ok cs => cs.map Prod.fst
  | .error _ => []

structure Yields (count : Nat) (x : Expansion) : Prop where
  uncancelled : x ≠ .error .cancelled
  length_le : ∀ cs, x = .ok cs → cs.length ≤ count
  scored : ∀ cs, x = .ok cs → Scored cs

theorem expand_ends (he : Steadfast e) {count : Nat} {path : List String} {o : Outcome Expansion}
    (h : (expand team t count path).Ends e l o) :
    (∃ rest, l = .complete (expansionRequest t path count) :: rest ∧ ∀ q ∈ rest, Judges t q) ∧
      ∀ x, o = .value x → Yields count x := by
  rcases Process.ends_bind h with ⟨y, m, n, rfl, hy, hn⟩ | ⟨_, rfl, hp⟩
  · have hyc := complete_uncancelled he hy
    rw [complete_ends he.uncancelled hy]
    split at hn
    · next f hf =>
      cases hn
      refine ⟨⟨[], rfl, fun q hq => nomatch hq⟩, ?_⟩
      rintro _ ⟨⟩
      refine ⟨?_, fun _ hx => (nomatch hx), fun _ hx => nomatch hx⟩
      rintro ⟨⟩
      cases y with
      | error f =>
        cases hf
        exact hyc rfl
      | ok c => exact candidates_uncancelled _ _ hf
    · next cs hcs =>
      obtain ⟨hjudges, hv⟩ := scoreAll_ends he hn
      refine ⟨⟨n, rfl, hjudges⟩, fun x hx => ?_⟩
      obtain ⟨scored, rfl, rfl, hs⟩ := hv x hx
      refine ⟨fun hx => (nomatch hx), ?_, ?_⟩
      · rintro _ ⟨⟩
        rw [← List.length_map (f := Prod.fst)]
        cases y with
        | error f => cases hcs
        | ok c => exact length_candidates hcs
      · rintro _ ⟨⟩
        exact hs
  · rw [complete_ends he.uncancelled hp]
    exact ⟨⟨[], rfl, fun q hq => nomatch hq⟩, fun x hx => nomatch hx⟩

theorem expand_proposes (he : Steadfast e) {count : Nat} {path : List String} {x : Expansion}
    (h : (expand team t count path).Ends e l (.value x)) :
    ∃ a, e.answers (.complete (expansionRequest t path count)) a ∧
      contents x = proposals count a := by
  obtain ⟨y, m, n, rfl, hy, hn⟩ := Process.ends_bind_value h
  obtain ⟨a, ha, rfl⟩ := (call_ends he.uncancelled hy).2 y rfl
  refine ⟨a, ha, ?_⟩
  rw [proposals]
  split at hn
  · next f hf =>
    cases hn
    rw [hf]
    rfl
  · next cs hcs =>
    obtain ⟨scored, rfl, rfl, -⟩ := (scoreAll_ends he hn).2 x rfl
    rw [hcs]
    rfl

section Unbroken

variable (team : Team) (t : Task)

theorem evaluate_unbroken (candidate : String) : (evaluate team t candidate).Unbroken := by
  rw [evaluate]
  cases team.evaluator with
  | backend => exact .guarded fun _ => .done _
  | heuristic => exact .poll fun _ => .done _
  | external => exact .guarded fun _ => .done _

theorem scoreAll_unbroken (cs : List String) : (scoreAll team t cs).Unbroken := by
  induction cs with
  | nil => exact .done _
  | cons c cs ih =>
    rw [scoreAll]
    refine (evaluate_unbroken team t c).bind fun x => ?_
    cases finiteScore x with
    | error f => exact .done _
    | ok score => exact ih.bind fun _ => .done _

theorem expand_unbroken (count : Nat) (path : List String) :
    (expand team t count path).Unbroken := by
  refine .bind (.guarded fun _ => .done _) fun a => ?_
  cases a.bind fun c => Reply.candidates c.text count with
  | error f => exact .done _
  | ok cs => exact scoreAll_unbroken team t cs

end Unbroken

theorem expandNode_ends (he : Steadfast e) {count : Nat} {tree : Tree} {id : Nat}
    {o : Outcome (Nat × Expansion)} (h : (expandNode team t count tree id).Ends e l o) :
    (∃ rest, l = .complete (expansionRequest t (tree.path id) count) :: rest ∧
        ∀ q ∈ rest, Judges t q) ∧
      ∀ x, o = .value x → Yields count x.2 := by
  rcases Process.ends_bind h with ⟨y, m, n, rfl, hy, hn⟩ | ⟨_, rfl, hp⟩
  · cases hn
    obtain ⟨hcalls, hyields⟩ := expand_ends he hy
    rw [List.append_nil]
    refine ⟨hcalls, ?_⟩
    rintro _ ⟨⟩
    exact hyields y rfl
  · exact ⟨(expand_ends he hp).1, fun _ hx => nomatch hx⟩

theorem expandNode_proposes (he : Steadfast e) {count : Nat} {tree : Tree} {id : Nat}
    {x : Nat × Expansion} (h : (expandNode team t count tree id).Ends e l (.value x)) :
    ∃ a, e.answers (.complete (expansionRequest t (tree.path id) count)) a ∧
      contents x.2 = proposals count a := by
  obtain ⟨y, m, n, rfl, hy, hn⟩ := Process.ends_bind_value h
  cases hn
  exact expand_proposes he hy

theorem expandNode_panics (he : Steadfast e) {count : Nat} {tree : Tree} {id : Nat} {text : String}
    (h : (expandNode team t count tree id).Ends e l (.panic text)) :
    ∃ q, e.panics q text ∧
      (q = .complete (expansionRequest t (tree.path id) count) ∨ Judges t q) := by
  obtain ⟨q, hq, hpanics⟩ := ((expand_unbroken team t _ _).bind fun _ => .done _).panics h
  obtain ⟨rest, rfl, hrest⟩ := (expandNode_ends he h).1
  exact ⟨q, hpanics, (List.mem_cons.1 hq).imp_right (hrest q)⟩

end Deliberation.Engine.TreeSearch
