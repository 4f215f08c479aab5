import Deliberation.Command.Invocation
import Deliberation.Proofs.Command.Arguments
import Deliberation.Proofs.Settings.Loading

namespace Deliberation.Command

open Pipe

namespace Bound

def get (o : Options) : Bound → Nat
  | maxIterations => o.maxIterations
  | maxRounds => o.maxRounds
  | maxDepth => o.maxDepth
  | branchFactor => o.branchFactor
  | beamWidth => o.beamWidth
  | debaters => o.debaterCount

theorem get_set (b c : Bound) (o : Options) (n : Nat) :
    b.get (c.set o n) = if c = b then max n 1 else b.get o := by
  cases b <;> cases c <;> rfl

theorem get_set_of_ne {b c : Bound} (h : c ≠ b) (o : Options) (n : Nat) :
    b.get (c.set o n) = b.get o := by
  rw [get_set, if_neg h]

theorem strategy_set (b : Bound) (o : Options) (n : Nat) : (b.set o n).strategy = o.strategy := by
  cases b <;> rfl

theorem confidenceFloor_set (b : Bound) (o : Options) (n : Nat) :
    (b.set o n).confidenceFloor = o.confidenceFloor := by
  cases b <;> rfl

theorem callTimeoutMs_set (b : Bound) (o : Options) (n : Nat) :
    (b.set o n).callTimeoutMs = o.callTimeoutMs := by
  cases b <;> rfl

def setAll (o : Options) (bounds : List (Bound × Nat)) : Options :=
  bounds.foldl (fun o (b, n) => b.set o n) o

variable {bounds : List (Bound × Nat)}

theorem setAll_kept {α : Type} (g : Options → α)
    (h : ∀ p ∈ bounds, ∀ o, g (p.1.set o p.2) = g o) (o : Options) :
    g (setAll o bounds) = g o := by
  induction bounds generalizing o with
  | nil => rfl
  | cons p bounds ih =>
    obtain ⟨hp, h⟩ := List.forall_mem_cons.1 h
    exact (ih h _).trans (hp o)

theorem get_setAll_of_mem {b : Bound} {n : Nat} (honce : (bounds.map Prod.fst).Nodup)
    (h : (b, n) ∈ bounds) (o : Options) : b.get (setAll o bounds) = max n 1 := by
  induction bounds generalizing o with
  | nil => cases h
  | cons p bounds ih =>
    obtain ⟨hp, honce⟩ := List.nodup_cons.1 honce
    rcases List.mem_cons.1 h with rfl | h
    · -- All that is set later are other bounds.
      have hother : ∀ q ∈ bounds, ∀ o, b.get (q.1.set o q.2) = b.get o := fun q hq o =>
        get_set_of_ne (fun hb => hp (List.mem_map.2 ⟨q, hq, hb⟩)) o q.2
      refine (setAll_kept (fun o => b.get o) hother _).trans ?_
      rw [get_set, if_pos rfl]
    · exact ih honce h _

end Bound

structure Adjusted (a : Arguments) (o p : Options) : Prop where
  strategy_given : ∀ s, a.strategy = some s → p.strategy = some s
  strategy_kept : a.strategy = none → p.strategy = o.strategy
  bound_given : ∀ b n, (b, n) ∈ a.bounds → b.get p = max n 1
  bound_kept : ∀ b, (∀ n, (b, n) ∉ a.bounds) → b.get p = b.get o
  confidenceFloor : p.confidenceFloor = o.confidenceFloor
  callTimeoutMs : p.callTimeoutMs = o.callTimeoutMs

theorem Arguments.adjust_eq (a : Arguments) (o : Options) :
    a.adjust o = Bound.setAll { o with strategy := a.strategy.or o.strategy } a.bounds := by
  rw [Arguments.adjust, Bound.setAll]
  cases a.strategy <;> rfl

theorem adjusted_adjust {a : Arguments} (h : a.Proper) (o : Options) :
    Adjusted a o (a.adjust o) := by
  have hstrategy : (a.adjust o).strategy = a.strategy.or o.strategy := by
    rw [a.adjust_eq]
    exact Bound.setAll_kept Options.strategy (fun p _ o => p.1.strategy_set o p.2) _
  refine ⟨fun s hs => ?_, fun hs => ?_, fun b n hb => ?_, fun b hb => ?_, ?_, ?_⟩
  · rw [hstrategy, hs, Option.some_or]
  · rw [hstrategy, hs, Option.none_or]
  · rw [a.adjust_eq]
    exact Bound.get_setAll_of_mem h.once hb _
  · have hother : ∀ p ∈ a.bounds, ∀ o, b.get (p.1.set o p.2) = b.get o := fun p hp o =>
      Bound.get_set_of_ne (fun hbp => hb p.2 (by rwa [← hbp])) o p.2
    rw [a.adjust_eq]
    refine (Bound.setAll_kept (fun o => b.get o) hother _).trans ?_
    cases b <;> rfl
  · rw [a.adjust_eq]
    exact Bound.setAll_kept Options.confidenceFloor (fun p _ o => p.1.confidenceFloor_set o p.2) _
  · rw [a.adjust_eq]
    exact Bound.setAll_kept Options.callTimeoutMs (fun p _ o => p.1.callTimeoutMs_set o p.2) _

variable {σ : Type}

def undertake (n : Network σ) (s : Settings) (a : Arguments) (description : String) (o : Options)
    (net : σ) : Ending × σ :=
  match prepare n s a.skipSetup net with
  | (.error e, net) => (.unprepared e, net)
  | (.ok (), net) =>
    let (r, session) := Engine.orchestrate (world n (client s) s.pipeName o.callTimeoutMs) team
      (a.toTask description) o (.start net none)
    (.answered r, session.world)

theorem invoke_eq (n : Network σ) {words : List String} {a : Arguments} {description : String}
    {e : Environment} {s : Settings} (hwords : Demand.ofWords words = .work a description)
    (hs : Settings.load e = .ok s) (net : σ) :
    invoke n words e net = undertake n s a description (a.adjust s.options) net := by
  rw [invoke, hwords]
  simp only [work, hs, undertake]
  rfl

theorem invoke_configured (e : Environment) :
    ((∃ x, Settings.load e = .error x) ↔ e "LANGBASE_API_KEY" = none ∨
      ∃ name, e "REASONING_STRATEGY" = some name ∧ Text.blankString name = false ∧
        ¬Strategy.Recognised name) ∧
    (∀ (f : Environment) (name : String) (s t : Settings), (∀ n, n ≠ name → f n = e n) →
      Settings.load e = .ok s → Settings.load f = .ok t →
      t = s ∨ ∃ v : Settings.Variable, v.name = name ∧
        ∀ w : Settings.Variable, w ≠ v → w.field t = w.field s) ∧
    (∀ (v : Settings.Variable) (text : String), e v.name = some text →
      v.Illegible (Text.trim text.toList) →
      Settings.load (Function.update e v.name none) = Settings.load e) ∧
    (∀ (a : Arguments) (description : String), a.Proper → a.task = some description →
      Demand.ofWords a.words = .work a description) ∧
    ∀ s, Settings.load e = .ok s →
      (∀ v : Settings.Variable, v.field s = v.read (e v.name)) ∧
      ∀ words a description, Demand.ofWords words = .work a description →
        ∃ o, Adjusted a s.options o ∧ ∀ {σ : Type} (n : Network σ) (net : σ),
          invoke n words e net = undertake n s a description o net := by
  refine ⟨Settings.exists_error_iff, fun f name s t h hs ht => Settings.eq_or_field_of_agree h hs ht,
    fun v text htext h => Settings.load_update_of_illegible htext h,
    fun a description h htask => Demand.ofWords_words h htask,
    fun s hs => ⟨Settings.field_load hs, fun words a description hwords => ?_⟩⟩
  have hsound := Demand.sound_ofWords words
  rw [hwords] at hsound
  exact ⟨a.adjust s.options, adjusted_adjust hsound.1 s.options,
    fun n net => invoke_eq n hwords hs net⟩

def searching : Environment :=
  .ofList [("LANGBASE_API_KEY", "key"), ("REASONING_STRATEGY", "Tree-Search"),
    ("REASONING_MAX_ROUNDS", "-2"), ("REASONING_MAX_DEPTH", " 4 ")]

def quarrelling : Arguments :=
  { task := some "--which one?", strategy := some .debate, bounds := [(.maxRounds, 0)] }

theorem invoke_configured_quarrelling :
    quarrelling.words = ["--strategy=debate", "--max-rounds=0", "--", "--which one?"] ∧
    Demand.ofWords quarrelling.words = .work quarrelling "--which one?" ∧
    Settings.load (Function.update searching "REASONING_MAX_ROUNDS" none) =
      Settings.load searching ∧
    ∃ s, Settings.load searching = .ok s ∧ s.options.strategy = some .treeSearch ∧
      s.options.maxDepth = 4 ∧ s.options.maxRounds = 3 ∧
      (∃ t, Settings.load (Function.update searching "REASONING_MAX_DEPTH" (some "9")) = .ok t ∧
        t.options.maxDepth = 9 ∧ t.options.maxRounds = 3) ∧
      ∃ o : Options, o.strategy = some .debate ∧ o.maxDepth = 4 ∧ o.maxRounds = 1 ∧
        ∀ {σ : Type} (n : Network σ) (net : σ), invoke n quarrelling.words searching net =
          undertake n s quarrelling "--which one?" o net := by
  obtain ⟨-, hagree, hillegible, hgiven, hloaded⟩ := invoke_configured searching
  have hproper : quarrelling.Proper := ⟨by decide, by decide⟩
  have hwords := hgiven quarrelling "--which one?" hproper rfl
  obtain ⟨s, hs⟩ : ∃ s, Settings.load searching = .ok s := ⟨_, rfl⟩
  obtain ⟨hfield, hinvoke⟩ := hloaded s hs
  obtain ⟨o, hadjusted, ho⟩ := hinvoke _ _ _ hwords
  have hdepth : s.options.maxDepth = 4 := hfield (.count .maxDepth)
  have hrounds : s.options.maxRounds = 3 := hfield (.count .maxRounds)
  obtain ⟨t, ht⟩ : ∃ t, Settings.load
      (Function.update searching "REASONING_MAX_DEPTH" (some "9")) = .ok t := ⟨_, rfl⟩
  refine ⟨by decide, hwords, hillegible (.count .maxRounds) "-2" rfl rfl, s, hs,
    hfield .strategy, hdepth, hrounds, ⟨t, ht, Settings.field_load ht (.count .maxDepth), ?_⟩, o,
    hadjusted.strategy_given _ rfl, ?_, hadjusted.bound_given .maxRounds 0 (by decide), ho⟩
  · rcases hagree _ "REASONING_MAX_DEPTH" s t
      (fun n hn => Function.update_of_ne hn _ _) hs ht with rfl | ⟨v, hv, hother⟩
    · exact hrounds
    · refine (hother (.count .maxRounds) ?_).trans hrounds
      rintro rfl
      exact absurd hv (by decide)
  · exact (hadjusted.bound_kept .maxDepth (by simp [quarrelling])).trans hdepth

end Deliberation.Command
