import Deliberation.Dialogue.Validation
import Deliberation.Proofs.Search.Valuation
import Deliberation.Settings.Basic

namespace Deliberation

open Number

namespace Options

inductive Change where
  | strategy (s : Strategy)
  | maxIterations (n : Nat)
  | maxRounds (n : Nat)
  | maxDepth (n : Nat)
  | branchFactor (n : Nat)
  | beamWidth (n : Nat)
  | debaterCount (n : Nat)
  | confidenceFloor (x : Float)
  | callTimeoutMs (n : Nat)

def change (o : Options) : Change → Options
  | .strategy s => o.withStrategy s
  | .maxIterations n => o.withMaxIterations n
  | .maxRounds n => o.withMaxRounds n
  | .maxDepth n => o.withMaxDepth n
  | .branchFactor n => o.withBranchFactor n
  | .beamWidth n => o.withBeamWidth n
  | .debaterCount n => o.withDebaterCount n
  | .confidenceFloor x => o.withConfidenceFloor x
  | .callTimeoutMs n => o.withCallTimeoutMs n

def changeAll (o : Options) (changes : List Change) : Options :=
  changes.foldl change o

def counts (o : Options) : List Nat :=
  [o.maxIterations, o.maxRounds, o.maxDepth, o.branchFactor, o.beamWidth, o.debaterCount,
    o.callTimeoutMs]

def Change.floor? : Change → Option Float
  | .confidenceFloor x => some x
  | _ => none

def lastFloor? (changes : List Change) : Option Float :=
  (changes.filterMap Change.floor?).getLast?

variable {o : Options} {changes : List Change}

theorem one_le_counts_default : ∀ n ∈ default.counts, 1 ≤ n := by
  decide

theorem one_le_counts_change (h : ∀ n ∈ o.counts, 1 ≤ n) (c : Change) :
    ∀ n ∈ (o.change c).counts, 1 ≤ n := by
  simp only [counts, List.forall_mem_cons] at h
  cases c <;> simp [change, counts, withStrategy, withMaxIterations, withMaxRounds, withMaxDepth,
    withBranchFactor, withBeamWidth, withDebaterCount, withConfidenceFloor, withCallTimeoutMs, h]

theorem one_le_counts_changeAll (h : ∀ n ∈ o.counts, 1 ≤ n) (changes : List Change) :
    ∀ n ∈ (o.changeAll changes).counts, 1 ≤ n := by
  induction changes generalizing o with
  | nil => exact h
  | cons c changes ih => exact ih (one_le_counts_change h c)

theorem confidenceFloor_change (o : Options) (c : Change) :
    (o.change c).confidenceFloor = (c.floor?.map clamp).getD o.confidenceFloor := by
  cases c <;> rfl

theorem confidenceFloor_changeAll (o : Options) (changes : List Change) :
    (o.changeAll changes).confidenceFloor =
      ((lastFloor? changes).map clamp).getD o.confidenceFloor := by
  induction changes using List.reverseRecOn with
  | nil => rfl
  | append_singleton changes c ih =>
    rw [changeAll, List.foldl_append, List.foldl_cons, List.foldl_nil, confidenceFloor_change,
      lastFloor?, List.filterMap_append, List.getLast?_append]
    cases hc : c.floor? with
    | none =>
      simp only [List.filterMap_cons, hc, List.filterMap_nil, List.getLast?_nil, Option.map_none,
        Option.getD_none, Option.none_or]
      exact ih
    | some x =>
      simp [hc]

theorem inUnit_confidenceFloor_iff (h : InUnit o.confidenceFloor) (changes : List Change) :
    InUnit (o.changeAll changes).confidenceFloor ↔
      ∀ x, lastFloor? changes = some x → x.isNaN = false := by
  rw [confidenceFloor_changeAll]
  cases lastFloor? changes with
  | none => simp [h]
  | some x => simp [inUnit_clamp_iff]

theorem inUnit_confidenceFloor_default : InUnit default.confidenceFloor :=
  ⟨by decide, by decide, by decide⟩

end Options

namespace Settings

def changes (e : Environment) : List Options.Change :=
  let d := Options.default
  [.maxIterations (word e "REASONING_MAX_ITERATIONS" d.maxIterations),
    .maxRounds (word e "REASONING_MAX_ROUNDS" d.maxRounds),
    .maxDepth (word e "REASONING_MAX_DEPTH" d.maxDepth),
    .branchFactor (word e "REASONING_BRANCH_FACTOR" d.branchFactor),
    .beamWidth (word e "REASONING_BEAM_WIDTH" d.beamWidth),
    .debaterCount (word e "REASONING_DEBATER_COUNT" d.debaterCount),
    .confidenceFloor (e.realOr "REASONING_CONFIDENCE_FLOOR" d.confidenceFloor),
    .callTimeoutMs (word e "REASONING_CALL_TIMEOUT_MS" d.callTimeoutMs)]

theorem exists_of_map_eq_ok {ε α β : Type} {x : Except ε α} {f : α → β} {b : β}
    (h : x.map f = .ok b) : ∃ a, x = .ok a ∧ f a = b := by
  cases x with
  | error => cases h
  | ok a => exact ⟨a, rfl, Except.ok.inj h⟩

theorem options_of_load {e : Environment} {s : Settings} (h : load e = .ok s) :
    ∃ strategy : Option Strategy, s.options =
      Options.default.changeAll (changes e ++ strategy.toList.map .strategy) := by
  rw [load] at h
  cases hkey : e "LANGBASE_API_KEY" with
  | none =>
    rw [hkey] at h
    cases h
  | some key =>
    rw [hkey] at h
    obtain ⟨options, hoptions, rfl⟩ := exists_of_map_eq_ok h
    obtain ⟨strategy, -, rfl⟩ := exists_of_map_eq_ok hoptions
    exact ⟨strategy, by cases strategy <;> rfl⟩

theorem lastFloor?_changes (e : Environment) (strategy : Option Strategy) :
    Options.lastFloor? (changes e ++ strategy.toList.map .strategy) =
      some (e.realOr "REASONING_CONFIDENCE_FLOOR" Options.default.confidenceFloor) := by
  cases strategy <;> rfl

theorem isNaN_realOr_iff {e : Environment} {name : String} {x : Float} (h : x.isNaN = false) :
    (e.realOr name x).isNaN = false ↔ ∀ text y, e name = some text →
      readFloat? (Text.trim text.toList) = some y → y.isNaN = false := by
  rw [Environment.realOr, Environment.readOr]
  cases htext : e name with
  | none =>
    refine iff_of_true h fun text' y ht => ?_
    cases ht
  | some text =>
    rw [Option.bind_some]
    cases hy : readFloat? (Text.trim text.toList) with
    | none =>
      refine iff_of_true h fun text' y ht hy' => ?_
      cases ht
      cases hy.symm.trans hy'
    | some y =>
      refine ⟨fun hnan text' y' ht hy' => ?_, fun hall => hall text y rfl hy⟩
      cases ht
      cases hy.symm.trans hy'
      exact hnan

theorem load_clamped {e : Environment} {s : Settings} (h : load e = .ok s) :
    (∀ n ∈ s.options.counts, 1 ≤ n) ∧ (InUnit s.options.confidenceFloor ↔
      ∀ text x, e "REASONING_CONFIDENCE_FLOOR" = some text →
        readFloat? (Text.trim text.toList) = some x → x.isNaN = false) := by
  obtain ⟨strategy, hs⟩ := options_of_load h
  rw [hs]
  refine ⟨Options.one_le_counts_changeAll Options.one_le_counts_default _, ?_⟩
  rw [Options.inUnit_confidenceFloor_iff Options.inUnit_confidenceFloor_default,
    lastFloor?_changes, ← isNaN_realOr_iff (isNaN_of_isFinite
      Options.inUnit_confidenceFloor_default.isFinite)]
  simp only [Option.some.injEq, forall_eq']

end Settings

theorem clamped_unless_not_a_number (content : Option String) (additions : List Search.Addition)
    (v : Validation) (x : Float) (changes : List Options.Change) (e : Environment) :
    (∀ n ∈ ((Search.Tree.founded content).build additions).nodes, ∀ s, n.score = some s →
      ∃ a ∈ additions, ∃ y, n = a.node n.id n.depth ∧ a.score = some y ∧
        (InUnit s.value ↔ y.value.isNaN = false)) ∧
    (∃ y, (v.withScore x).score = some y ∧ (InUnit y ↔ x.isNaN = false)) ∧
    (∀ n ∈ (Options.default.changeAll changes).counts, 1 ≤ n) ∧
    (InUnit (Options.default.changeAll changes).confidenceFloor ↔
      ∀ y, Options.lastFloor? changes = some y → y.isNaN = false) ∧
    ∀ s, Settings.load e = .ok s →
      (∀ n ∈ s.options.counts, 1 ≤ n) ∧ (InUnit s.options.confidenceFloor ↔
        ∀ text y, e "REASONING_CONFIDENCE_FLOOR" = some text →
          readFloat? (Text.trim text.toList) = some y → y.isNaN = false) := by
  refine ⟨fun n hn s hs => Search.Tree.score_build hn hs, ⟨_, rfl, inUnit_clamp_iff⟩, ?_, ?_,
    fun s => Settings.load_clamped⟩
  · exact Options.one_le_counts_changeAll Options.one_le_counts_default changes
  · exact Options.inUnit_confidenceFloor_iff Options.inUnit_confidenceFloor_default changes

def unbounded : Environment :=
  .ofList [("LANGBASE_API_KEY", "key"), ("REASONING_MAX_ROUNDS", "0"),
    ("REASONING_CONFIDENCE_FLOOR", " -inf ")]

theorem clamped_unless_not_a_number_infinite :
    (∃ y, (Validation.pass.withScore infinity).score = some y ∧ InUnit y) ∧
    InUnit (Options.default.changeAll
      [.confidenceFloor notANumber, .confidenceFloor infinity]).confidenceFloor ∧
    ∃ s, Settings.load unbounded = .ok s ∧ (∀ n ∈ s.options.counts, 1 ≤ n) ∧
      InUnit s.options.confidenceFloor := by
  obtain ⟨-, ⟨y, hy, hgrade⟩, -, hfloor, hload⟩ := clamped_unless_not_a_number none [] .pass
    infinity [.confidenceFloor notANumber, .confidenceFloor infinity] unbounded
  obtain ⟨s, hs⟩ : ∃ s, Settings.load unbounded = .ok s := ⟨_, rfl⟩
  obtain ⟨hcounts, hread⟩ := hload s hs
  refine ⟨⟨y, hy, hgrade.2 (by decide)⟩, hfloor.2 fun z hz => ?_, s, hs, hcounts,
    hread.2 fun text z htext hz => ?_⟩
  · cases hz
    decide
  · cases htext
    have hinf : readFloat? (Text.trim " -inf ".toList) = some (-infinity) := by decide
    cases hinf.symm.trans hz
    decide

theorem not_a_number_kept :
    (∃ n ∈ ((Search.Tree.founded (some "Name a colour")).build
        [⟨0, "Blue", some (.ofFloat notANumber)⟩]).nodes,
      ∃ s, n.score = some s ∧ ¬0.0 ≤ s.value ∧ ¬s.value ≤ 1.0) ∧
    (∃ x, (Validation.pass.withScore notANumber).score = some x ∧ ¬0.0 ≤ x ∧ ¬x ≤ 1.0) ∧
    (∃ o, Options.default.changeAll [.confidenceFloor notANumber] = o ∧
      ¬0.0 ≤ o.confidenceFloor ∧ ¬o.confidenceFloor ≤ 1.0) ∧
    ∃ s, Settings.load (.ofList [("LANGBASE_API_KEY", "key"),
        ("REASONING_CONFIDENCE_FLOOR", "NaN")]) = .ok s ∧
      ¬0.0 ≤ s.options.confidenceFloor ∧ ¬s.options.confidenceFloor ≤ 1.0 :=
  ⟨⟨⟨1, some 0, 1, "Blue", some (.ofFloat notANumber)⟩, by decide, _, rfl, by decide⟩,
    ⟨_, rfl, by decide⟩, ⟨_, rfl, by decide⟩, _, rfl, by decide⟩

end Deliberation
